import WebClient.Text.Runs

/-!
# Marks

A mark belongs to the character in front of it.  Marks of different combining
classes that follow one character can change places; class zero belongs to the
characters that stay in their place.
-/

namespace WebClient.Text

/-- The runs of marks (`M`) and of other characters (`N`). -/
def markRows : List String := [
  "NxMkfN35M7mN8M7aN19M1N1M1N2M1N2M1N9M1sNbM1cNlMgN1M2tN8M1N6M2N2M1N4MzN1MuNtM2hNbM1mN9M9N1Mo",
  "N4M1N9M1N3M1N7M15N5M1lN9M16N1mM1iN3M1NiM1NfM2N2MtN4M1jN1M1NgM9N9M2N4MoN7M1jNwMkN2M3N1MbN4",
  "M1jN1M1NiMiN4MkNbM1jN1M1NxM3N4MsN1M1nNiM7NfMqN5M1jN1M1NqMaN4MrN3M1kN1M1NuM6N4MdNhM1jN2M1Ng",
  "M9N1MaN4MrN4M1xNsMcN2M1pN1M2NbM8N8M2qN1M2N9MbN8M20N2MrN1M1N1M1N1M4N2M1dNkM1N2M5N1dM8N1M2sNk",
  "MnN4M4N3M1N3M2N7M3N4MdNcM1N1MaN4MjjN3MqaNdMjN3MtNeMiNeM1iNuM9N3M4lN2MyN1M3aNwM5zN7M1jN17M1c",
  "N2dM1bNhM12N9McN3MuNdM1kNmM14NnM45N3M1NlM4N1M6N1M2N3M5iN1tMjzN1gM2crN4M3wN1M2oNwMfeN6M2xN4",
  "Mn9uN4M1NaMwN2M28N2M7kN1M3N1M4N1MnN5M4N4M28N2M1eNqMiNiMdN1M12N8MpNoMxN4M1bNeM10N1M1vNnM3N1",
  "M8N4M17N3M1eN1M1N3M2N2M5N2M1N1M15N5M5NcM6aN8M1N4Mfn2N44MhaN11MqgN3nM2oN1M45NaM1a9NfM14N8M4l",
  "N6MftNcM1lN5M8tN2M25N6M1yNbM1dN4M3eN3M1hNfM15N1M2N2MaN4M19NbM7NeM1cN3M10NfMfN2M18N1McN3M1c",
  "NeM8N4M1N2M2kNcM6N1M2N1rM2nNhMgN5M1iN2M1NiM7N6M5NuM1kNpM1N1MeNvM1hNiMnN1M29NkM6jNiMrN10M1c",
  "NhM2yNdM2tNjM70NfM6tNfM1N1M1N2M3xNgM3NsM1NaM14N7M1N4M8N9M1NbM1aNgM5iN2oM33NhM2aN32M1dNlM1N9",
  "M1mNeM9nN4M9N2M1N1M1cNfMnN2eM428N1M6NpM8u6NiM1xcN5M1nN7Mt4N1M1N1uM29NeMf57N2M3mpN28MetN5M3",
  "NmM2N7MuN4M44N3M1izN1jM4N1eM8N1MeN1MmNv9M74N74M1cN7MafNiM18N4Me4N4M72N2M6rN1M2N1M7N2M5N9Mcy",
  "N2aMyN7"]

/-- The runs of marks. -/
def markRuns : List Run := Run.ofRows markRows

/-- The character is a mark. -/
def isMark (c : Char) : Bool := Run.letterOf markRuns 'N' c = 'M'

/-- The combining classes; a run without a number has class zero. -/
def classRows : List String := [
  "CxCkf.6eCl.6gC1.64C4.6gC1.60C1.64C5.5mC2.64C4.5mC2.64Cb.1C5.64C4.6eCa.64C3.6eC3.64C3.6e",
  "C3.64C4.6eC1.6gC1.64C2.6eC1.6hC1.6iC2.6hC1.6iC2.6hC1.6eCeC7m.6eC5C7d.64C1.6eC4.64C1.6eC3.66",
  "C1.64C1.6eC6.64C6.6eC2.64C1.6eC2.66C1.6cC1.6eC1.aC1.bC1.cC1.dC1.eC1.fC1.gC1.hC1.iC1.jC2.k",
  "C1.lC1.mC1C1.nC1C1.oC1.pC1C1.6eC1.64C1C1.iC9C1s.6eC8.uC1.vC1.wC1C1c.rC1.sC1.tC1.uC1.vC1.w",
  "C1.xC1.yC1.6eC2.64C2.6eC5.64C1.6eC2.64C1Cg.zC1C2t.6eC8C1.6eC4.64C1.6eC1C2.6eC2C1.64C1.6e",
  "C2.64C1Cz.10C1Cu.6eC1.64C1.6eC2.64C1.6eC2.64C3.6eC1.64C2.6eC1.64C1.6eC3.64C1.6eC1.64C1.6e",
  "C1.64C1.6eC1.64C1.6eC4C4e.6eC7.64C1.6eC1C9.64C1Co.6eC4C1.6eC9C1.6eC3C1.6eC7C15.64C5C1l.6e",
  "C2.64C3.6eC4C16.6eC5.64C5.6eCf.64C1.6eC2.64C1.6eC2.64C1.6eC3.64C3.rC1.sC1.tC1.6eC3.64C1.6e",
  "C2.64C2.6eC5C1o.7C1Cg.9C1C3.6eC1.64C1.6eC2C2v.7C1Cg.9C1C1c.6eC3C1n.7C2Cf.9C4C2z.7C1Cg.9C3",
  "C30.7C1Cg.9C8C3c.9C3C30.7C1Cg.9C8.2cC1.2jC2C2s.7C1Cg.9C8C2u.9C2Cg.9C1C3g.9C5C2x.2vC2.9C5",
  "C9.2zC4C30.3aC2.9C1Cd.3eC4C24.64C2Cr.64C1C1.64C1C1.60C1C1j.3lC1.3mC2.3oC6.3mC4C2.3mC2.6e",
  "C2.9C1C1.6eC2C1q.64C1C34.7C1C1.9C2C2a.64C1Cjz.6eC3Cqc.9CbCl.9C1C4d.9C1Ca.6eC3C5l.6cC1C3z.66",
  "C1.6eC1.64C5C5z.6eC1.64C1C1z.9C1Ck.6eCa.64C1C1c.6eC5.64C6.6eC2.64C1C1.64C2.6eC2.64C2.6e",
  "C5.64C1.6eCi.64C3.6eC6.64C1.6eC4.6iClC1g.7C1Cf.9C1C12.6eC1.64C1.6eC7C1i.9C2C1m.7C1Cb.9Ca",
  "C1n.7C4C45.6eC3C1.1C1.64C5.6eC2.64C4.6eC1C1.1C7C4.64C1C6.6eC1C3.6eC2C5i.6eC2.64C1.6eC7.64",
  "C1.6eC2.6iC1.5yC1.64C1.5mC1.6eC11.6gC1.6cC2.64C1.62C1.6eC1.6hC1.64C1.6eC1.64C2Cjz.6eC2.1",
  "C2.6eC4.1C3.6eC2C4.6eC1C3.1C2.6eC1.64C1.6eC1.1C2.64C4.6eCkC2cr.6eC4C3w.9C1C2o.6eCwCfe.62",
  "C1.6cC1.6gC1.66C1.68C2C2x.8C4Cn9u.6eC1C4.6eCaCw.6eC2C28.6eC2C7o.9C1C11.9C4C44.9C1Cr.6eCi",
  "C1l.64C3C11.9CcC2c.7C1Cc.9C1C6n.6eC1C1.6eC2.64C1C2.6eC2C5.6eC2C1.6eC1C1g.9CbC6k.9C3Cfn2.q",
  "C44Cha.6eC7.64C7.6eCnCqg.64C3nC2o.64C1C45.6eCaC1al.64C1C1.6eC1C14.6eC1.1C1.64C5.9C1C4l.6e",
  "C1.64C5Cft.6eCcC1l.6eC5C8t.6eC2C25.64C2C1.64C3C1y.64C2.6eC3.64C1.6eC1.64C4C1d.6eC1.64C1.6e",
  "C1.64C1C5c.9C1C15.9C1Ce.9C1C1l.9C1.7C1C1x.6eC3C1c.9C3C1p.7C1C24.9C1C9.7C1C2y.9C1.7C1C4y.7",
  "C1.9C6C23.7C2Cg.9C3Cm.6eCqC26.9C3C35.9C1C3.7C1Cn.6eC1C2r.9C1.7C1C6z.9C1.7C1C3i.9C1C3a.9C1.7",
  "C1C37.9C5C7d.9C1.7C1C76.9C2C4.7C1C4c.9C1C2b.9C1Ci.9C9C21.9C1Cbp.9C1C76.7C1C1.9C2C29.9C1",
  "Cbt.9C2Cd0s.9C1C1xc.1C5C1n.6eC7Cxl.6C2Cf58.1C1C43q.60C2.1C3C3.6aC1.60Cd.64C8C2.6eC5.64C2",
  "Cu.6eC4C44.6eC3C2pn.6eC74C1c.6eC7Caf.6eCiC18.6eC4Ce4.6gC2.64C1.6eC1C72.6eC1.64C1C6r.6eC1",
  "C2.6eC1C7.6eC2C5.6eC9Ccy.64C2aCy.6eC6.7C1"]

/-- The runs of combining classes. -/
def classRuns : List Run := Run.ofRows classRows

/-- The combining class of a character. -/
def combiningClass (c : Char) : Nat :=
  match Run.of? classRuns c with
  | some run => run.numbers.head?.getD 0
  | none => 0

/-- The mark takes the vowel from the consonant in front of it. -/
def isVirama (c : Char) : Bool := combiningClass c = 9

end WebClient.Text
