import WebClient.Text.Mark

/-!
# Composed characters

A letter with a mark can be written as one composed character or as a letter and
a mark behind it.  `compose` brings a text into the form in which whatever can be
composed is: it takes every character apart, puts the marks behind a letter in
the order of their classes, and composes each letter with the marks that reach
it.  The syllables of Hangul are composed by their numbers, the other characters
by a table of pairs.
-/

namespace WebClient.Text.Composition

/-- The composed characters, each with its two parts. -/
def pairRows : List String := [
  "P68.2p.lcP1.2p.ldP1.2p.leP1.2p.lfP1.2p.lkP1.2p.lmP2.2r.mfP1.2t.lcP1.2t.ldP1.2t.leP1.2t.lk",
  "P1.2x.lcP1.2x.ldP1.2x.leP1.2x.lkP2.32.lfP1.33.lcP1.33.ldP1.33.leP1.33.lfP1.33.lkP3.39.lc",
  "P1.39.ldP1.39.leP1.39.lkP1.3d.ldP2.3d.lkP2.2p.lgP2.2p.liP2.2p.mgP2.2r.ldP2.2r.leP2.2r.lj",
  "P2.2r.loP2.2s.loP4.2t.lgP2.2t.liP2.2t.ljP2.2t.mgP2.2t.loP2.2v.leP2.2v.liP2.2v.ljP2.2v.mf",
  "P2.2w.leP4.2x.lfP2.2x.lgP2.2x.liP2.2x.mgP6.2y.leP2.2z.mfP3.30.ldP2.30.mfP2.30.loP6.32.ld",
  "P2.32.mfP2.32.loP5.33.lgP2.33.liP2.33.lnP4.36.ldP2.36.mfP2.36.loP2.37.ldP2.37.leP2.37.mf",
  "P2.37.loP2.38.mfP2.38.loP4.39.lfP2.39.lgP2.39.liP2.39.lmP2.39.lnP2.39.mgP2.3b.leP2.3d.le",
  "P3.3e.ldP2.3e.ljP2.3e.loPz.33.m3Pf.39.m3Pu.2p.loP2.2x.loP2.33.loP2.39.loP2.70.lgP2.70.ld",
  "P2.70.loP2.70.lcP3.6c.lgP2.fb.lgP2.6e.lgP4.2v.loP2.2z.loP2.33.mgP2.dn.lgP2.ia.loP1.2y.lo",
  "P5.2v.ldP4.32.lcP2.6d.ldP2.6e.ldP2.6w.ldP2.2p.lrP2.2p.ltP2.2t.lrP2.2t.ltP2.2x.lrP2.2x.lt",
  "P2.33.lrP2.33.ltP2.36.lrP2.36.ltP2.39.lrP2.39.ltP2.37.meP2.38.meP4.2w.loP8.2p.ljP2.2t.mf",
  "P2.6u.lgP2.6t.lgP2.33.ljP2.fj.lgP2.3d.lgP9p.qy.ldPs.q9.ldP1.qd.ldP1.qf.ldP1.qh.ldP1.qz.ld",
  "Pq.qh.lkP1.qt.lkP1.qn.ldP1.qt.ldP1.qx.ldP2z.u0.liPn.tx.lcP1.tx.lkP2.tv.ldP4.uu.lkP5.u2.ld",
  "P1.u0.lcP1.ub.liPp.vp.lrP23.ty.liPf.ts.liP2.ts.lkP4.tx.liP4.yh.lkP2.ty.lkP2.tz.lkP4.u0.lg",
  "P2.u0.lkP2.u6.lkP4.yx.lkP2.ul.lkP2.ub.lgP2.ub.lkP2.ub.lnP2.uf.lkP4.uj.lkP89.17r.18z",
  "P1.17r.190P1.18o.190P1.17r.191P1.18q.190P4a.1cl.190P2.1c1.190Ph.1ci.190Pgm.1t4.1to",
  "P8.1tc.1toP3.1tf.1toP47.1xj.1xaP1.1xj.1xzPak.287.28mP3.287.27yP1.287.28nP20.2aa.2c7",
  "P1i.2bq.2biP1.2br.2biP1.2bq.2c7P3g.2fa.2fqP3c.2in.2j9P7.2iu.2j9P1.2iu.2jaP2.2iu.2iq",
  "P1.2iy.2j9P3j.2me.2m6P1.2mf.2m6P1.2me.2mvP3y.2qh.2q2P2.2qh.2q7P1.2qk.2q2P1.2qh.2qn",
  "Pg8.36t.372P25c.5c5.5dhP2.5c7.5dhP2.5c9.5dhP2.5cb.5dhP2.5cd.5dhP4.5ch.5dhP15.5dm.5dh",
  "P2.5do.5dhP3.5dq.5dhP1.5dr.5dhP2.5du.5dhPji.2p.mdP2.2q.ljP2.2q.mbP2.2q.mpP2.6f.ldP2.2s.lj",
  "P2.2s.mbP2.2s.mpP2.2s.mfP2.2s.mlP2.7n.lcP2.7n.ldP2.2t.mlP2.2t.moP2.fd.liP2.2u.ljP2.2v.lg",
  "P2.2w.ljP2.2w.mbP2.2w.lkP2.2w.mfP2.2w.mmP2.2x.moP2.6n.ldP2.2z.ldP2.2z.mbP2.2z.mpP2.30.mb",
  "P2.5yv.lgP2.30.mpP2.30.mlP2.31.ldP2.31.ljP2.31.mbP2.32.ljP2.32.mbP2.32.mpP2.32.mlP2.6t.ld",
  "P2.6t.lkP2.99.lcP2.99.ldP2.34.ldP2.34.ljP2.36.ljP2.36.mbP2.5zv.lgP2.36.mpP2.37.ljP2.37.mb",
  "P2.9n.ljP2.9t.ljP2.603.ljP2.38.ljP2.38.mbP2.38.mpP2.38.mlP2.39.mcP2.39.moP2.39.mlP2.a1.ld",
  "P2.a3.lkP2.3a.lfP2.3a.mbP2.3b.lcP2.3b.ldP2.3b.lkP2.3b.ljP2.3b.mbP2.3c.ljP2.3c.lkP2.3d.lj",
  "P2.3e.leP2.3e.mbP2.3e.mpP1.2w.mpP1.38.lkP1.3b.lmP1.3d.lmP8.2p.mbP2.2p.llP2.6a.ldP2.6a.lc",
  "P2.6a.llP2.6a.lfP2.61t.leP2.77.ldP2.77.lcP2.77.llP2.77.lfP2.61t.liP2.2t.mbP2.2t.llP2.2t.lf",
  "P2.6i.ldP2.6i.lcP2.6i.llP2.6i.lfP2.62h.leP2.2x.llP2.2x.mbP2.33.mbP2.33.llP2.6s.ldP2.6s.lc",
  "P2.6s.llP2.6s.lfP2.631.leP2.bl.ldP2.bl.lcP2.bl.llP2.bl.lfP2.bl.mbP2.39.mbP2.39.llP2.c0.ld",
  "P2.c0.lcP2.c0.llP2.c0.lfP2.c0.mbP2.3d.lcP2.3d.mbP2.3d.llP2.3d.lfP7.q9.lvP1.q9.lwP1.64g.lc",
  "P1.64h.lcP1.64g.ldP1.64h.ldP1.64g.n6P1.64h.n6P9.qd.lvP1.qd.lwP1.64w.lcP1.64x.lcP1.64w.ld",
  "P1.64x.ldPb.qf.lvP1.qf.lwP1.65c.lcP1.65d.lcP1.65c.ldP1.65d.ldP1.65c.n6P1.65d.n6P9.qh.lv",
  "P1.qh.lwP1.65s.lcP1.65t.lcP1.65s.ldP1.65t.ldP1.65s.n6P1.65t.n6P9.qn.lvP1.qn.lwP1.668.lc",
  "P1.669.lcP1.668.ldP1.669.ldPb.qt.lvP1.qt.lwP1.66o.lcP1.66p.lcP1.66o.ldP1.66p.ldP1.66o.n6",
  "P1.66p.n6P9.qx.lvP1.qx.lwP1.674.lcP1.675.lcP1.674.ldP1.675.ldP1.674.n6P1.675.n6P9.q9.lc",
  "P2.qd.lcP2.qf.lcP2.qh.lcP2.qn.lcP2.qt.lcP2.qx.lcP1g.q9.liP1.q9.lgP5.q9.n6Pg.qf.n6Pa.qh.li",
  "P1.qh.lgP1.qy.lcP4.qh.n6P1.qy.n6P9.qt.liP1.qt.lgP1.qz.lcP2.qp.lvP1.qp.lwP1.qt.n6P1.qz.n6",
  "Pf.qx.n6Pbo.6mo.mwP1.6mq.mwPj.6ms.mwPv.6og.mwP1.6ok.mwP1.6oi.mwP1h.6pv.mwP5.6q0.mwP3.6q3.mw",
  "Po.6qr.mwP2.6qt.mwPr.6rg.mwP3.6rn.mwP3.6rp.mwP2.6rs.mwPn.1p.mwP2.6sh.mwPb.6rx.mwP1.1o.mw",
  "P1.1q.mwP1.6sk.mwP1.6sl.mwP3.6sy.mwP1.6sz.mwP3.6t2.mwP1.6t3.mwP7.6t6.mwP1.6t7.mwP3.6te.mw",
  "P1.6tf.mwP3.6ti.mwP1.6tj.mwPz.6ua.mwP1.6ug.mwP1.6uh.mwP1.6uj.mwP1d.6t8.mwP1.6t9.mwP1.6tt.mw",
  "P1.6tu.mwP7.6uq.mwP1.6ur.mwP1.6us.mwP1.6ut.mwP2n3.9jf.9llP2.9jh.9llP2.9jj.9llP2.9jl.9ll",
  "P2.9jn.9llP2.9jp.9llP2.9jr.9llP2.9jt.9llP2.9jv.9llP2.9jx.9llP2.9jz.9llP2.9k1.9llP3.9k4.9ll",
  "P2.9k6.9llP2.9k8.9llP7.9kf.9llP1.9kf.9lmP2.9ki.9llP1.9ki.9lmP2.9kl.9llP1.9kl.9lmP2.9ko.9ll",
  "P1.9ko.9lmP2.9kr.9llP1.9kr.9lmPn.9ja.9llPa.9lp.9llPe.9m3.9llP2.9m5.9llP2.9m7.9llP2.9m9.9ll",
  "P2.9mb.9llP2.9md.9llP2.9mf.9llP2.9mh.9llP2.9mj.9llP2.9ml.9llP2.9mn.9llP2.9mp.9llP3.9ms.9ll",
  "P2.9mu.9llP2.9mw.9llP7.9n3.9llP1.9n3.9lmP2.9n6.9llP1.9n6.9lmP2.9n9.9llP1.9n9.9lmP2.9nc.9ll",
  "P1.9nc.9lmP2.9nf.9llP1.9nf.9lmPn.9ly.9llP3.9nz.9llP1.9o0.9llP1.9o1.9llP1.9o2.9llP4.9od.9ll",
  "P1617.1fpu.ljPr.1fq2.ljP246.1huh.1hveP2.1huj.1hvePf.1hut.1hveP3n.1hyp.1hyfP1.1hyq.1hyf",
  "Pf0.1idj.1idaP1.1idj.1idzP1j.1if6.1ih5P2.1if8.1igrP9.1iff.1igyP3.1ifk.1ih5P1g.1igy.1igy",
  "P2.1igy.1igoP1.1igy.1ih5P6r.1int.1inuP1.1int.1inkP2.1int.1inxP70.1iuw.1iunP1.1iux.1iun",
  "Pot.1jjp.1jjkPe7d.1xr2.1xr2P1.1xr2.1xrdP1.1xr2.1xr3P1.1xrd.1xr3P1.1xr2.1xr4P1.1xr5.1xr3",
  "P1.1xr6.1xr3P1.1xr5.1xr4P2f4.206f.206fP1.206b.206fP1.206h.206f"]

/-- The pairs of the table. -/
def pairs : List Run := Run.ofRows pairRows

/-! ## Hangul -/

/-- The first syllable. -/
def firstSyllable : Nat := 0xac00

/-- Number of syllables. -/
def syllables : Nat := 11172

/-- The first leading consonant; there are nineteen. -/
def firstLead : Nat := 0x1100

/-- The first vowel; there are twenty-one. -/
def firstVowel : Nat := 0x1161

/-- The code point in front of the first trailing consonant; there are
twenty-seven. -/
def beforeTail : Nat := 0x11a7

/-- The two parts of a syllable: a syllable without its trailing consonant, or a
leading consonant and a vowel. -/
def syllableParts? (n : Nat) : Option (Char × Char) :=
  if firstSyllable ≤ n ∧ n < firstSyllable + syllables then
    let i := n - firstSyllable
    if i % 28 = 0 then
      some (Char.ofNat (firstLead + i / 588), Char.ofNat (firstVowel + i % 588 / 28))
    else some (Char.ofNat (n - i % 28), Char.ofNat (beforeTail + i % 28))
  else none

/-- The syllable of two parts. -/
def syllable? (a b : Nat) : Option Char :=
  if firstLead ≤ a ∧ a < firstLead + 19 ∧ firstVowel ≤ b ∧ b < firstVowel + 21 then
    some (Char.ofNat (firstSyllable + (a - firstLead) * 588 + (b - firstVowel) * 28))
  else if firstSyllable ≤ a ∧ a < firstSyllable + syllables ∧ (a - firstSyllable) % 28 = 0 ∧
      beforeTail < b ∧ b < beforeTail + 28 then
    some (Char.ofNat (a + (b - beforeTail)))
  else none

/-! ## Pairs -/

/-- The two parts of a composed character. -/
def parts? (c : Char) : Option (Char × Char) :=
  match pairs.find? fun run => run.start = c.toNat with
  | some ⟨_, _, [a, b]⟩ => some (Char.ofNat a, Char.ofNat b)
  | _ => syllableParts? c.toNat

/-- The character that two characters compose to. -/
def compose? (a b : Char) : Option Char :=
  match pairs.find? fun run => run.numbers = [a.toNat, b.toNat] with
  | some run => some (Char.ofNat run.start)
  | none => syllable? a.toNat b.toNat

/-! ## The composed form -/

/-- Take a character apart, up to a depth. -/
def takeApart : Nat → Char → List Char
  | 0, c => [c]
  | depth + 1, c =>
      match parts? c with
      | some (a, b) => takeApart depth a ++ [b]
      | none => [c]

/-- Composed characters are built in at most this many steps. -/
def maxDepth : Nat := 4

/-- Put a character behind a text that is kept last first; a mark goes in front of
the marks of higher classes. -/
def putInOrder (c : Char) : List Char → List Char
  | [] => [c]
  | d :: rest =>
      if combiningClass c ≠ 0 ∧ combiningClass c < combiningClass d then d :: putInOrder c rest
      else c :: d :: rest

/-- Compose a character with those behind it; the marks between that do not
compose with it are kept last first.  A mark is reached unless one of its class
or a higher one stands between. -/
def composeFrom (base : Char) (marks : List Char) : List Char → List Char
  | [] => base :: marks.reverse
  | c :: rest =>
      let isReached := marks.head?.all fun m => combiningClass m < combiningClass c
      match if isReached then compose? base c else none with
      | some composed => composeFrom composed marks rest
      | none =>
          if combiningClass c = 0 then base :: marks.reverse ++ composeFrom c [] rest
          else composeFrom base (c :: marks) rest

/-- Compose a text; marks in front of it stay. -/
def composeAll : List Char → List Char
  | [] => []
  | c :: rest => if combiningClass c = 0 then composeFrom c [] rest else c :: composeAll rest

/-- The composed form of a text. -/
def compose (s : List Char) : List Char :=
  composeAll ((s.flatMap (takeApart maxDepth)).foldl (fun text c => putInOrder c text) []).reverse

end WebClient.Text.Composition
