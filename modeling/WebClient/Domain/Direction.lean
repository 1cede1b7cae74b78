import WebClient.Text.Runs

/-!
# Directions in domain names

A label that is written from right to left must not look like another one next
to its neighbours.  So in a name with a character of such a script, every label
starts with a letter, runs in one direction, and ends with a letter or a digit,
marks behind it not counted.
-/

namespace WebClient.Domain

open Text (Run)

/-- The direction of a character. -/
inductive Direction where
  | left
  | right
  | arabic
  | arabicDigit
  | digit
  | sign
  | separator
  | unit
  | neutral
  | boundary
  | mark
  deriving DecidableEq, Repr

namespace Direction

/-- The directions, by their letters. -/
def directionRows : List String := [
  "OxT3O2S5C1S1C1E2ObL12OqT13O4TaO6L15OoL1OchL2O7LeO2LsO1MhL35O4L2O3jL2M3vL8O73T5M2R19M1R1M1R2",
  "M1R2M1R9O1iA2T1A2C1A1O1M2AbM1cBlTaB1A2M3A1M2tO8M1A6M2O2M1A4E2AaMnA1MuAtM2hAbRfM17R9O2R4M3R1",
  "MoR4M1R9M1R3M1R7M15R5A2M1jA9M16L1lM1jL1M1L1M4L8M4L1M3LfM2L2MtL1M1mL1M4L6M6L1MkL4TcL2T7L1M2",
  "L5M1lL2M3LrMkL2M3L1MbL2M1lL1M4L8M4L3MiL4TbL8M1L8M1mL1M2L1M1L6M6LaMbL4MsL1M1pL1McL3OzT6O1M6",
  "L1M3L1M1jL1M1L3M5LiMaL4OiL7M2L1M1mL1MfL9MdL4MqL2M1lL2M4L5M7L1MkL4MrL1M20L5M3L6M2hL1M2TbL1M7",
  "L8M2qL1M2L9MbL8M20L2MrL1M1L1M1O1L4M1fLeM1L5M1L2M5L1dM8L1M2uL4M1L6M1L2M2L2MpL2M4L3MgL4MdL1M2",
  "L2M6L1MfL1MjjL3O1cLgO2oL1OiiL5M36L3MtL2MuLeMiLeM1jL7M8L1M2LbT7L1M1L3OgLwM39L2MyL1M3aL3M4L2",
  "M9L1M6O7L6O48LyMnL2M2L3M1kL1M1L9M1L1M2L8M6LdM1cL2cM1cL1M1L5M1L1M5L1M14L9McL2MwL4M2L2M1L3M1k",
  "L1M1L2M3L1M1L3M1mL8M2L5M45L3M1LdM1L7M4L1M6L1M3L2M5iL1tNejO4TwO5CfO1T2jM1cO1gT16OcLkO1oS3sT1",
  "O1L82O1xLqO1LlyO1L9fO74LmoO51L7M3L4O6L7M3jL1M2oOwLedO3LpM9L4O2L1O6L4O2L4M2gL4O3L1O2iL1O5g",
  "L1cO5hsL1sOh3kL1sO8tL3M2nO4M1OaL3MtL2M28L2OeLzO2tL1M3dL1M3L1M4L1MpL2O1M4L4T8L8O1gLcM1wLaMi",
  "LiMdL1M12L8MpLbM1aL3M1cL1M2L4M2L2M13L1M1vL6M2L2M2LbM3L1M8L1M1bL1M1fL1M1L3M2L2M5L2M1L1M16L2",
  "M8LbO2xL2eM11L1M2L1M4L3Mfn2A44OhMgtO11A1aLb1O75L1O1qL25O3L1sM19L3nM2oE1LvM3aLaRw0O7zR1M69Rf",
  "M14R8M4lR6O26R7AcgM10BcRqMvO5R1B6pRwM17R2AlOeM16R6A1cMmAbRvMiR4L3eM1L1M1iLfObLkMaL1M2L2MaL3",
  "M1dL4M2L2M7LeM1cL3M10L5M1L9M1pL1McL2M1gL9MaL4M2L1M2nL3M2L1M1L2M6L1M2L1rM2nL1M3LdMgL2M1lL2M3",
  "L1M11LqM1nL7McL1M1L1M1L1MeLvM1kL8M2L3M1L1MnL1M2cL6M1L1M4L2M1L2M6mL6M4L2M1L2MrL10M1fL8M2L1M1",
  "L2OvLwM17L1M1L1M2L6M1L1M2tL3M2L4M1L9M73L9M1L2M74L2M1L1M4L1M40L8M4L1MwL6M2L2M14L6M2L4M8L9M1",
  "L6M2L3M1aLdM1L2M5iL1M1L3M1L1M5lLeM2cLnM1L7M1L2M1L23M1dLlM1L9M1sL3M2L1M1L1M9nL2MbL2M1gL8M2L1",
  "M1L1MnL2eO11T8O4LuM401L1M6LpM8u6LcM3L3M1xcL5M1nL7Mt4L1M1rL4O27L1M1LcMf59L2O31dMlcL28MevL3Mh",
  "L8M2L7MuL4O1nM2hO3L3fO1sL2oM1b4L1jM4L1eM8L1MeL1MmLv9M74L74M1cL7MafLiM18L4TfLcxMsL4M72L2M6r",
  "L1M2L1M7L2M5L9R76M5sR2aMyR7AmeOhrLgwOtL3O1pL1lO3eL2ow"]

/-- The runs of directions. -/
def directionRuns : List Run := Run.ofRows directionRows

/-- The direction that a letter of the table names. -/
def ofLetter : Char → Direction
  | 'R' => .right
  | 'A' => .arabic
  | 'B' => .arabicDigit
  | 'E' => .digit
  | 'S' => .sign
  | 'C' => .separator
  | 'T' => .unit
  | 'O' => .neutral
  | 'N' => .boundary
  | 'M' => .mark
  | _ => .left

/-- The direction of a character. -/
def of (c : Char) : Direction := ofLetter (Run.letterOf directionRuns 'O' c)

/-- A name with such a character has a label from right to left. -/
def isRightToLeft (d : Direction) : Bool := d = .right || d = .arabic || d = .arabicDigit

/-- The direction may stand between the ends of any label. -/
def isInner (d : Direction) : Bool :=
  d = .digit || d = .sign || d = .separator || d = .unit || d = .neutral || d = .boundary ||
    d = .mark

/-- A label can stand in a name with characters from right to left. -/
def fits : List Direction → Bool
  | [] => true
  | first :: rest =>
      let body := (rest.reverse.dropWhile (· = .mark)).reverse
      match first with
      | .left =>
          body.dropLast.all (fun d => d = .left || d.isInner) &&
            body.getLast?.all fun d => d = .left || d = .digit
      | .right | .arabic =>
          body.dropLast.all (fun d => d.isRightToLeft || d.isInner) &&
            body.getLast?.all (fun d => d.isRightToLeft || d = .digit) &&
            !(body.contains .digit && body.contains .arabicDigit)
      | _ => false

end Direction

/-- Every label fits, if a character of one runs from right to left. -/
def keepsDirection (labels : List (List Char)) : Bool :=
  let directions := labels.map fun label => label.map Direction.of
  !(directions.any fun label => label.any Direction.isRightToLeft) ||
    directions.all Direction.fits

end WebClient.Domain
