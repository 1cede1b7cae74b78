import WebClient.Text.Mark

/-!
# Joiners in domain names

Two invisible characters say whether the letters beside them are joined.  They may
stand behind a virama, and the one that keeps letters apart also between letters
of a cursive script that would be joined.
-/

namespace WebClient.Domain

open Text (Run isVirama)

/-- The ways of joining, by their letters. -/
def joiningRows : List String := [
  "UxTkfU35T7mU8T7aU19T1U1T1U2T1U2T1U9T1sUbD5U1R1D4R1D1R1D1R5D4UdD1R7D1T2UlDeT2R1U3D5RfDiR12D1",
  "R2D9R1D1R1D1R2U2R1T1U8T1U6T2U2T1R4U2DaU3D2U1RgT1D1R3D5R4D1R9D1R1D1R1D1R2T1RtD1RbD3RfD2R4D1",
  "R1D2R3D2U6T12UbDpTxU9T9U1ToU4T1U9T1U3T1U7RgD1R5D2R1D1RaD1R1T3U5D2U1D1U4R1D1R1UqD3U1D2R5D1T8",
  "D9RaU3R1D1R2D2R6D1UfT1U1lT1jU1T1U1T4U8T4U1T3UfT2U2TtU1T1mU1T4U6T6U1TkU4ToU5T1lU2T3UrTkU2T3",
  "U1TbU2T1lU1T4U8T4U3TiU4TkU8T1mU1T2U1T1U6T6UaTbU4TsU1T1pU1TcU3T1cU1T3U1T1jU1T1U3T5UiTaU4TrU1",
  "T1mU1T2U1T6U1T5U9TdU4TqU2T1lU2T4U5T7U1TkU4TrU1T20U5T3U6T2hU1T2UbT8U8T2qU1T2U9TbU8T20U2TrU1",
  "T1U1T1U1T1jUeT1U5T1U2T5U1dT8U1T2uU4T1U6T1U2T2U2TpU2T4U3TgU4TdU1T2U2T6U1TfU1TjjU3TqaU3TtU2Tu",
  "UeTiUeT1jU7T8U1T2UbT9U3D13U1DoU2oT5D2TyD1U6T34U3T4U2T9U1T6U7T5zU2T2U3T1kU1T1U9T1U1T2U8T6Ud",
  "T1cU2cT1cU1T1U5T1U1T5U1T14U9TcU2TwU4T2U2T1U3T1kU1T1U2T3U1T1U3T1mU8T2U5T45U3T1UdT1U7T4U1T6U1",
  "T3U2T5iU1tTjzU1gT2crU4T3wU1T2oUwTfeU4T2zU4Tn9uU4T1UaTwU2T28U2T7kU1T3U1T4U1TpU2T5U4DgL1eU1",
  "T29UaTiUiTdU1T12U8TpUbT1aU3T1cU1T2U4T2U2T13U1T1vU6T2U2T2UbT3U1T8U1T1bU1T1fU1T1U3T2U2T5U2T1",
  "U1T16U2T8UbT6cU1T2U1T4U3Tfn2U44ThaU11TqgU3nT2oU1T45UaT1a9UfT14U8D3kR5U1R1U1R1U2L2R1D5L4D1R5",
  "D1R3U1R2T1D6R4U1D40R1D1R1D3R3D1R2D1R1D2R1U8RgD4U2L9dD1RxD1T1UcT1lU5T8tU2RlD1U2D1UaT16U6D1c",
  "R3D1UhT1DbR3U1DrR4D2TcU4D16U1D1R2U3D1R1D2R2D1U2D1R1D2U1R4D1L1UlTxU1T1iUfT15U1T2U2TaU3T1dU4",
  "T2U2T7UeT1cU3T10U5T1U9T1pU1TcU2T1gU9TaU4T2U1T2nU3T2U1T1U2T6U1T2U1rT2nU1T3UdTgU2T1lU2T3U1T11",
  "UqT1nU7TcU1T1U1T1U1TeUvT1kU8T2U3T1U1TnU1T2cU6T1U1T4U2T1U2T6mU6T4U2T1U2TrU10T1fU8T2U1T1U2T2y",
  "U1T1U1T2U6T1U1T2tU1T1U1T2U4T1U9T73U9T1U2T74U2T1U1T4U1T40U8T4U1TwUaT14U6T2U4T8U9T1U6T2U3T1a",
  "UdT1U2T5iU1T1U3T1U1T5lUeT1U1T2aUnT1U7T1U2T1U23T1dUlT1U9T1sU3T2U1T1U1T9nU2TbU2T1gU8T2U1T1U1",
  "TnU2eT428U1T6UpT8u6UcT3U3T1xcU5T1nU7Tt4U1T1rU4T29UcTf59U2T3mpU28TevU3ThU8T2U7TuU4T44U3T1iz",
  "U1jT4U1eT8U1TeU1TmUv9T74U74T1cU7TafUiT18U4Te4U4T72U2T6rU1T2U1T7U2T5U9TcyD2aTyUc"]

/-- The runs of ways of joining: to both sides (`D`), to the left (`L`), to the right
(`R`), to none (`U`), or through the character (`T`). -/
def joiningRuns : List Run := Run.ofRows joiningRows

/-- The first character that letters are not joined through joins in one of the
given ways. -/
def joins (ways : List Char) : List Char → Bool
  | [] => false
  | c :: rest =>
      let way := Run.letterOf joiningRuns 'U' c
      ways.contains way || (way = 'T' && joins ways rest)

/-- The character that keeps letters apart. -/
def apart : Char := '\u200c'

/-- The character that joins letters. -/
def together : Char := '\u200d'

/-- A joiner may stand between two texts; the one in front is given last character
first. -/
def mayJoin (joiner : Char) (before after : List Char) : Bool :=
  match before with
  | [] => false
  | c :: _ =>
      isVirama c ||
        (joiner = apart && joins ['L', 'D'] before && joins ['R', 'D'] after)

/-- Every joiner in a text may stand there, behind a text that is given last
character first. -/
def joinersFit (before : List Char) : List Char → Bool
  | [] => true
  | c :: rest =>
      (!(c = apart || c = together) || mayJoin c before rest) && joinersFit (c :: before) rest

end WebClient.Domain
