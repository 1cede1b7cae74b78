import WebClient.Json.Printer
import WebClient.Text.Quoted

/-!
# Faults of JSON decoding

Why a text is not JSON, or why a value does not have the expected shape; where
in the text, counted in bytes from its end; and where in the value, as a path.
-/

namespace WebClient.Json

/-- Why a sequence of bytes is not a JSON text. -/
inductive Flaw where
  | eofInList
  | eofInObject
  | eofInString
  | eofInValue
  | expectedColon
  | expectedCommaOrBracket
  | expectedCommaOrBrace
  | expectedWord
  | expectedValue
  | invalidEscape
  | invalidNumber
  | numberOutOfRange
  | invalidCodePoint
  | controlCharacter
  | keyMustBeString
  | loneSurrogate
  | trailingComma
  | trailingCharacters
  | unfinishedSurrogatePair
  | tooDeep
  deriving DecidableEq, Repr

/-- The wording of a flaw. -/
def Flaw.message : Flaw → String
  | .eofInList => "EOF while parsing a list"
  | .eofInObject => "EOF while parsing an object"
  | .eofInString => "EOF while parsing a string"
  | .eofInValue => "EOF while parsing a value"
  | .expectedColon => "expected `:`"
  | .expectedCommaOrBracket => "expected `,` or `]`"
  | .expectedCommaOrBrace => "expected `,` or `\x7d`"
  | .expectedWord => "expected ident"
  | .expectedValue => "expected value"
  | .invalidEscape => "invalid escape"
  | .invalidNumber => "invalid number"
  | .numberOutOfRange => "number out of range"
  | .invalidCodePoint => "invalid unicode code point"
  | .controlCharacter => "control character (\\u0000-\\u001F) found while parsing a string"
  | .keyMustBeString => "key must be a string"
  | .loneSurrogate => "lone leading surrogate in hex escape"
  | .trailingComma => "trailing comma"
  | .trailingCharacters => "trailing characters"
  | .unfinishedSurrogatePair => "unexpected end of hex escape"
  | .tooDeep => "recursion limit exceeded"

/-- What stands where another shape is expected. -/
inductive Found where
  | null
  | bool (b : Bool)
  | number (n : Number)
  | string (s : String)
  | list
  | object
  | bareVariant
  deriving Repr

/-- The wording of what was found. -/
def Found.message : Found → String
  | .null => "null"
  | .bool b => s!"boolean `{b}`"
  | .number (.integer n) => s!"integer `{n}`"
  | .number (.float x) => "floating point `" ++ floatLayout.write x ++ "`"
  | .string s => "string " ++ Text.quoted s
  | .list => "sequence"
  | .object => "map"
  | .bareVariant => "unit variant"

/-- What a value is found to be. -/
def Value.found : Value → Found
  | .null => .null
  | .bool b => .bool b
  | .number n => .number n
  | .string s => .string s
  | .array _ => .list
  | .object _ => .object

/-- Why a value does not have the expected shape. -/
inductive Mismatch where
  | wrongType (found : Found) (expected : String)
  | wrongValue (found : Found) (expected : String)
  | wrongLength (length : Nat) (expected : String)
  | missingField (name : String)
  | duplicateField (name : String)
  | unknownVariant (name : String) (known : List String)
  deriving Repr

/-- The wording of a choice between names. -/
def oneOf : List String → String
  | [] => "there are no variants"
  | [a] => s!"expected `{a}`"
  | [a, b] => s!"expected `{a}` or `{b}`"
  | names => "expected one of " ++ ", ".intercalate (names.map fun name => s!"`{name}`")

/-- The wording of a mismatch. -/
def Mismatch.message : Mismatch → String
  | .wrongType found expected => s!"invalid type: {found.message}, expected {expected}"
  | .wrongValue found expected => s!"invalid value: {found.message}, expected {expected}"
  | .wrongLength length expected => s!"invalid length {length}, expected {expected}"
  | .missingField name => s!"missing field `{name}`"
  | .duplicateField name => s!"duplicate field `{name}`"
  | .unknownVariant name [] => s!"unknown variant `{name}`, there are no variants"
  | .unknownVariant name known => s!"unknown variant `{name}`, {oneOf known}"

/-- Why decoding fails. -/
inductive Cause where
  | malformed (flaw : Flaw)
  | mismatched (mismatch : Mismatch)
  deriving Repr

/-- The wording of a cause. -/
def Cause.message : Cause → String
  | .malformed flaw => flaw.message
  | .mismatched mismatch => mismatch.message

/-- One step from a value to a part of it. -/
inductive Step where
  | index (i : Nat)
  | key (name : String)
  | variant (name : String)
  | unknown
  deriving DecidableEq, Repr

/-- The wording of one step. -/
def Step.message : Step → String
  | .index i => s!"[{i}]"
  | .key name => name
  | .variant name => name
  | .unknown => "?"

/-- The steps of a path, with points in front of the names. -/
def Step.pathTail : List Step → String
  | [] => ""
  | .index i :: rest => Step.message (.index i) ++ pathTail rest
  | step :: rest => "." ++ step.message ++ pathTail rest

/-- The wording of a path; the value itself is at `.`. -/
def Step.path : List Step → String
  | [] => "."
  | step :: rest => step.message ++ pathTail rest

/-- A failed decoding. -/
structure Fault where
  cause : Cause
  /-- Number of unread bytes where the fault was found, if it has a place. -/
  unread : Option Nat
  path : List Step
  deriving Repr

/-- Place a fault below a step. -/
def Fault.under (step : Step) (fault : Fault) : Fault :=
  { fault with path := step :: fault.path }

/-- The fault of an input, found where the given bytes are still unread. -/
def Flaw.here (flaw : Flaw) (rest : Bytes) : Fault := ⟨.malformed flaw, some rest.length, []⟩

/-- The fault of an input, found at the first of the given unread bytes, which
counts as read. -/
def Flaw.next (flaw : Flaw) (rest : Bytes) : Fault := ⟨.malformed flaw, some (rest.length - 1), []⟩

/-- A mismatch found where the given bytes are still unread. -/
def Mismatch.here (mismatch : Mismatch) (rest : Bytes) : Fault :=
  ⟨.mismatched mismatch, some rest.length, []⟩

/-- A mismatch of a value that is no text. -/
def Mismatch.fault (mismatch : Mismatch) : Fault := ⟨.mismatched mismatch, none, []⟩

/-- Line and column of the end of a text: lines count from one, and a column is
the number of bytes since the last line break. -/
def endPosition (read : Bytes) : Nat × Nat :=
  let step (p : Nat × Nat) (b : UInt8) := if b = 0x0a then (p.1 + 1, 0) else (p.1, p.2 + 1)
  read.foldl step (1, 0)

/-- The wording of a fault of decoding a text. -/
def Fault.message (input : Bytes) (fault : Fault) : String :=
  match fault.unread with
  | none => fault.cause.message
  | some unread =>
      let (line, column) := endPosition (input.take (input.length - unread))
      s!"{fault.cause.message} at line {line} column {column}"

end WebClient.Json
