import WebClient.Json.Reader

/-!
# Shapes of decoded values

A `Schema` says which shape a decoded value must have.  `Schema.read` decodes a
text while it reads it, so that a mismatch is reported before any flaw further
on; `Schema.decode` decodes a value that is already there.  Both answer with the
value in its normal form: the fields of a record in declaration order, those of
a table sorted by name, and integers as floating-point numbers where those are
asked for.
-/

namespace WebClient.Json

/-- The shape of a decoded value. -/
inductive Schema where
  /-- Any value. -/
  | any
  /-- Only `null`. -/
  | unit
  | bool
  | string
  /-- A non-negative integer of the given number of bits. -/
  | unsigned (bits : Nat)
  /-- An integer of the given number of bits. -/
  | signed (bits : Nat)
  | double
  /-- An array of any length. -/
  | list (item : Schema)
  /-- An array with one item per schema. -/
  | tuple (items : List Schema)
  /-- `null` or a value. -/
  | optional (item : Schema)
  /-- An object used as a table. -/
  | table (item : Schema)
  /-- An object, or an array, with known fields; a missing field takes its
  default where it has one. -/
  | record (title : String) (fields : List (String × Schema × Option Value))
  /-- One of several named variants: a bare name, where the variant's schema is
  `unit`, or an object with one field. -/
  | variants (choices : List (String × Schema))
  deriving Repr

/-- A field of a record, with a decoder of its value. -/
structure FieldDecoder (δ : Type) where
  name : String
  decoder : δ
  /-- The value of the field where it is absent. -/
  absent : Option Value
  /-- The value of the field where an array ends before it. -/
  cut : Option Value

/-- A schema of a field that may be absent. -/
def Schema.isOptional : Schema → Bool
  | .optional _ => true
  | _ => false

/-- The value of an absent field. -/
def Schema.absent (schema : Schema) (fallback : Option Value) : Option Value :=
  fallback.orElse fun _ => if schema.isOptional then some .null else none

/-- The wording of what a schema expects. -/
def Schema.expected : Schema → String
  | .any => "any valid JSON value"
  | .unit => "unit"
  | .bool => "a boolean"
  | .string => "a string"
  | .unsigned bits => s!"u{bits}"
  | .signed bits => s!"i{bits}"
  | .double => "f64"
  | .list _ => "a sequence"
  | .tuple items => s!"a tuple of size {items.length}"
  | .optional _ => "option"
  | .table _ => "a map"
  | .record title _ => title
  | .variants _ => "string or map"

/-- The wording of the number of items that an array must have. -/
def Schema.expectedLength : Schema → String
  | .record title fields =>
      if fields.length = 1 then s!"{title} with 1 element"
      else s!"{title} with {fields.length} elements"
  | schema => schema.expected

/-- The wording of a variant with a payload. -/
def Schema.expectedVariant : Schema → String
  | .record _ _ => "struct variant"
  | .tuple _ => "tuple variant"
  | _ => "newtype variant"

/-- Take a number as one of a schema. -/
def Schema.ofNumber (schema : Schema) (n : Number) : Except Mismatch Value :=
  match schema, n with
  | .unsigned bits, .integer i =>
      if 0 ≤ i ∧ i < Nat.pow 2 bits then .ok (.number n)
      else .error (.wrongValue (.number n) schema.expected)
  | .signed bits, .integer i =>
      if -Nat.pow 2 (bits - 1) ≤ i ∧ i < Nat.pow 2 (bits - 1) then .ok (.number n)
      else .error (.wrongValue (.number n) schema.expected)
  | .double, .integer i =>
      let x := i.natAbs.toUInt64.toFloat
      .ok (.number (.float (if i < 0 then -x else x)))
  | .double, .float _ => .ok (.number n)
  | _, _ => .error (.wrongType (.number n) schema.expected)

/-- The order of texts by their bytes. -/
def bytesBefore (a b : String) : Bool :=
  decide (a.toList.map Char.toNat < b.toList.map Char.toNat)

/-- Insert a field into fields sorted by name; a known name takes the new value. -/
def insertSorted (name : String) (value : Value) :
    List (String × Value) → List (String × Value)
  | [] => [(name, value)]
  | (key, old) :: rest =>
      if key = name then (key, value) :: rest
      else if bytesBefore name key then (name, value) :: (key, old) :: rest
      else (key, old) :: insertSorted name value rest

/-- The fields of a table sorted by name, the last value of each name. -/
def sortFields (fields : List (String × Value)) : List (String × Value) :=
  fields.foldl (fun known (name, value) => insertSorted name value known) []

/-- Assemble the fields of a record in declaration order. -/
def assemble {δ : Type} (found : List (String × Value)) :
    List (FieldDecoder δ) → Except Mismatch (List (String × Value))
  | [] => .ok []
  | field :: fields =>
      match (found.lookup field.name).orElse fun _ => field.absent with
      | none => .error (.missingField field.name)
      | some value => (assemble found fields).map ((field.name, value) :: ·)

/-! ## Decoding a value -/

/-- A decoder of a value that is already there. -/
abbrev Decoder := Value → Except Fault Value

/-- Decode the items of an array of any length. -/
def decodeItems (item : Decoder) : Nat → List Value → Except Fault (List Value)
  | _, [] => .ok []
  | index, v :: rest => do
      let x ← below (.index index) (item v)
      return x :: (← decodeItems item (index + 1) rest)

/-- Decode the items of an array with one decoder each, and count the items that
are left over. -/
def decodeTuple (expected : String) :
    Nat → List Decoder → List Value → Except Fault (List Value × Nat)
  | _, [], rest => .ok ([], rest.length)
  | index, _ :: _, [] => .error (Mismatch.wrongLength index expected).fault
  | index, item :: items, v :: rest => do
      let x ← below (.index index) (item v)
      let (xs, extra) ← decodeTuple expected (index + 1) items rest
      return (x :: xs, extra)

/-- Decode the fields of a record from an array. -/
def decodeCutRecord (expected : String) :
    Nat → List (FieldDecoder Decoder) → List Value →
      Except Fault (List (String × Value) × Nat)
  | _, [], rest => .ok ([], rest.length)
  | index, field :: fields, [] =>
      match field.cut with
      | none => .error (Mismatch.wrongLength index expected).fault
      | some value => do
          let (xs, extra) ← decodeCutRecord expected (index + 1) fields []
          return ((field.name, value) :: xs, extra)
  | index, field :: fields, v :: rest => do
      let x ← below (.index index) (field.decoder v)
      let (xs, extra) ← decodeCutRecord expected (index + 1) fields rest
      return ((field.name, x) :: xs, extra)

/-- Decode the known fields of an object in the order in which they stand. -/
def decodeKnown (fields : List (FieldDecoder Decoder)) :
    List (String × Value) → Except Fault (List (String × Value))
  | [] => .ok []
  | (name, v) :: rest =>
      match fields.find? fun field => field.name = name with
      | none => decodeKnown fields rest
      | some field => do
          let x ← below (.key name) (field.decoder v)
          return (name, x) :: (← decodeKnown fields rest)

/-- Decode the fields of a table. -/
def decodeTable (item : Decoder) :
    List (String × Value) → Except Fault (List (String × Value))
  | [] => .ok []
  | (name, v) :: rest => do
      let x ← below (.key name) (item v)
      return (name, x) :: (← decodeTable item rest)

/-- Decode a record from an object or from an array. -/
def decodeRecord (schema : Schema) (fields : List (FieldDecoder Decoder)) : Decoder
  | .array items => do
      let (found, extra) ← decodeCutRecord schema.expectedLength 0 fields items
      if extra = 0 then return .object found
      else throw (Mismatch.wrongLength items.length "fewer elements in array").fault
  | .object entries => do
      let found ← decodeKnown fields entries
      match assemble found fields with
      | .ok found => return .object found
      | .error mismatch => throw mismatch.fault
  | v => .error (Mismatch.wrongType v.found schema.expected).fault

/-- The names of the variants of a schema, with the schema and the decoder of the
payload of each. -/
abbrev Choices (δ : Type) := List (String × Schema × δ)

/-- A variant of a name, or the mismatch that there is none. -/
def Choices.find {δ : Type} (choices : Choices δ) (name : String) :
    Except Mismatch (Schema × δ) :=
  match choices.lookup name with
  | some choice => .ok choice
  | none => .error (.unknownVariant name (choices.map Prod.fst))

/-- The value of a bare variant. -/
def bareVariant (name : String) : Schema → Except Mismatch Value
  | .unit => .ok (.string name)
  | payload => .error (.wrongType .bareVariant payload.expectedVariant)

/-- The value of a variant with its payload. -/
def variantValue (name : String) (schema : Schema) (payload : Value) : Value :=
  match schema with
  | .unit => .string name
  | _ => .object [(name, payload)]

/-- Report a mismatch of a value that is no text. -/
def withoutPlace {α : Type} : Except Mismatch α → Except Fault α :=
  Except.mapError Mismatch.fault

/-- Decode a variant. -/
def decodeVariant (choices : Choices Decoder) : Decoder
  | .string name => do
      let (schema, _) ← withoutPlace (choices.find name)
      below (.variant name) (withoutPlace (bareVariant name schema))
  | .object [(name, payload)] => do
      let (schema, item) ← withoutPlace (choices.find name)
      match schema, payload with
      | .record _ _, .object _ =>
          return variantValue name schema (← below (.variant name) (item payload))
      | .record _ _, _ =>
          below (.variant name)
            (.error (Mismatch.wrongType payload.found schema.expectedVariant).fault)
      | _, _ => return variantValue name schema (← below (.variant name) (item payload))
  | .object _ => .error (Mismatch.wrongValue .object "map with a single key").fault
  | v => .error (Mismatch.wrongType v.found "string or map").fault

mutual

/-- Decode a value that is already there. -/
def Schema.decode : Schema → Decoder
  | .any, v => .ok v
  | .unit, .null => .ok .null
  | .bool, .bool b => .ok (.bool b)
  | .string, .string s => .ok (.string s)
  | .unsigned bits, .number n => withoutPlace ((Schema.unsigned bits).ofNumber n)
  | .signed bits, .number n => withoutPlace ((Schema.signed bits).ofNumber n)
  | .double, .number n => withoutPlace (Schema.double.ofNumber n)
  | .list item, .array items => (decodeItems (Schema.decode item) 0 items).map .array
  | .tuple items, .array values => do
      let expected := (Schema.tuple items).expected
      let (found, extra) ← decodeTuple expected 0 (decoders items) values
      if extra = 0 then return .array found
      else throw (Mismatch.wrongLength values.length "fewer elements in array").fault
  | .optional _, .null => .ok .null
  | .optional item, v => Schema.decode item v
  | .table item, .object fields =>
      (decodeTable (Schema.decode item) fields).map fun found => .object (sortFields found)
  | .record title fields, v =>
      decodeRecord (.record title fields) (fieldDecoders fields) v
  | .variants choices, v => decodeVariant (choiceDecoders choices) v
  | schema, v => .error (Mismatch.wrongType v.found schema.expected).fault

/-- The decoders of the items of a tuple. -/
def decoders : List Schema → List Decoder
  | [] => []
  | schema :: rest => Schema.decode schema :: decoders rest

/-- The decoders of the fields of a record. -/
def fieldDecoders :
    List (String × Schema × Option Value) → List (FieldDecoder Decoder)
  | [] => []
  | (name, schema, fallback) :: rest =>
      ⟨name, Schema.decode schema, schema.absent fallback, fallback⟩ :: fieldDecoders rest

/-- The decoders of the payloads of variants. -/
def choiceDecoders : List (String × Schema) → Choices Decoder
  | [] => []
  | (name, schema) :: rest => (name, schema, Schema.decode schema) :: choiceDecoders rest

end

/-! ## Decoding a text -/

/-- Skip the rest of a string after its opening quote. -/
def skipString : Bytes → Except Fault Bytes
  | [] => .error (Flaw.eofInString.here [])
  | b :: s =>
      if b = byte '"' then .ok s
      else if b = byte '\\' then
        match s with
        | [] => .error (Flaw.eofInString.here [])
        | e :: s =>
            if e = byte 'u' then
              match s with
              | h₁ :: h₂ :: h₃ :: h₄ :: s =>
                  match hexWord? h₁ h₂ h₃ h₄ with
                  | none => .error (Flaw.invalidEscape.here s)
                  | some _ => skipString s
              | _ => .error (Flaw.eofInString.here [])
            else if (unescapeLetter? e).isSome then skipString s
            else .error (Flaw.invalidEscape.here s)
      else if b < 0x20 then .error (Flaw.controlCharacter.here (b :: s))
      else skipString s

/-- Skip the digits of an exponent after its letter. -/
def skipExponent (s : Bytes) : Except Fault Bytes :=
  let s :=
    match s with
    | b :: rest => if b = byte '+' || b = byte '-' then rest else s
    | [] => []
  match s with
  | b :: rest =>
      if isDigit b then .ok (rest.dropWhile isDigit) else .error (Flaw.invalidNumber.here rest)
  | [] => .error (Flaw.invalidNumber.here [])

/-- Skip what may follow the integral part of a number. -/
def skipAfterInteger : Bytes → Except Fault Bytes
  | [] => .ok []
  | b :: s =>
      if b = byte '.' then
        match s with
        | c :: rest =>
            if isDigit c then
              match rest.dropWhile isDigit with
              | e :: more =>
                  if e = byte 'e' || e = byte 'E' then skipExponent more else .ok (e :: more)
              | [] => .ok []
            else .error (Flaw.invalidNumber.next s)
        | [] => .error (Flaw.invalidNumber.next [])
      else if b = byte 'e' || b = byte 'E' then skipExponent s
      else .ok (b :: s)

/-- Skip a number after its sign. -/
def skipNumber : Bytes → Except Fault Bytes
  | [] => .error (Flaw.invalidNumber.here [])
  | b :: s =>
      if b = byte '0' then
        match s with
        | c :: rest =>
            if isDigit c then .error (Flaw.invalidNumber.next (c :: rest))
            else skipAfterInteger (c :: rest)
        | [] => .ok []
      else if isDigit b then skipAfterInteger (s.dropWhile isDigit)
      else .error (Flaw.invalidNumber.here s)

/-- An array or an object whose skipped parts are not complete. -/
inductive Open where
  | list
  | object
  deriving DecidableEq, Repr

/-- What comes next while a value is skipped. -/
inductive Skipping where
  /-- A value. -/
  | value
  /-- The name of a field and its colon. -/
  | name
  /-- The end of the innermost array or object, or a further part after a comma. -/
  | more
  /-- The end of the innermost array or object, or its first part. -/
  | first
  deriving DecidableEq, Repr

/-- Skip a value, with the arrays and objects that are open, innermost first. -/
def skipSteps : Nat → Skipping → List Open → Bytes → Except Fault Bytes
  | 0, _, _, s => .ok s
  | _ + 1, .more, [], s => .ok s
  | _ + 1, .first, [], s => .ok s
  | _ + 1, .name, [], s => .ok s
  | fuel + 1, .value, outer, s =>
      match skipSpace s with
      | [] => .error (Flaw.eofInValue.next [])
      | b :: rest => do
          if b = byte 'n' then
            skipSteps fuel .more outer (← readWord [0x75, 0x6c, 0x6c] rest)
          else if b = byte 't' then
            skipSteps fuel .more outer (← readWord [0x72, 0x75, 0x65] rest)
          else if b = byte 'f' then
            skipSteps fuel .more outer (← readWord [0x61, 0x6c, 0x73, 0x65] rest)
          else if b = byte '-' then skipSteps fuel .more outer (← skipNumber rest)
          else if isDigit b then skipSteps fuel .more outer (← skipNumber (b :: rest))
          else if b = byte '"' then skipSteps fuel .more outer (← skipString rest)
          else if b = byte '[' then skipSteps fuel .first (.list :: outer) rest
          else if b = byte '{' then skipSteps fuel .first (.object :: outer) rest
          else throw (Flaw.expectedValue.next (b :: rest))
  | fuel + 1, .name, inner :: outer, s =>
      match skipSpace s with
      | [] => .error (Flaw.eofInObject.next [])
      | b :: rest => do
          if b = byte '"' then
            skipSteps fuel .value (inner :: outer) (← readColon (← skipString rest))
          else throw (Flaw.keyMustBeString.next (b :: rest))
  | fuel + 1, .more, inner :: outer, s =>
      match skipSpace s, inner with
      | [], .list => .error (Flaw.eofInList.next [])
      | [], .object => .error (Flaw.eofInObject.next [])
      | b :: rest, .list =>
          if b = byte ',' then skipSteps fuel .value (inner :: outer) rest
          else if b = byte ']' then skipSteps fuel .more outer rest
          else .error (Flaw.expectedCommaOrBracket.next (b :: rest))
      | b :: rest, .object =>
          if b = byte ',' then skipSteps fuel .name (inner :: outer) rest
          else if b = byte '}' then skipSteps fuel .more outer rest
          else .error (Flaw.expectedCommaOrBrace.next (b :: rest))
  | fuel + 1, .first, inner :: outer, s =>
      match skipSpace s, inner with
      | [], .list => .error (Flaw.eofInList.next [])
      | [], .object => .error (Flaw.eofInObject.next [])
      | b :: rest, .list =>
          if b = byte ']' then skipSteps fuel .more outer rest
          else skipSteps fuel .value (inner :: outer) (b :: rest)
      | b :: rest, .object =>
          if b = byte '}' then skipSteps fuel .more outer rest
          else skipSteps fuel .name (inner :: outer) (b :: rest)

/-- Skip one value. -/
def skipValue (s : Bytes) : Except Fault Bytes := skipSteps (4 * s.length + 4) .value [] s

/-- The fault of a value that does not have the expected shape; the value is read
as far as its kind and, where it is a scalar, its contents need. -/
def unexpected (expected : String) (s : Bytes) : Fault :=
  match skipSpace s with
  | [] => Flaw.eofInValue.next []
  | b :: rest =>
      if b = byte '[' then (Mismatch.wrongType .list expected).here (b :: rest)
      else if b = byte '{' then (Mismatch.wrongType .object expected).here (b :: rest)
      else
        match Value.read 0 (b :: rest) with
        | .ok (v, more) => (Mismatch.wrongType v.found expected).here more
        | .error fault => fault

/-- Read a scalar of a schema whose text starts with a byte of a class. -/
def readScalar (starts : UInt8 → Bool) (schema : Schema) : Reader Value := fun s =>
  match skipSpace s with
  | [] => .error (Flaw.eofInValue.next [])
  | b :: rest =>
      if starts b then Value.read 0 (b :: rest)
      else .error (unexpected schema.expected (b :: rest))

/-- Read a number of a schema. -/
def readNumberOf (schema : Schema) : Reader Value := fun s => do
  match ← readScalar (fun b => b = byte '-' || isDigit b) schema s with
  | (.number n, s) =>
      match schema.ofNumber n with
      | .ok v => return (v, s)
      | .error mismatch => throw (mismatch.here s)
  | other => return other

/-- Read the items of an array with one reader each. -/
def readTuple (expected : String) :
    Nat → List (Reader Value) → Bytes → Except Fault (List Value × Bytes)
  | _, [], s => .ok ([], s)
  | index, item :: items, s => do
      match ← nextItem? (index == 0) s with
      | none => throw ((Mismatch.wrongLength index expected).here (← closeList s))
      | some s =>
          let (x, s) ← below (.index index) (item s)
          let (xs, s) ← readTuple expected (index + 1) items s
          return (x :: xs, s)

/-- Read the fields of a record from an array. -/
def readCutRecord (expected : String) :
    Nat → List (FieldDecoder (Reader Value)) → Bytes →
      Except Fault (List (String × Value) × Bytes)
  | _, [], s => .ok ([], s)
  | index, field :: fields, s => do
      match ← nextItem? (index == 0) s with
      | none =>
          match field.cut with
          | none => throw ((Mismatch.wrongLength index expected).here (← closeList s))
          | some value =>
              let (xs, s) ← readCutRecord expected (index + 1) fields s
              return ((field.name, value) :: xs, s)
      | some s =>
          let (x, s) ← below (.index index) (field.decoder s)
          let (xs, s) ← readCutRecord expected (index + 1) fields s
          return ((field.name, x) :: xs, s)

/-- Where a record stops being read when its visitor gives up: behind the closing
brace if it comes next, and otherwise in front of what comes next. -/
def afterGivingUp (s : Bytes) : Bytes :=
  match skipSpace s with
  | [] => []
  | b :: rest => if b = byte '}' then rest else b :: rest

/-- Read the known fields of an object in the order in which they stand, up to
the closing brace, which stays unread. -/
def readKnown (fields : List (FieldDecoder (Reader Value))) :
    Nat → Bool → List (String × Value) → Bytes →
      Except Fault (List (String × Value) × Bytes)
  | 0, _, found, s => .ok (found, s)
  | fuel + 1, first, found, s => do
      match ← readName first s with
      | none => return (found, skipSpace s)
      | some (name, s) =>
          match fields.find? fun field => field.name = name with
          | none =>
              let s ← readColon s
              let s ← below (.key name) (skipValue s)
              readKnown fields fuel false found s
          | some field =>
              if (found.lookup name).isSome then
                throw ((Mismatch.duplicateField name).here (afterGivingUp s))
              let s ← readColon s
              let (x, s) ← below (.key name) (field.decoder s)
              readKnown fields fuel false ((name, x) :: found) s

/-- Read a record from an object or from an array. -/
def readRecord (schema : Schema) (levels : Nat)
    (fields : List (FieldDecoder (Reader Value))) : Reader Value := fun s =>
  match skipSpace s with
  | [] => .error (Flaw.eofInValue.next [])
  | b :: rest =>
      if b = byte '[' then
        if levels = 0 then .error (Flaw.tooDeep.next (b :: rest))
        else do
          let (found, s) ← readCutRecord schema.expectedLength 0 fields rest
          return (.object found, ← closeList s)
      else if b = byte '{' then
        if levels = 0 then .error (Flaw.tooDeep.next (b :: rest))
        else do
          let (found, s) ← readKnown fields (rest.length + 1) true [] rest
          match assemble found fields with
          | .ok found => return (.object found, ← closeObject s)
          | .error mismatch => throw (mismatch.here (afterGivingUp s))
      else .error (unexpected schema.expected (b :: rest))

/-- Read the name of a variant after its opening quote. -/
def readVariantName (choices : Choices (Reader Value)) (s : Bytes) :
    Except Fault (String × Schema × Reader Value × Bytes) := do
  let (name, s) ← readString s
  match choices.find name with
  | .ok (schema, item) => return (name, schema, item, s)
  | .error mismatch => throw (mismatch.here s)

/-- Go to the name of the variant in an object, behind its opening quote. -/
def variantName (s : Bytes) : Except Fault Bytes :=
  match skipSpace s with
  | [] => .error (Flaw.eofInObject.next [])
  | b :: rest =>
      if b = byte '"' then .ok rest
      else if b = byte '}' then .error (Flaw.expectedValue.next (b :: rest))
      else .error (Flaw.keyMustBeString.next (b :: rest))

/-- Read a variant. -/
def readVariant (levels : Nat) (choices : Choices (Reader Value)) : Reader Value := fun s =>
  match skipSpace s with
  | [] => .error (Flaw.eofInValue.next [])
  | b :: rest => do
      if b = byte '{' then
        if levels = 0 then throw (Flaw.tooDeep.next (b :: rest))
        let (name, schema, item, s) ← readVariantName choices (← variantName rest)
        let s ← readColon s
        let (payload, s) ← below (.variant name) (item s)
        match skipSpace s with
        | [] => throw (Flaw.eofInObject.here [])
        | c :: more =>
            if c = byte '}' then return (variantValue name schema payload, more)
            else throw (Flaw.expectedValue.here (c :: more))
      else if b = byte '"' then
        let (name, schema, _, s) ← readVariantName choices rest
        return (← below (.variant name) (withoutPlace (bareVariant name schema)), s)
      else throw (Flaw.expectedValue.next (b :: rest))

mutual

/-- Decode the value at the front of a text, with arrays and objects nested up to
the given number of levels. -/
def Schema.read : Schema → Nat → Reader Value
  | .any, levels, s => Value.read levels s
  | .unit, _, s => readScalar (· = byte 'n') .unit s
  | .bool, _, s => readScalar (fun b => b = byte 't' || b = byte 'f') .bool s
  | .string, _, s => readScalar (· = byte '"') .string s
  | .unsigned bits, _, s => readNumberOf (.unsigned bits) s
  | .signed bits, _, s => readNumberOf (.signed bits) s
  | .double, _, s => readNumberOf .double s
  | .list item, levels, s =>
      match skipSpace s with
      | [] => .error (Flaw.eofInValue.next [])
      | b :: rest =>
          if b = byte '[' then
            if levels = 0 then .error (Flaw.tooDeep.next (b :: rest))
            else do
              let (items, s) ← readItems (Schema.read item (levels - 1)) (rest.length + 1) 0 rest
              return (.array items, ← closeList s)
          else .error (unexpected "a sequence" (b :: rest))
  | .tuple items, levels, s =>
      match skipSpace s with
      | [] => .error (Flaw.eofInValue.next [])
      | b :: rest =>
          let expected := (Schema.tuple items).expected
          if b = byte '[' then
            if levels = 0 then .error (Flaw.tooDeep.next (b :: rest))
            else do
              let (found, s) ← readTuple expected 0 (readers items (levels - 1)) rest
              return (.array found, ← closeList s)
          else .error (unexpected expected (b :: rest))
  | .optional item, levels, s =>
      match skipSpace s with
      | b :: rest =>
          if b = byte 'n' then Value.read 0 (b :: rest)
          else Schema.read item levels (b :: rest)
      | [] => Schema.read item levels []
  | .table item, levels, s =>
      match skipSpace s with
      | [] => .error (Flaw.eofInValue.next [])
      | b :: rest =>
          if b = byte '{' then
            if levels = 0 then .error (Flaw.tooDeep.next (b :: rest))
            else do
              let (fields, s) ←
                readFields (Schema.read item (levels - 1)) (rest.length + 1) true rest
              return (.object (sortFields fields), ← closeObject s)
          else .error (unexpected "a map" (b :: rest))
  | .record title fields, levels, s =>
      readRecord (.record title fields) levels (fieldReaders fields (levels - 1)) s
  | .variants choices, levels, s =>
      readVariant levels (choiceReaders choices (levels - 1)) s

/-- The readers of the items of a tuple. -/
def readers : List Schema → Nat → List (Reader Value)
  | [], _ => []
  | schema :: rest, levels => Schema.read schema levels :: readers rest levels

/-- The readers of the fields of a record. -/
def fieldReaders :
    List (String × Schema × Option Value) → Nat → List (FieldDecoder (Reader Value))
  | [], _ => []
  | (name, schema, fallback) :: rest, levels =>
      ⟨name, Schema.read schema levels, schema.absent fallback, fallback⟩ ::
        fieldReaders rest levels

/-- The readers of the payloads of variants. -/
def choiceReaders : List (String × Schema) → Nat → Choices (Reader Value)
  | [], _ => []
  | (name, schema) :: rest, levels =>
      (name, schema, Schema.read schema levels) :: choiceReaders rest levels

end

/-- Decode the value at the front of a text; what follows it is not looked at. -/
def Schema.ofBytes (schema : Schema) (input : Bytes) : Except Fault Value :=
  (schema.read maxLevels input).map Prod.fst

end WebClient.Json
