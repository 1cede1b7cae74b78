import WebClient.Text.Printable

/-!
# Quoted text

The form in which a diagnostic shows a text: between double quotes, with the
quote, the backslash and the common controls behind a backslash and every other
character without a glyph as `\u{…}`.  A character that extends the one before
it is escaped too, so that it cannot merge with the quote.
-/

namespace WebClient.Text.Quoted

/-- The escape `\u{…}` of a character. -/
def unicodeEscape (c : Char) : List Char :=
  ['\\', 'u', '\x7b'] ++ hexNumeral c.toNat ++ ['\x7d']

/-- A character as it stands between double quotes. -/
def encodeChar (c : Char) : List Char :=
  if c = '\x00' then ['\\', '0']
  else if c = '\t' then ['\\', 't']
  else if c = '\r' then ['\\', 'r']
  else if c = '\n' then ['\\', 'n']
  else if c = '"' then ['\\', '"']
  else if c = '\\' then ['\\', '\\']
  else if isExtender c || !isPrintable c then unicodeEscape c
  else [c]

/-- A text between double quotes. -/
def encode (s : List Char) : List Char :=
  '"' :: s.flatMap encodeChar ++ ['"']

end Quoted

/-- A text between double quotes, with its special characters escaped. -/
def quoted (s : String) : String := String.ofList (Quoted.encode s.toList)

end WebClient.Text
