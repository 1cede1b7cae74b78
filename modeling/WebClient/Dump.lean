import WebClient.Text.Quoted

/-!
# Dumps

A dump shows the parts of a value on one line for a person who looks for a
mistake: records with their field names, tuples, lists, tables and quoted texts.
A record whose parts are not all shown ends in two points.
-/

namespace WebClient

/-- The shown parts of a value. -/
inductive Dump where
  /-- A word that stands for itself. -/
  | word (w : String)
  /-- A quoted text. -/
  | text (s : String)
  /-- A name and its parts in parentheses. -/
  | tuple (name : String) (parts : List Dump)
  /-- A name and its fields in braces; `complete` unless some are hidden. -/
  | record (name : String) (fields : List (String × Dump)) (complete : Bool)
  | list (items : List Dump)
  | table (entries : List (Dump × Dump))
  deriving Repr, Inhabited

namespace Dump

/-- A number. -/
def nat (n : Nat) : Dump := .word (toString n)

/-- A truth value. -/
def bool (b : Bool) : Dump := .word (toString b)

/-- A value that may be absent. -/
def option : Option Dump → Dump
  | none => .word "None"
  | some d => .tuple "Some" [d]

/-- A pair. -/
def pair (a b : Dump) : Dump := .tuple "" [a, b]

mutual

/-- The line of a dump. -/
def render : Dump → String
  | .word w => w
  | .text s => Text.quoted s
  | .tuple name parts => name ++ "(" ++ renderParts parts ++ ")"
  | .record name [] true => name
  | .record name [] false => name ++ " \x7b .. \x7d"
  | .record name fields complete =>
      name ++ " \x7b " ++ renderFields fields ++ (if complete then " \x7d" else ", .. \x7d")
  | .list items => "[" ++ renderParts items ++ "]"
  | .table entries => "\x7b" ++ renderEntries entries ++ "\x7d"

/-- Several dumps, with commas between them. -/
def renderParts : List Dump → String
  | [] => ""
  | [d] => d.render
  | d :: rest => d.render ++ ", " ++ renderParts rest

/-- Named dumps, with commas between them. -/
def renderFields : List (String × Dump) → String
  | [] => ""
  | [(name, d)] => name ++ ": " ++ d.render
  | (name, d) :: rest => name ++ ": " ++ d.render ++ ", " ++ renderFields rest

/-- The entries of a table, with commas between them. -/
def renderEntries : List (Dump × Dump) → String
  | [] => ""
  | [(key, d)] => key.render ++ ": " ++ d.render
  | (key, d) :: rest => key.render ++ ": " ++ d.render ++ ", " ++ renderEntries rest

end

end Dump

end WebClient
