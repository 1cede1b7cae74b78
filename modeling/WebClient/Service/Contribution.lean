import WebClient.Http.Draft

/-!
# Contributions to a request

One argument of a call contributes any number of pieces to a draft.  A piece
that could not be made stands in the list as the error that prevented it, so
that a draft takes the pieces before it and then fails with that error.  What is
done to a draft may also hang on what became of an earlier call.
-/

namespace WebClient

/-- One piece of a request. -/
inductive Contribution where
  /-- A value for a name of the path. -/
  | path (name value : String)
  /-- A URL in the place of the path. -/
  | target (url : String)
  | query (name : String) (value : Option String)
  | header (name value : String)
  | field (name value : String)
  | part (part : Part)
  | body (body : RequestBody)
  deriving DecidableEq, Repr

namespace Draft

/-- Make a call that adds one piece: what becomes of the call, and the draft after it. -/
def call (d : Draft) : Contribution → Except Error Unit × Draft
  | .path name value => (.ok (), d.bindPath name value)
  | .target url => (.ok (), d.withTarget url)
  | .query name value => (.ok (), d.addQuery name value)
  | .header name value => (.ok (), d.addHeader name value)
  | .field name value => d.addField name value
  | .part part => d.addPart part
  | .body body => d.setBody body

/-- The draft after a call that succeeds. -/
def add (d : Draft) (piece : Contribution) : Except Error Draft :=
  (d.call piece).1.map fun _ => (d.call piece).2

/-- Add pieces in order, up to the first that cannot be made or added. -/
def addAll (d : Draft) : List (Except Error Contribution) → Except Error Draft
  | [] => .ok d
  | piece :: rest => do
      let next ← d.add (← piece)
      next.addAll rest

end Draft

/-- What is done to a draft for an argument: calls, each followed by what the result of the call
leads to, and in the end a failure or none. -/
inductive Handling where
  | done
  | fail (e : Error)
  | call (piece : Contribution) (next : Except Error Unit → Handling)

namespace Handling

/-- Add pieces in order, up to the first that cannot be made or added. -/
def ofPieces : List (Except Error Contribution) → Handling
  | [] => .done
  | .error e :: _ => .fail e
  | .ok piece :: rest =>
      .call piece fun result =>
        match result with
        | .ok _ => ofPieces rest
        | .error e => .fail e

/-- The draft after all that is done to it, unless that fails. -/
def run : Handling → Draft → Except Error Draft
  | .done, d => .ok d
  | .fail e, _ => .error e
  | .call piece next, d => (next (d.call piece).1).run (d.call piece).2

end Handling

end WebClient
