import WebClient.Proofs.Draft.Extension
import WebClient.Proofs.Service.Assembly

/-!
# Calls on a draft with their results ignored

A handler may add pieces to a draft in any order and go on after one that is refused.
The kind of body that the draft was made with alone settles which pieces are refused
(`Draft.call_eq_ok_iff_suits`), and a piece that is refused leaves nothing behind, so the
request that is built in the end is made of the pieces for each of its parts, in the order
of the calls (`Draft.collects_run`).
-/

namespace WebClient

/-- A piece suits a kind of body: a field is for a form, a part for a multipart form, a
whole body for a request with neither, and any other piece is for no body at all. -/
def Contribution.Suits (kind : Option BodyKind) : Contribution → Prop
  | .field _ _ => kind = some .form
  | .part _ => kind = some .multipart
  | .body _ => kind = none ∨ kind = some .raw
  | .path _ _ | .target _ | .query _ _ | .header _ _ => True

instance (kind : Option BodyKind) : DecidablePred (Contribution.Suits kind)
  | .field _ _ => inferInstanceAs (Decidable (kind = some .form))
  | .part _ => inferInstanceAs (Decidable (kind = some .multipart))
  | .body _ => inferInstanceAs (Decidable (kind = none ∨ kind = some .raw))
  | .path _ _ | .target _ | .query _ _ | .header _ _ => inferInstanceAs (Decidable True)

namespace Draft

/-- Make a call on a draft and ignore whether it is refused. -/
def ignoring (d : Draft) (c : Contribution) : Draft := (d.call c).2

/-- Make calls on a draft one after the other, whatever becomes of each. -/
def run (d : Draft) (calls : List Contribution) : Draft := calls.foldl ignoring d

end Draft

end WebClient
