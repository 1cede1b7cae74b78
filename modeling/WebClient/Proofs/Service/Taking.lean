import WebClient.Proofs.Service.Building
import WebClient.Proofs.Service.Contribution

/-!
# What a draft takes

A draft takes every piece that is not for a body of another kind, and it keeps the
kind of its body.  So the kind of body of a method settles, before any argument is
seen, that no piece is refused; what can still go wrong are the arguments.
-/

namespace WebClient

/-- The kind of a body in the making. -/
def DraftBody.kind? : DraftBody → Option BodyKind
  | .none => Option.none
  | .form _ => some .form
  | .multipart _ => some .multipart
  | .raw _ => some .raw

namespace Draft

@[simp] theorem kind?_emptyBody (boundary : String) (kind : Option BodyKind) :
    (emptyBody boundary kind).kind? = kind := by
  rcases kind with _ | _ | _ | _ <;> rfl

/-- The draft has the kind of body that a piece is for, if it is for a body. -/
def Fits (d : Draft) (c : Contribution) : Prop :=
  ∀ kind, c.bodyKind? = some kind → d.body.kind? = some kind

/-- A draft takes a piece that fits, and keeps the kind of its body. -/
theorem exists_add {d : Draft} {c : Contribution} (h : d.Fits c) :
    ∃ d', d.add c = .ok d' ∧ d'.body.kind? = d.body.kind? := by
  cases c with
  | path | target | query | header => exact ⟨_, rfl, rfl⟩
  | field name value =>
      have hkind := h .form rfl
      cases hbody : d.body with
      | form fields => exact ⟨_, add_eq_ok.2 (by rw [call, addField, hbody]), rfl⟩
      | none | multipart | raw =>
          rw [hbody] at hkind
          cases hkind
  | part added =>
      have hkind := h .multipart rfl
      cases hbody : d.body with
      | multipart form => exact ⟨_, add_eq_ok.2 (by rw [call, addPart, hbody]), rfl⟩
      | none | form | raw =>
          rw [hbody] at hkind
          cases hkind
  | body added =>
      have hkind := h .raw rfl
      cases hbody : d.body with
      | raw old => exact ⟨_, add_eq_ok.2 (by rw [call, setBody, hbody]), rfl⟩
      | none | form | multipart =>
          rw [hbody] at hkind
          cases hkind

/-- A draft takes pieces that fit, and keeps the kind of its body. -/
theorem exists_addAll {d : Draft} {cs : List Contribution} (h : ∀ c ∈ cs, d.Fits c) :
    ∃ d', d.addAll (cs.map .ok) = .ok d' ∧ d'.body.kind? = d.body.kind? := by
  induction cs generalizing d with
  | nil => exact ⟨d, rfl, rfl⟩
  | cons c cs ih =>
      obtain ⟨next, hadd, hkind⟩ := exists_add (h c List.mem_cons_self)
      -- The kind of the body stays, so the other pieces still fit.
      have hrest : ∀ other ∈ cs, next.Fits other := fun other hother kind hown =>
        hkind.trans (h other (List.mem_cons_of_mem _ hother) kind hown)
      obtain ⟨d', hadds, hkinds⟩ := ih hrest
      refine ⟨d', ?_, hkinds.trans hkind⟩
      rw [List.map_cons, addAll]
      exact Outcome.bind_eq_ok.2 ⟨c, rfl, Outcome.bind_eq_ok.2 ⟨next, hadd, hadds⟩⟩

end Draft

namespace ServiceMethod

/-- The draft that a call starts with has the kind of body of the method. -/
theorem kind?_startDraft (m : ServiceMethod) (boundary : String) (base : Url) :
    (m.startDraft boundary base).body.kind? = m.bodyKind :=
  Draft.kind?_emptyBody boundary m.bodyKind

end ServiceMethod

end WebClient
