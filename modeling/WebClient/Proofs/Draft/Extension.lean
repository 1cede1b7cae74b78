import WebClient.Service.Contribution
import WebClient.Proofs.Outcome
import WebClient.Proofs.Template.Substitution

/-!
# What a draft takes from contributions

A draft takes pieces one after the other, and each piece changes one part of it.
`Draft.Extends` says what becomes of every part after a list of pieces: each part
depends on the pieces for it alone, in their order.
-/

namespace WebClient

namespace Contribution

/-- The name and the value for the path. -/
@[simp] def path? : Contribution → Option (String × String)
  | .path name value => some (name, value)
  | _ => none

/-- The URL in the place of the path. -/
@[simp] def target? : Contribution → Option String
  | .target url => some url
  | _ => none

/-- The item of the query. -/
@[simp] def query? : Contribution → Option (String × Option String)
  | .query name value => some (name, value)
  | _ => none

/-- The header. -/
@[simp] def header? : Contribution → Option (String × String)
  | .header name value => some (name, value)
  | _ => none

/-- The field of a form. -/
@[simp] def field? : Contribution → Option (String × String)
  | .field name value => some (name, value)
  | _ => none

/-- The part of a multipart form. -/
@[simp] def part? : Contribution → Option Part
  | .part added => some added
  | _ => none

/-- The body. -/
@[simp] def body? : Contribution → Option RequestBody
  | .body added => some added
  | _ => none

end Contribution

/-- A body after pieces; those for a body of another kind leave it as it is. -/
def DraftBody.extend (body : DraftBody) (pieces : List Contribution) : DraftBody :=
  match body with
  | .form fields => .form (fields ++ pieces.filterMap Contribution.field?)
  | .multipart old =>
      .multipart { old with parts := old.parts ++ pieces.filterMap Contribution.part? }
  | .raw old => .raw (((pieces.filterMap Contribution.body?).getLast?).or old)
  | .none =>
      ((pieces.filterMap Contribution.body?).getLast?).elim .none fun added => .raw (some added)

namespace Draft

/-- What becomes of a draft after pieces. -/
structure Extends (d : Draft) (pieces : List Contribution) (d' : Draft) : Prop where
  method : d'.method = d.method
  base : d'.base = d.base
  path : d'.path = Template.replaceTokens d.path (pieces.filterMap Contribution.path?)
  target : d'.target = ((pieces.filterMap Contribution.target?).getLast?).or d.target
  query : d'.query = d.query ++ pieces.filterMap Contribution.query?
  headers : d'.headers = d.headers ++ pieces.filterMap Contribution.header?
  body : d'.body = d.body.extend pieces

theorem extend_nil (body : DraftBody) : body.extend [] = body := by
  cases body <;> simp [DraftBody.extend]

theorem extend_append (body : DraftBody) (cs ds : List Contribution) :
    body.extend (cs ++ ds) = (body.extend cs).extend ds := by
  cases body with
  | none =>
      simp only [DraftBody.extend, List.filterMap_append, List.getLast?_append]
      cases hcs : (cs.filterMap Contribution.body?).getLast? <;>
        cases hds : (ds.filterMap Contribution.body?).getLast? <;> simp
  | form fields => simp [DraftBody.extend]
  | multipart form => simp [DraftBody.extend]
  | raw old =>
      simp only [DraftBody.extend, List.filterMap_append, List.getLast?_append]
      rw [Option.or_assoc]

theorem Extends.refl (d : Draft) : d.Extends [] d where
  method := rfl
  base := rfl
  path := rfl
  target := rfl
  query := (List.append_nil _).symm
  headers := (List.append_nil _).symm
  body := (extend_nil _).symm

theorem Extends.trans {d d₁ d₂ : Draft} {cs ds : List Contribution} (h₁ : d.Extends cs d₁)
    (h₂ : d₁.Extends ds d₂) : d.Extends (cs ++ ds) d₂ where
  method := h₂.method.trans h₁.method
  base := h₂.base.trans h₁.base
  path := by rw [h₂.path, h₁.path, List.filterMap_append, Template.replaceTokens_append]
  target := by
    rw [h₂.target, h₁.target, List.filterMap_append, List.getLast?_append, Option.or_assoc]
  query := by rw [h₂.query, h₁.query, List.filterMap_append, List.append_assoc]
  headers := by rw [h₂.headers, h₁.headers, List.filterMap_append, List.append_assoc]
  body := by rw [h₂.body, h₁.body, extend_append]

/-- A piece for another part leaves the body as it is. -/
theorem extend_other (body : DraftBody) {c : Contribution} (hfield : c.field? = none)
    (hpart : c.part? = none) (hbody : c.body? = none) : body.extend [c] = body := by
  cases body <;>
    simp only [DraftBody.extend, List.filterMap_cons_none hfield, List.filterMap_cons_none hpart,
      List.filterMap_cons_none hbody, List.filterMap_nil, List.append_nil, List.getLast?_nil,
      Option.elim_none, Option.none_or]

theorem add_eq_ok {d d' : Draft} {c : Contribution} :
    d.add c = .ok d' ↔ d.call c = (.ok (), d') := by
  rw [add]
  obtain ⟨result, next⟩ := d.call c
  cases result <;> simp [Except.map]

/-- A piece that a draft takes changes its own part. -/
theorem extends_of_add {d d' : Draft} {c : Contribution} (h : d.add c = .ok d') :
    d.Extends [c] d' := by
  rw [add_eq_ok] at h
  cases c with
  | path name value =>
      cases h
      have hbody := extend_other d.body (c := .path name value) rfl rfl rfl
      constructor <;> simp [bindPath, List.filterMap_cons, hbody]
  | target url =>
      cases h
      have hbody := extend_other d.body (c := .target url) rfl rfl rfl
      constructor <;> simp [withTarget, List.filterMap_cons, hbody]
  | query name value =>
      cases h
      have hbody := extend_other d.body (c := .query name value) rfl rfl rfl
      constructor <;> simp [addQuery, List.filterMap_cons, hbody]
  | header name value =>
      cases h
      have hbody := extend_other d.body (c := .header name value) rfl rfl rfl
      constructor <;> simp [addHeader, List.filterMap_cons, hbody]
  | field name value =>
      -- From here on the draft takes the piece only if its body is of the right kind.
      simp only [call, addField] at h
      split at h
      · next hform =>
          cases h
          constructor <;> simp [hform, List.filterMap_cons, DraftBody.extend]
      · cases h
  | part added =>
      simp only [call, addPart] at h
      split at h
      · next hform =>
          cases h
          constructor <;> simp [hform, List.filterMap_cons, DraftBody.extend, Form.push]
      · cases h
  | body added =>
      simp only [call, setBody] at h
      split at h
      · next hnone =>
          cases h
          constructor <;> simp [hnone, List.filterMap_cons, DraftBody.extend]
      · next hraw =>
          cases h
          constructor <;> simp [hraw, List.filterMap_cons, DraftBody.extend]
      · cases h

theorem addAll_append (d : Draft) (first rest : List (Except Error Contribution)) :
    d.addAll (first ++ rest) = d.addAll first >>= fun next => next.addAll rest := by
  induction first generalizing d with
  | nil => rfl
  | cons piece first ih =>
      rw [List.cons_append, addAll, addAll]
      cases piece with
      | error e => rfl
      | ok c =>
          change (d.add c >>= fun next => next.addAll (first ++ rest)) =
            (d.add c >>= fun next => next.addAll first) >>= fun next => next.addAll rest
          cases d.add c with
          | error e => rfl
          | ok next => exact ih next

/-- A draft that takes all pieces takes each of them, in order. -/
theorem extends_of_addAll {d d' : Draft} {pieces : List (Except Error Contribution)}
    (h : d.addAll pieces = .ok d') :
    ∃ cs : List Contribution, pieces = cs.map .ok ∧ d.Extends cs d' := by
  induction pieces generalizing d with
  | nil =>
      cases h
      exact ⟨[], rfl, .refl _⟩
  | cons piece rest ih =>
      rw [addAll] at h
      obtain ⟨c, rfl, htaken⟩ := Outcome.bind_eq_ok.1 h
      obtain ⟨next, hadd, hrest⟩ := Outcome.bind_eq_ok.1 htaken
      obtain ⟨cs, rfl, hextends⟩ := ih hrest
      exact ⟨c :: cs, rfl, (extends_of_add hadd).trans hextends⟩

/-- A draft makes a request when its target can be resolved. -/
theorem build_eq_ok {d : Draft} {r : Request} :
    d.build = .ok r ↔
      ∃ url, d.resolveTarget = .ok url ∧
        r = {
          method := d.method
          url := appendQuery d.query url
          headers := finishHeaders d.headers (finishBody d.body)
          body := (finishBody d.body).map RequestBody.bytes } := by
  rw [build, Outcome.bind_eq_ok]
  simp only [Outcome.pure_eq_ok, @eq_comm _ r]

end Draft

end WebClient
