import WebClient.Service.Method
import WebClient.Proofs.Outcome

/-!
# Requests up to the boundary of their form

The boundary of a multipart form is chosen afresh for every call.  Nothing else of a
request depends on it: calls on a draft end alike whatever the boundary is
(`Draft.run_rebound`), and the requests of two calls with the same arguments are the
same but for the boundary in the media type and in the body of a multipart form
(`ServiceMethod.alike_buildRequest`).
-/

namespace WebClient

/-- The form with another boundary. -/
def Form.rebound (boundary : String) (form : Form) : Form := { form with boundary := boundary }

namespace Request

/-- The request that carries a form, with its media type unless one is given already. -/
def ofForm (method : Method) (url : Url) (headers : List (String × String)) (form : Form) :
    Request :=
  ⟨method, url, Draft.finishHeaders headers (some form.toBody), some form.bytes⟩

/-- Two requests are the same, or they carry forms that differ in their boundary only. -/
inductive Alike : Request → Request → Prop
  | same (r : Request) : Alike r r
  | rebound (method : Method) (url : Url) (headers : List (String × String)) (form : Form)
      (boundary : String) :
      Alike (ofForm method url headers form) (ofForm method url headers (form.rebound boundary))

/-- Two results are the same error, or requests that are the same up to the boundary. -/
inductive AlikeResults : Except Error Request → Except Error Request → Prop
  | error (e : Error) : AlikeResults (.error e) (.error e)
  | ok {r r' : Request} (h : Alike r r') : AlikeResults (.ok r) (.ok r')

end Request

/-- The body with another boundary, if it is a multipart form. -/
def DraftBody.rebound (boundary : String) : DraftBody → DraftBody
  | .multipart known => .multipart (known.rebound boundary)
  | .none => .none
  | .form fields => .form fields
  | .raw body => .raw body

namespace Draft

/-- The draft with another boundary, if its body is a multipart form. -/
def rebound (boundary : String) (d : Draft) : Draft :=
  { d with body := d.body.rebound boundary }

variable (boundary : String)

/-- What becomes of a call does not depend on the boundary. -/
theorem call_rebound (d : Draft) (c : Contribution) :
    (d.rebound boundary).call c = ((d.call c).1, (d.call c).2.rebound boundary) := by
  obtain ⟨method, base, path, target, query, headers, body⟩ := d
  -- Only a body takes or refuses; the other pieces go to parts that have no boundary.
  cases c <;> cases body <;> rfl

theorem run_rebound (h : Handling) (d : Draft) :
    h.run (d.rebound boundary) = (h.run d).map (rebound boundary) := by
  induction h generalizing d with
  | done => rfl
  | fail e => rfl
  | call piece next ih =>
      rw [Handling.run, Handling.run, call_rebound]
      exact ih (d.call piece).1 (d.call piece).2

theorem alike_build (d : Draft) :
    Request.AlikeResults d.build (d.rebound boundary).build := by
  have hresolve : (d.rebound boundary).resolveTarget = d.resolveTarget := rfl
  rw [build, build, hresolve]
  cases d.resolveTarget with
  | error e => exact .error e
  | ok url =>
      obtain ⟨method, base, path, target, query, headers, body⟩ := d
      cases body with
      | multipart form =>
          exact .ok (.rebound method (appendQuery query url) headers form boundary)
      | none => exact .ok (.same _)
      | form fields => exact .ok (.same _)
      | raw body => exact .ok (.same _)

end Draft

namespace ServiceMethod

theorem startDraft_rebound (m : ServiceMethod) (boundary boundary' : String) (base : Url) :
    m.startDraft boundary' base = (m.startDraft boundary base).rebound boundary' := by
  obtain ⟨service, name, method, path, headers, kind, parameters, type, converter, later⟩ := m
  cases kind with
  | none => rfl
  | some kind => cases kind <;> rfl

theorem applyAll_rebound (boundary : String) (ps : List Parameter) (arguments : List Json.Value)
    (d : Draft) :
    applyAll ps arguments (d.rebound boundary) =
      (applyAll ps arguments d).map (Draft.rebound boundary) := by
  induction ps generalizing arguments d with
  | nil => rfl
  | cons p ps ih =>
      cases arguments with
      | nil => rfl
      | cons a as =>
          rw [applyAll, applyAll, Draft.run_rebound]
          cases (p.handling a).run d with
          | error e => rfl
          | ok next => exact ih as next

/-- Two calls with the same arguments make requests that are the same up to the boundary,
or both fail with the same error. -/
theorem alike_buildRequest (m : ServiceMethod) (boundary boundary' : String) (base : Url)
    (arguments : List Json.Value) :
    Request.AlikeResults (m.buildRequest boundary base arguments)
      (m.buildRequest boundary' base arguments) := by
  rw [buildRequest, buildRequest]
  split
  · exact .error _
  · rw [m.startDraft_rebound boundary boundary', applyAll_rebound]
    cases applyAll m.parameters arguments (m.startDraft boundary base) with
    | error e => exact .error e
    | ok draft => exact draft.alike_build boundary'

end ServiceMethod

end WebClient
