import WebClient.Proofs.Service.Rejection
import WebClient.Proofs.Service.Resolving

/-!
# What a trace of steps builds

The steps of building a method may be taken in any order and any number of times, and one
that is refused changes nothing.  What they leave is read off the trace alone: the first
step that can set a thing sets it, and headers accumulate.  `MethodBuilder.traced` is the
builder as the trace tells it; building is decided by it, for a method and for an error.
-/

namespace WebClient

/-- One step of building a method. -/
inductive MethodStep where
  | http (method : Method) (path : Template)
  | header (name value : String)
  | bodyKind (kind : BodyKind)
  | asynchronous
  | parameter (index : Nat) (p : Parameter)
  | response (type : TypeName) (converter : Converter)

namespace MethodStep

/-- What a step does. -/
def run : MethodStep → Configure Unit
  | .http method path => MethodBuilder.setHttp method path
  | .header name value => MethodBuilder.addHeader name value
  | .bodyKind kind => MethodBuilder.setBodyKind kind
  | .asynchronous => MethodBuilder.setAsynchronous
  | .parameter index p => MethodBuilder.setParameter index p
  | .response type converter => MethodBuilder.setResponse type converter

/-! ## What a step is for -/

/-- The verb and the path that a step is to set. -/
def http? : MethodStep → Option (Method × Template)
  | .http method path => some (method, path)
  | _ => none

/-- The header that a step adds. -/
def header? : MethodStep → Option (String × String)
  | .header name value => some (name, value)
  | _ => none

/-- The kind of body that a step is to set. -/
def bodyKind? : MethodStep → Option BodyKind
  | .bodyKind kind => some kind
  | _ => none

/-- The parameter that a step is to set at a place. -/
def parameterAt? (i : Nat) : MethodStep → Option Parameter
  | .parameter index p => if index = i then some p else none
  | _ => none

/-- The type and the converter of the answer that a step is to set; there are none when
the converter has another capability. -/
def response? : MethodStep → Option (TypeName × ResponseConverter)
  | .response type converter => converter.asResponse?.map (type, ·)
  | _ => none

/-- The step lets the method answer later. -/
def isAsynchronous : MethodStep → Bool
  | .asynchronous => true
  | _ => false

end MethodStep

namespace MethodBuilder

/-- The builder that a step leaves, whether it is refused or not. -/
def take (b : MethodBuilder) (step : MethodStep) : MethodBuilder := (step.run.outcome b).2

/-- The builder that steps leave one after the other, whichever of them are refused. -/
def takeAll (b : MethodBuilder) (steps : List MethodStep) : MethodBuilder := steps.foldl take b

/-- The builder as a trace of steps tells it: each thing as the first step for it says, and
all headers.  A parameter counts at a place below the number of arguments. -/
def traced (service name : String) (arity : Nat) (steps : List MethodStep) : MethodBuilder where
  service := service
  name := name
  arity := arity
  http := steps.findSome? MethodStep.http?
  headers := steps.filterMap MethodStep.header?
  bodyKind := steps.findSome? MethodStep.bodyKind?
  parameters := ServiceResolver.placed 0
    ((List.range arity).map fun i => steps.findSome? (MethodStep.parameterAt? i))
  response := steps.findSome? MethodStep.response?
  asynchronous := steps.any MethodStep.isAsynchronous

/-! ## What steps leave -/

/-- One builder has become another through steps: what was set has stayed, and what was not
has been set by the first step for it. -/
structure Records (b : MethodBuilder) (steps : List MethodStep) (b' : MethodBuilder) : Prop where
  service : b'.service = b.service
  name : b'.name = b.name
  arity : b'.arity = b.arity
  http : b'.http = b.http.or (steps.findSome? MethodStep.http?)
  headers : b'.headers = b.headers ++ steps.filterMap MethodStep.header?
  bodyKind : b'.bodyKind = b.bodyKind.or (steps.findSome? MethodStep.bodyKind?)
  places : ∀ i < b.arity, b'.parameters.lookup i =
    (b.parameters.lookup i).or (steps.findSome? (MethodStep.parameterAt? i))
  response : b'.response = b.response.or (steps.findSome? MethodStep.response?)
  asynchronous : b'.asynchronous = (b.asynchronous || steps.any MethodStep.isAsynchronous)

theorem Records.refl (b : MethodBuilder) : b.Records [] b where
  service := rfl
  name := rfl
  arity := rfl
  http := Option.or_none.symm
  headers := (List.append_nil _).symm
  bodyKind := Option.or_none.symm
  places := fun _ _ => Option.or_none.symm
  response := Option.or_none.symm
  asynchronous := (Bool.or_false _).symm

theorem Records.append {b mid b' : MethodBuilder} {xs ys : List MethodStep}
    (hx : b.Records xs mid) (hy : mid.Records ys b') : b.Records (xs ++ ys) b' where
  service := hy.service.trans hx.service
  name := hy.name.trans hx.name
  arity := hy.arity.trans hx.arity
  http := by rw [hy.http, hx.http, Option.or_assoc, List.findSome?_append]
  headers := by rw [hy.headers, hx.headers, List.append_assoc, List.filterMap_append]
  bodyKind := by rw [hy.bodyKind, hx.bodyKind, Option.or_assoc, List.findSome?_append]
  places := by
    intro i hi
    rw [hy.places i (hx.arity.symm ▸ hi), hx.places i hi, Option.or_assoc,
      List.findSome?_append]
  response := by rw [hy.response, hx.response, Option.or_assoc, List.findSome?_append]
  asynchronous := by
    rw [hy.asynchronous, hx.asynchronous, Bool.or_assoc, List.any_append]

theorem take_http (b : MethodBuilder) (method : Method) (path : Template) :
    b.take (.http method path) = { b with http := b.http.or (some (method, path)) } := by
  rw [take, MethodStep.run, setHttp_outcome]
  obtain ⟨service, name, arity, http, headers, bodyKind, parameters, response, later⟩ := b
  cases http with
  | none => rfl
  | some http => rfl

theorem take_bodyKind (b : MethodBuilder) (kind : BodyKind) :
    b.take (.bodyKind kind) = { b with bodyKind := b.bodyKind.or (some kind) } := by
  rw [take, MethodStep.run, setBodyKind_outcome]
  obtain ⟨service, name, arity, http, headers, bodyKind, parameters, response, later⟩ := b
  cases bodyKind with
  | none => rfl
  | some first =>
      dsimp only [Option.some_or]
      split
      · rfl
      · rfl

theorem take_response (b : MethodBuilder) (type : TypeName) (converter : Converter) :
    b.take (.response type converter) =
      { b with response := b.response.or (converter.asResponse?.map (type, ·)) } := by
  rw [take, MethodStep.run, setResponse_outcome]
  obtain ⟨service, name, arity, http, headers, bodyKind, parameters, response, later⟩ := b
  cases converter.asResponse? with
  | none => rw [Option.map_none, Option.or_none]
  | some c =>
      cases response with
      | none => rfl
      | some known => rfl

/-- A parameter is taken at a place that is there and free. -/
theorem take_parameter (b : MethodBuilder) (index : Nat) (p : Parameter) :
    b.take (.parameter index p) = { b with
      parameters := b.parameters ++
        if index < b.arity ∧ b.parameters.lookup index = none then [(index, p)] else [] } := by
  rw [take, MethodStep.run, setParameter_outcome]
  by_cases harity : b.arity ≤ index
  · simp [harity, Nat.not_lt.2 harity]
  · cases hlookup : b.parameters.lookup index with
    | none => simp [harity, Nat.lt_of_not_le harity]
    | some known => simp [harity]

/-- A step is recorded by what it leaves. -/
theorem records_take (b : MethodBuilder) (step : MethodStep) : b.Records [step] (b.take step) := by
  have hkeep := Records.refl b
  cases step with
  | http method path =>
      rw [take_http]
      exact { hkeep with http := rfl }
  | header name value => exact { hkeep with headers := rfl }
  | bodyKind kind =>
      rw [take_bodyKind]
      exact { hkeep with bodyKind := rfl }
  | asynchronous => exact { hkeep with asynchronous := (Bool.or_true _).symm }
  | parameter index p =>
      rw [take_parameter]
      refine { hkeep with places := fun i hi => ?_ }
      have hfirst : [MethodStep.parameter index p].findSome? (MethodStep.parameterAt? i) =
          if index = i then some p else none := List.findSome?_singleton
      rw [List.lookup_append, hfirst]
      by_cases hsame : index = i
      · subst hsame
        rw [if_pos rfl]
        cases hlookup : b.parameters.lookup index with
        | none => rw [if_pos ⟨hi, rfl⟩, List.lookup_cons_self]
        | some known => rw [Option.some_or, Option.some_or]
      · have hother : (i == index) = false := beq_eq_false_iff_ne.2 (Ne.symm hsame)
        rw [if_neg hsame]
        split
        · rw [List.lookup_cons, hother, List.lookup_nil]
        · rw [List.lookup_nil]
  | response type converter =>
      rw [take_response]
      refine { hkeep with response := ?_ }
      rw [List.findSome?_singleton]
      rfl

/-- A trace is recorded by what its steps leave. -/
theorem records_takeAll (b : MethodBuilder) (steps : List MethodStep) :
    b.Records steps (b.takeAll steps) := by
  induction steps generalizing b with
  | nil => exact Records.refl b
  | cons step steps ih => exact (records_take b step).append (ih (b.take step))

/-! ## Building after steps -/

theorem lookup_traced {service name : String} {arity : Nat} {steps : List MethodStep} {i : Nat}
    (hi : i < arity) :
    (traced service name arity steps).parameters.lookup i =
      steps.findSome? (MethodStep.parameterAt? i) := by
  have hplaced := ServiceResolver.lookup_placed 0
    ((List.range arity).map fun i => steps.findSome? (MethodStep.parameterAt? i)) i
  rw [Nat.zero_add, List.getElem?_map, List.getElem?_range hi] at hplaced
  exact hplaced

/-- Only the parameters at the places that are looked at matter. -/
theorem collectParameters_congr {known known' : List (Nat × Parameter)} {index count : Nat}
    (h : ∀ i, i < index + count → known.lookup i = known'.lookup i) :
    collectParameters known index count = collectParameters known' index count := by
  induction count generalizing index with
  | zero => rfl
  | succ count ih =>
      rw [collectParameters, collectParameters, h index (by omega),
        ih fun i hi => h i (by omega)]

theorem build_congr {b : MethodBuilder} {parameters : List (Nat × Parameter)}
    (h : ∀ i < b.arity, b.parameters.lookup i = parameters.lookup i) :
    b.build = { b with parameters := parameters }.build := by
  have hcollect : collectParameters b.parameters 0 b.arity =
      collectParameters parameters 0 b.arity :=
    collectParameters_congr fun i hi => h i (by omega)
  unfold build finish
  rw [hcollect]

/-- But for how the parameters are kept, steps from the start leave the builder of the
trace. -/
theorem Records.eq_traced {service name : String} {arity : Nat} {steps : List MethodStep}
    {b : MethodBuilder} (h : (start service name arity).Records steps b) :
    { b with parameters := (traced service name arity steps).parameters } =
      traced service name arity steps := by
  rw [h.service, h.name, h.arity, h.http, h.headers, h.bodyKind, h.response, h.asynchronous]
  rfl

/-- Building after any steps answers as the trace tells it: with the method that the
builder of the trace makes, or with the first rule that it breaks. -/
theorem build_takeAll (service name : String) (arity : Nat) (steps : List MethodStep) :
    (∀ m, ((start service name arity).takeAll steps).build = .ok m ↔
        (traced service name arity steps).Makes m) ∧
      ∀ e, ((start service name arity).takeAll steps).build = .error e ↔
        ∃ place cause, (traced service name arity steps).Rejects place cause ∧
          e = ⟨some service, some name, place, cause⟩ := by
  have hrecords := records_takeAll (start service name arity) steps
  -- Parameters are kept in the order of the steps, so only what is looked up is the same.
  have hplaces : ∀ i < ((start service name arity).takeAll steps).arity,
      ((start service name arity).takeAll steps).parameters.lookup i =
        (traced service name arity steps).parameters.lookup i := by
    intro i hi
    have hi' : i < arity := by rwa [hrecords.arity] at hi
    rw [hrecords.places i hi', lookup_traced hi']
    rfl
  rw [build_congr hplaces, hrecords.eq_traced]
  exact ⟨fun m => build_eq_ok, fun e => build_eq_error⟩

end MethodBuilder

end WebClient
