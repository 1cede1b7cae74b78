import WebClient.Proofs.Directive.Stepping
import WebClient.Proofs.Interface.Dispatching

/-!
# Methods that are reached by name

Nothing about resolving a service asks for distinct names, and a name reaches the first method
that has it.  So a method is called by its name, through the entry point for its mode, unless an
earlier method of the service has the name too (`ServiceResolver.method_reached`); then calls
reach that one, and are refused if its mode is another (`ServiceResolver.later_method_shadowed`).
-/

namespace WebClient

variable {σ : Type}

/-- The first method of the name of a given one stands at the place of that one or in front of
it, and it is that one if none in front of it has the name. -/
theorem ServiceDefinition.exists_method?_eq_some {definition : ServiceDefinition} {i : Nat}
    {m : ServiceMethod} (hm : definition.methods[i]? = some m) :
    ∃ j first, definition.methods[j]? = some first ∧ j ≤ i ∧ first.name = m.name ∧
      definition.method? m.name = some first ∧
      (m.name ∉ (definition.methods.take i).map ServiceMethod.name → first = m) := by
  obtain ⟨hi, rfl⟩ := List.getElem?_eq_some_iff.1 hm
  have hsome : (definition.method? definition.methods[i].name).isSome :=
    List.find?_isSome.2 ⟨_, List.getElem_mem hi, decide_eq_true rfl⟩
  obtain ⟨first, hfind⟩ := Option.isSome_iff_exists.1 hsome
  obtain ⟨hname, j, hj, rfl, hbefore⟩ := List.find?_eq_some_iff_getElem.1 hfind
  have hle : j ≤ i := by
    by_contra hlt
    have hnot := hbefore i (Nat.lt_of_not_le hlt)
    simp at hnot
  refine ⟨j, _, List.getElem?_eq_getElem hj, hle, of_decide_eq_true hname, hfind, fun hnew => ?_⟩
  obtain hlt | rfl := Nat.lt_or_eq_of_le hle
  · have hmem : definition.methods[j] ∈ definition.methods.take i :=
      List.mem_take_iff_getElem.2 ⟨j, Nat.lt_min.2 ⟨hlt, hj⟩, rfl⟩
    exact absurd (List.mem_map.2 ⟨_, hmem, of_decide_eq_true hname⟩) hnew
  · rfl

/-- A method is reached by its name: a call of the name through the entry point for the mode of
the method, with as many arguments as it takes, hands over the request of the method, once, or
is refused because the request cannot be made, and hands over nothing. -/
structure ServiceClient.Dispatches (s : ServiceClient σ) (m : ServiceMethod) : Prop where
  method?_eq : s.method? m.name = some m
  run {α : Type} (i : Invocation α) (hname : i.name = m.name) (hmode : i.deferred = m.asynchronous)
    (harity : i.arguments.length = m.arity) (before : Session σ) :
    (∃ e, m.requestFor i.boundary s.base i.arguments = .error e ∧
      (i.run s.recorded).run (before.recording [] []) = (.error e, before.recording [] [])) ∨
    ∃ request answer, ∃ after : Session σ,
      m.requestFor i.boundary s.base i.arguments = .ok request ∧
      (i.run s.recorded).run (before.recording [] []) =
        (m.settle i.decode answer, after.recording [request] [answer])

/-- Only its request may stop a call that names a method, in the mode of the method and with as
many arguments as it takes. -/
theorem Invocation.prepare_of_method? {α : Type} {s : ServiceClient σ} {i : Invocation α}
    {m : ServiceMethod} (h : s.method? i.name = some m) (hmode : m.asynchronous = i.deferred)
    (harity : i.arguments.length = m.arity) :
    i.prepare s =
      (m.requestFor i.boundary s.base i.arguments).map fun request => (m, request) := by
  have hlookup := ServiceClient.lookup_eq_ok.2 ⟨h, hmode⟩
  have hrequest : m.buildRequest i.boundary s.base i.arguments =
      m.requestFor i.boundary s.base i.arguments := if_neg (not_not_intro harity)
  rw [prepare, ServiceClient.prepare, Outcome.bind_of_ok hlookup, hrequest]
  cases m.requestFor i.boundary s.base i.arguments <;> rfl

theorem ServiceClient.dispatches_of_method? {s : ServiceClient σ} {m : ServiceMethod}
    (h : s.method? m.name = some m) : s.Dispatches m := by
  refine ⟨h, fun i hname hmode harity before => ?_⟩
  have hprepare := Invocation.prepare_of_method? (hname ▸ h) hmode.symm harity
  rcases i.run_recorded s before with ⟨e, hrefused, -, hrun⟩ |
    ⟨own, request, answer, after, hprepared, -, hrun⟩
  · rw [hprepare] at hrefused
    exact Or.inl ⟨e, Outcome.map_eq_error.1 hrefused, hrun [] []⟩
  · rw [hprepare] at hprepared
    obtain ⟨_, hrequest, hpair⟩ := Outcome.map_eq_ok.1 hprepared
    cases hpair
    exact Or.inr ⟨request, answer, after, hrequest, hrun [] []⟩

namespace ServiceResolver

theorem resolveMethods_eq_mapM (r : ServiceResolver) (service : String)
    (ds : List MethodDeclaration) :
    r.resolveMethods service ds = ds.mapM (r.resolveMethod service) := by
  induction ds with
  | nil => rfl
  | cons d ds ih => rw [resolveMethods, ih, List.mapM_cons]

/-- A service resolves method by method, whatever it is resolved with. -/
theorem forall₂_of_resolve {r : ServiceResolver} {d : ServiceDeclaration} {base : Url}
    {definition : ServiceDefinition} (h : r.resolve d base = .ok definition) :
    List.Forall₂ (fun declared m => r.resolveMethod d.name declared = .ok m) d.methods
      definition.methods := by
  obtain ⟨methods, hmethods, hdefinition⟩ := Outcome.bind_eq_ok.1 h
  rw [Outcome.pure_eq_ok] at hdefinition
  rw [resolveMethods_eq_mapM] at hmethods
  rw [← hdefinition]
  exact Outcome.mapM_eq_ok.1 hmethods

/-- Of a service that resolves, each method is called by its name, through the entry point for
its mode and with as many arguments as it takes, unless an earlier method has the name; then
that one is called.  If handlers take steps, name, number of arguments and mode are the
declared ones. -/
theorem method_reached {r : ServiceResolver} {d : ServiceDeclaration} {base : Url}
    {definition : ServiceDefinition} (h : r.resolve d base = .ok definition)
    (client : HttpClient σ) :
    definition.methods.length = d.methods.length ∧ ∃ s : ServiceClient σ,
      (Emitter.client client).drive definition .none = .ok s ∧
      ∀ (i : Nat) (declared : MethodDeclaration), d.methods[i]? = some declared →
        ∃ m, definition.methods[i]? = some m ∧
          (r.TakesSteps → m.name = declared.name ∧ m.arity = declared.parameters.length ∧
            m.asynchronous = decide (.asynchronous ∈ declared.directives)) ∧
          ∃ j first, definition.methods[j]? = some first ∧ j ≤ i ∧ first.name = m.name ∧
            definition.method? m.name = some first ∧ s.Dispatches first ∧
            (m.name ∉ (definition.methods.take i).map ServiceMethod.name → first = m) := by
  have hmethods := forall₂_of_resolve h
  refine ⟨hmethods.length_eq.symm, _, Emitter.drive_client client definition .none, ?_⟩
  intro i declared hdeclared
  obtain ⟨m, hm, hresolve⟩ := Outcome.exists_getElem?_of_forall₂ hmethods hdeclared
  obtain ⟨j, first, hj, hle, hname, hfind, honly⟩ :=
    ServiceDefinition.exists_method?_eq_some hm
  have hcalled : definition.method? first.name = some first := by
    rw [hname]
    exact hfind
  exact ⟨m, hm, fun htakes => htakes.of_resolveMethod hresolve, j, first, hj, hle, hname, hfind,
    ServiceClient.dispatches_of_method? hcalled, honly⟩

/-- The first of two methods of one name is called by it, also where the second one answers
later. -/
theorem method_reached_upload :
    standard.resolve (uploadTwice [] [.asynchronous]) .localhost =
        .ok (uploadedTwice false true) ∧
      ∃ s m, (Emitter.client acknowledging).drive (uploadedTwice false true) .none = .ok s ∧
        (uploadedTwice false true).methods[0]? = some m ∧ m.name = "upload" ∧ m.arity = 1 ∧
        m.asynchronous = false ∧ (uploadedTwice false true).method? "upload" = some m ∧
        s.Dispatches m := by
  obtain ⟨-, -, hresolve⟩ := resolve_uploadTwice
  obtain ⟨-, s, hs, hreached⟩ := method_reached hresolve acknowledging
  obtain ⟨m, hm, hdeclared, j, first, -, -, -, hfind, hcalled, honly⟩ := hreached 0 _ rfl
  obtain ⟨hname, harity, hmode⟩ := hdeclared (takesSteps_ofConverters .standard)
  obtain rfl := honly (by simp)
  rw [hname] at hfind
  exact ⟨hresolve, s, first, hs, hm, hname, harity, hmode, hfind, hcalled⟩

/-- The second of two methods of one name is not called by it: looking for the name finds the
first one, and a call through the entry point for the second one is refused. -/
theorem later_method_shadowed :
    standard.resolve (uploadTwice [] [.asynchronous]) .localhost =
        .ok (uploadedTwice false true) ∧
      ∃ s first second, (Emitter.client acknowledging).drive (uploadedTwice false true) .none =
          .ok s ∧
        (uploadedTwice false true).methods[1]? = some second ∧ second.name = "upload" ∧
        second.arity = 1 ∧ second.asynchronous = true ∧
        (uploadedTwice false true).method? second.name = some first ∧
        s.method? second.name = some first ∧ first.asynchronous = false ∧
        ((s.recorded.callDeferred .ok "boundary" second.name [.string "text"]).run
            (Session.recording ⟨(), default, []⟩ [] [])).1.toOption.isNone ∧
        ((s.recorded.callDeferred .ok "boundary" second.name [.string "text"]).run
            (Session.recording ⟨(), default, []⟩ [] [])).2.transport.handed = [] :=
  ⟨rfl, _, _, _, rfl, rfl, rfl, rfl, rfl, rfl, rfl, rfl, rfl, rfl⟩

end ServiceResolver

end WebClient
