import WebClient.Service.Emitter
import WebClient.Proofs.Draft.Boundary
import WebClient.Proofs.Service.Dispatch
import WebClient.Proofs.Service.Mode

/-!
# Calls that answer later and calls that answer at once

Two services that differ in the mode of one method are twins (`ServiceClient.Twins`):
calling the method of the one and waiting for the answer of the other's do the same, at
every stage at which either may fail, up to the boundary that each call chooses for its
form.  The services may differ because their declarations do, in one directive
(`ServiceDefinition.DifferInMode`).  What counts is that calls reach the method: they reach
the first one of its name (`ServiceDefinition.place?`).
-/

namespace WebClient

variable {σ α : Type}

/-- The client answers as a function of the request says, whatever it does besides. -/
def HttpClient.AnswersWith (client : HttpClient σ) (f : Request → Except Error Response) : Prop :=
  ∀ request before, ((client.exchange request).run before).1 = f request

/-- Two computations that are watched hand over the same requests up to the boundary of a
form, and have the same outcome if the answers of the client do not depend on it. -/
def HttpClient.AlikeRuns (client : HttpClient σ)
    (x x' : Action (Recorded σ) (Except Error α)) : Prop :=
  ∀ before : Session σ,
    ∃ outcome outcome', ∃ after after' : Session σ, ∃ handed handed' answered answered',
      x.run (before.recording [] []) = (outcome, after.recording handed answered) ∧
      x'.run (before.recording [] []) = (outcome', after'.recording handed' answered') ∧
      List.Forall₂ Request.Alike handed handed' ∧
      ∀ f, client.AnswersWith f → (∀ r r' : Request, r.Alike r' → f r = f r') →
        outcome = outcome'

/-- Once it is waited for, a method does the same whether it answers at once or later. -/
theorem ServiceMethod.invokeAndWait_deferred (m : ServiceMethod)
    (decode : Json.Value → Except Error α) (boundary : String) (base : Url)
    (client : HttpClient σ) (arguments : List Json.Value) :
    m.deferred.invokeAndWait decode boundary base client arguments =
      m.invokeAndWait decode boundary base client arguments :=
  rfl

namespace ServiceClient

/-- A method of one service answers at once, and that of the other later; otherwise calls of
the two do the same. -/
structure Twins (name : String) (s s' : ServiceClient σ) : Prop where
  /-- With the same boundary the two calls are the same, whatever the client does. -/
  call_eq {α : Type} (decode : Json.Value → Except Error α) (boundary : String)
    (arguments : List Json.Value) :
    s'.callAndWait decode boundary name arguments = s.call decode boundary name arguments
  /-- With boundaries of their own they are the same up to the boundary. -/
  alike {α : Type} (decode : Json.Value → Except Error α) (boundary boundary' : String)
    (arguments : List Json.Value) :
    s.client.AlikeRuns (s.recorded.call decode boundary name arguments)
      (s'.recorded.callAndWait decode boundary' name arguments)
  /-- The other entry point of the one is refused, and nothing is handed over. -/
  mustCall {α : Type} (decode : Json.Value → Except Error α) (boundary : String)
    (arguments : List Json.Value) :
    s.callDeferred decode boundary name arguments =
      pure (.error (.invalidRequest (.mustCall s.name name)))
  /-- The other entry point of the other is refused, and nothing is handed over. -/
  mustDefer {α : Type} (decode : Json.Value → Except Error α) (boundary : String)
    (arguments : List Json.Value) :
    s'.call decode boundary name arguments =
      pure (.error (.invalidRequest (.mustDefer s'.name name)))

/-- Calls of a method that answers at once and of the same method answering later do the
same up to the boundary. -/
theorem alikeRuns_of_lookup {s s' : ServiceClient σ} {name : String} {m : ServiceMethod}
    (hbase : s'.base = s.base) (hclient : s'.client = s.client)
    (hcall : s.lookup name false = .ok m) (hdefer : s'.lookup name true = .ok m.deferred)
    (decode : Json.Value → Except Error α) (boundary boundary' : String)
    (arguments : List Json.Value) :
    s.client.AlikeRuns (s.recorded.call decode boundary name arguments)
      (s'.recorded.callAndWait decode boundary' name arguments) := by
  intro before
  have hcall' : s.recorded.call decode boundary name arguments =
      m.invokeAndWait decode boundary s.base s.client.recorded arguments :=
    s.recorded.call_of_lookup decode boundary name arguments hcall
  have hdefer' : s'.recorded.callAndWait decode boundary' name arguments =
      m.deferred.invokeAndWait decode boundary' s.base s.client.recorded arguments := by
    rw [← hbase, ← hclient]
    exact s'.recorded.callAndWait_of_lookup decode boundary' name arguments hdefer
  rw [hcall', hdefer', m.invokeAndWait_deferred, m.invokeAndWait_eq, m.invokeAndWait_eq]
  -- Both calls are the same method's now; only their requests may differ, in the boundary.
  have hbuild := m.alike_buildRequest boundary boundary' s.base arguments
  generalize m.buildRequest boundary s.base arguments = built at hbuild
  generalize m.buildRequest boundary' s.base arguments = built' at hbuild
  cases hbuild with
  | error e =>
      exact ⟨.error e, .error e, before, before, [], [], [], [], rfl, rfl, .nil, fun _ _ _ => rfl⟩
  | @ok r r' halike =>
      obtain ⟨mid, answer, after, hanswer, -, hrun⟩ := m.perform_run decode s.client r before
      obtain ⟨mid', answer', after', hanswer', -, hrun'⟩ :=
        m.perform_run decode s.client r' before
      refine ⟨_, _, after, after', [r], [r'], [answer], [answer'], hrun [] [], hrun' [] [],
        .cons halike .nil, fun f hanswers hblind => ?_⟩
      have hfirst : answer = f r := by rw [← hanswers r mid, hanswer]
      have hsecond : answer' = f r' := by rw [← hanswers r' mid', hanswer']
      rw [hfirst, hsecond, hblind r r' halike]

/-- The services of one client and of methods that are the same but for the mode of the one
that the name reaches. -/
theorem twins_of_method? {s s' : ServiceClient σ} {name : String} {m : ServiceMethod}
    (hbase : s'.base = s.base) (hclient : s'.client = s.client)
    (hm : s.method? name = some m) (hm' : s'.method? name = some m.deferred)
    (hsync : m.asynchronous = false) : s.Twins name s' := by
  have hcall : s.lookup name false = .ok m := by rw [lookup_of_method? hm, if_pos hsync]
  have hdefer : s'.lookup name true = .ok m.deferred := by
    rw [lookup_of_method? hm']
    exact if_pos rfl
  constructor
  case call_eq =>
    intro α decode boundary arguments
    rw [call_of_lookup _ _ _ _ _ hcall, callAndWait_of_lookup _ _ _ _ _ hdefer, hbase, hclient,
      m.invokeAndWait_deferred]
  case alike =>
    intro α decode
    exact alikeRuns_of_lookup hbase hclient hcall hdefer decode
  case mustCall =>
    intro α decode boundary arguments
    have hrefused : s.lookup name true = .error (.invalidRequest (.mustCall s.name name)) := by
      rw [lookup_of_method? hm, hsync]
      rfl
    rw [callDeferred, hrefused]
  case mustDefer =>
    intro α decode boundary arguments
    have hrefused : s'.lookup name false = .error (.invalidRequest (.mustDefer s'.name name)) :=
      lookup_of_method? hm' false
    rw [call, hrefused]

end ServiceClient

/-! ## Services of declarations -/

namespace Emitter

theorem visitAll_client (client : HttpClient σ) (service : Option (String × Url))
    (known methods : List ServiceMethod) :
    (Emitter.client client).visitAll methods ⟨service, known⟩ =
      .ok ⟨service, known ++ methods⟩ := by
  induction methods generalizing known with
  | nil => rw [List.append_nil, visitAll]
  | cons m rest ih =>
      rw [visitAll, ← List.singleton_append, ← List.append_assoc]
      exact ih (known ++ [m])

/-- Any resolved service has a client, with the methods of the service in order. -/
theorem drive_client (client : HttpClient σ) (definition : ServiceDefinition)
    (parts : ClientParts) :
    (Emitter.client client).drive definition parts =
      .ok ⟨definition.name, definition.base, client, definition.methods⟩ := by
  have hvisit := visitAll_client client (some (definition.name, definition.base)) []
    definition.methods
  rw [List.nil_append] at hvisit
  exact (Outcome.bind_of_ok rfl).trans (Outcome.bind_of_ok hvisit)

end Emitter

namespace ServiceDefinition

/-- The place of the method that calls of a name reach, the first one of the name. -/
def place? (definition : ServiceDefinition) (name : String) : Option Nat :=
  definition.methods.findIdx? fun m => m.name = name

theorem place?_eq_length {service name : String} {base : Url} {front rest : List ServiceMethod}
    {m : ServiceMethod}
    (h : place? ⟨service, base, front ++ m :: rest⟩ name = some front.length) :
    front.find? (fun m => m.name = name) = none ∧ m.name = name := by
  obtain ⟨hlt, hname, hfirst⟩ := List.findIdx?_eq_some_iff_getElem.1 h
  constructor
  · rw [List.find?_eq_none]
    intro other hother
    obtain ⟨j, hj, rfl⟩ := List.getElem_of_mem hother
    have hbefore := hfirst j hj
    rwa [List.getElem_append_left hj] at hbefore
  · rw [List.getElem_append_right (Nat.le_refl _)] at hname
    simpa using hname

/-- When calls of a name reach the method whose mode differs, they reach it in both
services. -/
theorem Defers.method?_eq {i : Nat} {definition definition' : ServiceDefinition}
    (h : definition.Defers i definition') {name : String}
    (hfirst : definition.place? name = some i) :
    ∃ m, definition.methods[i]? = some m ∧ definition.method? name = some m ∧
      definition'.method? name = some m.deferred := by
  cases h with
  | intro service base front rest m =>
      obtain ⟨hfront, hname⟩ := place?_eq_length hfirst
      have hname' : m.deferred.name = name := hname
      refine ⟨m, by simp, ?_, ?_⟩
      · rw [method?, List.find?_append, hfront, Option.none_or, List.find?_cons_of_pos]
        exact decide_eq_true hname
      · rw [method?, List.find?_append, hfront, Option.none_or, List.find?_cons_of_pos]
        exact decide_eq_true hname'

end ServiceDefinition

/-- Two services are the same but for one method, which answers later in the second one: as
they are, or because they are declared so, with one directive more. -/
inductive ServiceDefinition.DifferInMode (i : Nat) (definition definition' : ServiceDefinition) :
    Prop
  | methods (h : definition.Defers i definition')
  | declarations {r : ServiceResolver} {d d' : ServiceDeclaration} {base : Url}
      (htells : r.TellsMode) (hdefers : d.Defers i d') (h : r.resolve d base = .ok definition)
      (h' : r.resolve d' base = .ok definition')

theorem ServiceDefinition.DifferInMode.defers {i : Nat}
    {definition definition' : ServiceDefinition} (h : definition.DifferInMode i definition') :
    definition.Defers i definition' := by
  cases h with
  | methods h => exact h
  | declarations htells hdefers h h' =>
      obtain ⟨resolved, hresolved, hpair⟩ := ServiceResolver.resolve_of_defers htells hdefers h
      rw [h'] at hresolved
      cases hresolved
      exact hpair

namespace ServiceResolver

/-- Calling a method that answers at once and waiting for the answer of the same method
answering later are the same for the clients of any two services that differ in this mode
alone, provided that no earlier method has the name. -/
theorem twins_of_differInMode {i : Nat} {definition definition' : ServiceDefinition}
    (hpair : definition.DifferInMode i definition') {name : String}
    (hfirst : definition.place? name = some i)
    (hsync : ∀ m ∈ definition.methods[i]?, m.asynchronous = false) (client : HttpClient σ) :
    ∃ s s', (Emitter.client client).drive definition .none = .ok s ∧
      (Emitter.client client).drive definition' .none = .ok s' ∧ s.Twins name s' := by
  have hdefers := hpair.defers
  obtain ⟨m, hplace, hm, hm'⟩ := hdefers.method?_eq hfirst
  have hbase : definition'.base = definition.base := by
    cases hdefers
    rfl
  exact ⟨_, _, Emitter.drive_client client definition .none,
    Emitter.drive_client client definition' .none,
    ServiceClient.twins_of_method? hbase rfl hm hm' (hsync m hplace)⟩

/-- Two methods of one name that upload a file, each with some directives more. -/
def uploadTwice (first second : List Directive) : ServiceDeclaration where
  name := "Files"
  methods := [upload ⟨"/first"⟩ first, upload ⟨"/second"⟩ second]
where
  upload (path : Template) (directives : List Directive) : MethodDeclaration :=
    ⟨"upload", .http .post path :: directives, [⟨"file", ⟨"Vec<u8>"⟩, [.part "file"]⟩], .unit⟩

/-- What the declarations of two methods that upload a file resolve to, each of them
answering later or at once. -/
def uploadedTwice (first second : Bool) : ServiceDefinition where
  name := "Files"
  base := .localhost
  methods := [upload ⟨"/first"⟩ first, upload ⟨"/second"⟩ second]
where
  upload (path : Template) (later : Bool) : ServiceMethod :=
    { service := "Files"
      name := "upload"
      method := .post
      path := path
      headers := []
      bodyKind := some .multipart
      parameters := [.part "file" .json]
      responseType := .unit
      responseConverter := .json
      asynchronous := later }

theorem resolve_uploadTwice :
    standard.resolve (uploadTwice [] []) .localhost = .ok (uploadedTwice false false) ∧
      standard.resolve (uploadTwice [.asynchronous] []) .localhost =
        .ok (uploadedTwice true false) ∧
      standard.resolve (uploadTwice [] [.asynchronous]) .localhost =
        .ok (uploadedTwice false true) :=
  ⟨rfl, rfl, rfl⟩

/-- One of two methods that upload a file answers later, since it is declared so. -/
theorem differInMode_uploadedTwice :
    (uploadedTwice false false).DifferInMode 0 (uploadedTwice true false) ∧
      (uploadedTwice false false).DifferInMode 1 (uploadedTwice false true) := by
  have htells : standard.TellsMode := tellsMode_ofConverters .standard
  have hfirst : (uploadTwice [] []).Defers 0 (uploadTwice [.asynchronous] []) :=
    .intro "Files" [] [_] _ [.http .post ⟨"/first"⟩] [] rfl
  have hsecond : (uploadTwice [] []).Defers 1 (uploadTwice [] [.asynchronous]) :=
    .intro "Files" [_] [] _ [.http .post ⟨"/second"⟩] [] rfl
  obtain ⟨hatOnce, hlater, hlater'⟩ := resolve_uploadTwice
  exact ⟨.declarations htells hfirst hatOnce hlater, .declarations htells hsecond hatOnce hlater'⟩

/-- A client that answers all requests with an empty body. -/
def acknowledging : HttpClient Unit := .ofCarrier fun _ => pure (.ok ⟨200, [], []⟩)

theorem twins_of_differInMode_upload :
    (uploadedTwice false false).DifferInMode 0 (uploadedTwice true false) ∧
      (uploadedTwice false false).place? "upload" = some 0 ∧
      (∀ m ∈ (uploadedTwice false false).methods[0]?, m.asynchronous = false) ∧
      ∃ s s', (Emitter.client acknowledging).drive (uploadedTwice false false) .none = .ok s ∧
        (Emitter.client acknowledging).drive (uploadedTwice true false) .none = .ok s' ∧
        s.Twins "upload" s' := by
  obtain ⟨hpair, -⟩ := differInMode_uploadedTwice
  have hplace : (uploadedTwice false false).place? "upload" = some 0 := rfl
  have hsync : ∀ m ∈ (uploadedTwice false false).methods[0]?, m.asynchronous = false := by
    rintro m ⟨⟩
    rfl
  exact ⟨hpair, hplace, hsync, twins_of_differInMode hpair hplace hsync acknowledging⟩

/-- Calls reach the first method of a name, so that its mode counts: a call is answered
where a later one of the name answers at once, and a deferred call is refused where the
later one is declared to answer later. -/
theorem earlier_method_called :
    (uploadedTwice false false).DifferInMode 1 (uploadedTwice false true) ∧
      (uploadedTwice false false).methods.map ServiceMethod.name = ["upload", "upload"] ∧
      (uploadedTwice false false).methods.map ServiceMethod.asynchronous = [false, false] ∧
      (uploadedTwice false true).methods.map ServiceMethod.asynchronous = [false, true] ∧
      ∃ s s', (Emitter.client acknowledging).drive (uploadedTwice false false) .none = .ok s ∧
        (Emitter.client acknowledging).drive (uploadedTwice false true) .none = .ok s' ∧
        ((s.call .ok "boundary" "upload" [.string "text"]).run ⟨(), default, []⟩).1 =
          .ok .null ∧
        ((s'.callAndWait .ok "boundary" "upload" [.string "text"]).run ⟨(), default, []⟩).1 =
          .error (.invalidRequest (.mustCall "Files" "upload")) := by
  obtain ⟨-, hpair⟩ := differInMode_uploadedTwice
  exact ⟨hpair, rfl, rfl, rfl, _, _, rfl, rfl, rfl, rfl⟩

end ServiceResolver

end WebClient
