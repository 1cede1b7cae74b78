import WebClient.Proofs.Service.Twin

/-!
# When a deferred call hands its request over

A call that answers later makes its request and hands it over at once, and only the answer is
waited for (`ServiceClient.callDeferred_eq`).  So the request is handed over whether the answer
is waited for or not, and a client that acts when it is handed a request acts before that
(`ServiceClient.handed_before_waiting`).  A client that does nothing before its answer is waited
for makes up for it: a deferred call changes nothing but the journal then
(`ServiceClient.callDeferred_ofCarrier`).
-/

namespace WebClient

variable {σ α β : Type}

/-- Waiting for the answer hands nothing over. -/
def Deferred.HandsNothing (d : Deferred (Recorded σ) α) : Prop :=
  ∀ (before : Session σ) (handed : List Request) (answered : List (Except Error Response)),
    ∃ (outcome : Except Error α) (after : Session σ) (more : List (Except Error Response)),
      d.wait.run (before.recording handed answered) =
        (outcome, after.recording handed (answered ++ more))

/-- What becomes of the answer afterwards makes no difference. -/
theorem Deferred.HandsNothing.andThen {d : Deferred (Recorded σ) α} (h : d.HandsNothing)
    (f : Except Error α → Except Error β) :
    Deferred.HandsNothing ⟨do return f (← d.wait)⟩ := by
  intro before handed answered
  obtain ⟨outcome, after, more, hwait⟩ := h before handed answered
  refine ⟨f outcome, after, more, ?_⟩
  rw [StateT.run_bind, hwait]
  rfl

/-- A watched client writes a request down when it is handed over, and its answer when it is
waited for. -/
theorem HttpClient.execute_recorded (client : HttpClient σ) (request : Request)
    (before : Session σ) :
    ∃ answer : Deferred (Recorded σ) Response, answer.HandsNothing ∧
      ∀ handed answered,
        (client.recorded.execute request).run (before.recording handed answered) =
          (answer.wait, ((client.execute request).run before).2.recording (handed ++ [request])
            answered) := by
  let answer := ((client.execute request).run before).1
  refine ⟨⟨do
    let result ← answer.unrecorded
    Action.onTransport fun t => ((), { t with answered := t.answered ++ [result] })
    return result⟩, fun mid handed answered => ?_, fun handed answered => rfl⟩
  exact ⟨(answer.run mid).1, (answer.run mid).2, [(answer.run mid).1], rfl⟩

namespace ServiceClient

variable (s : ServiceClient σ) (decode : Json.Value → Except Error α) (boundary name : String)
  (arguments : List Json.Value)

/-- A deferred call is refused, or it hands its request over and leaves the answer to be waited
for and settled. -/
theorem callDeferred_eq :
    s.callDeferred decode boundary name arguments =
      match s.prepare boundary name arguments true with
      | .error e => pure (.error e)
      | .ok (m, request) => do
          Action.report [m.callEvent request]
          let answer ← s.client.execute request
          return .ok ⟨do return m.settle decode (← answer)⟩ := by
  rw [callDeferred, prepare]
  cases s.lookup name true with
  | error e => rfl
  | ok m =>
      dsimp only
      rw [ServiceMethod.invoke, Outcome.bind_of_ok rfl]
      cases hbuild : m.buildRequest boundary s.base arguments with
      | error e => rfl
      | ok request =>
          rw [Outcome.bind_of_ok rfl]
          simp only [bind_assoc, pure_bind]
          -- What is left to compare are the two ways to treat the answer.
          congr 1
          funext _
          congr 1
          funext answer
          refine congrArg (fun wait => pure (Except.ok (Deferred.mk wait))) ?_
          congr 1
          funext result
          cases result <;> rfl

/-- With a client that does nothing before its answer is waited for, nothing is carried and no
file is written before the answer of a deferred call is waited for. -/
theorem callDeferred_ofCarrier {carrier : Carrier σ} (hlazy : s.client = .ofCarrier carrier)
    (before : Session σ) :
    ∃ result journal, (s.callDeferred decode boundary name arguments).run before =
      (result, { before with journal := journal }) := by
  rw [callDeferred_eq, hlazy]
  cases s.prepare boundary name arguments true with
  | error e => exact ⟨.error e, before.journal, rfl⟩
  | ok prepared => exact ⟨_, before.journal ++ [prepared.1.callEvent prepared.2], rfl⟩

/-- A deferred call that is made hands its request over, once and at the time of the call.  All
that is done then is a report and what the client does with the request, so that nothing is done
if the client waits.  Waiting for the answer hands nothing over any more, whether what is
answered is changed or not. -/
theorem handed_before_waiting (before : Session σ) :
    ((∃ e, s.prepare boundary name arguments true = .error e ∧
        (s.recorded.callDeferred decode boundary name arguments).run (before.recording [] []) =
          (.error e, before.recording [] [])) ∨
      ∃ m request, s.prepare boundary name arguments true = .ok (m, request) ∧
        ∃ deferred : Deferred (Recorded σ) α,
          (s.recorded.callDeferred decode boundary name arguments).run (before.recording [] []) =
            (.ok deferred, ((s.client.execute request).run { before with
              journal := before.journal ++ [m.callEvent request] }).2.recording [request] []) ∧
          deferred.HandsNothing ∧ ∀ (β : Type) (f : α → β), (deferred.map f).HandsNothing) ∧
      ∀ carrier : Carrier σ, ∃ result journal,
        (callDeferred { s with client := .ofCarrier carrier } decode boundary name arguments).run
          before = (result, { before with journal := journal }) := by
  refine ⟨?_, fun carrier => callDeferred_ofCarrier _ decode boundary name arguments rfl before⟩
  have hsame : s.recorded.prepare boundary name arguments true =
      s.prepare boundary name arguments true := rfl
  rw [callDeferred_eq, hsame]
  cases hprepare : s.prepare boundary name arguments true with
  | error e => exact Or.inl ⟨e, rfl, rfl⟩
  | ok prepared =>
      obtain ⟨m, request⟩ := prepared
      obtain ⟨answer, hnothing, hexecute⟩ := s.client.execute_recorded request
        { before with journal := before.journal ++ [m.callEvent request] }
      have hsettled := hnothing.andThen (m.settle decode)
      refine Or.inr ⟨m, request, rfl, _, ?_, hsettled, fun β f => hsettled.andThen (Except.map f)⟩
      exact congrArg
        (fun handed : Action (Recorded σ) (Except Error Response) × Session (Recorded σ) =>
          (Except.ok (Deferred.mk do return m.settle decode (← handed.1)), handed.2))
        (hexecute [] [])

/-- A service with one method, which answers later; its client counts what it is handed, at
once. -/
def counted : ServiceClient Nat where
  name := "Pings"
  base := .localhost
  client := ⟨fun _ => do
    Action.onTransport fun count => ((), count + 1)
    return pure (.ok ⟨200, [], []⟩)⟩
  methods :=
    [{ service := "Pings"
       name := "ping"
       method := .get
       path := ⟨"/ping"⟩
       headers := []
       bodyKind := none
       parameters := []
       responseType := .unit
       responseConverter := .json
       asynchronous := true }]

/-- The request is handed over, and the client has acted, although nobody waits for the answer. -/
theorem handed_before_waiting_counted :
    ∃ deferred after,
      (counted.recorded.callDeferred .ok "boundary" "ping" []).run
        (Session.recording ⟨0, default, []⟩ [] []) = (.ok deferred, after) ∧
      after.transport.handed.map (·.url.text) = ["http://localhost/ping"] ∧
      after.transport.transport = 1 :=
  ⟨_, _, rfl, rfl, rfl⟩

end ServiceClient

end WebClient
