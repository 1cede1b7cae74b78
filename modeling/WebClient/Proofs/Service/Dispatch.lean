import WebClient.Proofs.Service.Calling
import WebClient.Proofs.Service.Contribution

/-!
# Runs of calls

What reaches the client in a run of calls, each waited for before the next one, and what the
calls answer with.  A client is watched by writing down what is handed to it and what it
answers; that changes nothing else (`HttpClient.exchange_recorded`).  One call then hands
over its request or nothing (`Invocation.run_recorded`), and by induction a whole run hands
over the requests of its calls, in order and once each, while each call answers with what
becomes of its own answer (`ServiceClient.Settles`).
-/

namespace WebClient

variable {σ α : Type}

/-! ## Watching a client -/

/-- The state of whatever carries requests, with what was handed to it and what it
answered. -/
structure Recorded (σ : Type) where
  transport : σ
  handed : List Request
  answered : List (Except Error Response)

/-- A session of which is known what was handed over and answered. -/
def Session.recording (before : Session σ) (handed : List Request)
    (answered : List (Except Error Response)) : Session (Recorded σ) :=
  ⟨⟨before.transport, handed, answered⟩, before.disk, before.journal⟩

/-- Act on a session without writing anything down. -/
def Action.unrecorded (x : Action σ α) : Action (Recorded σ) α :=
  modifyGet fun before =>
    let (a, after) := x.run ⟨before.transport.transport, before.disk, before.journal⟩
    (a, after.recording before.transport.handed before.transport.answered)

/-- The client that writes down what is handed to it, at once, and what it answers. -/
def HttpClient.recorded (client : HttpClient σ) : HttpClient (Recorded σ) where
  execute request := do
    Action.onTransport fun t => ((), { t with handed := t.handed ++ [request] })
    let answer ← (client.execute request).unrecorded
    return do
      let result ← answer.unrecorded
      Action.onTransport fun t => ((), { t with answered := t.answered ++ [result] })
      return result

/-- The client of a service that writes down what it hands over. -/
def ServiceClient.recorded (s : ServiceClient σ) : ServiceClient (Recorded σ) :=
  ⟨s.name, s.base, s.client.recorded, s.methods⟩

theorem Action.report_recording (events : List Event) (before : Session σ)
    (handed : List Request) (answered : List (Except Error Response)) :
    (Action.report events).run (before.recording handed answered) =
      ((), ((Action.report events).run before).2.recording handed answered) :=
  rfl

/-- A watched client answers as it does unwatched and does the same; besides, the request
and the answer are written down. -/
theorem HttpClient.exchange_recorded (client : HttpClient σ) (request : Request)
    (before : Session σ) (handed : List Request) (answered : List (Except Error Response)) :
    (client.recorded.exchange request).run (before.recording handed answered) =
      (((client.exchange request).run before).1,
        ((client.exchange request).run before).2.recording (handed ++ [request])
          (answered ++ [((client.exchange request).run before).1])) :=
  rfl

/-- Performing a call hands its request over, once, and settles it with the answer. -/
theorem ServiceMethod.perform_run (m : ServiceMethod) (decode : Json.Value → Except Error α)
    (client : HttpClient σ) (request : Request) (before : Session σ) :
    ∃ reported answer after, (client.exchange request).run reported = (answer, after) ∧
      (m.perform decode client request).run before = (m.settle decode answer, after) ∧
      ∀ handed answered,
        (m.perform decode client.recorded request).run (before.recording handed answered) =
          (m.settle decode answer,
            after.recording (handed ++ [request]) (answered ++ [answer])) := by
  let reported := ((Action.report [m.callEvent request]).run before).2
  refine ⟨reported, ((client.exchange request).run reported).1,
    ((client.exchange request).run reported).2, rfl, rfl, fun handed answered => ?_⟩
  rw [perform, StateT.run_bind, Action.report_recording]
  exact congrArg
    (fun exchanged : Except Error Response × Session (Recorded σ) =>
      (m.settle decode exchanged.1, exchanged.2))
    (client.exchange_recorded request reported handed answered)

/-! ## Calls -/

/-- One call that is made: through one of the two entry points, and waited for. -/
structure Invocation (α : Type) where
  /-- The call is made as one that is answered later. -/
  deferred : Bool
  name : String
  arguments : List Json.Value
  boundary : String
  decode : Json.Value → Except Error α

namespace Invocation

/-- Make a call and wait until it is answered. -/
def run (s : ServiceClient σ) (i : Invocation α) : Action σ (Except Error α) :=
  if i.deferred then s.callAndWait i.decode i.boundary i.name i.arguments
  else s.call i.decode i.boundary i.name i.arguments

/-- The request of a call, if it names a method, through the entry point of the method,
has as many arguments as the method and these can be converted. -/
def request? (s : ServiceClient σ) (i : Invocation α) : Option Request :=
  match s.method? i.name with
  | none => none
  | some m =>
      if m.asynchronous = i.deferred ∧ i.arguments.length = m.arity then
        (m.buildRequest i.boundary s.base i.arguments).toOption
      else none

/-- The method and the request of a call, or why it is refused. -/
def prepare (s : ServiceClient σ) (i : Invocation α) : Except Error (ServiceMethod × Request) :=
  s.prepare i.boundary i.name i.arguments i.deferred

theorem run_eq (s : ServiceClient σ) (i : Invocation α) :
    i.run s = s.complete i.decode (i.prepare s) := by
  obtain ⟨deferred, name, arguments, boundary, decode⟩ := i
  cases deferred with
  | true => exact s.callAndWait_eq decode boundary name arguments
  | false => exact s.call_eq decode boundary name arguments

/-- A call is prepared when it names a method through its entry point and the request of
the call can be made. -/
theorem prepare_eq_ok {s : ServiceClient σ} {i : Invocation α} {m : ServiceMethod}
    {request : Request} :
    i.prepare s = .ok (m, request) ↔
      s.method? i.name = some m ∧ m.asynchronous = i.deferred ∧
        m.buildRequest i.boundary s.base i.arguments = .ok request := by
  rw [prepare, ServiceClient.prepare, Outcome.bind_eq_ok]
  constructor
  · rintro ⟨m', hlookup, hrest⟩
    obtain ⟨request', hbuild, hpair⟩ := Outcome.bind_eq_ok.1 hrest
    obtain ⟨hname, hmode⟩ := ServiceClient.lookup_eq_ok.1 hlookup
    cases hpair
    exact ⟨hname, hmode, hbuild⟩
  · rintro ⟨hname, hmode, hbuild⟩
    have hlookup := ServiceClient.lookup_eq_ok.2 ⟨hname, hmode⟩
    exact ⟨m, hlookup, Outcome.bind_eq_ok.2 ⟨request, hbuild, rfl⟩⟩

theorem request?_of_prepared {s : ServiceClient σ} {i : Invocation α} {m : ServiceMethod}
    {request : Request} (h : i.prepare s = .ok (m, request)) : i.request? s = some request := by
  obtain ⟨hname, hmode, hbuild⟩ := prepare_eq_ok.1 h
  have hlength := (ServiceMethod.buildRequest_eq_ok.1 hbuild).1
  rw [request?, hname]
  dsimp only
  rw [if_pos ⟨hmode, hlength⟩, hbuild]
  rfl

theorem request?_of_refused {s : ServiceClient σ} {i : Invocation α} {e : Error}
    (h : i.prepare s = .error e) : i.request? s = none := by
  rw [request?]
  split
  · rfl
  · next m hname =>
      split
      · next hfits =>
          cases hbuild : m.buildRequest i.boundary s.base i.arguments with
          | error e' => rfl
          | ok request =>
              have hprepared := prepare_eq_ok.2 ⟨hname, hfits.1, hbuild⟩
              rw [h] at hprepared
              cases hprepared
      · rfl

/-- Watching the client of a service changes neither what a call hands over nor what it
answers with. -/
theorem run_recorded (s : ServiceClient σ) (i : Invocation α) (before : Session σ) :
    (∃ e, i.prepare s = .error e ∧ (i.run s).run before = (.error e, before) ∧
      ∀ handed answered,
        (i.run s.recorded).run (before.recording handed answered) =
          (.error e, before.recording handed answered)) ∨
    ∃ m request answer after, i.prepare s = .ok (m, request) ∧
      (i.run s).run before = (m.settle i.decode answer, after) ∧
      ∀ handed answered,
        (i.run s.recorded).run (before.recording handed answered) =
          (m.settle i.decode answer,
            after.recording (handed ++ [request]) (answered ++ [answer])) := by
  have hsame : i.prepare s.recorded = i.prepare s := rfl
  rw [run_eq, run_eq, hsame]
  cases hprepare : i.prepare s with
  | error e => exact Or.inl ⟨e, rfl, rfl, fun _ _ => rfl⟩
  | ok prepared =>
      obtain ⟨m, request⟩ := prepared
      obtain ⟨_, answer, after, -, hrun, hrecorded⟩ :=
        m.perform_run i.decode s.client request before
      exact Or.inr ⟨m, request, answer, after, rfl, hrun, hrecorded⟩

end Invocation

/-! ## Runs -/

namespace ServiceClient

/-- Make calls in order, each after the one before it is answered. -/
def runAll (s : ServiceClient σ) : List (Invocation α) → Action σ (List (Except Error α))
  | [] => return []
  | i :: rest => do
      let outcome ← i.run s
      return outcome :: (← runAll s rest)

/-- What calls answer with when those of them that hand over a request are given answers,
one each and in order: an error of its own where nothing is handed over, and otherwise what
becomes of its own answer. -/
inductive Settles (s : ServiceClient σ) :
    List (Invocation α) → List (Except Error Response) → List (Except Error α) → Prop
  | nil : Settles s [] [] []
  | refused {i is answers outcomes} (e : Error) (hnothing : i.request? s = none)
      (hrefused : i.prepare s = .error e) (hrest : Settles s is answers outcomes) :
      Settles s (i :: is) answers (.error e :: outcomes)
  | answered {i is answers outcomes} (m : ServiceMethod) (answer : Except Error Response)
      (hname : s.method? i.name = some m) (hhanded : (i.request? s).isSome)
      (hrest : Settles s is answers outcomes) :
      Settles s (i :: is) (answer :: answers) (m.settle i.decode answer :: outcomes)

theorem runAll_cons (s : ServiceClient σ) (i : Invocation α) (rest : List (Invocation α))
    {before mid after : Session σ} {outcome : Except Error α}
    {outcomes : List (Except Error α)} (hfirst : (i.run s).run before = (outcome, mid))
    (hrest : (s.runAll rest).run mid = (outcomes, after)) :
    (s.runAll (i :: rest)).run before = (outcome :: outcomes, after) := by
  rw [runAll, StateT.run_bind, hfirst]
  exact congrArg
    (fun result : List (Except Error α) × Session σ => (outcome :: result.1, result.2)) hrest

theorem runAll_recorded_from (s : ServiceClient σ) (is : List (Invocation α))
    (before : Session σ) :
    ∃ outcomes answers after, (s.runAll is).run before = (outcomes, after) ∧
      s.Settles is answers outcomes ∧
      ∀ handed answered,
        (s.recorded.runAll is).run (before.recording handed answered) =
          (outcomes, after.recording (handed ++ is.filterMap fun i => i.request? s)
            (answered ++ answers)) := by
  induction is generalizing before with
  | nil =>
      refine ⟨[], [], before, rfl, .nil, fun handed answered => ?_⟩
      rw [List.filterMap_nil, List.append_nil, List.append_nil]
      rfl
  | cons i rest ih =>
      rcases i.run_recorded s before with ⟨e, hrefused, hrun, hrecorded⟩ |
        ⟨m, request, answer, mid, hprepared, hrun, hrecorded⟩
      · -- Nothing is handed over, so the others find the session as it was.
        obtain ⟨outcomes, answers, after, hrest, hsettles, hlog⟩ := ih before
        have hnothing := i.request?_of_refused hrefused
        refine ⟨.error e :: outcomes, answers, after, s.runAll_cons i rest hrun hrest,
          .refused e hnothing hrefused hsettles, fun handed answered => ?_⟩
        rw [List.filterMap_cons_none hnothing]
        exact s.recorded.runAll_cons i rest (hrecorded handed answered) (hlog handed answered)
      · obtain ⟨outcomes, answers, after, hrest, hsettles, hlog⟩ := ih mid
        have hhanded := i.request?_of_prepared hprepared
        have hname := (Invocation.prepare_eq_ok.1 hprepared).1
        refine ⟨m.settle i.decode answer :: outcomes, answer :: answers, after,
          s.runAll_cons i rest hrun hrest,
          .answered m answer hname (hhanded ▸ rfl) hsettles, fun handed answered => ?_⟩
        have hothers := hlog (handed ++ [request]) (answered ++ [answer])
        rw [List.filterMap_cons_some hhanded]
        rw [List.append_assoc, List.append_assoc] at hothers
        exact s.recorded.runAll_cons i rest (hrecorded handed answered) hothers

/-- A run of calls hands over the requests of those calls that name a method through its
entry point and have arguments that fit it and can be converted, in the order of the calls
and once each.  Every other call answers with an error.  What a call answers with depends
on the call and on the answer to its own request alone. -/
theorem runAll_recorded (s : ServiceClient σ) (is : List (Invocation α)) (before : Session σ) :
    ∃ outcomes answers after, (s.runAll is).run before = (outcomes, after) ∧
      (s.recorded.runAll is).run (before.recording [] []) =
        (outcomes, after.recording (is.filterMap fun i => i.request? s) answers) ∧
      s.Settles is answers outcomes := by
  obtain ⟨outcomes, answers, after, hrun, hsettles, hlog⟩ := s.runAll_recorded_from is before
  exact ⟨outcomes, answers, after, hrun, hlog [] [], hsettles⟩

end ServiceClient

end WebClient
