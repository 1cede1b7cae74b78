import WebClient.Client.Builder
import WebClient.Proofs.Service.Building
import WebClient.Proofs.Service.Dispatch

/-!
# Layers around the transport

A client that is built carries requests through its layers, the first one that was added
outermost, and through the standard logging, if it was asked for, directly around the
transport.

What a layer reports goes into the journal alone.  So carriers are compared from sessions that
differ in their journals at most: they agree when they answer alike and leave such sessions
behind (`Carrier.Agrees`).  A carrier that agrees with itself is a service, and a layer makes
carriers that agree of carriers that agree, whatever these report.  A logging layer makes of a
carrier one that agrees with it, and by induction on the layers it may stand anywhere.
-/

namespace WebClient

variable {σ α β : Type}

/-! ## Sessions that differ in their journals -/

/-- The sessions differ in their journals at most. -/
structure Session.Agrees (s s' : Session σ) : Prop where
  transport : s.transport = s'.transport
  disk : s.disk = s'.disk

theorem Session.Agrees.symm {s s' : Session σ} (h : s.Agrees s') : s'.Agrees s :=
  ⟨h.transport.symm, h.disk.symm⟩

namespace Action

/-- From sessions that differ in their journals at most, both give the same value and leave
such sessions behind. -/
def Agrees (x y : Action σ α) : Prop :=
  ∀ s s' : Session σ, s.Agrees s' → (x.run s).1 = (y.run s').1 ∧ (x.run s).2.Agrees (y.run s').2

theorem Agrees.symm {x y : Action σ α} (h : Agrees x y) : Agrees y x := by
  intro s s' hs
  obtain ⟨hvalue, hafter⟩ := h s' s hs.symm
  exact ⟨hvalue.symm, hafter.symm⟩

theorem agrees_pure (a : α) : Agrees (pure a : Action σ α) (pure a) := fun _ _ hs => ⟨rfl, hs⟩

theorem Agrees.bind {x y : Action σ α} {f g : α → Action σ β} (h : Agrees x y)
    (hnext : ∀ a, Agrees (f a) (g a)) : Agrees (x >>= f) (y >>= g) := by
  intro s s' hs
  obtain ⟨hvalue, hafter⟩ := h s s' hs
  have hrest := hnext (x.run s).1 _ _ hafter
  rw [StateT.run_bind, StateT.run_bind]
  change ((f (x.run s).1).run (x.run s).2).1 = ((g (y.run s').1).run (y.run s').2).1 ∧
    ((f (x.run s).1).run (x.run s).2).2.Agrees ((g (y.run s').1).run (y.run s').2).2
  rwa [← hvalue]

/-- Reporting does nothing that is seen outside of the journal. -/
theorem Agrees.report_bind {f : Unit → Action σ α} {y : Action σ α} (h : Agrees (f ()) y)
    (events : List Event) : Agrees (report events >>= f) y := by
  have hreport : Agrees (report events : Action σ Unit) (pure ()) :=
    fun _ _ hs => ⟨rfl, hs.transport, hs.disk⟩
  have hall := hreport.bind fun _ => h
  rwa [pure_bind] at hall

theorem agrees_onTransport (f : σ → α × σ) : Agrees (onTransport f) (onTransport f) := by
  intro s s' hs
  refine ⟨?_, ?_, hs.disk⟩
  · change (f s.transport).1 = (f s'.transport).1
    rw [hs.transport]
  · change (f s.transport).2 = (f s'.transport).2
    rw [hs.transport]

theorem Agrees.unrecorded {x y : Action σ α} (h : Agrees x y) :
    Agrees x.unrecorded y.unrecorded := by
  rintro ⟨transport, disk, journal⟩ ⟨transport', disk', journal'⟩ ⟨htransport, hdisk⟩
  cases htransport
  cases hdisk
  obtain ⟨hvalue, hafter⟩ := h ⟨transport.transport, disk, journal⟩
    ⟨transport.transport, disk, journal'⟩ ⟨rfl, rfl⟩
  exact ⟨hvalue,
    congrArg (fun t => (⟨t, transport.handed, transport.answered⟩ : Recorded σ)) hafter.transport,
    hafter.disk⟩

end Action

/-! ## Carriers and layers -/

namespace Carrier

/-- The carriers answer every request alike, and do the same but for what they report. -/
def Agrees (c c' : Carrier σ) : Prop := ∀ request, (c request).Agrees (c' request)

theorem Agrees.symm {c c' : Carrier σ} (h : c.Agrees c') : c'.Agrees c := fun request =>
  (h request).symm

/-- What the carrier does depends on the request, on the state of whatever carries requests and
on the files, not on what was reported. -/
def IsService (c : Carrier σ) : Prop := c.Agrees c

/-- The carrier that writes down what is handed to it and what it answers. -/
def recorded (c : Carrier σ) : Carrier (Recorded σ) := fun request => do
  Action.onTransport fun t => ((), { t with handed := t.handed ++ [request] })
  let result ← (c request).unrecorded
  Action.onTransport fun t => ((), { t with answered := t.answered ++ [result] })
  return result

theorem Agrees.recorded {c c' : Carrier σ} (h : c.Agrees c') : c.recorded.Agrees c'.recorded :=
  fun request =>
    (Action.agrees_onTransport _).bind fun _ => (h request).unrecorded.bind fun result =>
      (Action.agrees_onTransport _).bind fun _ => Action.agrees_pure result

end Carrier

/-- Over a network that does not look at what was reported, the transport is a service. -/
theorem Transport.isService_carrier (config : ClientConfig)
    {network : WireRequest → Action σ (Except Error Response)}
    (h : ∀ wire, (network wire).Agrees (network wire)) : (carrier config network).IsService := by
  intro request
  unfold carrier
  cases prepare config request with
  | error cause => exact Action.agrees_pure _
  | ok wire =>
      dsimp only
      cases refusal? wire.target with
      | some e => exact Action.agrees_pure _
      | none => exact h wire

namespace Layer

/-- The layer makes a service of a service: what it makes of a carrier depends on what the
carrier does, not on what the carrier reports. -/
def IsTransformer (l : Layer σ) : Prop :=
  ∀ c c' : Carrier σ, c.Agrees c' → (l.wrap c).Agrees (l.wrap c')

/-- A logging layer hands on the request as it is and answers with the answer as it is. -/
theorem agrees_logging {c c' : Carrier σ} (h : c.Agrees c') (level : LogLevel) :
    ((logging level).wrap c).Agrees c' := by
  intro request
  have hanswer : Action.Agrees (do
      let answer ← c request
      Action.report [Logging.received answer]
      return answer) (c' request >>= pure) :=
    (h request).bind fun answer =>
      (Action.agrees_pure answer).report_bind [Logging.received answer]
  rw [bind_pure] at hanswer
  exact hanswer.report_bind (Logging.sending level request)

theorem isTransformer_logging (level : LogLevel) : (logging level : Layer σ).IsTransformer :=
  fun _ _ h => agrees_logging (agrees_logging h.symm level).symm level

theorem isTransformer_limit (max : Nat) : (limit max : Layer σ).IsTransformer := fun _ _ h => h

/-- The layers are the same but for logging layers of either level, which may be put in and
taken out anywhere. -/
inductive SameButLogging : List (Layer σ) → List (Layer σ) → Prop where
  | nil : SameButLogging [] []
  | keep {layers layers' : List (Layer σ)} (l : Layer σ) (hl : l.IsTransformer)
      (hrest : SameButLogging layers layers') : SameButLogging (l :: layers) (l :: layers')
  | insert {layers layers' : List (Layer σ)} (level : LogLevel)
      (hrest : SameButLogging layers layers') : SameButLogging layers (logging level :: layers')
  | remove {layers layers' : List (Layer σ)} (level : LogLevel)
      (hrest : SameButLogging layers layers') : SameButLogging (logging level :: layers) layers'

variable {layers layers' : List (Layer σ)}

theorem SameButLogging.agrees (h : SameButLogging layers layers') {c c' : Carrier σ}
    (hc : c.Agrees c') : (layers.foldr wrap c).Agrees (layers'.foldr wrap c') := by
  induction h with
  | nil => exact hc
  | keep l hl hrest ih => exact hl _ _ ih
  | insert level hrest ih => exact (agrees_logging ih.symm level).symm
  | remove level hrest ih => exact agrees_logging ih level

theorem SameButLogging.admits (h : SameButLogging layers layers') :
    layers.all Layer.admits = layers'.all Layer.admits := by
  induction h with
  | nil => rfl
  | keep l hl hrest ih => rw [List.all_cons, List.all_cons, ih]
  | insert level hrest ih => exact ih
  | remove level hrest ih => exact ih

end Layer

/-! ## Clients in the making -/

namespace ClientBuilder

/-- What is done to a client in the making. -/
inductive Step (σ : Type) where
  | layer (l : Layer σ)
  | config (f : ClientConfig → ClientConfig)
  /-- Ask for the standard logging. -/
  | defaults

/-- What becomes of a client in the making. -/
def Step.apply (b : ClientBuilder σ) : Step σ → ClientBuilder σ
  | .layer l => b.addLayer l
  | .config f => b.withConfig f
  | .defaults => { b with standardLayers := true }

/-- The layer that a step adds. -/
def Step.layer? : Step σ → Option (Layer σ)
  | .layer l => some l
  | _ => none

/-- The step asks for the standard logging. -/
def Step.isDefaults : Step σ → Bool
  | .defaults => true
  | _ => false

/-- The client in the making after the given steps. -/
def ofSteps (steps : List (Step σ)) : ClientBuilder σ := steps.foldl Step.apply {}

/-- The layers that are put around the transport, the outermost one first. -/
def stackOf (steps : List (Step σ)) : List (Layer σ) :=
  steps.filterMap Step.layer? ++ if steps.any Step.isDefaults then [.logging .standard] else []

theorem foldl_apply (steps : List (Step σ)) (b : ClientBuilder σ) :
    (steps.foldl Step.apply b).layers = b.layers ++ steps.filterMap Step.layer? ∧
      (steps.foldl Step.apply b).standardLayers =
        (b.standardLayers || steps.any Step.isDefaults) := by
  induction steps generalizing b with
  | nil => simp
  | cons step rest ih =>
      obtain ⟨hlayers, hstandard⟩ := ih (Step.apply b step)
      rw [List.foldl_cons, hlayers, hstandard]
      cases step with
      | layer l => simp [Step.apply, addLayer, Step.layer?, Step.isDefaults]
      | config f => exact ⟨rfl, rfl⟩
      | defaults => exact ⟨rfl, by simp [Step.apply, Step.isDefaults]⟩

theorem carrier_build (steps : List (Step σ))
    (network : WireRequest → Action σ (Except Error Response)) :
    ((ofSteps steps).build network).carrier =
      (stackOf steps).foldr Layer.wrap (Transport.carrier (ofSteps steps).config network) := by
  obtain ⟨hlayers, hstandard⟩ := foldl_apply steps {}
  rw [List.nil_append] at hlayers
  rw [Bool.false_or] at hstandard
  rw [build, Layer.wrapAll, core, ofSteps, hlayers, hstandard, stackOf, List.foldr_append]
  split <;> rfl

theorem admits_build (steps : List (Step σ))
    (network : WireRequest → Action σ (Except Error Response)) :
    ((ofSteps steps).build network).admits = (stackOf steps).all Layer.admits := by
  have hlogging : (if steps.any Step.isDefaults then [Layer.logging .standard] else
      ([] : List (Layer σ))).all Layer.admits = true := by
    split <;> rfl
  rw [stackOf, List.all_append, hlogging, Bool.and_true]
  exact congrArg (List.all · Layer.admits) (foldl_apply steps {}).1

/-- Handing a request to a client that is built does nothing yet; its answer comes through the
layers. -/
theorem execute_build (steps : List (Step σ))
    (network : WireRequest → Action σ (Except Error Response)) (request : Request) :
    ((ofSteps steps).build network).client.execute request =
      pure ((stackOf steps).foldr Layer.wrap (Transport.carrier (ofSteps steps).config network)
        request) := by
  rw [LayeredClient.client, HttpClient.ofCarrier, carrier_build]

theorem exchange_build (steps : List (Step σ))
    (network : WireRequest → Action σ (Except Error Response)) (request : Request) :
    ((ofSteps steps).build network).client.exchange request =
      (stackOf steps).foldr Layer.wrap (Transport.carrier (ofSteps steps).config network)
        request := by
  rw [HttpClient.exchange, execute_build, pure_bind]

/-- What the client that is built after any steps does to a request, when the answer is waited
for and not before, is what the layers make of the transport, in the order in which they were
added, the first one outermost, and, if the standard logging was asked for, with it directly
around the transport.

Clients of one configuration whose layers differ in logging layers only, the others being such
that make services of services, answer a request alike over every network that is a service, and
do the same but for what they report.  And whatever service stands in the place of the transport,
the same requests reach it through the layers of both, and the same answers come back. -/
theorem client_build :
    (∀ (steps : List (Step σ)) (network : WireRequest → Action σ (Except Error Response))
      (request : Request),
      ((ofSteps steps).build network).client.execute request =
        pure ((stackOf steps).foldr Layer.wrap
          (Transport.carrier (ofSteps steps).config network) request)) ∧
    (∀ (steps steps' : List (Step σ)) (network : WireRequest → Action σ (Except Error Response)),
      (∀ wire, (network wire).Agrees (network wire)) →
      (ofSteps steps).config = (ofSteps steps').config →
      Layer.SameButLogging (stackOf steps) (stackOf steps') →
      ((ofSteps steps).build network).admits = ((ofSteps steps').build network).admits ∧
        ∀ request, (((ofSteps steps).build network).client.exchange request).Agrees
          (((ofSteps steps').build network).client.exchange request)) ∧
    ∀ steps steps' : List (Step (Recorded σ)),
      Layer.SameButLogging (stackOf steps) (stackOf steps') →
      ∀ T : Carrier σ, T.IsService → ∀ (request : Request) (before : Session (Recorded σ)),
        ∃ answer after after',
          ((stackOf steps).foldr Layer.wrap T.recorded request).run before = (answer, after) ∧
          ((stackOf steps').foldr Layer.wrap T.recorded request).run before =
            (answer, after') ∧
          after.transport.handed = after'.transport.handed ∧ after.Agrees after' := by
  refine ⟨execute_build, fun steps steps' network hnetwork hconfig hsame => ⟨?_, fun request => ?_⟩,
    fun steps steps' hsame T hT request before => ?_⟩
  · rw [admits_build, admits_build]
    exact hsame.admits
  · rw [exchange_build, exchange_build, hconfig]
    exact hsame.agrees (Transport.isService_carrier _ hnetwork) request
  · obtain ⟨hanswer, hafter⟩ :=
      hsame.agrees (Carrier.Agrees.recorded hT) request before before ⟨rfl, rfl⟩
    cases hfirst : ((stackOf steps).foldr Layer.wrap T.recorded request).run before with
    | mk answer after =>
        cases hsecond : ((stackOf steps').foldr Layer.wrap T.recorded request).run before with
        | mk answer' after' =>
            rw [hfirst, hsecond] at hanswer hafter
            obtain rfl : answer = answer' := hanswer
            exact ⟨answer, after, after', rfl, rfl,
              congrArg Recorded.handed hafter.transport, hafter⟩

/-- A layer that adds a header to every request. -/
def tagging : Layer σ where
  wrap inner request := inner (request.addHeader "X-Request-Source" "layer")

/-- A network in which every connection is refused. -/
def refusing : WireRequest → Action σ (Except Error Response) :=
  fun _ => pure (.error (.connection "refused"))

/-- The transport over that network. -/
def refusingTransport : Carrier Unit := Transport.carrier {} refusing

/-- A client that logs outside of its layers and between them, and one that logs outside of them
and directly around the transport. -/
def taggedSteps : List (Step (Recorded Unit)) × List (Step (Recorded Unit)) :=
  ([.layer (.logging .info), .layer tagging, .layer (.logging .debug), .layer (.limit 1)],
    [.layer (.logging .info), .defaults, .layer tagging, .layer (.limit 1)])

/-- A request that says nothing but where it goes. -/
def rootRequest : Request := ⟨.get, .localhost, [], none⟩

theorem client_build_tagged :
    (∀ network request, ((ofSteps taggedSteps.1).build network).client.execute request =
      pure ((Layer.logging .info).wrap (tagging.wrap ((Layer.logging .debug).wrap
        ((Layer.limit 1).wrap (Transport.carrier {} network)))) request)) ∧
    (((ofSteps taggedSteps.1).build refusing).client.exchange rootRequest).Agrees
      (((ofSteps taggedSteps.2).build refusing).client.exchange rootRequest) ∧
    ∃ answer after after',
      ((stackOf taggedSteps.1).foldr Layer.wrap refusingTransport.recorded rootRequest).run
          ⟨⟨(), [], []⟩, default, []⟩ = (answer, after) ∧
      ((stackOf taggedSteps.2).foldr Layer.wrap refusingTransport.recorded rootRequest).run
          ⟨⟨(), [], []⟩, default, []⟩ = (answer, after') ∧
      after'.transport.handed = [rootRequest.addHeader "X-Request-Source" "layer"] := by
  obtain ⟨hstack, hbuilt, -⟩ := @client_build (Recorded Unit)
  obtain ⟨-, -, htransparent⟩ := @client_build Unit
  have hsame : Layer.SameButLogging (stackOf taggedSteps.1) (stackOf taggedSteps.2) :=
    .keep _ (Layer.isTransformer_logging .info) (.keep _ (fun _ _ h _ => h _) (.remove .debug
      (.keep _ (Layer.isTransformer_limit 1) (.insert .standard .nil))))
  have hservice : refusingTransport.IsService :=
    Transport.isService_carrier _ fun _ => Action.agrees_pure _
  obtain ⟨-, hagrees⟩ := hbuilt taggedSteps.1 taggedSteps.2 refusing
    (fun _ => Action.agrees_pure _) rfl hsame
  refine ⟨hstack taggedSteps.1, hagrees rootRequest, ?_⟩
  obtain ⟨answer, after, after', hfirst, hsecond, hhanded, -⟩ :=
    htransparent _ _ hsame _ hservice rootRequest ⟨⟨(), [], []⟩, default, []⟩
  refine ⟨answer, after, after', hfirst, hsecond, ?_⟩
  have htagged : (((stackOf taggedSteps.1).foldr Layer.wrap refusingTransport.recorded
      rootRequest).run ⟨⟨(), [], []⟩, default, []⟩).2.transport.handed =
        [rootRequest.addHeader "X-Request-Source" "layer"] := rfl
  rwa [hfirst, hhanded] at htagged

end ClientBuilder

end WebClient
