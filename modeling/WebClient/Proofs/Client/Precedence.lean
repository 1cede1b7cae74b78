import WebClient.Client.Transport
import WebClient.Proofs.Service.Building

/-!
# Where the headers that are sent come from

A request is sent with its own fields and with the configured ones whose names it lacks.  So
under each name, ASCII case aside, there stand the values of the request alone, if it has any,
and otherwise the configured ones (`Transport.Merges`).  The agent and the default fields are
both configured: a default field that is named like the agent stands behind the agent, and not
in its place (`Transport.agent_beside_default`).

Names are folded when they are sent.  Nothing changes about the values of a name that way
(`Header.valuesOf_map_folded`), so that what is sent can be told from the configuration and the
request as they are.
-/

namespace WebClient

namespace Text

/-- A character that is folded already stays as it is. -/
theorem toLower_toLower (c : Char) : c.toLower.toLower = c.toLower := by
  have hascii : ∀ n < 0x80, (Char.ofNat n).toLower.toLower = (Char.ofNat n).toLower := by decide
  by_cases hc : c.toNat < 0x80
  · have hn := hascii c.toNat hc
    rwa [Char.ofNat_toNat] at hn
  · have hself : c.toLower = c := by
      unfold Char.toLower
      refine dif_neg fun hupper => hc ?_
      exact Nat.lt_of_le_of_lt (UInt32.le_iff_toNat_le.1 hupper.2) (by decide)
    rw [hself, hself]

theorem lower_lower (s : List Char) : lower (lower s) = lower s := by
  rw [lower, lower, List.map_map]
  exact List.map_congr_left fun c _ => toLower_toLower c

/-- A folded text agrees with the texts that it agreed with before. -/
theorem sameIgnoringCase_lower (a b : String) :
    sameIgnoringCase (String.ofList (lower a.toList)) b = sameIgnoringCase a b := by
  rw [sameIgnoringCase, sameIgnoringCase, String.toList_ofList, lower_lower]

end Text

/-! ## Values of a name -/

namespace Header

/-- The values of the fields of a name, in order; ASCII case makes no difference. -/
def valuesOf (name : String) (fields : List (String × String)) : List String :=
  (fields.filter fun field => Text.sameIgnoringCase field.1 name).map Prod.snd

theorem valuesOf_append (name : String) (front rest : List (String × String)) :
    valuesOf name (front ++ rest) = valuesOf name front ++ valuesOf name rest := by
  rw [valuesOf, List.filter_append, List.map_append, valuesOf, valuesOf]

/-- There are no values of a name when no field has the name. -/
theorem not_any_sameIgnoringCase (name : String) (fields : List (String × String)) :
    (!fields.any fun field => Text.sameIgnoringCase field.1 name) =
      decide (valuesOf name fields = []) := by
  rw [Bool.eq_iff_iff, decide_eq_true_iff, Bool.not_eq_true', List.any_eq_false, valuesOf,
    List.map_eq_nil_iff, List.filter_eq_nil_iff]

theorem valuesOf_congr {name name' : String} (h : Text.sameIgnoringCase name name' = true)
    (fields : List (String × String)) : valuesOf name fields = valuesOf name' fields := by
  rw [Text.sameIgnoringCase, beq_iff_eq] at h
  simp only [valuesOf, Text.sameIgnoringCase, h]

theorem mem_valuesOf {field : String × String} {fields : List (String × String)}
    (h : field ∈ fields) : field.2 ∈ valuesOf field.1 fields := by
  refine List.mem_map.2 ⟨field, List.mem_filter.2 ⟨h, ?_⟩, rfl⟩
  rw [Text.sameIgnoringCase, beq_self_eq_true]

/-- A field with its name folded. -/
def folded (field : String × String) : String × String :=
  (String.ofList (Text.lower field.1.toList), field.2)

theorem onWire_eq_ok {name value : String} {sent : String × String}
    (h : onWire name value = .ok sent) : sent = folded (name, value) := by
  unfold onWire at h
  dsimp only at h
  split at h
  · cases h
  · split at h
    · cases h
    · exact (Except.ok.inj h).symm

/-- Fields can be sent when each of them can, and then they are sent with folded names. -/
theorem allOnWire_eq_ok {fields sent : List (String × String)} :
    allOnWire fields = .ok sent ↔
      (∀ field ∈ fields, ∃ one, onWire field.1 field.2 = .ok one) ∧
        sent = fields.map folded := by
  induction fields generalizing sent with
  | nil =>
      rw [allOnWire, Except.ok.injEq]
      simp [eq_comm]
  | cons field rest ih =>
      obtain ⟨name, value⟩ := field
      rw [allOnWire, Outcome.bind_eq_ok, List.forall_mem_cons, List.map_cons]
      constructor
      · rintro ⟨one, hone, h⟩
        obtain ⟨others, hothers, h⟩ := Outcome.bind_eq_ok.1 h
        obtain ⟨hall, rfl⟩ := ih.1 hothers
        rw [Outcome.pure_eq_ok] at h
        rw [← h, onWire_eq_ok hone]
        exact ⟨⟨⟨one, hone⟩, hall⟩, rfl⟩
      · rintro ⟨⟨⟨one, hone⟩, hall⟩, rfl⟩
        refine ⟨one, hone, Outcome.bind_eq_ok.2 ⟨_, ih.2 ⟨hall, rfl⟩, ?_⟩⟩
        rw [onWire_eq_ok hone]
        rfl

theorem valuesOf_map_folded (name : String) (fields : List (String × String)) :
    valuesOf name (fields.map folded) = valuesOf name fields := by
  have hname : (fun field : String × String => Text.sameIgnoringCase field.1 name) ∘ folded =
      fun field => Text.sameIgnoringCase field.1 name :=
    funext fun field => Text.sameIgnoringCase_lower field.1 name
  rw [valuesOf, List.filter_map, List.map_map, hname]
  rfl

end Header

/-! ## Configured values -/

namespace ClientConfig

/-- The values that are configured for a name: the agent, if the name is that of the agent, and
then those of the default fields. -/
def valuesFor (config : ClientConfig) (name : String) : List String :=
  (if Text.sameIgnoringCase "User-Agent" name then config.userAgent.toList else []) ++
    Header.valuesOf name config.defaultHeaders

theorem valuesOf_headers (config : ClientConfig) (name : String) :
    Header.valuesOf name config.headers = config.valuesFor name := by
  rw [headers, Header.valuesOf_append, valuesFor]
  congr 1
  cases config.userAgent with
  | none => exact (ite_self []).symm
  | some agent =>
      change ((List.filter _ [("User-Agent", agent)]).map Prod.snd) = if _ then [agent] else []
      rw [List.filter_singleton]
      cases Text.sameIgnoringCase "User-Agent" name <;> rfl

theorem missingHeaders_eq (config : ClientConfig) (present : List (String × String)) :
    config.missingHeaders present =
      config.headers.filter fun field => Header.valuesOf field.1 present = [] :=
  List.filter_congr fun field _ => Header.not_any_sameIgnoringCase field.1 present

/-- Of the configured values of a name, a request lacks all or none. -/
theorem valuesOf_missingHeaders (config : ClientConfig) (present : List (String × String))
    (name : String) :
    Header.valuesOf name (config.missingHeaders present) =
      if Header.valuesOf name present = [] then config.valuesFor name else [] := by
  have hlacks : (config.missingHeaders present).filter
        (fun field => Text.sameIgnoringCase field.1 name) =
      config.headers.filter fun field =>
        Text.sameIgnoringCase field.1 name && Header.valuesOf name present = [] := by
    rw [missingHeaders_eq, List.filter_filter]
    refine List.filter_congr fun field _ => ?_
    cases hname : Text.sameIgnoringCase field.1 name with
    | false => rfl
    | true => rw [Header.valuesOf_congr hname]
  rw [← valuesOf_headers, Header.valuesOf, hlacks]
  by_cases hown : Header.valuesOf name present = []
  · rw [if_pos hown]
    simp only [hown, decide_true, Bool.and_true]
    rfl
  · rw [if_neg hown]
    simp only [hown, decide_false, Bool.and_false, List.filter_false]
    rfl

end ClientConfig

/-! ## What is sent -/

namespace Transport

/-- Connections are made to the target of the request, and all its fields and the configured
ones that it lacks can be sent. -/
structure IsSendable (config : ClientConfig) (r : Request) : Prop where
  target : ∃ target, Uri.parse r.url.render = .ok target ∧ refusal? target = none
  fields : ∀ field ∈ config.missingHeaders r.headers ++ r.headers,
    ∃ sent, Header.onWire field.1 field.2 = .ok sent

/-- Under each name there are sent all values of the request, in order, or, if it has none, the
configured ones; and each configured field is sent that the request lacks. -/
structure Merges (config : ClientConfig) (r : Request) (wire : WireRequest) : Prop where
  valuesOf_eq (name : String) :
    Header.valuesOf name wire.headers =
      if Header.valuesOf name r.headers = [] then config.valuesFor name
      else Header.valuesOf name r.headers
  configured : ∀ field ∈ config.headers, Header.valuesOf field.1 r.headers = [] →
    field.2 ∈ Header.valuesOf field.1 wire.headers

variable {config : ClientConfig} {r : Request} {wire : WireRequest}

theorem prepare_eq_ok :
    prepare config r = .ok wire ↔
      Uri.parse r.url.render = .ok wire.target ∧
        (∀ field ∈ config.missingHeaders r.headers ++ r.headers,
          ∃ sent, Header.onWire field.1 field.2 = .ok sent) ∧
        wire.method = r.method ∧ wire.body = r.body.getD [] ∧
        wire.headers = (config.missingHeaders r.headers ++ r.headers).map Header.folded := by
  rw [prepare, Outcome.bind_eq_ok]
  simp only [Outcome.mapError_eq_ok, Outcome.bind_eq_ok, Header.allOnWire_eq_ok,
    Outcome.pure_eq_ok]
  constructor
  · rintro ⟨target, htarget, _, ⟨hall, rfl⟩, rfl⟩
    exact ⟨htarget, hall, rfl, rfl, rfl⟩
  · rintro ⟨htarget, hall, hmethod, hbody, hheaders⟩
    refine ⟨wire.target, htarget, _, ⟨hall, rfl⟩, ?_⟩
    rw [← hmethod, ← hbody, ← hheaders]

theorem merges_of_prepare (h : prepare config r = .ok wire) : Merges config r wire := by
  obtain ⟨-, -, -, -, hheaders⟩ := prepare_eq_ok.1 h
  have hvalues (name : String) : Header.valuesOf name wire.headers =
      if Header.valuesOf name r.headers = [] then config.valuesFor name
      else Header.valuesOf name r.headers := by
    rw [hheaders, Header.valuesOf_map_folded, Header.valuesOf_append,
      ClientConfig.valuesOf_missingHeaders]
    by_cases hown : Header.valuesOf name r.headers = []
    · rw [if_pos hown, if_pos hown, hown, List.append_nil]
    · rw [if_neg hown, if_neg hown, List.nil_append]
  refine ⟨hvalues, fun field hfield hown => ?_⟩
  rw [hvalues, if_pos hown, ← ClientConfig.valuesOf_headers]
  exact Header.mem_valuesOf hfield

/-- A request that can be sent is handed to the network, and under each name it has there its
own values, or the configured ones if it has none.  Any other request is answered with an error,
and the network is handed nothing. -/
theorem carrier_merges (config : ClientConfig) (r : Request) :
    (IsSendable config r ∧ ∃ wire, Merges config r wire ∧
      ∀ (σ : Type) (network : WireRequest → Action σ (Except Error Response)),
        carrier config network r = network wire) ∨
    (¬ IsSendable config r ∧ ∃ e,
      ∀ (σ : Type) (network : WireRequest → Action σ (Except Error Response)),
        carrier config network r = pure (.error e)) := by
  cases hprepare : prepare config r with
  | error cause =>
      refine Or.inr ⟨?_, .invalidRequest cause, fun σ network => by rw [carrier, hprepare]⟩
      rintro ⟨⟨target, htarget, -⟩, hfields⟩
      have hok : prepare config r = .ok ⟨r.method, target, _, r.body.getD []⟩ :=
        prepare_eq_ok.2 ⟨htarget, hfields, rfl, rfl, rfl⟩
      rw [hprepare] at hok
      cases hok
  | ok wire =>
      obtain ⟨htarget, hfields, -⟩ := prepare_eq_ok.1 hprepare
      cases hrefusal : refusal? wire.target with
      | some e =>
          refine Or.inr ⟨?_, e, fun σ network => by simp only [carrier, hprepare, hrefusal]⟩
          rintro ⟨⟨target, hparse, hconnects⟩, -⟩
          obtain rfl := Except.ok.inj (htarget.symm.trans hparse)
          rw [hrefusal] at hconnects
          cases hconnects
      | none =>
          exact Or.inl ⟨⟨⟨wire.target, htarget, hrefusal⟩, hfields⟩, wire,
            merges_of_prepare hprepare,
            fun σ network => by simp only [carrier, hprepare, hrefusal]⟩

/-- The standard configuration with one more default field, which is named like the agent. -/
def renamedAgent : ClientConfig := ClientConfig.addDefaultHeader "user-agent" "mine/1" {}

/-- A request without an agent. -/
def anonymous : Request := ⟨.get, .localhost, [("Accept", "text/plain")], none⟩

/-- The request lacks the name and the default fields have it, and still the agent is sent in
front of the value of the default field. -/
theorem agent_beside_default :
    ∃ wire, (∀ (σ : Type) (network : WireRequest → Action σ (Except Error Response)),
        carrier renamedAgent network anonymous = network wire) ∧
      Header.valuesOf "User-Agent" anonymous.headers = [] ∧
      Header.valuesOf "User-Agent" renamedAgent.defaultHeaders = ["mine/1"] ∧
      Header.valuesOf "User-Agent" wire.headers = ["rivet/0.1.0", "mine/1"] :=
  ⟨_, fun _ _ => rfl, rfl, rfl, rfl⟩

end Transport

end WebClient
