import WebClient.Service.Method
import WebClient.Proofs.Draft.Extension

/-!
# What arguments contribute

`Parameter.Contributes` says, role by role, which pieces an argument contributes
when everything in it can be converted.  `Parameter.contributions` computes the
same pieces one by one and keeps an error in the place of a piece that cannot be
made; it holds no error exactly when the argument contributes.
-/

namespace WebClient

/-- The kind of body that a piece belongs to. -/
@[simp] def Contribution.bodyKind? : Contribution → Option BodyKind
  | .field .. => some .form
  | .part _ => some .multipart
  | .body _ => some .raw
  | _ => none

namespace Parameter

/-! ## What arguments stand for -/

/-- The items of an array that are not nothing. -/
inductive Present : List Json.Value → List Json.Value → Prop
  | nil : Present [] []
  | null {items values : List Json.Value} (hrest : Present items values) :
      Present (.null :: items) values
  | value {item : Json.Value} {items values : List Json.Value} (hitem : item ≠ .null)
      (hrest : Present items values) : Present (item :: items) (item :: values)

/-- The values that an argument stands for: none for nothing, those of an array that are not
nothing, one level deep, and any other value for itself. -/
inductive StandsFor : Json.Value → List Json.Value → Prop
  | null : StandsFor .null []
  | array {items values : List Json.Value} (hitems : Present items values) :
      StandsFor (.array items) values
  | single {value : Json.Value} (hvalue : value ≠ .null)
      (harray : ∀ items, value ≠ .array items) : StandsFor value [value]

/-- The texts of the values that an argument stands for, in their order. -/
def Texts (c : StringConverter) (value : Json.Value) (texts : List String) : Prop :=
  ∃ values, StandsFor value values ∧
    List.Forall₂ (fun item text => c.convert item = .ok text) values texts

theorem Texts.of_string {c : StringConverter} {s text : String}
    (h : c.convert (.string s) = .ok text) : Texts c (.string s) [text] :=
  ⟨_, .single Json.Value.noConfusion fun _ => Json.Value.noConfusion, .cons h .nil⟩

/-- The fields of a map argument; nothing stands for no fields. -/
def fields? : Json.Value → Option (List (String × Json.Value))
  | .null => some []
  | .object fields => some fields
  | _ => none

/-- The texts of the values of fields, each with the name of its field. -/
inductive EntryTexts (c : StringConverter) :
    List (String × Json.Value) → List (String × String) → Prop
  | nil : EntryTexts c [] []
  | cons {name : String} {entry : Json.Value} {texts : List String}
      {fields : List (String × Json.Value)} {rest : List (String × String)}
      (htexts : Texts c entry texts) (hrest : EntryTexts c fields rest) :
      EntryTexts c ((name, entry) :: fields) ((texts.map fun text => (name, text)) ++ rest)

/-- The texts of the values of all fields of a map argument, in their order, each
with the name of its field. -/
def FieldTexts (c : StringConverter) (value : Json.Value) (texts : List (String × String)) :
    Prop :=
  ∃ fields, fields? value = some fields ∧ EntryTexts c fields texts

/-- The bodies of the fields that are not nothing, each with the name of its field. -/
inductive EntryBodies (c : RequestConverter) :
    List (String × Json.Value) → List (String × RequestBody) → Prop
  | nil : EntryBodies c [] []
  | null {name : String} {fields : List (String × Json.Value)}
      {rest : List (String × RequestBody)} (hrest : EntryBodies c fields rest) :
      EntryBodies c ((name, .null) :: fields) rest
  | cons {name : String} {entry : Json.Value} {body : RequestBody}
      {fields : List (String × Json.Value)} {rest : List (String × RequestBody)}
      (hentry : entry ≠ .null) (hbody : c.convert entry = .ok body)
      (hrest : EntryBodies c fields rest) :
      EntryBodies c ((name, entry) :: fields) ((name, body) :: rest)

/-- The bodies of the fields of a map argument that are not nothing, in their order,
each with the name of its field. -/
def FieldBodies (c : RequestConverter) (value : Json.Value)
    (bodies : List (String × RequestBody)) : Prop :=
  ∃ fields, fields? value = some fields ∧ EntryBodies c fields bodies

/-- A text as it stands in a component of a URL or a form: as it is where it is encoded
already, and percent-encoded otherwise. -/
def componentText : Bool → String → String
  | true, text => text
  | false, text => Percent.component text

/-- The pieces that an argument contributes. -/
inductive Contributes : Parameter → Json.Value → List Contribution → Prop
  | path {name : String} {encoded : Bool} {c : StringConverter} {value : Json.Value}
      {text : String} (hvalue : value ≠ .null) (htext : c.convert value = .ok text)
      (hstays : traverses encoded text = false) :
      Contributes (.path name encoded c) value
        [.path name (if encoded then text else Percent.segment text)]
  | url {c : StringConverter} {value : Json.Value} {text : String} (hvalue : value ≠ .null)
      (htext : c.convert value = .ok text) : Contributes (.url c) value [.target text]
  | query {name : String} {encoded : Bool} {c : StringConverter} {value : Json.Value}
      {texts : List String} (htexts : Texts c value texts) :
      Contributes (.query name encoded c) value
        (texts.map fun text =>
          .query (componentText encoded name) (some (componentText encoded text)))
  | queryMap {encoded : Bool} {c : StringConverter} {value : Json.Value}
      {texts : List (String × String)} (htexts : FieldTexts c value texts) :
      Contributes (.queryMap encoded c) value
        (texts.map fun (name, text) =>
          .query (componentText encoded name) (some (componentText encoded text)))
  | queryName {encoded : Bool} {c : StringConverter} {value : Json.Value}
      {texts : List String} (htexts : Texts c value texts) :
      Contributes (.queryName encoded c) value
        (texts.map fun text => .query (componentText encoded text) none)
  | header {name : String} {c : StringConverter} {value : Json.Value} {texts : List String}
      (htexts : Texts c value texts) :
      Contributes (.header name c) value (texts.map fun text => .header name text)
  | headerMap {c : StringConverter} {value : Json.Value} {texts : List (String × String)}
      (htexts : FieldTexts c value texts) :
      Contributes (.headerMap c) value (texts.map fun (name, text) => .header name text)
  | field {name : String} {encoded : Bool} {c : StringConverter} {value : Json.Value}
      {texts : List String} (htexts : Texts c value texts) :
      Contributes (.field name encoded c) value
        (texts.map fun text => .field (componentText encoded name) (componentText encoded text))
  | fieldMap {encoded : Bool} {c : StringConverter} {value : Json.Value}
      {texts : List (String × String)} (htexts : FieldTexts c value texts) :
      Contributes (.fieldMap encoded c) value
        (texts.map fun (name, text) =>
          .field (componentText encoded name) (componentText encoded text))
  | noPart {name : String} {c : RequestConverter} : Contributes (.part name c) .null []
  | part {name : String} {c : RequestConverter} {value : Json.Value} {body : RequestBody}
      (hvalue : value ≠ .null) (hbody : c.convert value = .ok body) :
      Contributes (.part name c) value [.part ⟨name, none, some body.contentType, body.bytes⟩]
  | partMap {c : RequestConverter} {value : Json.Value} {bodies : List (String × RequestBody)}
      (hbodies : FieldBodies c value bodies) :
      Contributes (.partMap c) value
        (bodies.map fun (name, sent) => .part ⟨name, none, some sent.contentType, sent.bytes⟩)
  | body {c : RequestConverter} {value : Json.Value} {body : RequestBody}
      (hvalue : value ≠ .null) (hbody : c.convert value = .ok body) :
      Contributes (.body c) value [.body body]

/-! ## The computed pieces -/

theorem isNull_eq_true {value : Json.Value} : isNull value = true ↔ value = .null := by
  cases value <;> simp [isNull]

theorem present_iff {items values : List Json.Value} :
    Present items values ↔ (items.filter fun item => !isNull item) = values := by
  constructor
  · intro h
    induction h with
    | nil => rfl
    | null _ ih => exact ih
    | @value item items values hitem _ ih =>
        rw [Ne, ← isNull_eq_true] at hitem
        rw [List.filter_cons_of_pos (by simpa using hitem), ih]
  · rintro rfl
    induction items with
    | nil => exact .nil
    | cons item items ih =>
        by_cases hitem : item = .null
        · rw [hitem]
          exact .null ih
        · have hthere : isNull item ≠ true := mt isNull_eq_true.1 hitem
          rw [List.filter_cons_of_pos (by simpa using hthere)]
          exact .value hitem ih

theorem standsFor_iff {value : Json.Value} {values : List Json.Value} :
    StandsFor value values ↔ eachValue value = values := by
  constructor
  · intro h
    cases h with
    | null => rfl
    | array hitems => exact present_iff.1 hitems
    | single hvalue harray =>
        cases value with
        | null => exact absurd rfl hvalue
        | array items => exact absurd rfl (harray items)
        | _ => rfl
  · rintro rfl
    cases value with
    | null => exact .null
    | array items => exact .array (present_iff.2 rfl)
    | _ => exact .single Json.Value.noConfusion fun _ => Json.Value.noConfusion

theorem encodeUnless_eq (encoded : Bool) : encodeUnless encoded = componentText encoded := by
  cases encoded <;> rfl

theorem queryItem_eq (encoded : Bool) (name : String) :
    queryItem encoded name = fun text =>
      .query (componentText encoded name) (some (componentText encoded text)) := by
  rw [← encodeUnless_eq]
  rfl

theorem formField_eq (encoded : Bool) (name : String) :
    formField encoded name = fun text =>
      .field (componentText encoded name) (componentText encoded text) := by
  rw [← encodeUnless_eq]
  rfl

theorem forValues_eq_ok {c : StringConverter} {f : String → Contribution} {value : Json.Value}
    {cs : List Contribution} :
    forValues c f value = cs.map .ok ↔ ∃ texts, Texts c value texts ∧ cs = texts.map f := by
  have hmap : forValues c f value = ((eachValue value).map c.convert).map (Except.map f) := by
    rw [List.map_map]
    rfl
  have htexts (texts : List String) :
      (eachValue value).map c.convert = texts.map .ok ↔ Texts c value texts := by
    rw [Outcome.map_eq_map_ok]
    constructor
    · exact fun h => ⟨_, standsFor_iff.2 rfl, h⟩
    · rintro ⟨values, hvalues, h⟩
      rwa [standsFor_iff.1 hvalues]
  simp only [hmap, Outcome.map_map_eq_ok, htexts]

/-- The pieces for the fields of a map argument, with an error for what is no map. -/
theorem forEntries_eq_ok {role : String} {value : Json.Value}
    {f : String → Json.Value → List (Except Error Contribution)} {cs : List Contribution} :
    forEntries role value f = cs.map .ok ↔
      ∃ fields, fields? value = some fields ∧
        (fields.flatMap fun (name, entry) => f name entry) = cs.map .ok := by
  cases value <;> simp [forEntries, fields?, Outcome.singleton_eq_map_ok]

theorem flatMap_forValues_eq_ok {c : StringConverter} {f : String → String → Contribution}
    {fields : List (String × Json.Value)} {cs : List Contribution} :
    (fields.flatMap fun (name, entry) => forValues c (f name) entry) = cs.map .ok ↔
      ∃ texts, EntryTexts c fields texts ∧ cs = texts.map fun (name, text) => f name text := by
  induction fields generalizing cs with
  | nil =>
      constructor
      · intro h
        exact ⟨[], .nil, List.map_eq_nil_iff.1 h.symm⟩
      · rintro ⟨texts, htexts, rfl⟩
        cases htexts
        rfl
  | cons field fields ih =>
      obtain ⟨name, entry⟩ := field
      rw [List.flatMap_cons, List.append_eq_map_iff]
      constructor
      · rintro ⟨own, rest, rfl, hown, hrest⟩
        obtain ⟨texts, htexts, rfl⟩ := forValues_eq_ok.1 hown.symm
        obtain ⟨more, hmore, rfl⟩ := ih.1 hrest.symm
        refine ⟨_, .cons htexts hmore, ?_⟩
        rw [List.map_append, List.map_map]
        rfl
      · rintro ⟨all, hall, rfl⟩
        cases hall with
        | @cons _ _ texts _ _ htexts hrest =>
            have hown : forValues c (f name) entry = (texts.map (f name)).map .ok :=
              forValues_eq_ok.2 ⟨texts, htexts, rfl⟩
            refine ⟨_, _, List.map_append, ?_, (ih.2 ⟨_, hrest, rfl⟩).symm⟩
            simp only [hown, List.map_map, Function.comp_def]

theorem forEntries_forValues_eq_ok {role : String} {c : StringConverter}
    {f : String → String → Contribution} {value : Json.Value} {cs : List Contribution} :
    (forEntries role value fun name entry => forValues c (f name) entry) = cs.map .ok ↔
      ∃ texts, FieldTexts c value texts ∧ cs = texts.map fun (name, text) => f name text := by
  rw [forEntries_eq_ok]
  simp only [flatMap_forValues_eq_ok, FieldTexts]
  constructor
  · rintro ⟨fields, hfields, texts, htexts, hcs⟩
    exact ⟨texts, ⟨fields, hfields, htexts⟩, hcs⟩
  · rintro ⟨texts, ⟨fields, hfields, htexts⟩, hcs⟩
    exact ⟨fields, hfields, texts, htexts, hcs⟩

/-- A field makes a part, unless it is nothing. -/
theorem partFor_eq_ok {c : RequestConverter} {name : String} {value : Json.Value}
    {cs : List Contribution} :
    partFor c name value = cs.map .ok ↔
      value = .null ∧ cs = [] ∨ value ≠ .null ∧ ∃ body, c.convert value = .ok body ∧
        cs = [.part ⟨name, none, some body.contentType, body.bytes⟩] := by
  rw [partFor]
  split
  · next hnull =>
      rw [isNull_eq_true] at hnull
      simp [hnull]
  · next hthere =>
      rw [isNull_eq_true] at hthere
      rw [Outcome.singleton_eq_map_ok]
      constructor
      · rintro ⟨piece, hpiece, rfl⟩
        obtain ⟨body, hbody, rfl⟩ := Outcome.map_eq_ok.1 hpiece
        exact .inr ⟨hthere, body, hbody, rfl⟩
      · rintro (⟨hnull, -⟩ | ⟨-, body, hbody, rfl⟩)
        · exact absurd hnull hthere
        · exact ⟨_, Outcome.map_eq_ok.2 ⟨body, hbody, rfl⟩, rfl⟩

theorem flatMap_partFor_eq_ok {c : RequestConverter} {fields : List (String × Json.Value)}
    {cs : List Contribution} :
    (fields.flatMap fun (name, entry) => partFor c name entry) = cs.map .ok ↔
      ∃ bodies, EntryBodies c fields bodies ∧
        cs = bodies.map fun (name, sent) =>
          .part ⟨name, none, some sent.contentType, sent.bytes⟩ := by
  induction fields generalizing cs with
  | nil =>
      constructor
      · intro h
        exact ⟨[], .nil, List.map_eq_nil_iff.1 h.symm⟩
      · rintro ⟨bodies, hbodies, rfl⟩
        cases hbodies
        rfl
  | cons field fields ih =>
      obtain ⟨name, entry⟩ := field
      rw [List.flatMap_cons, List.append_eq_map_iff]
      constructor
      · rintro ⟨own, rest, rfl, hown, hrest⟩
        obtain ⟨more, hmore, rfl⟩ := ih.1 hrest.symm
        rcases partFor_eq_ok.1 hown.symm with ⟨rfl, rfl⟩ | ⟨hentry, body, hbody, rfl⟩
        · exact ⟨more, .null hmore, rfl⟩
        · exact ⟨_, .cons hentry hbody hmore, rfl⟩
      · rintro ⟨all, hall, rfl⟩
        cases hall with
        | null hrest => exact ⟨[], _, rfl, rfl, (ih.2 ⟨_, hrest, rfl⟩).symm⟩
        | cons hentry hbody hrest =>
            exact ⟨[_], _, rfl, (partFor_eq_ok.2 (.inr ⟨hentry, _, hbody, rfl⟩)).symm,
              (ih.2 ⟨_, hrest, rfl⟩).symm⟩

theorem forEntries_partFor_eq_ok {role : String} {c : RequestConverter} {value : Json.Value}
    {cs : List Contribution} :
    forEntries role value (partFor c) = cs.map .ok ↔
      ∃ bodies, FieldBodies c value bodies ∧
        cs = bodies.map fun (name, sent) =>
          .part ⟨name, none, some sent.contentType, sent.bytes⟩ := by
  rw [forEntries_eq_ok]
  simp only [flatMap_partFor_eq_ok, FieldBodies]
  constructor
  · rintro ⟨fields, hfields, bodies, hbodies, hcs⟩
    exact ⟨bodies, ⟨fields, hfields, hbodies⟩, hcs⟩
  · rintro ⟨bodies, ⟨fields, hfields, hbodies⟩, hcs⟩
    exact ⟨fields, hfields, bodies, hbodies, hcs⟩

theorem pathValue_eq (name : String) (encoded : Bool) (c : StringConverter)
    (value : Json.Value) :
    pathValue name encoded c value =
      if isNull value then .error (.conversion (.nullPath name))
      else
        (c.convert value).bind fun text =>
          if traverses encoded text then .error (.conversion (.dotSegment name text))
          else .ok (.path name (if encoded then text else Percent.segment text)) := by
  unfold pathValue
  cases isNull value with
  | true => rfl
  | false =>
      cases c.convert value with
      | error e => rfl
      | ok text =>
          change (if traverses encoded text then _ else _) =
            if traverses encoded text then _ else _
          split <;> rfl

/-- The value of a name of the path can be made when it is there, can be converted and
stays in its place. -/
theorem pathValue_eq_ok {name : String} {encoded : Bool} {c : StringConverter}
    {value : Json.Value} {piece : Contribution} :
    pathValue name encoded c value = .ok piece ↔
      value ≠ .null ∧ ∃ text, c.convert value = .ok text ∧ traverses encoded text = false ∧
        piece = .path name (if encoded then text else Percent.segment text) := by
  rw [pathValue_eq, Ne, ← isNull_eq_true]
  split
  · next hnull => simp [hnull]
  · next hthere =>
      cases c.convert value with
      | error e => simp [Except.bind]
      | ok text =>
          rw [Except.bind]
          split
          · next htraverses => simp [htraverses]
          · next hstays =>
              rw [Bool.not_eq_true] at hstays
              constructor
              · intro h
                cases h
                exact ⟨hthere, text, rfl, hstays, rfl⟩
              · rintro ⟨-, text', htext, -, rfl⟩
                cases htext
                rfl

/-- A piece for a value that must be there can be made when it is there and can be
converted. -/
theorem required_eq_ok {α : Type} {value : Json.Value} {e : Error} {x : Except Error α}
    {f : α → Contribution} {cs : List Contribution} :
    (if isNull value then [.error e] else [x.map f]) = cs.map .ok ↔
      value ≠ .null ∧ ∃ a, x = .ok a ∧ cs = [f a] := by
  rw [Ne, ← isNull_eq_true]
  split
  · next hnull => simp [hnull, Outcome.singleton_eq_map_ok]
  · next hthere =>
      rw [Outcome.singleton_eq_map_ok]
      constructor
      · rintro ⟨piece, hpiece, rfl⟩
        obtain ⟨a, hx, rfl⟩ := Outcome.map_eq_ok.1 hpiece
        exact ⟨hthere, a, hx, rfl⟩
      · rintro ⟨-, a, rfl, rfl⟩
        exact ⟨f a, rfl, rfl⟩

/-- Computed pieces without an error are those that the argument contributes. -/
theorem contributes_of_contributions {p : Parameter} (hp : p.isStandard = true)
    {value : Json.Value} {cs : List Contribution} (h : p.contributions value = cs.map .ok) :
    p.Contributes value cs := by
  cases p with
  | path name encoded c =>
      obtain ⟨piece, hpiece, rfl⟩ := Outcome.singleton_eq_map_ok.1 h
      obtain ⟨hvalue, text, htext, hstays, rfl⟩ := pathValue_eq_ok.1 hpiece
      exact .path hvalue htext hstays
  | url c =>
      obtain ⟨hvalue, text, htext, rfl⟩ := required_eq_ok.1 h
      exact .url hvalue htext
  | query name encoded c =>
      rw [contributions, queryItem_eq] at h
      obtain ⟨texts, htexts, rfl⟩ := forValues_eq_ok.1 h
      exact .query htexts
  | queryMap encoded c =>
      simp only [contributions, queryItem_eq] at h
      obtain ⟨texts, htexts, rfl⟩ := forEntries_forValues_eq_ok.1 h
      exact .queryMap htexts
  | queryName encoded c =>
      rw [contributions, encodeUnless_eq] at h
      obtain ⟨texts, htexts, rfl⟩ := forValues_eq_ok.1 h
      exact .queryName htexts
  | header name c =>
      obtain ⟨texts, htexts, rfl⟩ := forValues_eq_ok.1 h
      exact .header htexts
  | headerMap c =>
      obtain ⟨texts, htexts, rfl⟩ := forEntries_forValues_eq_ok.1 h
      exact .headerMap htexts
  | field name encoded c =>
      rw [contributions, formField_eq] at h
      obtain ⟨texts, htexts, rfl⟩ := forValues_eq_ok.1 h
      exact .field htexts
  | fieldMap encoded c =>
      simp only [contributions, formField_eq] at h
      obtain ⟨texts, htexts, rfl⟩ := forEntries_forValues_eq_ok.1 h
      exact .fieldMap htexts
  | part name c =>
      obtain ⟨rfl, rfl⟩ | ⟨hvalue, body, hbody, rfl⟩ := partFor_eq_ok.1 h
      · exact .noPart
      · exact .part hvalue hbody
  | partMap c =>
      obtain ⟨bodies, hbodies, rfl⟩ := forEntries_partFor_eq_ok.1 h
      exact .partMap hbodies
  | body c =>
      obtain ⟨hvalue, body, hbody, rfl⟩ := required_eq_ok.1 h
      exact .body hvalue hbody
  | custom parameter => exact absurd hp (by simp [isStandard])

/-- What an argument contributes is what is computed, without an error. -/
theorem Contributes.contributions_eq {p : Parameter} {value : Json.Value}
    {cs : List Contribution} (h : p.Contributes value cs) :
    p.contributions value = cs.map .ok := by
  cases h with
  | path hvalue htext hstays =>
      exact Outcome.singleton_eq_map_ok.2
        ⟨_, pathValue_eq_ok.2 ⟨hvalue, _, htext, hstays, rfl⟩, rfl⟩
  | url hvalue htext => exact required_eq_ok.2 ⟨hvalue, _, htext, rfl⟩
  | query htexts =>
      rw [contributions, queryItem_eq]
      exact forValues_eq_ok.2 ⟨_, htexts, rfl⟩
  | queryMap htexts =>
      simp only [contributions, queryItem_eq]
      exact forEntries_forValues_eq_ok.2 ⟨_, htexts, rfl⟩
  | queryName htexts =>
      rw [contributions, encodeUnless_eq]
      exact forValues_eq_ok.2 ⟨_, htexts, rfl⟩
  | header htexts => exact forValues_eq_ok.2 ⟨_, htexts, rfl⟩
  | headerMap htexts => exact forEntries_forValues_eq_ok.2 ⟨_, htexts, rfl⟩
  | field htexts =>
      rw [contributions, formField_eq]
      exact forValues_eq_ok.2 ⟨_, htexts, rfl⟩
  | fieldMap htexts =>
      simp only [contributions, formField_eq]
      exact forEntries_forValues_eq_ok.2 ⟨_, htexts, rfl⟩
  | noPart => exact partFor_eq_ok.2 (.inl ⟨rfl, rfl⟩)
  | part hvalue hbody => exact partFor_eq_ok.2 (.inr ⟨hvalue, _, hbody, rfl⟩)
  | partMap hbodies => exact forEntries_partFor_eq_ok.2 ⟨_, hbodies, rfl⟩
  | body hvalue hbody => exact required_eq_ok.2 ⟨hvalue, _, hbody, rfl⟩

/-- The computed pieces hold no error exactly when the argument contributes them. -/
theorem contributions_eq_ok {p : Parameter} (hp : p.isStandard = true) {value : Json.Value}
    {cs : List Contribution} :
    p.contributions value = cs.map .ok ↔ p.Contributes value cs :=
  ⟨contributes_of_contributions hp, Contributes.contributions_eq⟩

/-- An argument contributes one list of pieces. -/
theorem Contributes.unique {p : Parameter} {value : Json.Value} {cs ds : List Contribution}
    (hcs : p.Contributes value cs) (hds : p.Contributes value ds) : cs = ds := by
  have hmap := hcs.contributions_eq
  rw [hds.contributions_eq] at hmap
  exact (List.map_injective_iff.2 (fun _ _ h => Except.ok.inj h) hmap).symm

/-! ## Kinds of pieces -/

/-- A parameter contributes a URL in the place of the path when that is its role. -/
theorem Contributes.length_targets {p : Parameter} {value : Json.Value}
    {cs : List Contribution} (h : p.Contributes value cs) :
    (cs.filterMap Contribution.target?).length = if p.role = .url then 1 else 0 := by
  cases h <;> simp [List.filterMap_map, Function.comp_def, role]

/-- A parameter contributes a body when it needs a raw one. -/
theorem Contributes.length_bodies {p : Parameter} {value : Json.Value}
    {cs : List Contribution} (h : p.Contributes value cs) :
    (cs.filterMap Contribution.body?).length =
      if p.bodyKind? = some .raw then 1 else 0 := by
  cases h <;> simp [List.filterMap_map, Function.comp_def, bodyKind?, role, Role.bodyKind?]

/-- What a parameter contributes to the body is of the kind that it needs. -/
theorem Contributes.bodyKind?_eq {p : Parameter} {value : Json.Value}
    {cs : List Contribution} (h : p.Contributes value cs) {c : Contribution} (hc : c ∈ cs)
    {kind : BodyKind} (hkind : c.bodyKind? = some kind) : p.bodyKind? = some kind := by
  rw [← hkind]
  cases h with
  | path | url | part | body =>
      rw [List.mem_singleton.1 hc]
      rfl
  | query | queryMap | queryName | header | headerMap | field | fieldMap | partMap =>
      obtain ⟨_, -, rfl⟩ := List.mem_map.1 hc
      rfl
  | noPart => exact absurd hc List.not_mem_nil

end Parameter

/-- The pieces that arguments contribute, each through the parameter of its place. -/
inductive ContributesAll : List Parameter → List Json.Value → List Contribution → Prop
  | nil : ContributesAll [] [] []
  | cons {p : Parameter} {ps : List Parameter} {value : Json.Value} {values : List Json.Value}
      {cs rest : List Contribution} (hfirst : p.Contributes value cs)
      (hrest : ContributesAll ps values rest) :
      ContributesAll (p :: ps) (value :: values) (cs ++ rest)

namespace ContributesAll

variable {ps : List Parameter} {values : List Json.Value} {cs : List Contribution}

theorem unique (h : ContributesAll ps values cs) {ds : List Contribution}
    (hds : ContributesAll ps values ds) : cs = ds := by
  induction h generalizing ds with
  | nil =>
      cases hds
      rfl
  | cons hfirst _ ih =>
      cases hds with
      | cons hother hrest => rw [hfirst.unique hother, ih hrest]

theorem length_targets (h : ContributesAll ps values cs) :
    (cs.filterMap Contribution.target?).length = (ps.map Parameter.role).count .url := by
  induction h with
  | nil => rfl
  | cons hfirst hrest ih =>
      rw [List.filterMap_append, List.length_append, hfirst.length_targets, ih, List.map_cons,
        List.count_cons, Nat.add_comm]
      simp

/-- Without a URL parameter nothing takes the place of the path. -/
theorem targets_eq_nil (h : ContributesAll ps values cs)
    (hurl : Role.url ∉ ps.map Parameter.role) : cs.filterMap Contribution.target? = [] := by
  have hlength := h.length_targets
  rw [List.count_eq_zero.2 hurl] at hlength
  exact List.eq_nil_of_length_eq_zero hlength

theorem length_bodies (h : ContributesAll ps values cs) :
    (cs.filterMap Contribution.body?).length =
      (ps.filterMap Parameter.bodyKind?).count .raw := by
  induction h with
  | nil => rfl
  | cons hfirst hrest ih =>
      rw [List.filterMap_append, List.length_append, hfirst.length_bodies, ih, Nat.add_comm]
      split
      · next hraw => rw [List.filterMap_cons_some hraw, List.count_cons_self]
      · next hraw =>
          rw [List.filterMap_cons]
          split
          · rfl
          · next kind hkind =>
              rw [hkind, Option.some.injEq] at hraw
              rw [List.count_cons_of_ne hraw, Nat.add_zero]

theorem bodyKind_mem (h : ContributesAll ps values cs) {c : Contribution} (hc : c ∈ cs)
    {kind : BodyKind} (hkind : c.bodyKind? = some kind) :
    kind ∈ ps.filterMap Parameter.bodyKind? := by
  induction h with
  | nil => exact absurd hc List.not_mem_nil
  | @cons p ps _ _ _ _ hfirst hrest ih =>
      rw [List.mem_filterMap]
      rcases List.mem_append.1 hc with hc | hc
      · exact ⟨p, List.mem_cons_self, hfirst.bodyKind?_eq hc hkind⟩
      · obtain ⟨q, hq, hkind⟩ := List.mem_filterMap.1 (ih hc)
        exact ⟨q, List.mem_cons_of_mem _ hq, hkind⟩

end ContributesAll

theorem Handling.run_ofPieces (pieces : List (Except Error Contribution)) (d : Draft) :
    (ofPieces pieces).run d = d.addAll pieces := by
  induction pieces generalizing d with
  | nil => rfl
  | cons piece rest ih =>
      cases piece with
      | error e => rfl
      | ok c =>
          have hadd : d.addAll (.ok c :: rest) = d.add c >>= fun next => next.addAll rest := rfl
          rw [hadd, Draft.add, ofPieces, run]
          cases (d.call c).1 with
          | error e => rfl
          | ok _ => exact ih (d.call c).2

/-- A parameter that is not of a kind of its own does nothing but contribute. -/
theorem Parameter.run_handling {p : Parameter} (hp : p.isStandard = true) (value : Json.Value)
    (d : Draft) : (p.handling value).run d = d.addAll (p.contributions value) := by
  cases p with
  | custom parameter => exact absurd hp (by simp [isStandard])
  | _ => exact Handling.run_ofPieces _ d

namespace ServiceMethod

theorem applyAll_cons {p : Parameter} (hp : p.isStandard = true) (ps : List Parameter)
    (value : Json.Value) (values : List Json.Value) (d : Draft) :
    applyAll (p :: ps) (value :: values) d =
      d.addAll (p.contributions value) >>= fun next => applyAll ps values next := by
  rw [applyAll, Parameter.run_handling hp]

/-- Arguments that contribute pieces leave these pieces for the draft to take. -/
theorem applyAll_eq_addAll {ps : List Parameter} {values : List Json.Value}
    {cs : List Contribution} (h : ContributesAll ps values cs)
    (hps : ∀ p ∈ ps, p.isStandard = true) (d : Draft) :
    applyAll ps values d = d.addAll (cs.map .ok) := by
  induction h generalizing d with
  | nil => rfl
  | cons hfirst hrest ih =>
      have hp := hps _ List.mem_cons_self
      rw [applyAll_cons hp, List.map_append, Draft.addAll_append, hfirst.contributions_eq]
      simp only [ih fun q hq => hps q (List.mem_cons_of_mem _ hq)]

/-- A draft that takes what all arguments contribute takes their pieces, in the order
of the parameters. -/
theorem extends_of_applyAll {ps : List Parameter} {values : List Json.Value} {d d' : Draft}
    (hps : ∀ p ∈ ps, p.isStandard = true) (hlength : values.length = ps.length)
    (h : applyAll ps values d = .ok d') :
    ∃ cs, ContributesAll ps values cs ∧ d.Extends cs d' := by
  induction ps generalizing values d with
  | nil =>
      rw [List.length_nil, List.length_eq_zero_iff] at hlength
      subst hlength
      cases h
      exact ⟨[], .nil, .refl _⟩
  | cons p ps ih =>
      cases values with
      | nil => exact absurd hlength (by simp)
      | cons value values =>
          have hp := hps p List.mem_cons_self
          rw [applyAll_cons hp] at h
          obtain ⟨next, hfirst, hrest⟩ := Outcome.bind_eq_ok.1 h
          obtain ⟨cs, hcs, hextends⟩ := Draft.extends_of_addAll hfirst
          obtain ⟨rest, hcontributes, hextendsRest⟩ :=
            ih (fun q hq => hps q (List.mem_cons_of_mem _ hq)) (Nat.succ.inj hlength) hrest
          exact ⟨cs ++ rest, .cons (Parameter.contributes_of_contributions hp hcs) hcontributes,
            hextends.trans hextendsRest⟩

/-- A method makes a request when it gets all of its arguments, a draft takes what they
contribute, and the draft makes the request. -/
theorem buildRequest_eq_ok {m : ServiceMethod} {boundary : String} {base : Url}
    {arguments : List Json.Value} {r : Request} :
    m.buildRequest boundary base arguments = .ok r ↔
      arguments.length = m.arity ∧
        ∃ draft, applyAll m.parameters arguments (m.startDraft boundary base) = .ok draft ∧
          draft.build = .ok r := by
  unfold buildRequest
  by_cases harity : arguments.length = m.arity
  · rw [if_neg (not_not_intro harity), Outcome.bind_eq_ok]
    simp only [harity, true_and]
  · rw [if_pos harity]
    simp [harity]

end ServiceMethod

end WebClient
