import WebClient.Proofs.Interface.Ownership
import WebClient.Proofs.Interface.Placeholder

/-!
# What inputs declare

An input with a type declares a parameter: its pattern gives the name, and the markers are those
of its attributes.  The parameters of a method are what its inputs declare, one by one, each
completed by the names of the path.
-/

namespace WebClient

open Source (Attribute Input Phrase)

/-! ## What an input says -/

namespace Source.Input

/-- The attributes of an input. -/
def attributes : Input → List Attribute
  | .receiver attributes _ _ _ => attributes
  | .typed attributes _ _ => attributes

/-- The pattern of an input with a type. -/
def pattern? : Input → Option Phrase
  | .receiver .. => none
  | .typed _ pattern _ => some pattern

/-- The type of an input that has one. -/
def type? : Input → Option Phrase
  | .receiver .. => none
  | .typed _ _ type => some type

/-- The name that an input is given by its pattern. -/
def name? (input : Input) : Option String := input.pattern?.bind Phrase.name?

/-- The markers among the attributes of an input of the given name, in their order. -/
def markers (input : Input) (name : String) : List Marker :=
  input.attributes.filterMap (Marker.onParameter? name)

/-- The input has the name and the type, and none of its attributes is faulty. -/
structure Gives (input : Input) (name : String) (type : Phrase) : Prop where
  named : input.name? = some name
  typed : input.type? = some type
  readable : ∀ a ∈ input.attributes, ∃ marker, Marker.ofParameterAttribute a name = .ok marker

/-- The pattern of the input is a name, and none of its attributes is faulty. -/
def IsReadable (input : Input) : Prop := ∃ name type, input.Gives name type

/-- The patterns of inputs are those of the inputs with a type. -/
theorem map_name?_filterMap_pattern? (inputs : List Input) :
    (inputs.filterMap pattern?).map Phrase.name? =
      (inputs.filter fun input => !input.isReceiver).map name? := by
  induction inputs with
  | nil => rfl
  | cons input rest ih =>
      cases input with
      | receiver => exact ih
      | typed attributes pattern type => exact congrArg (pattern.name? :: ·) ih

end Source.Input

/-- The inputs of a method with a type. -/
def Source.Signature.typedInputs (s : Source.Signature) : List Input :=
  (s.inputs.map (·.1)).filter fun input => !input.isReceiver

namespace InterfaceParameter

/-! ## What is read of one input -/

/-- What an input says by itself about a parameter. -/
structure Declares (input : Input) (p : InterfaceParameter) : Prop where
  given : input.Gives p.name p.type
  markers : p.markers = input.markers p.name

theorem ofInput_nil_typed {attributes : List Attribute} {pattern type : Phrase} {name : String}
    (hname : pattern.name? = some name) :
    ofInput [] (.typed attributes pattern type) =
      (readMarkers attributes name).map fun markers => some ⟨name, type, markers⟩ := by
  rw [ofInput, hname]
  dsimp only
  cases readMarkers attributes name with
  | error e => rfl
  | ok markers => cases markers <;> rfl

/-- An input with a type gives the parameter that it declares, or reading it fails. -/
theorem ofInput_nil_eq_ok {input : Input} (htyped : input.isReceiver = false)
    {p? : Option InterfaceParameter} :
    ofInput [] input = .ok p? ↔ ∃ p, p? = some p ∧ Declares input p := by
  cases input with
  | receiver => cases htyped
  | typed attributes pattern type =>
      cases hname : pattern.name? with
      | none =>
          have hfails : ofInput [] (.typed attributes pattern type) = .error .unnamedParameter := by
            rw [ofInput, hname]
          rw [hfails]
          constructor
          · intro h
            cases h
          · rintro ⟨p, -, hp⟩
            have hnamed : pattern.name? = some p.name := hp.given.named
            rw [hname] at hnamed
            cases hnamed
      | some name =>
          rw [ofInput_nil_typed hname, Outcome.map_eq_ok]
          constructor
          · rintro ⟨markers, hread, rfl⟩
            obtain ⟨hreadable, rfl⟩ := readMarkers_eq_ok.1 hread
            exact ⟨_, rfl, ⟨⟨hname, rfl, hreadable⟩, rfl⟩⟩
          · rintro ⟨⟨ownName, ownType, own⟩, rfl, ⟨hnamed, htyped, hreadable⟩, hmarkers⟩
            obtain rfl : name = ownName := Option.some.inj (hname.symm.trans hnamed)
            obtain rfl : type = ownType := Option.some.inj htyped
            exact ⟨own, readMarkers_eq_ok.2 ⟨hreadable, hmarkers⟩, rfl⟩

theorem exists_declares_iff {input : Input} : (∃ p, Declares input p) ↔ input.IsReadable := by
  constructor
  · rintro ⟨p, hp⟩
    exact ⟨p.name, p.type, hp.given⟩
  · rintro ⟨name, type, hgives⟩
    exact ⟨⟨name, type, input.markers name⟩, hgives, rfl⟩

/-! ## What is read of all inputs -/

/-- The inputs with a type behind the first one. -/
def typedBehindFirst (inputs : List Input) : List Input :=
  (inputs.drop 1).filter fun input => !input.isReceiver

/-- The inputs with a type are gone through one by one, and each gives the parameter that it
declares. -/
theorem declared_eq_ok {inputs : List Input} {own : List InterfaceParameter} :
    declared inputs = .ok own ↔ List.Forall₂ Declares (typedBehindFirst inputs) own := by
  rw [declared, Outcome.map_eq_ok]
  unfold typedBehindFirst
  induction inputs.drop 1 generalizing own with
  | nil => simp [pure, Except.pure, eq_comm]
  | cons input rest ih =>
      cases htyped : input.isReceiver with
      | true =>
          have hskipped : ofInput [] input = .ok none := by
            cases input with
            | receiver => rfl
            | typed => cases htyped
          rw [List.filter_cons_of_neg (by simp [htyped]), ← ih, List.mapM_cons,
            Outcome.bind_of_ok hskipped]
          constructor
          · rintro ⟨read, hread, rfl⟩
            obtain ⟨others, hothers, h⟩ := Outcome.bind_eq_ok.1 hread
            cases h
            exact ⟨others, hothers, rfl⟩
          · rintro ⟨others, hothers, rfl⟩
            exact ⟨none :: others, Outcome.bind_eq_ok.2 ⟨others, hothers, rfl⟩, rfl⟩
      | false =>
          rw [List.filter_cons_of_pos (by simp [htyped]), List.forall₂_cons_left_iff,
            List.mapM_cons]
          constructor
          · rintro ⟨read, hread, rfl⟩
            obtain ⟨p?, hp, h⟩ := Outcome.bind_eq_ok.1 hread
            obtain ⟨others, hothers, h⟩ := Outcome.bind_eq_ok.1 h
            cases h
            obtain ⟨p, rfl, hdeclares⟩ := (ofInput_nil_eq_ok htyped).1 hp
            exact ⟨p, others.filterMap id, hdeclares, ih.1 ⟨others, hothers, rfl⟩, rfl⟩
          · rintro ⟨p, ps, hdeclares, hrest, rfl⟩
            obtain ⟨others, hothers, rfl⟩ := ih.2 hrest
            have hp := (ofInput_nil_eq_ok htyped).2 ⟨p, rfl, hdeclares⟩
            exact ⟨some p :: others,
              Outcome.bind_eq_ok.2 ⟨_, hp, Outcome.bind_eq_ok.2 ⟨others, hothers, rfl⟩⟩, rfl⟩

theorem exists_declared {inputs : List Input}
    (h : ∀ input ∈ typedBehindFirst inputs, input.IsReadable) :
    ∃ own, List.Forall₂ Declares (typedBehindFirst inputs) own :=
  exists_forall₂_iff.2 fun input hinput => exists_declares_iff.2 (h input hinput)

/-- The parameters of a method are what its inputs declare, completed one by one. -/
theorem exists_declares_of_ofInputs {route : Option (Method × String)} {inputs : List Input}
    {ps : List InterfaceParameter} (h : ofInputs route inputs = .ok ps) :
    ∃ own, List.Forall₂ Declares (typedBehindFirst inputs) own ∧
      ps = own.map (completed (pathNames route)) := by
  obtain ⟨own, hown, hps⟩ := exists_declared_of_ofInputs h
  exact ⟨own, declared_eq_ok.1 hown, hps⟩

end InterfaceParameter

end WebClient
