import WebClient.Interface.Client
import WebClient.Proofs.Interface.Declaring

/-!
# What is generated for the methods of a trait

For each method of a trait an interface has a method of its own: `InterfaceMethod.Reads` says
what is read of the signature and of the attributes, and `Interface.reads_of_ofTokens` that the
methods of an interface are read one by one.
-/

namespace WebClient

open Source (Attribute Input Phrase Signature Token Trait TraitItem TraitMethod)

/-! ## What a trait says -/

namespace Source

namespace Signature

/-- The patterns of the inputs with a type, in their order. -/
def patterns (s : Signature) : List Phrase := (s.inputs.map (·.1)).filterMap Input.pattern?

/-- The type that is returned is a result that is deferred. -/
def ReturnsDeferred (s : Signature) : Prop :=
  ∃ output type inner, s.output? = some output ∧ output.only? "Result" = some type ∧
    type.only? "Deferred" = some inner

end Signature

/-- The method that a trait declares with one of its items. -/
def TraitItem.method? : TraitItem → Option TraitMethod
  | .method m => some m
  | .other _ => none

/-- The methods that a trait declares. -/
def Trait.methods (t : Trait) : List TraitMethod := t.items.filterMap TraitItem.method?

/-- No attribute of a method or of its inputs holds an expression that is a directive. -/
def TraitMethod.IsPlain (m : TraitMethod) : Prop :=
  (∀ a ∈ m.attributes, a.isNamed "annotation" = false) ∧
    ∀ input ∈ m.signature.inputs.map (·.1), ∀ a ∈ input.attributes,
      a.isNamed "annotation" = false

end Source

/-! ## Markers -/

namespace Marker

/-- The marker is a standard directive. -/
def IsStandard (marker : Marker) : Prop := ∃ d, marker = .directive d ∧ d.isStandard = true

theorem isStandard_directive {d : Directive} (h : d.isStandard = true) :
    IsStandard (.directive d) :=
  ⟨d, rfl, h⟩

/-- An attribute of a method that holds no expression means a standard directive. -/
theorem isStandard_of_ofMethodAttribute {a : Attribute} {marker : Marker}
    (hplain : a.isNamed "annotation" = false) (h : ofMethodAttribute a = .ok (some marker)) :
    marker.IsStandard := by
  unfold ofMethodAttribute at h
  split at h
  · obtain ⟨text, -, h⟩ := Outcome.bind_eq_ok.1 h
    cases h
    exact isStandard_directive rfl
  · split at h
    · obtain ⟨route, -, h⟩ := Outcome.bind_eq_ok.1 h
      obtain ⟨d, hroute, h⟩ := Outcome.bind_eq_ok.1 h
      cases h
      refine isStandard_directive ?_
      unfold ofRoute at hroute
      split at hroute
      · cases hroute
      · split at hroute
        · cases hroute
        · cases hroute
          rfl
    · split at h
      · obtain ⟨lines, -, h⟩ := Outcome.bind_eq_ok.1 h
        cases h
        exact isStandard_directive rfl
      · split at h
        · obtain ⟨_, -, h⟩ := Outcome.bind_eq_ok.1 h
          cases h
          exact isStandard_directive rfl
        · rw [hplain] at h
          cases h

/-- An attribute of a parameter that holds no expression means a standard directive. -/
theorem isStandard_of_ofParameterAttribute {a : Attribute} {parameter : String}
    {marker : Marker} (hplain : a.isNamed "annotation" = false)
    (h : ofParameterAttribute a parameter = .ok (some marker)) : marker.IsStandard := by
  have hbare {d : Directive} {directive : Option Directive}
      (h : Except.map some (Except.map (fun _ => d) a.checkBare) = .ok directive) :
      directive = some d := by
    obtain ⟨_, hread, rfl⟩ := Outcome.map_eq_ok.1 h
    obtain ⟨_, -, rfl⟩ := Outcome.map_eq_ok.1 hread
    rfl
  -- An attribute gives a directive from its options, or a bare one, or none.
  unfold ofParameterAttribute at h
  dsimp only at h
  split at h <;> obtain ⟨directive, hread, h⟩ := Outcome.bind_eq_ok.1 h
  all_goals
    -- Without a directive only an annotation is a marker.
    obtain ⟨d, rfl⟩ : ∃ d, directive = some d := by
      cases directive with
      | none =>
          rw [hplain] at h
          cases h
      | some d => exact ⟨d, rfl⟩
    cases h
    refine isStandard_directive ?_
  all_goals first
    | (cases hbare hread
       rfl)
    | (obtain ⟨_, -, hsome⟩ := Outcome.map_eq_ok.1 hread
       cases hsome
       rfl)
    | cases hread

end Marker

/-! ## Parameters -/

namespace InterfaceParameter

/-- Standard directives mark what an input declares, unless one of its attributes holds an
expression. -/
theorem Declares.isStandard {input : Input} {p : InterfaceParameter} (h : Declares input p)
    (hplain : ∀ a ∈ input.attributes, a.isNamed "annotation" = false) :
    ∀ m ∈ p.markers, m.IsStandard := by
  rw [h.markers]
  intro marker hmarker
  obtain ⟨a, ha, hown⟩ := List.mem_filterMap.1 hmarker
  obtain ⟨read, hread⟩ := h.given.readable a ha
  rw [Marker.onParameter?_of_eq_ok hread] at hown
  exact Marker.isStandard_of_ofParameterAttribute (hplain a ha) (hown ▸ hread)

theorem completed_isStandard {names : List String} {p : InterfaceParameter}
    (h : ∀ m ∈ p.markers, m.IsStandard) : ∀ m ∈ (completed names p).markers, m.IsStandard := by
  by_cases hmarkers : p.markers = []
  · by_cases hname : p.name ∈ names
    · rw [completed_of_mem hmarkers hname]
      exact List.forall_mem_singleton.2 (Marker.isStandard_directive rfl)
    · rw [completed_of_not_mem hmarkers hname]
      exact List.forall_mem_singleton.2 (Marker.isStandard_directive rfl)
  · rw [completed_of_ne_nil hmarkers]
    exact h

end InterfaceParameter

/-! ## Methods -/

namespace InterfaceMethod

theorem splitAttributes_isStandard {attributes kept : List Attribute} {markers : List Marker}
    (hplain : ∀ a ∈ attributes, a.isNamed "annotation" = false)
    (h : splitAttributes attributes = .ok (kept, markers)) : ∀ m ∈ markers, m.IsStandard := by
  obtain ⟨hreadable, -, rfl⟩ := splitAttributes_eq_ok.1 h
  intro marker hmarker
  obtain ⟨a, ha, hown⟩ := List.mem_filterMap.1 hmarker
  obtain ⟨read, hread⟩ := hreadable a ha
  rw [Marker.onMethod?_of_eq_ok hread] at hown
  exact Marker.isStandard_of_ofMethodAttribute (hplain a ha) (hown ▸ hread)

/-- The answer is said to be deferred when the type that is returned says so. -/
theorem deferred_iff_of_answerOf {s : Signature} {deferred : Bool} {answer : Phrase}
    (h : answerOf s = .ok (deferred, answer)) : deferred = true ↔ s.ReturnsDeferred := by
  unfold answerOf at h
  unfold Signature.ReturnsDeferred
  cases houtput : s.output? with
  | none => simp [houtput] at h
  | some output =>
      cases htype : output.only? "Result" with
      | none => simp [houtput, htype] at h
      | some type =>
          cases hinner : type.only? "Deferred" with
          | none =>
              simp [houtput, htype, hinner] at h
              simp [htype, hinner, ← h.1]
          | some inner =>
              simp [houtput, htype, hinner] at h
              simp [htype, hinner, ← h.1]

theorem any_isAsynchronousMarker {markers : List Marker} :
    markers.any isAsynchronousMarker = true ↔ .directive .asynchronous ∈ markers := by
  rw [List.any_eq_true]
  constructor
  · rintro ⟨marker, hmem, hmarker⟩
    unfold isAsynchronousMarker at hmarker
    split at hmarker
    · exact hmem
    · cases hmarker
  · exact fun hmem => ⟨_, hmem, rfl⟩

/-- Markers are completed so that one says that the answer comes later exactly when it is
deferred, and then the method is not asynchronous itself. -/
theorem completeMarkers_eq_ok {s : Signature} {deferred : Bool} {own markers : List Marker}
    (h : completeMarkers s deferred own = .ok markers) :
    (deferred = true ↔ s.isAsynchronous = false) ∧
      (deferred = true ↔ .directive .asynchronous ∈ markers) ∧
      ∀ m ∈ markers, m ∈ own ∨ m = .directive .asynchronous := by
  unfold completeMarkers at h
  dsimp only at h
  cases deferred with
  | true =>
      cases hmode : s.isAsynchronous with
      | true => simp [hmode] at h
      | false =>
          simp only [hmode, if_true, Bool.false_eq_true, if_false, Except.ok.injEq] at h
          subst h
          -- The marker stands there already, or it is added behind the others.
          split
          · next hmarked =>
              rw [any_isAsynchronousMarker] at hmarked
              simp [hmarked]
              exact fun m hm => Or.inl hm
          · simp
  | false =>
      cases hmarked : own.any isAsynchronousMarker with
      | true => simp [hmarked] at h
      | false =>
          cases hmode : s.isAsynchronous with
          | false => simp [hmarked, hmode] at h
          | true =>
              simp [hmarked, hmode] at h
              subst h
              have hnone : Marker.directive .asynchronous ∉ own := by
                rw [← any_isAsynchronousMarker, hmarked]
                exact Bool.false_ne_true
              simp [hnone]
              exact fun m hm => Or.inl hm

/-- What is read of a method that a trait declares. -/
structure Reads (t : TraitMethod) (m : InterfaceMethod) : Prop where
  signature : m.signature = t.signature
  bodyless : t.hasBody = false
  shared : t.signature.first?.any Input.isShared = true
  answer : answerOf t.signature = .ok (m.deferred, m.answer)
  parameters : InterfaceParameter.ofInputs (route? m.markers) (t.signature.inputs.map (·.1)) =
    .ok m.parameters
  markers : ∃ own, splitAttributes t.attributes = .ok (m.attributes, own) ∧
    completeMarkers t.signature m.deferred own = .ok m.markers

theorem reads_of_ofMethod {t : TraitMethod} {m : InterfaceMethod} (h : ofMethod t = .ok m) :
    Reads t m := by
  unfold ofMethod at h
  dsimp only at h
  cases hbody : t.hasBody with
  | true =>
      rw [hbody] at h
      cases h
  | false =>
      cases hgeneric : t.signature.isGeneric with
      | true =>
          rw [hbody, hgeneric] at h
          cases h
      | false =>
          cases hshared : t.signature.first?.any Input.isShared with
          | false =>
              rw [hbody, hgeneric, hshared] at h
              cases h
          | true =>
              rw [hbody, hgeneric, hshared] at h
              obtain ⟨⟨kept, own⟩, hsplit, h⟩ := Outcome.bind_eq_ok.1 h
              obtain ⟨⟨deferred, answer⟩, hanswer, h⟩ := Outcome.bind_eq_ok.1 h
              obtain ⟨markers, hmarkers, h⟩ := Outcome.bind_eq_ok.1 h
              obtain ⟨parameters, hparameters, h⟩ := Outcome.bind_eq_ok.1 h
              cases h
              exact {
                signature := rfl
                bodyless := hbody
                shared := hshared
                answer := hanswer
                parameters := hparameters
                markers := ⟨own, hsplit, hmarkers⟩ }

variable {t : TraitMethod} {m : InterfaceMethod}

theorem Reads.deferred_iff (h : Reads t m) : m.deferred = true ↔ t.signature.ReturnsDeferred :=
  deferred_iff_of_answerOf h.answer

theorem Reads.synchronous_iff (h : Reads t m) :
    m.deferred = true ↔ t.signature.isAsynchronous = false := by
  obtain ⟨_, -, hmarkers⟩ := h.markers
  exact (completeMarkers_eq_ok hmarkers).1

theorem Reads.asynchronous_mem_iff (h : Reads t m) :
    m.deferred = true ↔ .directive .asynchronous ∈ m.markers := by
  obtain ⟨_, -, hmarkers⟩ := h.markers
  exact (completeMarkers_eq_ok hmarkers).2.1

/-- The first input is what the method is called on, so the others are all that have a type. -/
theorem Reads.typedInputs_eq (h : Reads t m) :
    InterfaceParameter.typedBehindFirst (t.signature.inputs.map (·.1)) =
      t.signature.typedInputs := by
  have hshared := h.shared
  unfold InterfaceParameter.typedBehindFirst Signature.typedInputs
  unfold Signature.first? at hshared
  cases hinputs : t.signature.inputs.map (·.1) with
  | nil => rfl
  | cons first rest =>
      rw [hinputs, List.head?_cons, Option.any_some] at hshared
      cases first with
      | receiver => rfl
      | typed => cases hshared

/-- The parameters are those of all patterns, in their order. -/
theorem Reads.names (h : Reads t m) :
    t.signature.patterns.map Phrase.name? = m.parameters.map fun p => some p.name := by
  obtain ⟨own, hdeclares, hparameters⟩ :=
    InterfaceParameter.exists_declares_of_ofInputs h.parameters
  rw [h.typedInputs_eq] at hdeclares
  have hnames : List.Forall₂ Eq (t.signature.typedInputs.map Input.name?)
      (own.map fun p => some p.name) := by
    rw [List.forall₂_map_left_iff, List.forall₂_map_right_iff]
    exact hdeclares.imp fun _ _ hp => hp.given.named
  rw [List.forall₂_eq_eq_eq] at hnames
  rw [Signature.patterns, Input.map_name?_filterMap_pattern?, hparameters, List.map_map]
  refine hnames.trans (List.map_congr_left fun p _ => ?_)
  rw [Function.comp_apply, InterfaceParameter.completed_name]

theorem Reads.markers_isStandard (h : Reads t m) (hplain : t.IsPlain) :
    ∀ marker ∈ m.markers, marker.IsStandard := by
  obtain ⟨own, hsplit, hcomplete⟩ := h.markers
  have hown := splitAttributes_isStandard hplain.1 hsplit
  intro marker hmarker
  obtain hmem | rfl := (completeMarkers_eq_ok hcomplete).2.2 marker hmarker
  · exact hown marker hmem
  · exact Marker.isStandard_directive rfl

theorem Reads.parameters_isStandard (h : Reads t m) (hplain : t.IsPlain) :
    ∀ p ∈ m.parameters, ∀ marker ∈ p.markers, marker.IsStandard := by
  obtain ⟨own, hdeclares, hparameters⟩ :=
    InterfaceParameter.exists_declares_of_ofInputs h.parameters
  rw [hparameters]
  intro p hp
  obtain ⟨q, hq, rfl⟩ := List.mem_map.1 hp
  obtain ⟨k, hk⟩ := List.getElem?_of_mem hq
  obtain ⟨input, hinput, hdeclared⟩ := Outcome.exists_getElem?_of_forall₂ hdeclares.flip hk
  have hmem := List.mem_of_mem_drop (List.mem_of_mem_filter (List.mem_of_getElem? hinput))
  exact InterfaceParameter.completed_isStandard (hdeclared.isStandard (hplain.2 input hmem))

end InterfaceMethod

/-! ## Interfaces -/

namespace Interface

/-- An item that is no method is refused, so each item gives a method. -/
theorem forall₂_reads_of_mapM {items : List TraitItem} {methods : List InterfaceMethod}
    (h : items.mapM methodOfItem = .ok methods) :
    List.Forall₂ InterfaceMethod.Reads (items.filterMap TraitItem.method?) methods := by
  have hall := Outcome.mapM_eq_ok.1 h
  clear h
  induction hall with
  | nil => exact .nil
  | @cons item m items methods hfirst hrest ih =>
      cases item with
      | method t => exact .cons (InterfaceMethod.reads_of_ofMethod hfirst) ih
      | other tokens => cases hfirst

/-- An interface is read from the trait that the tokens are, which has no parameters, and its
methods are those of all items. -/
theorem source_of_ofTokens {settings item : List Token} {i : Interface}
    (h : ofTokens settings item = .ok i) :
    Trait.ofTokens? item = some i.source ∧ i.source.isGeneric = false ∧
      i.source.items.mapM methodOfItem = .ok i.methods := by
  unfold ofTokens at h
  split at h
  · cases h
  · next t ht =>
      obtain ⟨name, -, h⟩ := Outcome.bind_eq_ok.1 h
      dsimp only at h
      split at h
      · cases h
      · next hgeneric =>
          obtain ⟨headers, -, h⟩ := Outcome.bind_eq_ok.1 h
          obtain ⟨methods, hmethods, h⟩ := Outcome.bind_eq_ok.1 h
          cases h
          exact ⟨ht, Bool.eq_false_iff.2 hgeneric, hmethods⟩

/-- The methods of an interface are read one by one from the methods of the trait. -/
theorem reads_of_ofTokens {settings item : List Token} {i : Interface}
    (h : ofTokens settings item = .ok i) :
    Trait.ofTokens? item = some i.source ∧
      List.Forall₂ InterfaceMethod.Reads i.source.methods i.methods := by
  obtain ⟨hsource, -, hmethods⟩ := source_of_ofTokens h
  exact ⟨hsource, forall₂_reads_of_mapM hmethods⟩

variable {i : Interface} {t : TraitMethod} {m : InterfaceMethod}

/-- The headers of the trait add a directive that says nothing about the answer. -/
theorem mem_markersOf {marker : Marker} :
    marker ∈ i.markersOf m ↔
      (i.headers.isEmpty = false ∧ marker = .directive (.headers i.headers)) ∨
        marker ∈ m.markers := by
  unfold markersOf
  cases i.headers.isEmpty <;> simp

theorem markersOf_isStandard (h : InterfaceMethod.Reads t m) (hplain : t.IsPlain) :
    ∀ marker ∈ i.markersOf m, marker.IsStandard := by
  intro marker hmarker
  obtain ⟨-, rfl⟩ | hmem := mem_markersOf.1 hmarker
  · exact Marker.isStandard_directive rfl
  · exact h.markers_isStandard hplain marker hmem

end Interface

end WebClient
