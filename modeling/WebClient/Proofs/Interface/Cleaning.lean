import WebClient.Interface.Writing
import WebClient.Proofs.Interface.Roles

/-!
# The trait without markers

A trait is written again without what its methods and their inputs are marked with.  What is
a marker is decided twice: by reading an attribute, and, for inputs, by its name alone.  The
attributes that stay are those in which reading finds no marker, so the two agree on every
trait that is accepted.  Of the attributes of the trait itself only documentation, allowances
and conditions stay.
-/

namespace WebClient

open Source (Attribute Input Phrase Signature Token Trait TraitItem TraitMethod)
open Source.Token (call hashed inside leavesOf marks reference words)

/-! ## What stays -/

namespace Source

/-- An input without its markers.  Of what a method is called on every attribute stays that is
no marker. -/
inductive Input.Cleans : Input → Input → Prop where
  | receiver {attributes kept : List Attribute} {borrowed mutable : Bool} {wording : List Token}
      (hkept : kept.Sublist attributes)
      (hforeign : ∀ name, (attributes.filter fun a =>
        (Marker.onParameter? name a).isNone).Sublist kept) :
      Cleans (.receiver attributes borrowed mutable wording)
        (.receiver kept borrowed mutable wording)
  | typed {attributes : List Attribute} {pattern type : Phrase} {name : String}
      (hgives : (Input.typed attributes pattern type).Gives name type) :
      Cleans (.typed attributes pattern type)
        (.typed (attributes.filter fun a => (Marker.onParameter? name a).isNone) pattern type)

/-- A method without its markers and those of its inputs: attributes and a signature. -/
structure TraitMethod.Cleans (t : TraitMethod) (cleaned : List Attribute × Signature) : Prop where
  bodyless : t.body? = none
  readable : ∀ a ∈ t.attributes, ∃ marker, Marker.ofMethodAttribute a = .ok marker
  attributes : cleaned.1 = t.attributes.filter fun a => (Marker.onMethod? a).isNone
  signature : ∃ inputs, cleaned.2 = { t.signature with inputs := inputs } ∧
    List.Forall₂ (fun own kept => own.1.Cleans kept.1 ∧ own.2 = kept.2) t.signature.inputs inputs

/-- The tokens are those of a trait without its markers.  Nothing is said of what is made of the
qualifiers, of the bounds and of the conditions, but that nothing is added there. -/
def Trait.Cleans (t : Trait) (written : List Token) : Prop :=
  ∃ (own : List TraitMethod) (methods : List (List Attribute × Signature))
    (qualifiers bounds conditions : List Token),
    t.items = own.map .method ∧ List.Forall₂ TraitMethod.Cleans own methods ∧
    qualifiers.Sublist t.qualifiers ∧ bounds.Sublist t.bounds ∧
    conditions.Sublist t.conditions ∧
    written =
      Attribute.tokensOf (t.attributes.filter fun a =>
        a.isNamed "doc" || a.isNamed "allow" || a.isNamed "cfg") ++
      hashed (call [.word "allow"] [[.word "async_fn_in_trait"]]) ++
      t.visibility ++ qualifiers ++ words ["trait", t.name] ++ bounds ++ conditions ++
      inside .brace (methods.flatMap fun (attributes, signature) =>
        Attribute.tokensOf attributes ++ signature.tokens ++ marks ";")

end Source

/-! ## Inputs -/

/-- Attributes that can be read are told apart by their names as by reading them. -/
theorem Marker.filter_isParameterAttribute {attributes : List Attribute} {name : String}
    (h : ∀ a ∈ attributes, ∃ marker, ofParameterAttribute a name = .ok marker) :
    (attributes.filter fun a => !isParameterAttribute a) =
      attributes.filter fun a => (onParameter? name a).isNone := by
  refine List.filter_congr fun a ha => ?_
  obtain ⟨marker, hread⟩ := h a ha
  rw [onParameter?_of_eq_ok hread, Bool.eq_iff_iff, Bool.not_eq_true', Option.isNone_iff_eq_none]
  constructor
  · intro hforeign
    have hnone : ofParameterAttribute a name = .ok none :=
      ofParameterAttribute_eq_none.2 hforeign
    rw [hread] at hnone
    exact Except.ok.inj hnone
  · rintro rfl
    exact ofParameterAttribute_eq_none.1 hread

theorem Source.Input.cleans_keeping {input : Input}
    (h : input.isReceiver = false → input.IsReadable) :
    input.Cleans (input.keeping fun a => !Marker.isParameterAttribute a) := by
  cases input with
  | receiver => exact .receiver (List.Sublist.refl _) fun _ => List.filter_sublist
  | typed attributes pattern type =>
      obtain ⟨name, own, hgives⟩ := h rfl
      obtain rfl : type = own := Option.some.inj hgives.typed
      have hsame : (attributes.filter fun a => !Marker.isParameterAttribute a) =
          attributes.filter fun a => (Marker.onParameter? name a).isNone :=
        Marker.filter_isParameterAttribute hgives.readable
      rw [keeping, hsame]
      exact .typed hgives

/-! ## Methods -/

namespace InterfaceMethod

variable {t : TraitMethod} {m : InterfaceMethod}

/-- Every input with a type of a method that is accepted can be read. -/
theorem Reads.isReadable (h : Reads t m) : ∀ input ∈ t.signature.typedInputs, input.IsReadable := by
  obtain ⟨own, hdeclares, -⟩ := InterfaceParameter.exists_declares_of_ofInputs h.parameters
  rw [h.typedInputs_eq] at hdeclares
  intro input hinput
  exact InterfaceParameter.exists_declares_iff.1
    (exists_forall₂_iff.1 ⟨own, hdeclares⟩ input hinput)

theorem Reads.cleans (h : Reads t m) : t.Cleans (m.attributes, m.plainSignature) := by
  obtain ⟨own, hsplit, -⟩ := h.markers
  obtain ⟨hreadable, hkept, -⟩ := splitAttributes_eq_ok.1 hsplit
  have hsignature : m.plainSignature =
      t.signature.mapInputs (Input.keeping fun a => !Marker.isParameterAttribute a) := by
    rw [plainSignature, h.signature]
  refine {
    bodyless := Option.not_isSome_iff_eq_none.1 (Bool.eq_false_iff.1 h.bodyless)
    readable := hreadable
    attributes := hkept
    signature := ⟨_, hsignature, ?_⟩ }
  rw [List.forall₂_map_right_iff, List.forall₂_same]
  intro place hplace
  refine ⟨Input.cleans_keeping fun htyped => h.isReadable _ ?_, rfl⟩
  exact List.mem_filter.2 ⟨List.mem_map_of_mem hplace, by rw [htyped]; rfl⟩

end InterfaceMethod

/-! ## Interfaces -/

namespace Interface

/-- A trait that declares anything but methods is refused. -/
theorem items_eq_of_mapM {items : List TraitItem} {methods : List InterfaceMethod}
    (h : items.mapM methodOfItem = .ok methods) :
    items = (items.filterMap TraitItem.method?).map .method := by
  have hall := Outcome.mapM_eq_ok.1 h
  clear h
  induction hall with
  | nil => rfl
  | @cons item m items methods hfirst hrest ih =>
      cases item with
      | method t => exact congrArg _ ih
      | other tokens => cases hfirst

theorem keepsAttribute_eq (a : Attribute) :
    keepsAttribute a = (a.isNamed "doc" || a.isNamed "allow" || a.isNamed "cfg") := by
  rw [keepsAttribute, List.any_cons, List.any_cons, List.any_cons, List.any_nil, Bool.or_false,
    Bool.or_assoc]

variable {settings item : List Token} {i : Interface}

theorem plain_cleans (h : ofTokens settings item = .ok i) :
    Trait.ofTokens? item = some i.source ∧ i.source.parameters = [] ∧
      i.source.Cleans i.client.plain.tokens := by
  obtain ⟨hsource, hgeneric, hmethods⟩ := source_of_ofTokens h
  have hreads := forall₂_reads_of_mapM hmethods
  refine ⟨hsource, by simpa [Trait.isGeneric] using hgeneric, i.source.methods,
    i.methods.map fun m => (m.attributes, m.plainSignature), [], [], [],
    items_eq_of_mapM hmethods, ?_, List.nil_sublist _, List.nil_sublist _, List.nil_sublist _, ?_⟩
  · rw [List.forall₂_map_right_iff]
    exact hreads.imp fun _ _ h => h.cleans
  · rw [List.append_nil, List.append_nil, List.append_nil, ← funext keepsAttribute_eq]
    rfl

/-- A trait with a method that is marked, and attributes that are no markers. -/
def searchTrait : List Token :=
  hashed (call [.word "allow"] [[.word "missing_docs"]]) ++ words ["pub", "trait", "Search"] ++
    inside .brace (
      hashed [.word "must_use"] ++
      hashed (call [.word "get"] [[.literal "r\"/search\""]]) ++ words ["async", "fn", "search"] ++
      inside .parenthesis (reference [.word "self"] ++ marks "," ++ hashed [.word "query"] ++
        hashed (call [.word "cfg"] [[.word "test"]]) ++ [.word "term"] ++ marks ":" ++
        [.word "String"]) ++
      marks "->" ++ [.word "Result"] ++ marks "<" ++ [.word "u64"] ++ marks ">" ++ marks ";")

/-- The texts that the trait is written with when its markers are gone. -/
def searchTexts : List String := [
  "#", "[", "allow", "(", "missing_docs", ")", "]",
  "#", "[", "allow", "(", "async_fn_in_trait", ")", "]", "pub", "trait", "Search", "\x7b",
  "#", "[", "must_use", "]", "async", "fn", "search", "(", "&", "self", ",",
  "#", "[", "cfg", "(", "test", ")", "]", "term", ":", "String", ")", "-", ">",
  "Result", "<", "u64", ">", ";", "\x7d"]

theorem plain_cleans_search :
    ∃ i, ofTokens [] searchTrait = .ok i ∧ i.source.Cleans i.client.plain.tokens ∧
      leavesOf i.client.plain.tokens = searchTexts := by
  have hread : ((ofTokens [] searchTrait).toOption.any fun i =>
      decide (leavesOf i.client.plain.tokens = searchTexts)) = true := by
    decide +kernel
  obtain ⟨i, h, htexts⟩ := Outcome.exists_ok_of_any hread
  exact ⟨i, h, (plain_cleans h).2.2, of_decide_eq_true htexts⟩

/-- A trait that is deprecated and says what it takes to implement it, with a marker on what its
method is called on. -/
def guardedTrait : List Token :=
  hashed [.word "deprecated"] ++ words ["pub", "unsafe", "trait", "Guarded"] ++ marks ":" ++
    words ["Send", "where", "Self"] ++ marks ":" ++ [.word "Sync"] ++
    inside .brace (
      hashed (call [.word "get"] [[.literal "r\"/x\""]]) ++ words ["async", "fn", "get"] ++
      inside .parenthesis (hashed [.word "path"] ++ reference [.word "self"]) ++
      marks "->" ++ [.word "Result"] ++ marks "<" ++ [.word "u64"] ++ marks ">" ++ marks ";")

/-- Of a trait that is accepted, an attribute that is no marker, the word that restricts it, its
bounds and its conditions may be lost, and an attribute that is named as a marker is may stay. -/
theorem lost_of_guarded :
    ∃ i, ofTokens [] guardedTrait = .ok i ∧
      (∀ text ∈ ["deprecated", "unsafe", "Send", "where", "Sync"],
        text ∈ leavesOf guardedTrait ∧ text ∉ leavesOf i.client.plain.tokens) ∧
      "path" ∈ leavesOf i.client.plain.tokens := by
  have hread : ((ofTokens [] guardedTrait).toOption.any fun i =>
      decide ((∀ text ∈ ["deprecated", "unsafe", "Send", "where", "Sync"],
        text ∈ leavesOf guardedTrait ∧ text ∉ leavesOf i.client.plain.tokens) ∧
      "path" ∈ leavesOf i.client.plain.tokens)) = true := by
    decide +kernel
  obtain ⟨i, h, hlost⟩ := Outcome.exists_ok_of_any hread
  exact ⟨i, h, of_decide_eq_true hlost⟩

end Interface

end WebClient
