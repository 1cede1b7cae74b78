import WebClient.Interface.Writing
import WebClient.Proofs.Interface.Options
import WebClient.Proofs.Interface.Roles

/-!
# What parameters go by

A parameter goes by its name where no other is given: without markers it is bound to the
placeholder of its name, and an attribute that may be given a name and is given none stands for
that of the parameter.  The name is always the identifier as it is written.  A keyword is made an
identifier by `r#` before it, which is no part of the name that is denoted (`Interface.bareName`).
So a parameter that is written in this way goes by another name than it denotes wherever it goes
by its name at all, and every other parameter goes by the name that it denotes.
-/

namespace WebClient

open Source (Attribute Input Token TraitMethod)
open Source.Token (call hashed inside marks reference words)
open InterfaceParameter (Declares completed pathNames)

/-! ## Where a parameter goes by its name -/

/-- The attribute may be given a name and is given none; its options are the given ones. -/
structure OptionKind.LeavesOpen (k : OptionKind) (a : Attribute) (o : ParameterOptions) :
    Prop where
  named : k.named = true
  isNamed : a.path.name? = some k.attributeName
  options : k.options a = .ok o
  nameless : o.name = none

/-- If the attribute is given no name, its marker has that of a parameter called `x`. -/
def Marker.GoesBy (x : String) (a : Attribute) (marker : Marker) : Prop :=
  ∀ (k : OptionKind) (o : ParameterOptions), k.LeavesOpen a o →
    marker = .directive (k.directive x o)

namespace Source.Input

/-- The attributes of an input that are named like markers. -/
def owned (input : Input) : List Attribute := input.attributes.filter Marker.isParameterAttribute

/-- Something about the input is left to its name `x`: no attribute is a marker and the path has
the placeholder `x`, or an attribute that may be given a name is given none. -/
def IsLeftTo (x : String) (names : List String) (input : Input) : Prop :=
  (input.owned = [] ∧ x ∈ names) ∨
    ∃ a ∈ input.owned, ∃ (k : OptionKind) (o : ParameterOptions), k.LeavesOpen a o

end Source.Input

namespace InterfaceParameter

/-- The parameter goes by the name `x`: without markers of its own it is bound to the placeholder
`x` of the path, if there is one, and its markers are called `x` where they are given no name. -/
structure GoesBy (x : String) (names : List String) (input : Input) (p : InterfaceParameter) :
    Prop where
  bound : input.owned = [] → x ∈ names → p.markers = [.directive (.path x false)]
  marked : input.owned ≠ [] → List.Forall₂ (Marker.GoesBy x) input.owned p.markers

/-- The parameter has the identifier as it is written for its name and goes by it.  It goes by
the name that the identifier denotes if this is the same, or if nothing is left to that name. -/
structure GoesAsWritten (names : List String) (input : Input) (p : InterfaceParameter) :
    Prop where
  written : input.name? = some p.name
  goesBy : p.GoesBy p.name names input
  denoted_iff : p.GoesBy (Interface.bareName p.name) names input ↔
    Interface.bareName p.name = p.name ∨ ¬ input.IsLeftTo (Interface.bareName p.name) names

end InterfaceParameter

/-! ## Names of another length -/

theorem Marker.length_headerName (x : String) :
    (headerName x).toList.length = x.toList.length := by
  rw [headerName, String.toList_ofList, List.length_map]

theorem Interface.length_bareName {x : String} (h : bareName x ≠ x) :
    (bareName x).toList.length ≠ x.toList.length := by
  unfold bareName at h ⊢
  split at h
  · next rest hx =>
      rw [hx, String.toList_ofList, List.length_cons, List.length_cons]
      omega
  · exact absurd rfl h

/-- Names of different lengths, and their forms in headers, give different directives. -/
theorem OptionKind.LeavesOpen.directive_ne {k : OptionKind} {a : Attribute}
    {o : ParameterOptions} (h : k.LeavesOpen a o) {x y : String}
    (hlength : x.toList.length ≠ y.toList.length) : k.directive x o ≠ k.directive y o := by
  have hne : x ≠ y := fun heq => hlength (by rw [heq])
  have hnamed := h.named
  cases k with
  | queryMap | queryName | fieldMap => cases hnamed
  | path | query | field | part => simpa [directive, h.nameless] using hne
  | header =>
      simp only [directive, h.nameless, Option.getD_none, ne_eq, Directive.header.injEq]
      intro heq
      rw [← Marker.length_headerName x, heq, Marker.length_headerName] at hlength
      exact hlength rfl

/-! ## What is read -/

namespace Marker

/-- The attributes that are named like markers are the ones that are markers. -/
theorem forall₂_of_readable {attributes : List Attribute} {name : String}
    (h : ∀ a ∈ attributes, ∃ marker, ofParameterAttribute a name = .ok marker) :
    List.Forall₂ (fun a marker => ofParameterAttribute a name = .ok (some marker))
      (attributes.filter isParameterAttribute) (attributes.filterMap (onParameter? name)) := by
  induction attributes with
  | nil => exact .nil
  | cons a rest ih =>
      obtain ⟨⟨marker, hread⟩, hrest⟩ := List.forall_mem_cons.1 h
      have hown := onParameter?_of_eq_ok hread
      cases marker with
      | none =>
          rw [List.filterMap_cons_none hown, List.filter_cons_of_neg]
          · exact ih hrest
          · exact Bool.eq_false_iff.1 (ofParameterAttribute_eq_none.1 hread)
      | some marker =>
          rw [List.filterMap_cons_some hown, List.filter_cons_of_pos]
          · exact .cons hread (ih hrest)
          · by_contra hother
            have hnone : ofParameterAttribute a name = .ok none :=
              ofParameterAttribute_eq_none.2 (Bool.eq_false_iff.2 hother)
            rw [hnone] at hread
            cases hread

/-- A marker that is read goes by the name that it is read with. -/
theorem goesBy_of_read {a : Attribute} {name : String} {marker : Marker}
    (h : ofParameterAttribute a name = .ok (some marker)) : GoesBy name a marker := by
  intro k o hopen
  rw [k.ofParameterAttribute_eq hopen.isNamed, hopen.options] at h
  cases h
  rfl

end Marker

namespace InterfaceParameter

variable {names : List String} {input : Input} {p : InterfaceParameter}

theorem Declares.forall₂_read (h : Declares input p) :
    List.Forall₂ (fun a marker => Marker.ofParameterAttribute a p.name = .ok (some marker))
      input.owned p.markers := by
  rw [h.markers]
  exact Marker.forall₂_of_readable h.given.readable

theorem Declares.owned_eq_nil_iff (h : Declares input p) :
    input.owned = [] ↔ p.markers = [] := by
  rw [← List.length_eq_zero_iff, ← List.length_eq_zero_iff, h.forall₂_read.length_eq]

/-- What an input declares goes by the identifier as it is written. -/
theorem Declares.goesBy (h : Declares input p) :
    (completed names p).GoesBy p.name names input where
  bound howned hname := by rw [completed_of_mem (h.owned_eq_nil_iff.1 howned) hname]
  marked howned := by
    rw [completed_of_ne_nil (mt h.owned_eq_nil_iff.2 howned)]
    exact h.forall₂_read.imp fun _ _ => Marker.goesBy_of_read

/-- It goes by a name of another length only if nothing is left to that name. -/
theorem Declares.goesBy_iff (h : Declares input p) {x : String}
    (hlength : x.toList.length ≠ p.name.toList.length) :
    (completed names p).GoesBy x names input ↔ ¬ input.IsLeftTo x names := by
  constructor
  · rintro hgoes (⟨howned, hx⟩ | ⟨a, ha, k, o, hopen⟩)
    · -- The parameter is bound to the placeholder of its written name, or is the body.
      have hmarkers := hgoes.bound howned hx
      have hnil := h.owned_eq_nil_iff.1 howned
      by_cases hname : p.name ∈ names
      · rw [completed_of_mem hnil hname] at hmarkers
        have hsame : p.name = x := by simpa using hmarkers
        exact hlength (by rw [hsame])
      · rw [completed_of_not_mem hnil hname] at hmarkers
        simp at hmarkers
    · -- The marker is called by the written name.
      have howned := List.ne_nil_of_mem ha
      have hboth := hgoes.marked howned
      rw [completed_of_ne_nil (mt h.owned_eq_nil_iff.2 howned)] at hboth
      obtain ⟨j, hj⟩ := List.getElem?_of_mem ha
      obtain ⟨marker, hmarker, hread⟩ := Outcome.exists_getElem?_of_forall₂ h.forall₂_read hj
      obtain ⟨other, hother, hcalled⟩ := Outcome.exists_getElem?_of_forall₂ hboth hj
      obtain rfl : marker = other := Option.some.inj (hmarker.symm.trans hother)
      have hsame := (hcalled k o hopen).symm.trans (Marker.goesBy_of_read hread k o hopen)
      exact hopen.directive_ne hlength (Marker.directive.inj hsame)
  · intro hfree
    refine ⟨fun howned hx => absurd (.inl ⟨howned, hx⟩) hfree, fun howned => ?_⟩
    rw [completed_of_ne_nil (mt h.owned_eq_nil_iff.2 howned)]
    have hall := List.forall₂_and_left _ _ |>.2 ⟨fun a ha => ha, h.forall₂_read⟩
    exact hall.imp fun a _ ha k o hopen => absurd (.inr ⟨a, ha.1, k, o, hopen⟩) hfree

theorem Declares.goesAsWritten (h : Declares input p) :
    (completed names p).GoesAsWritten names input where
  written := by rw [completed_name, h.given.named]
  goesBy := by
    rw [completed_name]
    exact h.goesBy
  denoted_iff := by
    rw [completed_name]
    by_cases hraw : Interface.bareName p.name = p.name
    · rw [hraw]
      exact iff_of_true h.goesBy (.inl rfl)
    · rw [h.goesBy_iff (Interface.length_bareName hraw), or_iff_right hraw]

end InterfaceParameter

/-! ## Interfaces -/

theorem InterfaceMethod.Reads.goAsWritten {t : TraitMethod} {m : InterfaceMethod}
    (h : Reads t m) :
    List.Forall₂ (InterfaceParameter.GoesAsWritten (pathNames t.route?))
      t.signature.typedInputs m.parameters := by
  obtain ⟨own, hdeclares, hparameters⟩ :=
    InterfaceParameter.exists_declares_of_ofInputs h.parameters
  rw [h.typedInputs_eq] at hdeclares
  rw [hparameters, h.route?_eq, List.forall₂_map_right_iff]
  exact hdeclares.imp fun _ _ hp => hp.goesAsWritten

namespace Interface

/-- In every trait that is accepted each parameter goes by its identifier as it is written.  It
goes by the name that the identifier denotes exactly when nothing but this name is written, or
when nothing is left to it. -/
theorem parameters_goAsWritten {settings item : List Token} {i : Interface}
    (h : ofTokens settings item = .ok i) :
    List.Forall₂ (fun t m =>
        List.Forall₂ (InterfaceParameter.GoesAsWritten (pathNames t.route?))
          t.signature.typedInputs m.parameters)
      i.source.methods i.methods :=
  (reads_of_ofTokens h).2.imp fun _ _ hreads => hreads.goAsWritten

/-- A trait with three parameters, of which two are called by keywords. -/
def keywordTrait : List Token :=
  words ["pub", "trait", "Items"] ++
    inside .brace (
      hashed (call [.word "post"] [[.literal "r\"/items/\x7bkind\x7d/\x7btype\x7d\""]]) ++
      words ["async", "fn", "items"] ++
      inside .parenthesis (reference [.word "self"] ++ marks "," ++
        [.word "kind"] ++ marks ":" ++ [.word "u64"] ++ marks "," ++
        [.word "r#type"] ++ marks ":" ++ [.word "String"] ++ marks "," ++
        hashed [.word "query"] ++ [.word "r#ref"] ++ marks ":" ++ [.word "String"]) ++
      marks "->" ++ [.word "Result"] ++ marks "<" ++ [.word "u64"] ++ marks ">" ++ marks ";")

theorem parameters_goAsWritten_items :
    ∃ i, ofTokens [] keywordTrait = .ok i ∧
      (i.methods.map fun m => m.parameters.map InterfaceParameter.name) =
        [["kind", "r#type", "r#ref"]] ∧
      List.Forall₂ (fun t m =>
          List.Forall₂ (InterfaceParameter.GoesAsWritten (pathNames t.route?))
            t.signature.typedInputs m.parameters)
        i.source.methods i.methods := by
  have hread : ((ofTokens [] keywordTrait).toOption.any fun i =>
      decide ((i.methods.map fun m => m.parameters.map InterfaceParameter.name) =
        [["kind", "r#type", "r#ref"]])) = true := by
    decide +kernel
  obtain ⟨i, h, hnames⟩ := Outcome.exists_ok_of_any hread
  exact ⟨i, h, of_decide_eq_true hnames, parameters_goAsWritten h⟩

/-- The names and the directives of the parameters of each method. -/
def directives (i : Interface) : List (List (String × List (Option Directive))) :=
  i.methods.map fun m => m.parameters.map fun p => (p.name, p.markers.map Marker.directive?)

/-- A parameter that is called by a keyword does not go by it: though the path has a placeholder
`type`, the parameter `r#type` is the body, and `r#ref` is sent as `r#ref`. -/
theorem keyword_not_gone_by :
    bareName "r#type" = "type" ∧ bareName "r#ref" = "ref" ∧
      ∃ i, ofTokens [] keywordTrait = .ok i ∧
        (i.source.methods.map fun t => pathNames t.route?) = [["kind", "type"]] ∧
        i.directives = [[("kind", [some (.path "kind" false)]), ("r#type", [some .body]),
          ("r#ref", [some (.query "r#ref" false)])]] ∧
        ¬ List.Forall₂ (fun t m =>
            List.Forall₂ (fun input p => p.GoesBy (bareName p.name) (pathNames t.route?) input)
              t.signature.typedInputs m.parameters)
          i.source.methods i.methods := by
  refine ⟨rfl, rfl, ?_⟩
  have hread : ((ofTokens [] keywordTrait).toOption.any fun i =>
      decide ((i.source.methods.map fun t => pathNames t.route?) = [["kind", "type"]] ∧
        i.directives = [[("kind", [some (.path "kind" false)]), ("r#type", [some .body]),
          ("r#ref", [some (.query "r#ref" false)])]]) &&
      (i.source.methods.zip i.methods).any fun (t, m) =>
        (t.signature.typedInputs.zip m.parameters).any fun (input, p) =>
          decide (input.owned.length = 0 ∧ bareName p.name ∈ pathNames t.route? ∧
            p.markers.map Marker.directive? = [some .body])) = true := by
    decide +kernel
  obtain ⟨i, h, hfound⟩ := Outcome.exists_ok_of_any hread
  obtain ⟨hlisted, hany⟩ := Bool.and_eq_true_iff.1 hfound
  obtain ⟨hnames, hdirectives⟩ := of_decide_eq_true hlisted
  refine ⟨i, h, hnames, hdirectives, fun hall => ?_⟩
  obtain ⟨⟨t, m⟩, hmethod, hany⟩ := List.any_eq_true.1 hany
  obtain ⟨⟨input, p⟩, hparameter, hbody⟩ := List.any_eq_true.1 hany
  obtain ⟨howned, hname, hmarkers⟩ := of_decide_eq_true hbody
  have hparameters := (List.forall₂_iff_zip.1 hall).2 hmethod
  have hgoes := (List.forall₂_iff_zip.1 hparameters).2 hparameter
  rw [hgoes.bound (List.length_eq_zero_iff.1 howned) hname] at hmarkers
  simp [Marker.directive?] at hmarkers

end Interface

end WebClient
