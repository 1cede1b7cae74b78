import WebClient.Interface.Method
import WebClient.Proofs.Outcome

/-!
# Which attributes are markers

Attributes of methods and of parameters are read one by one: an attribute is a marker, or
means nothing here, or is faulty.  What is read of all attributes of a method or a parameter
is what is read of each of them, in order.  The attributes of a parameter that are markers
are also listed by name, so that they can be told without being read; the list and the
reading agree (`Marker.ofParameterAttribute_eq_none`).
-/

namespace WebClient

open Source (Attribute NamePath)

namespace Source.NamePath

theorem isName_eq_true {path : NamePath} {name : String} :
    path.isName name = true ↔ path.name? = some name := by
  obtain ⟨leading, names⟩ := path
  cases leading with
  | true => simp [isName, name?]
  | false =>
      cases names with
      | nil => simp [isName, name?]
      | cons first rest => cases rest <;> simp [isName, name?]

end Source.NamePath

namespace Marker

/-! ## Attributes of methods -/

/-- The marker that an attribute of a method is. -/
def onMethod? (a : Attribute) : Option Marker := (ofMethodAttribute a).toOption.join

/-- The marker that an attribute of a parameter is. -/
def onParameter? (parameter : String) (a : Attribute) : Option Marker :=
  (ofParameterAttribute a parameter).toOption.join

theorem onMethod?_of_eq_ok {a : Attribute} {marker : Option Marker}
    (h : ofMethodAttribute a = .ok marker) : onMethod? a = marker := by
  rw [onMethod?, h]
  rfl

theorem onParameter?_of_eq_ok {parameter : String} {a : Attribute} {marker : Option Marker}
    (h : ofParameterAttribute a parameter = .ok marker) : onParameter? parameter a = marker := by
  rw [onParameter?, h]
  rfl

/-! ## Attributes of parameters -/

theorem isParameterAttribute_eq_true {a : Attribute} :
    isParameterAttribute a = true ↔ ∃ name ∈ parameterAttributes, a.path.name? = some name := by
  simp only [isParameterAttribute, List.any_eq_true, Attribute.isNamed, NamePath.isName_eq_true]

/-- Reading an attribute of a parameter finds no marker exactly when the name of the attribute
is none of those that are listed; what the parameter is called makes no difference. -/
theorem ofParameterAttribute_eq_none {a : Attribute} {parameter : String} :
    ofParameterAttribute a parameter = .ok none ↔ isParameterAttribute a = false := by
  unfold ofParameterAttribute
  dsimp only
  split
  case h_13 =>
    -- No listed name is left but that of expressions, which give a marker or are faulty.
    have hlisted : isParameterAttribute a = a.isNamed "annotation" := by
      rw [Bool.eq_iff_iff, isParameterAttribute_eq_true, Attribute.isNamed,
        NamePath.isName_eq_true]
      simp_all [parameterAttributes]
    rw [hlisted]
    cases hexpression : a.isNamed "annotation" with
    | true =>
        refine iff_of_false (fun h => ?_) Bool.noConfusion
        obtain ⟨_, hnone, h⟩ := Outcome.bind_eq_ok.1 h
        cases hnone
        obtain ⟨_, -, h⟩ := Outcome.bind_eq_ok.1 h
        cases h
    | false => exact iff_of_true rfl rfl
  -- Under the other names a directive is read, or reading fails.
  all_goals
    next hname =>
      have hlisted : isParameterAttribute a = true :=
        isParameterAttribute_eq_true.2 ⟨_, by decide, hname⟩
      refine iff_of_false (fun h => ?_) (by rw [hlisted]; exact Bool.noConfusion)
      obtain ⟨directive, hread, h⟩ := Outcome.bind_eq_ok.1 h
      obtain ⟨d, -, rfl⟩ := Outcome.map_eq_ok.1 hread
      cases h

end Marker

/-- The markers of a parameter are those of its attributes, unless one of these is faulty. -/
theorem InterfaceParameter.readMarkers_eq_ok {attributes : List Attribute} {name : String}
    {markers : List Marker} :
    readMarkers attributes name = .ok markers ↔
      (∀ a ∈ attributes, ∃ marker, Marker.ofParameterAttribute a name = .ok marker) ∧
        markers = attributes.filterMap (Marker.onParameter? name) := by
  have hread : readMarkers attributes name =
      (attributes.mapM fun a => Marker.ofParameterAttribute a name).map (List.filterMap id) := by
    unfold readMarkers
    cases attributes.mapM fun a => Marker.ofParameterAttribute a name <;> rfl
  rw [hread, Outcome.mapM_filterMap_eq_ok]
  rfl

/-- The attributes of a method are split into those that are markers and the others, unless
one of them is faulty. -/
theorem InterfaceMethod.splitAttributes_eq_ok {attributes kept : List Attribute}
    {markers : List Marker} :
    splitAttributes attributes = .ok (kept, markers) ↔
      (∀ a ∈ attributes, ∃ marker, Marker.ofMethodAttribute a = .ok marker) ∧
        kept = attributes.filter (fun a => (Marker.onMethod? a).isNone) ∧
        markers = attributes.filterMap Marker.onMethod? := by
  induction attributes generalizing kept markers with
  | nil => simp [splitAttributes, eq_comm]
  | cons a rest ih =>
      rw [splitAttributes, List.forall_mem_cons]
      cases hread : Marker.ofMethodAttribute a with
      | error e => simp [bind, Except.bind]
      | ok marker =>
          have hown := Marker.onMethod?_of_eq_ok hread
          constructor
          · intro h
            obtain ⟨_, hmarker, h⟩ := Outcome.bind_eq_ok.1 h
            cases hmarker
            obtain ⟨⟨others, more⟩, hsplit, h⟩ := Outcome.bind_eq_ok.1 h
            obtain ⟨hrest, rfl, rfl⟩ := ih.1 hsplit
            cases marker with
            | none =>
                cases h
                exact ⟨⟨⟨none, rfl⟩, hrest⟩, by simp [hown], by simp [hown]⟩
            | some marker =>
                cases h
                exact ⟨⟨⟨some marker, rfl⟩, hrest⟩, by simp [hown], by simp [hown]⟩
          · rintro ⟨⟨-, hrest⟩, rfl, rfl⟩
            have hsplit := ih.2 ⟨hrest, rfl, rfl⟩
            refine Outcome.bind_eq_ok.2 ⟨marker, rfl, Outcome.bind_eq_ok.2 ⟨_, hsplit, ?_⟩⟩
            cases marker <;> simp [hown, pure, Except.pure]

end WebClient
