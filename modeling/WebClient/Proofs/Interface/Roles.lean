import WebClient.Proofs.Interface.Generating

/-!
# What parameters stand for

A parameter with markers of its own has these.  One without is bound to the placeholder of
its name if the first verb of its method has a path with that placeholder, and is left over
otherwise.  A method has at most one parameter that is left over, and only if its first verb
takes a body; that parameter is the body.  Nothing else about inputs that can be read has a
method refused.
-/

namespace WebClient

open Source (Attribute Input Phrase TraitMethod)

/-! ## What inputs say -/

namespace Source.Input

/-- The input has a name that is none of the given ones, and no markers. -/
def isLeftOver (names : List String) (input : Input) : Bool :=
  input.name?.any fun name => (input.markers name).isEmpty && !names.contains name

end Source.Input

/-- The verb and the path of a marker that gives them. -/
def Marker.route? : Marker → Option (Method × String)
  | .directive (.http method path) => some (method, path.text)
  | _ => none

/-- The first verb and path among the attributes of a method. -/
def Source.TraitMethod.route? (t : TraitMethod) : Option (Method × String) :=
  t.attributes.findSome? fun a => (Marker.onMethod? a).bind Marker.route?

namespace InterfaceParameter

/-- A method with the given verb takes a body. -/
def TakesBody (route : Option (Method × String)) : Prop :=
  ∃ method path, route = some (method, path) ∧ (method = .post ∨ method = .put ∨ method = .patch)

/-- The inputs that are left over in a method of the given verb and path. -/
def leftOver (route : Option (Method × String)) (inputs : List Input) : List Input :=
  inputs.filter (Input.isLeftOver (pathNames route))

/-- What is made of an input is a parameter of its name and its type.  It has the markers of
the input; if these are none, it is bound to a placeholder exactly when its name is among the
given ones, and is the body otherwise. -/
structure StandsFor (names : List String) (input : Input) (p : InterfaceParameter) : Prop where
  given : input.Gives p.name p.type
  marked : input.markers p.name ≠ [] → p.markers = input.markers p.name
  bound_iff : input.markers p.name = [] →
    (p.markers = [.directive (.path p.name false)] ↔ p.name ∈ names)
  body : input.markers p.name = [] → p.name ∉ names → p.markers = [.directive .body]
  ne_nil : p.markers ≠ []

/-! ## What a declared parameter stands for -/

/-- A parameter is left over if its input is. -/
theorem Declares.isUnplaced_eq {names : List String} {input : Input} {p : InterfaceParameter}
    (h : Declares input p) : isUnplaced names p = input.isLeftOver names := by
  rw [isUnplaced, isLeftOver, Input.isLeftOver, h.given.named, h.markers]
  rfl

/-- What is declared becomes what the input stands for. -/
theorem Declares.standsFor {names : List String} {input : Input} {p : InterfaceParameter}
    (h : Declares input p) : StandsFor names input (completed names p) := by
  by_cases hmarkers : p.markers = []
  · have hown : input.markers p.name = [] := by rw [← h.markers, hmarkers]
    by_cases hname : p.name ∈ names
    · rw [completed_of_mem hmarkers hname]
      exact {
        given := h.given
        marked := fun hne => absurd hown hne
        bound_iff := fun _ => iff_of_true rfl hname
        body := fun _ hnot => absurd hname hnot
        ne_nil := List.cons_ne_nil _ _ }
    · rw [completed_of_not_mem hmarkers hname]
      exact {
        given := h.given
        marked := fun hne => absurd hown hne
        bound_iff := fun _ => iff_of_false (by simp) hname
        body := fun _ _ => rfl
        ne_nil := List.cons_ne_nil _ _ }
  · have hown : input.markers p.name ≠ [] := by rwa [← h.markers]
    rw [completed_of_ne_nil hmarkers]
    exact {
      given := h.given
      marked := fun _ => h.markers
      bound_iff := fun hnil => absurd hnil hown
      body := fun hnil => absurd hnil hown
      ne_nil := hmarkers }

/-- As many parameters are left over as inputs. -/
theorem length_isUnplaced {route : Option (Method × String)} {inputs : List Input}
    {own : List InterfaceParameter} (h : List.Forall₂ Declares inputs own) :
    (own.filter (isUnplaced (pathNames route))).length = (leftOver route inputs).length := by
  have halike : Relator.LiftFun Declares (· ↔ ·)
      (fun input => input.isLeftOver (pathNames route) = true)
      (fun p => isUnplaced (pathNames route) p = true) :=
    fun _ _ hp => Bool.eq_iff_iff.1 hp.isUnplaced_eq.symm
  exact (List.rel_filter halike h).length_eq.symm

/-! ## Placing what is left over -/

theorem any_takesBody_iff {route : Option (Method × String)} :
    (route.any fun (method, _) => takesBody method) = true ↔ TakesBody route := by
  unfold TakesBody
  cases route with
  | none => simp
  | some verb =>
      obtain ⟨method, path⟩ := verb
      cases method <;> simp [takesBody]

/-- Placing fails when two parameters are left over, or one is that no body is taken for. -/
theorem place_eq_error {route : Option (Method × String)} {own : List InterfaceParameter}
    {e : InterfaceError} :
    place route own = .error e ↔
      (2 ≤ (own.filter (isUnplaced (pathNames route))).length ∧ e = .severalUnmatched) ∨
        ((own.filter (isUnplaced (pathNames route))).length = 1 ∧ ¬ TakesBody route ∧
          e = .unmatchedParameter (pathNames route)) := by
  unfold place
  rw [← any_takesBody_iff]
  cases own.filter (isUnplaced (pathNames route)) with
  | nil => simp
  | cons p rest =>
      cases rest with
      | nil =>
          cases route.any fun (method, _) => takesBody method with
          | true => simp
          | false => simp [eq_comm (a := e)]
      | cons => simp [eq_comm (a := e)]

theorem length_le_one_of_place {route : Option (Method × String)}
    {own ps : List InterfaceParameter} (h : place route own = .ok ps) :
    (own.filter (isUnplaced (pathNames route))).length ≤ 1 ∧
      ((own.filter (isUnplaced (pathNames route))).length = 1 → TakesBody route) := by
  constructor
  · by_contra hmany
    rw [place_eq_error.2 (.inl ⟨by omega, rfl⟩)] at h
    cases h
  · intro hone
    by_contra hnone
    rw [place_eq_error.2 (.inr ⟨hone, hnone, rfl⟩)] at h
    cases h

end InterfaceParameter

/-! ## The first verb of a method -/

namespace InterfaceMethod

open InterfaceParameter (StandsFor TakesBody leftOver ofInputs pathNames typedBehindFirst userInputs)

theorem route?_eq (markers : List Marker) : route? markers = markers.findSome? Marker.route? := by
  unfold route?
  congr 1

/-- That the answer comes later is no verb. -/
theorem route?_of_completeMarkers {s : Source.Signature} {deferred : Bool}
    {own markers : List Marker} (h : completeMarkers s deferred own = .ok markers) :
    route? markers = route? own := by
  have hcases : markers = own ∨ markers = own ++ [.directive .asynchronous] := by
    unfold completeMarkers at h
    dsimp only at h
    split at h
    · split at h
      · cases h
      · cases h
        split <;> simp
    · split at h
      · cases h
      · split at h
        · cases h
          exact .inl rfl
        · cases h
  obtain rfl | rfl := hcases
  · rfl
  · rw [route?_eq, route?_eq, List.findSome?_append]
    exact Option.or_none

/-- The first verb among the markers of a method is that among its attributes. -/
theorem Reads.route?_eq {t : TraitMethod} {m : InterfaceMethod} (h : Reads t m) :
    route? m.markers = t.route? := by
  obtain ⟨own, hsplit, hcomplete⟩ := h.markers
  obtain ⟨-, -, rfl⟩ := splitAttributes_eq_ok.1 hsplit
  rw [route?_of_completeMarkers hcomplete, InterfaceMethod.route?_eq, ← List.head?_filterMap,
    List.filterMap_filterMap, List.head?_filterMap, TraitMethod.route?]

/-- The parameters of a method are made one by one of its inputs with a type, each standing
for what the input says.  At most one of these inputs is left over, and only if the first verb
of the method takes a body.

Where every input with a type can be read, the parameters are refused exactly when two or more
of them are left over, or one is and the first verb takes no body. -/
theorem parameters_standFor :
    (∀ (t : TraitMethod) (m : InterfaceMethod), ofMethod t = .ok m →
      List.Forall₂ (StandsFor (pathNames t.route?)) t.signature.typedInputs m.parameters ∧
        (leftOver t.route? t.signature.typedInputs).length ≤ 1 ∧
        (leftOver t.route? t.signature.typedInputs ≠ [] → TakesBody t.route?)) ∧
    ∀ (route : Option (Method × String)) (inputs : List Input),
      (∀ input ∈ typedBehindFirst inputs, input.IsReadable) →
        ∀ e, ofInputs route inputs = .error e ↔
          (2 ≤ (leftOver route (typedBehindFirst inputs)).length ∧ e = .severalUnmatched) ∨
          ((leftOver route (typedBehindFirst inputs)).length = 1 ∧ ¬ TakesBody route ∧
            e = .unmatchedParameter (pathNames route)) := by
  constructor
  · intro t m h
    have hreads := reads_of_ofMethod h
    have hparameters := hreads.parameters
    rw [hreads.route?_eq, InterfaceParameter.ofInputs_eq] at hparameters
    obtain ⟨own, hown, hplaced⟩ := Outcome.bind_eq_ok.1 hparameters
    have hdeclares := InterfaceParameter.declared_eq_ok.1 hown
    rw [hreads.typedInputs_eq] at hdeclares
    obtain ⟨hone, hbody⟩ := InterfaceParameter.length_le_one_of_place hplaced
    rw [InterfaceParameter.length_isUnplaced hdeclares] at hone hbody
    refine ⟨?_, hone, fun hsome => hbody ?_⟩
    · rw [InterfaceParameter.eq_map_completed_of_place hplaced, List.forall₂_map_right_iff]
      exact hdeclares.imp fun _ _ hp => hp.standsFor
    · have := List.length_pos_of_ne_nil hsome
      omega
  · intro route inputs hreadable e
    obtain ⟨own, hown⟩ := InterfaceParameter.exists_declared hreadable
    rw [InterfaceParameter.ofInputs_eq,
      Outcome.bind_of_ok (InterfaceParameter.declared_eq_ok.2 hown),
      InterfaceParameter.place_eq_error, InterfaceParameter.length_isUnplaced hown]

/-- A method that replaces a user and is told by a query whether to do so in full. -/
def replaceUser : TraitMethod where
  attributes := [⟨false, ⟨false, ["put"]⟩, .list .parenthesis [.literal "r\"/users/\x7bid\x7d\""]⟩]
  signature := {
    qualifiers := [.word "async"]
    name := "replace"
    parameters := []
    inputs := [
      (.receiver [] true false [.word "self"], []),
      (.typed [] (.binding [.word "id"] "id") (.plain [.word "u64"]), []),
      (.typed [⟨false, ⟨false, ["query"]⟩, .bare⟩, ⟨false, ⟨false, ["cfg"]⟩, .bare⟩]
        (.binding [.word "full"] "full") (.plain [.word "bool"]), []),
      (.typed [] (.binding [.word "user"] "user") (.plain [.word "User"]), [])]
    dots := []
    output? := some (.path [] .lone "Result" [.plain [.word "User"]])
    conditions := [] }
  body? := none

theorem parameters_standFor_users :
    (∃ m id full user, ofMethod replaceUser = .ok m ∧ m.parameters = [id, full, user] ∧
      id.markers = [.directive (.path "id" false)] ∧
      full.markers = [.directive (.query "full" false)] ∧
      user.markers = [.directive .body]) ∧
    ofInputs (some (.get, "/users/{id}")) userInputs = .error (.unmatchedParameter ["id"]) := by
  obtain ⟨haccepted, hrefused⟩ := parameters_standFor
  constructor
  · have hread : (ofMethod replaceUser).toOption.isSome = true := by decide +kernel
    obtain ⟨m, hm⟩ := Outcome.exists_ok_of_isSome hread
    obtain ⟨hall, -, -⟩ := haccepted _ _ hm
    have hnames : pathNames replaceUser.route? = ["id"] := by decide +kernel
    rw [hnames] at hall
    obtain ⟨id, _, hid, hrest, hps⟩ := List.forall₂_cons_left_iff.1 hall
    obtain ⟨full, _, hfull, hlast, rfl⟩ := List.forall₂_cons_left_iff.1 hrest
    obtain ⟨user, _, huser, hend, rfl⟩ := List.forall₂_cons_left_iff.1 hlast
    cases hend
    have hidName : "id" = id.name := Option.some.inj hid.given.named
    have hfullName : "full" = full.name := Option.some.inj hfull.given.named
    have huserName : "user" = user.name := Option.some.inj huser.given.named
    refine ⟨m, id, full, user, hm, hps, ?_, ?_, huser.body rfl (by simp [← huserName])⟩
    · rw [hidName]
      exact (hid.bound_iff rfl).2 (by simp [← hidName])
    · have hmarked := hfull.marked
      rw [← hfullName] at hmarked
      exact hmarked (List.cons_ne_nil _ _)
  · have hreadable : ∀ input ∈ typedBehindFirst userInputs, input.IsReadable :=
      List.forall_mem_cons.2 ⟨⟨"id", .plain [.word "u64"], rfl, rfl, by simp [Input.attributes]⟩,
        List.forall_mem_singleton.2
          ⟨"user", .plain [.word "User"], rfl, rfl, by simp [Input.attributes]⟩⟩
    refine (hrefused _ _ hreadable _).2 (.inr ⟨rfl, ?_, rfl⟩)
    rintro ⟨_, _, hget, hverb⟩
    cases hget
    simp at hverb

end InterfaceMethod

end WebClient
