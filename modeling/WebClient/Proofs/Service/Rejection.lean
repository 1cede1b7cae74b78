import WebClient.Proofs.Service.Building

/-!
# Why steps do not make a method

`MethodBuilder.build` fails with the first rule that is broken, and names the place of a
parameter where one is at fault.  The rules are taken in this order: there is a verb,
every place has a parameter, the kinds of body agree, a URL parameter takes the place of
the path, the names of the path and the path parameters match, and there is a converter
for the answer.  `MethodBuilder.Rejects` says which rule is the first broken one without
following the checks; a fault in a list stands behind the longest front without one.
-/

namespace WebClient

namespace MethodBuilder

/-! ## Places -/

/-- The place behind a front, counted from the place of its first member or from the next. -/
theorem place_cons {α : Type} (index : Nat) (x : α) (front : List α) :
    index + (x :: front).length = index + 1 + front.length := by
  rw [List.length_cons]
  omega

theorem collectParameters_eq_error {known : List (Nat × Parameter)} {index count : Nat}
    {e : ConfigError} :
    collectParameters known index count = .error e ↔
      ∃ i, index ≤ i ∧ i < index + count ∧ known.lookup i = none ∧
        (∀ j, index ≤ j → j < i → ∃ p, known.lookup j = some p) ∧
        e = errorAt i (.missingParameterHandler i) := by
  induction count generalizing index with
  | zero =>
      rw [collectParameters]
      constructor
      · intro h
        cases h
      · rintro ⟨i, hfrom, hto, -⟩
        omega
  | succ count ih =>
      rw [collectParameters]
      cases hfirst : known.lookup index with
      | none =>
          constructor
          · intro h
            cases h
            exact ⟨index, Nat.le_refl _, by omega, hfirst, fun j hj hj' => by omega, rfl⟩
          · rintro ⟨i, hfrom, -, -, hbefore, rfl⟩
            obtain rfl | hlater := Nat.eq_or_lt_of_le hfrom
            · rfl
            · obtain ⟨p, hp⟩ := hbefore index (Nat.le_refl _) hlater
              rw [hfirst] at hp
              cases hp
      | some p =>
          rw [Outcome.map_eq_error, ih]
          constructor
          · rintro ⟨i, hfrom, hto, hmissing, hbefore, he⟩
            refine ⟨i, by omega, by omega, hmissing, fun j hj hj' => ?_, he⟩
            obtain rfl | hlater := Nat.eq_or_lt_of_le hj
            · exact ⟨p, hfirst⟩
            · exact hbefore j hlater hj'
          · rintro ⟨i, hfrom, hto, hmissing, hbefore, he⟩
            have hlater : index ≠ i := by
              rintro rfl
              rw [hfirst] at hmissing
              cases hmissing
            exact ⟨i, by omega, by omega, hmissing, fun j hj => hbefore j (by omega), he⟩

/-! ## Kinds of body -/

/-- The kind of body that is set and those that parameters need are the same, and at most
one parameter is a raw body. -/
def BodiesAgree (kind : Option BodyKind) (ps : List Parameter) : Prop :=
  AllSame (kind.toList ++ ps.filterMap Parameter.bodyKind?) ∧
    (ps.filterMap Parameter.bodyKind?).count .raw ≤ 1

/-- The kinds of body clash at a place: a second raw body, or another kind than before. -/
inductive BodyClash (kind : Option BodyKind) : List Parameter → Nat → ConfigCause → Prop
  | duplicate {front rest : List Parameter} {p : Parameter} (hfront : BodiesAgree kind front)
      (hp : p.bodyKind? = some .raw)
      (hraw : BodyKind.raw ∈ front.filterMap Parameter.bodyKind?) :
      BodyClash kind (front ++ p :: rest) front.length .duplicateBody
  | conflict {front rest : List Parameter} {p : Parameter} {first own : BodyKind}
      (hfront : BodiesAgree kind front)
      (hfirst : (kind.toList ++ front.filterMap Parameter.bodyKind?).head? = some first)
      (hp : p.bodyKind? = some own) (hne : first ≠ own) :
      BodyClash kind (front ++ p :: rest) front.length (.conflictingBody first own)

/-- The check of the kinds goes through the parameters from left to right. -/
theorem resolveBodyKind_append (kind : Option BodyKind) (rawSeen : Bool) (index : Nat)
    (front rest : List Parameter) :
    resolveBodyKind kind rawSeen index (front ++ rest) =
      resolveBodyKind kind rawSeen index front >>= fun known =>
        resolveBodyKind known
          (rawSeen || decide (BodyKind.raw ∈ front.filterMap Parameter.bodyKind?))
          (index + front.length) rest := by
  induction front generalizing kind rawSeen index with
  | nil =>
      rw [List.filterMap_nil, decide_eq_false List.not_mem_nil, Bool.or_false]
      rfl
  | cons p front ih =>
      rw [List.cons_append, resolveBodyKind, resolveBodyKind, place_cons]
      cases hp : p.bodyKind? with
      | none =>
          rw [List.filterMap_cons_none hp]
          exact ih kind rawSeen (index + 1)
      | some own =>
          have hseen : (rawSeen || decide (BodyKind.raw ∈ own :: front.filterMap
                Parameter.bodyKind?)) =
              (rawSeen || decide (own = .raw) ||
                decide (BodyKind.raw ∈ front.filterMap Parameter.bodyKind?)) := by
            rw [Bool.or_assoc, ← Bool.decide_or]
            congr 1
            exact decide_eq_decide.2 (List.mem_cons.trans (or_congr_left eq_comm))
          rw [List.filterMap_cons_some hp, hseen]
          dsimp only
          split
          · rfl
          · cases kind with
            | none => exact ih (some own) _ (index + 1)
            | some first =>
                dsimp only
                split
                · exact ih (some first) _ (index + 1)
                · rfl

/-- One more parameter fails the check when it is a second raw body or needs another kind. -/
theorem resolveBodyKind_singleton_eq_error {kind : Option BodyKind} {rawSeen : Bool}
    {index : Nat} {p : Parameter} {e : ConfigError} :
    resolveBodyKind kind rawSeen index [p] = .error e ↔
      p.bodyKind? = some .raw ∧ rawSeen = true ∧ e = errorAt index .duplicateBody ∨
        ∃ first own, p.bodyKind? = some own ∧ ¬ (own = .raw ∧ rawSeen = true) ∧
          kind = some first ∧ first ≠ own ∧ e = errorAt index (.conflictingBody first own) := by
  rw [resolveBodyKind]
  cases hp : p.bodyKind? with
  | none => simp [resolveBodyKind]
  | some own =>
      by_cases hraw : own = .raw ∧ rawSeen = true
      · obtain ⟨rfl, rfl⟩ := hraw
        simp [eq_comm]
      · have hcondition : (decide (own = .raw) && rawSeen) = false := by simpa using hraw
        have hsecond : ¬ (some own = some .raw ∧ rawSeen = true ∧
            e = errorAt index .duplicateBody) := by
          rintro ⟨hown, hseen, -⟩
          exact hraw ⟨Option.some.inj hown, hseen⟩
        simp only [hcondition, Bool.false_eq_true, if_false, or_iff_right hsecond]
        cases kind with
        | none => simp [resolveBodyKind]
        | some first =>
            by_cases hsame : first = own
            · subst hsame
              simp [resolveBodyKind]
            · dsimp only
              rw [if_neg hsame]
              constructor
              · intro h
                cases h
                exact ⟨first, own, rfl, hraw, rfl, hsame, rfl⟩
              · rintro ⟨_, _, ⟨⟩, -, ⟨⟩, -, rfl⟩
                rfl

theorem resolveBodyKind_eq_error {kind : Option BodyKind} {ps : List Parameter}
    {e : ConfigError} :
    resolveBodyKind kind false 0 ps = .error e ↔
      ∃ index cause, BodyClash kind ps index cause ∧ e = errorAt index cause := by
  have hnil : resolveBodyKind kind false 0 [] = .ok kind := rfl
  have hconcat (front : List Parameter) (p : Parameter) :=
    resolveBodyKind_append kind false 0 front [p]
  refine (Outcome.eq_error_of_concat hnil hconcat).trans ?_
  constructor
  · rintro ⟨front, p, rest, known, rfl, hfront, hp⟩
    obtain ⟨hsame, hcount, hknown⟩ := resolveBodyKind_eq_ok.1 hfront
    rw [resolveBodyKind_singleton_eq_error, Nat.zero_add, Bool.false_or,
      decide_eq_true_eq] at hp
    have hagree : BodiesAgree kind front := ⟨hsame, hcount⟩
    obtain ⟨hraw, hseen, rfl⟩ | ⟨first, own, hown, -, hfirst, hne, rfl⟩ := hp
    · exact ⟨_, _, .duplicate hagree hraw hseen, rfl⟩
    · exact ⟨_, _, .conflict hagree (hknown.symm.trans hfirst) hown hne, rfl⟩
  · rintro ⟨index, cause, hclash, rfl⟩
    cases hclash with
    | @duplicate front rest p hagree hp hraw =>
        refine ⟨front, p, rest, _, rfl, resolveBodyKind_eq_ok.2 ⟨hagree.1, hagree.2, rfl⟩, ?_⟩
        rw [resolveBodyKind_singleton_eq_error, Nat.zero_add]
        exact Or.inl ⟨hp, decide_eq_true hraw, rfl⟩
    | @conflict front rest p first own hagree hfirst hp hne =>
        refine ⟨front, p, rest, _, rfl, resolveBodyKind_eq_ok.2 ⟨hagree.1, hagree.2, rfl⟩, ?_⟩
        rw [resolveBodyKind_singleton_eq_error, Nat.zero_add]
        refine Or.inr ⟨first, own, hp, ?_, hfirst, hne, rfl⟩
        -- The first kind is that of every one in front, so a raw one there is no clash.
        rintro ⟨rfl, hseen⟩
        have hmem := List.mem_append_right kind.toList (of_decide_eq_true hseen)
        exact hne (hagree.1 _ (List.mem_of_head? hfirst) _ hmem)

/-! ## URL parameters -/

/-- A URL parameter takes the place of the path. -/
def UrlFits (roles : List Role) (path : Template) : Prop :=
  roles.count .url ≤ 1 ∧ (roles.count .url = 1 ↔ path.text = "")

/-- URL parameters and the path clash, at the place of a parameter if there is one. -/
inductive UrlClash (path : Template) : List Role → Option Nat → ConfigCause → Prop
  | duplicate {front rest : List Role} (hfront : front.count .url = 1) :
      UrlClash path (front ++ .url :: rest) (some front.length) .duplicateUrl
  | withPath {front rest : List Role} (hfront : .url ∉ front) (hrest : .url ∉ rest)
      (hpath : path.text ≠ "") :
      UrlClash path (front ++ .url :: rest) (some front.length) (.urlWithPath path.text)
  | emptyPath {roles : List Role} (hroles : .url ∉ roles) (hpath : path.text = "") :
      UrlClash path roles none .emptyPath

theorem urlIndices_append (index : Nat) (front rest : List Role) :
    urlIndices index (front ++ rest) =
      urlIndices index front ++ urlIndices (index + front.length) rest := by
  induction front generalizing index with
  | nil => rfl
  | cons role front ih =>
      rw [List.cons_append, urlIndices, urlIndices, ih, place_cons]
      split
      · rfl
      · rfl

theorem urlIndices_eq_nil {index : Nat} {roles : List Role} :
    urlIndices index roles = [] ↔ .url ∉ roles := by
  rw [← List.length_eq_zero_iff, length_urlIndices, List.count_eq_zero]

/-- The first place of a URL parameter has none in front of it. -/
theorem urlIndices_eq_cons {index i : Nat} {roles : List Role} {more : List Nat} :
    urlIndices index roles = i :: more ↔
      ∃ front rest, roles = front ++ .url :: rest ∧ .url ∉ front ∧ i = index + front.length ∧
        more = urlIndices (i + 1) rest := by
  constructor
  · intro h
    have hmem : .url ∈ roles := by
      by_contra hnone
      rw [urlIndices_eq_nil.2 hnone] at h
      cases h
    obtain ⟨front, rest, rfl, hfront⟩ := List.eq_append_cons_of_mem hmem
    rw [urlIndices_append, urlIndices_eq_nil.2 hfront, List.nil_append, urlIndices,
      if_pos rfl] at h
    obtain ⟨rfl, rfl⟩ := List.cons_eq_cons.1 h
    exact ⟨front, rest, rfl, hfront, rfl, rfl⟩
  · rintro ⟨front, rest, rfl, hfront, rfl, rfl⟩
    rw [urlIndices_append, urlIndices_eq_nil.2 hfront, List.nil_append, urlIndices, if_pos rfl]

/-- The URL parameters and the path do not fit together when one rule on them is broken. -/
theorem checkUrl_eq_error {roles : List Role} {path : Template} {e : ConfigError} :
    checkUrl roles path = .error e ↔
      ∃ place cause, UrlClash path roles place cause ∧ e = ⟨none, none, place, cause⟩ := by
  have hempty : path.isEmpty = true ↔ path.text = "" := String.isEmpty_iff
  constructor
  · intro h
    unfold checkUrl at h
    split at h
    · next first second more heq =>
        obtain ⟨front, rest, rfl, hfront, rfl, hmore⟩ := urlIndices_eq_cons.1 heq
        obtain ⟨between, after, rfl, hbetween, rfl, -⟩ := urlIndices_eq_cons.1 hmore.symm
        cases h
        have hone : (front ++ .url :: between).count .url = 1 := by
          rw [List.count_append, List.count_cons_self, List.count_eq_zero.2 hfront,
            List.count_eq_zero.2 hbetween]
        have hplace : 0 + front.length + 1 + between.length =
            (front ++ .url :: between).length := by
          rw [List.length_append, List.length_cons]
          omega
        rw [hplace, ← List.cons_append, ← List.append_assoc]
        exact ⟨_, _, .duplicate hone, rfl⟩
    · next index heq =>
        obtain ⟨front, rest, rfl, hfront, rfl, hrest⟩ := urlIndices_eq_cons.1 heq
        split at h
        · cases h
        · next hpath =>
            cases h
            rw [Nat.zero_add]
            exact ⟨_, _, .withPath hfront (urlIndices_eq_nil.1 hrest.symm) (mt hempty.2 hpath),
              rfl⟩
    · next heq =>
        split at h
        · next hpath =>
            cases h
            exact ⟨_, _, .emptyPath (urlIndices_eq_nil.1 heq) (hempty.1 hpath), rfl⟩
        · cases h
  · rintro ⟨place, cause, hclash, rfl⟩
    unfold checkUrl
    cases hclash with
    | @duplicate front rest hfront =>
        have hone : (urlIndices 0 front).length = 1 := (length_urlIndices 0 front).trans hfront
        obtain ⟨first, hfirst⟩ := List.length_eq_one_iff.1 hone
        rw [urlIndices_append, hfirst, urlIndices, if_pos rfl, Nat.zero_add]
        rfl
    | @withPath front rest hfront hrest hpath =>
        rw [urlIndices_append, urlIndices_eq_nil.2 hfront, urlIndices, if_pos rfl,
          urlIndices_eq_nil.2 hrest, Nat.zero_add]
        dsimp only [List.nil_append]
        rw [if_neg (mt hempty.1 hpath)]
        rfl
    | emptyPath hroles hpath =>
        rw [urlIndices_eq_nil.2 hroles]
        dsimp only
        rw [if_pos (hempty.2 hpath)]
        rfl

/-! ## Names of the path -/

/-- Path parameters stand for names of the path, and no two for the same one. -/
def NamesBind (path : Template) (roles : List Role) : Prop :=
  (roles.filterMap Role.pathName?).Nodup ∧
    ∀ name ∈ roles.filterMap Role.pathName?, name ∈ path.placeholders

/-- Path parameters stand for the names of the path, each for its own. -/
def NamesMatch (path : Template) (roles : List Role) : Prop :=
  (roles.filterMap Role.pathName?).Nodup ∧
    ∀ name, name ∈ roles.filterMap Role.pathName? ↔ name ∈ path.placeholders

/-- Path parameters and the names of the path clash: a parameter stands for a name that
one before it stands for, or for no name of the path, or a name is left over. -/
inductive NameClash (path : Template) : List Role → Option Nat → ConfigCause → Prop
  | duplicate {front rest : List Role} {name : String} {encoded : Bool}
      (hfront : NamesBind path front) (hname : name ∈ front.filterMap Role.pathName?) :
      NameClash path (front ++ .path name encoded :: rest) (some front.length)
        (.duplicatePlaceholder name)
  | unknown {front rest : List Role} {name : String} {encoded : Bool}
      (hfront : NamesBind path front) (hnew : name ∉ front.filterMap Role.pathName?)
      (hname : name ∉ path.placeholders) :
      NameClash path (front ++ .path name encoded :: rest) (some front.length)
        (.unknownPlaceholder name)
  | unresolved {roles : List Role} {before after : List String} {name : String}
      (hroles : NamesBind path roles) (hsplit : path.placeholders = before ++ name :: after)
      (hbefore : ∀ known ∈ before, known ∈ roles.filterMap Role.pathName?)
      (hname : name ∉ roles.filterMap Role.pathName?) :
      NameClash path roles none (.unresolvedPlaceholder name)

theorem bindNames_empty_eq_ok {path : Template} {index : Nat} {roles : List Role}
    {bound : List String} :
    bindNames path.placeholders [] index roles = .ok bound ↔
      NamesBind path roles ∧ bound = roles.filterMap Role.pathName? := by
  rw [bindNames_eq_ok, and_comm]
  simp [NamesBind]

/-- Names are bound from left to right. -/
theorem bindNames_append (placeholders bound : List String) (index : Nat)
    (front rest : List Role) :
    bindNames placeholders bound index (front ++ rest) =
      bindNames placeholders bound index front >>= fun known =>
        bindNames placeholders known (index + front.length) rest := by
  induction front generalizing bound index with
  | nil => rfl
  | cons role front ih =>
      rw [List.cons_append, place_cons]
      cases role with
      | path name encoded =>
          rw [bindNames, bindNames]
          split
          · rfl
          · split
            · rfl
            · exact ih (bound ++ [name]) (index + 1)
      | _ => exact ih bound (index + 1)

/-- One more role fails to be bound when its name is bound or not a name of the path. -/
theorem bindNames_singleton_eq_error {placeholders bound : List String} {index : Nat}
    {role : Role} {e : ConfigError} :
    bindNames placeholders bound index [role] = .error e ↔
      ∃ name encoded, role = .path name encoded ∧
        (name ∈ bound ∧ e = errorAt index (.duplicatePlaceholder name) ∨
          name ∉ bound ∧ name ∉ placeholders ∧ e = errorAt index (.unknownPlaceholder name)) := by
  cases role with
  | path name encoded =>
      rw [bindNames]
      by_cases hbound : name ∈ bound
      · simp [hbound, eq_comm]
      · by_cases hknown : name ∈ placeholders
        · simp [hbound, hknown, bindNames]
        · simp [hbound, hknown, eq_comm]
  | _ => simp [bindNames]

theorem bindNames_eq_error {path : Template} {roles : List Role} {e : ConfigError} :
    bindNames path.placeholders [] 0 roles = .error e ↔
      ∃ index cause, NameClash path roles (some index) cause ∧ e = errorAt index cause := by
  have hnil : bindNames path.placeholders [] 0 [] = .ok [] := rfl
  have hconcat (front : List Role) (role : Role) :=
    bindNames_append path.placeholders [] 0 front [role]
  refine (Outcome.eq_error_of_concat hnil hconcat).trans ?_
  simp only [bindNames_singleton_eq_error, bindNames_empty_eq_ok, Nat.zero_add]
  constructor
  · rintro ⟨front, role, rest, bound, rfl, ⟨hbind, rfl⟩, name, encoded, rfl, hrole⟩
    obtain ⟨hname, rfl⟩ | ⟨hnew, hname, rfl⟩ := hrole
    · exact ⟨_, _, .duplicate hbind hname, rfl⟩
    · exact ⟨_, _, .unknown hbind hnew hname, rfl⟩
  · rintro ⟨index, cause, hclash, rfl⟩
    cases hclash with
    | @duplicate front rest name encoded hfront hname =>
        exact ⟨front, _, rest, _, rfl, ⟨hfront, rfl⟩, name, encoded, rfl, .inl ⟨hname, rfl⟩⟩
    | @unknown front rest name encoded hfront hnew hname =>
        exact ⟨front, _, rest, _, rfl, ⟨hfront, rfl⟩, name, encoded, rfl,
          .inr ⟨hnew, hname, rfl⟩⟩

/-- Path parameters and the names of the path do not match when one rule on them is
broken. -/
theorem checkPlaceholders_eq_error {roles : List Role} {path : Template} {e : ConfigError} :
    checkPlaceholders roles path = .error e ↔
      ∃ place cause, NameClash path roles place cause ∧ e = ⟨none, none, place, cause⟩ := by
  unfold checkPlaceholders
  rw [Outcome.bind_eq_error, bindNames_eq_error]
  simp only [bindNames_empty_eq_ok]
  constructor
  · rintro (⟨index, cause, hclash, rfl⟩ | ⟨_, ⟨hbind, rfl⟩, hfind⟩)
    · exact ⟨_, _, hclash, rfl⟩
    · split at hfind
      · next name hname =>
          cases hfind
          obtain ⟨hleft, before, after, hsplit, hbefore⟩ :=
            List.find?_eq_some_iff_append.1 hname
          have hname : name ∉ roles.filterMap Role.pathName? := by simpa using hleft
          refine ⟨_, _, .unresolved hbind hsplit (fun known hknown => ?_) hname, rfl⟩
          simpa using hbefore known hknown
      · cases hfind
  · rintro ⟨place, cause, hclash, rfl⟩
    cases hclash with
    | duplicate hfront hname => exact Or.inl ⟨_, _, .duplicate hfront hname, rfl⟩
    | unknown hfront hnew hname => exact Or.inl ⟨_, _, .unknown hfront hnew hname, rfl⟩
    | @unresolved _ before after name hroles hsplit hbefore hname =>
        refine Or.inr ⟨_, ⟨hroles, rfl⟩, ?_⟩
        have hfind : path.placeholders.find?
            (fun name => !(roles.filterMap Role.pathName?).contains name) = some name := by
          rw [List.find?_eq_some_iff_append]
          refine ⟨by simpa using hname, before, after, hsplit, fun known hknown => ?_⟩
          simpa using hbefore known hknown
        rw [hfind]
        rfl

/-! ## The first rule that is broken -/

/-- Parameters that are known stand at all places. -/
def FillPlaces (b : MethodBuilder) (ps : List Parameter) : Prop :=
  ps.length = b.arity ∧ ∀ i < b.arity, b.parameters.lookup i = ps[i]?

/-- The first rule that a builder breaks: the place of the parameter that is at fault, if
one is, and the cause. -/
inductive Rejects (b : MethodBuilder) : Option Nat → ConfigCause → Prop
  | verb (hhttp : b.http = none) : Rejects b none .missingHttpMethod
  | place {i : Nat} (hhttp : b.http.isSome) (hi : i < b.arity)
      (hbefore : ∀ j < i, (b.parameters.lookup j).isSome)
      (hmissing : b.parameters.lookup i = none) :
      Rejects b (some i) (.missingParameterHandler i)
  | body {ps : List Parameter} {i : Nat} {cause : ConfigCause} (hhttp : b.http.isSome)
      (hplaces : b.FillPlaces ps) (hbody : BodyClash b.bodyKind ps i cause) :
      Rejects b (some i) cause
  | url {method : Method} {path : Template} {ps : List Parameter} {place : Option Nat}
      {cause : ConfigCause} (hhttp : b.http = some (method, path)) (hplaces : b.FillPlaces ps)
      (hbody : BodiesAgree b.bodyKind ps)
      (hurl : UrlClash path (ps.map Parameter.role) place cause) :
      Rejects b place cause
  | names {method : Method} {path : Template} {ps : List Parameter} {place : Option Nat}
      {cause : ConfigCause} (hhttp : b.http = some (method, path)) (hplaces : b.FillPlaces ps)
      (hbody : BodiesAgree b.bodyKind ps) (hurl : UrlFits (ps.map Parameter.role) path)
      (hnames : NameClash path (ps.map Parameter.role) place cause) :
      Rejects b place cause
  | response {method : Method} {path : Template} {ps : List Parameter}
      (hhttp : b.http = some (method, path)) (hplaces : b.FillPlaces ps)
      (hbody : BodiesAgree b.bodyKind ps) (hurl : UrlFits (ps.map Parameter.role) path)
      (hnames : NamesMatch path (ps.map Parameter.role)) (hresponse : b.response = none) :
      Rejects b none .missingResponseConverter

theorem collectParameters_arity_eq_ok {b : MethodBuilder} {ps : List Parameter} :
    collectParameters b.parameters 0 b.arity = .ok ps ↔ b.FillPlaces ps := by
  simp only [collectParameters_eq_ok, FillPlaces, Nat.zero_add]

theorem collectParameters_arity_eq_error {b : MethodBuilder} {e : ConfigError} :
    collectParameters b.parameters 0 b.arity = .error e ↔
      ∃ i < b.arity, (∀ j < i, (b.parameters.lookup j).isSome) ∧
        b.parameters.lookup i = none ∧ e = errorAt i (.missingParameterHandler i) := by
  rw [collectParameters_eq_error]
  simp only [Nat.zero_le, true_and, Nat.zero_add, forall_const, Option.isSome_iff_exists]
  constructor
  · rintro ⟨i, hi, hmissing, hbefore, he⟩
    exact ⟨i, hi, hbefore, hmissing, he⟩
  · rintro ⟨i, hi, hbefore, hmissing, he⟩
    exact ⟨i, hi, hmissing, hbefore, he⟩

theorem resolveBodyKind_start_eq_ok {kind result : Option BodyKind} {ps : List Parameter} :
    resolveBodyKind kind false 0 ps = .ok result ↔
      BodiesAgree kind ps ∧ result = (kind.toList ++ ps.filterMap Parameter.bodyKind?).head? := by
  rw [resolveBodyKind_eq_ok, BodiesAgree, and_assoc]
  simp

/-- A rule that is broken lets the checks fail with its own error. -/
theorem Rejects.finish_eq {b : MethodBuilder} {place : Option Nat} {cause : ConfigCause}
    (h : b.Rejects place cause) : b.finish = .error ⟨none, none, place, cause⟩ := by
  unfold finish
  cases h with
  | verb hhttp =>
      rw [hhttp]
      rfl
  | place hhttp hi hbefore hmissing =>
      obtain ⟨http, hhttp⟩ := Option.isSome_iff_exists.1 hhttp
      simp only [hhttp]
      exact Outcome.bind_of_error
        (collectParameters_arity_eq_error.2 ⟨_, hi, hbefore, hmissing, rfl⟩)
  | body hhttp hplaces hbody =>
      obtain ⟨http, hhttp⟩ := Option.isSome_iff_exists.1 hhttp
      simp only [hhttp]
      rw [Outcome.bind_of_ok (collectParameters_arity_eq_ok.2 hplaces)]
      exact Outcome.bind_of_error (resolveBodyKind_eq_error.2 ⟨_, _, hbody, rfl⟩)
  | url hhttp hplaces hbody hurl =>
      simp only [hhttp]
      rw [Outcome.bind_of_ok (collectParameters_arity_eq_ok.2 hplaces),
        Outcome.bind_of_ok (resolveBodyKind_start_eq_ok.2 ⟨hbody, rfl⟩)]
      exact Outcome.bind_of_error (checkUrl_eq_error.2 ⟨_, _, hurl, rfl⟩)
  | names hhttp hplaces hbody hurl hnames =>
      simp only [hhttp]
      rw [Outcome.bind_of_ok (collectParameters_arity_eq_ok.2 hplaces),
        Outcome.bind_of_ok (resolveBodyKind_start_eq_ok.2 ⟨hbody, rfl⟩),
        Outcome.bind_of_ok (checkUrl_eq_ok.2 hurl)]
      exact Outcome.bind_of_error (checkPlaceholders_eq_error.2 ⟨_, _, hnames, rfl⟩)
  | response hhttp hplaces hbody hurl hnames hresponse =>
      simp only [hhttp]
      rw [Outcome.bind_of_ok (collectParameters_arity_eq_ok.2 hplaces),
        Outcome.bind_of_ok (resolveBodyKind_start_eq_ok.2 ⟨hbody, rfl⟩),
        Outcome.bind_of_ok (checkUrl_eq_ok.2 hurl),
        Outcome.bind_of_ok (checkPlaceholders_eq_ok.2 hnames), hresponse]
      rfl

/-- The checks fail with the error of the first rule that is broken. -/
theorem finish_eq_error {b : MethodBuilder} {e : ConfigError} :
    b.finish = .error e ↔
      ∃ place cause, b.Rejects place cause ∧ e = ⟨none, none, place, cause⟩ := by
  constructor
  · intro h
    unfold finish at h
    cases hhttp : b.http with
    | none =>
        rw [hhttp] at h
        cases h
        exact ⟨_, _, .verb hhttp, rfl⟩
    | some http =>
        obtain ⟨method, path⟩ := http
        have hsome : b.http.isSome = true := by
          rw [hhttp]
          rfl
        simp only [hhttp] at h
        -- Each check fails with a rule of its own, or passes and leaves the error to the rest.
        obtain h | ⟨ps, hps, h⟩ := Outcome.bind_eq_error.1 h
        · obtain ⟨i, hi, hbefore, hmissing, rfl⟩ := collectParameters_arity_eq_error.1 h
          exact ⟨_, _, .place hsome hi hbefore hmissing, rfl⟩
        have hplaces := collectParameters_arity_eq_ok.1 hps
        obtain h | ⟨kind, hkind, h⟩ := Outcome.bind_eq_error.1 h
        · obtain ⟨i, cause, hclash, rfl⟩ := resolveBodyKind_eq_error.1 h
          exact ⟨_, _, .body hsome hplaces hclash, rfl⟩
        have hbody := (resolveBodyKind_start_eq_ok.1 hkind).1
        obtain h | ⟨_, hurl, h⟩ := Outcome.bind_eq_error.1 h
        · obtain ⟨place, cause, hclash, rfl⟩ := checkUrl_eq_error.1 h
          exact ⟨_, _, .url hhttp hplaces hbody hclash, rfl⟩
        have hfits := checkUrl_eq_ok.1 hurl
        obtain h | ⟨_, hnames, h⟩ := Outcome.bind_eq_error.1 h
        · obtain ⟨place, cause, hclash, rfl⟩ := checkPlaceholders_eq_error.1 h
          exact ⟨_, _, .names hhttp hplaces hbody hfits hclash, rfl⟩
        have hmatch := checkPlaceholders_eq_ok.1 hnames
        cases hresponse : b.response with
        | none =>
            rw [hresponse] at h
            cases h
            exact ⟨_, _, .response hhttp hplaces hbody hfits hmatch hresponse, rfl⟩
        | some response =>
            rw [hresponse] at h
            cases h
  · rintro ⟨place, cause, hrejects, rfl⟩
    exact hrejects.finish_eq

/-- Building fails with the first rule that is broken, in this service and method. -/
theorem build_eq_error {b : MethodBuilder} {e : ConfigError} :
    b.build = .error e ↔
      ∃ place cause, b.Rejects place cause ∧
        e = ⟨some b.service, some b.name, place, cause⟩ := by
  rw [build, Outcome.mapError_eq_error]
  simp only [finish_eq_error]
  constructor
  · rintro ⟨_, ⟨place, cause, hrejects, rfl⟩, rfl⟩
    exact ⟨place, cause, hrejects, rfl⟩
  · rintro ⟨place, cause, hrejects, rfl⟩
    exact ⟨_, ⟨place, cause, hrejects, rfl⟩, rfl⟩

end MethodBuilder

end WebClient
