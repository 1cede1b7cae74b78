import Mathlib.Data.List.DropRight
import Mathlib.Data.List.Forall2
import WebClient.Interface.Parameter
import WebClient.Proofs.Outcome
import WebClient.Proofs.Template.Substitution
import WebClient.Proofs.Text.Cutting
import WebClient.Proofs.Text.Splitting

/-!
# The names of a path as an interface reads them

An interface cuts a path at every opening brace and each piece at its first closing
brace; a template pairs an opening brace with the next closing one.  Both find the same
pairs, but where an opening brace stands inside a pair, the interface reads only what is
behind the last one.  So the two read the same names exactly when no name of the template
holds an opening brace.
-/

namespace WebClient

namespace Template

/-- The character is no opening brace. -/
def isInner (c : Char) : Bool := c ≠ '{'

/-- What stands behind the last opening brace of a name, or all of it. -/
def innermost (name : List Char) : List Char := name.rtakeWhile isInner

theorem innermost_append_brace (read : List Char) : innermost (read ++ ['{']) = [] :=
  List.rtakeWhile_concat_neg isInner read '{' (by decide)

theorem innermost_append_of_ne {c : Char} (hc : c ≠ '{') (read : List Char) :
    innermost (read ++ [c]) = innermost read ++ [c] :=
  List.rtakeWhile_concat_pos isInner read c (decide_eq_true hc)

theorem brace_not_mem_innermost (name : List Char) : '{' ∉ innermost name := by
  intro h
  have hinner := List.mem_rtakeWhile_imp h
  exact absurd hinner (by decide)

theorem mem_of_mem_innermost {name : List Char} {c : Char} (h : c ∈ innermost name) :
    c ∈ name :=
  (List.rtakeWhile_suffix isInner name).subset h

theorem not_mem_innermost_reverse {read : List Char} {c : Char} (h : c ∉ read) :
    c ∉ innermost read.reverse :=
  fun hc => h (List.mem_reverse.1 (mem_of_mem_innermost hc))

theorem innermost_of_not_mem {name : List Char} (h : '{' ∉ name) : innermost name = name := by
  refine List.rtakeWhile_eq_self_iff.2 fun c hc => decide_eq_true ?_
  rintro rfl
  exact h hc

end Template

namespace InterfaceParameter

theorem isBrace_eq_false {s : List Char} (h : '{' ∉ s) : ∀ c ∈ s, decide (c = '{') = false :=
  fun _ hc => decide_eq_false fun heq => h (heq ▸ hc)

/-- The name that a piece behind an opening brace starts with, if it is closed. -/
def closed? (piece : List Char) : Option (List Char) :=
  (Text.splitOnce? (· = '}') piece).map Prod.fst

theorem closed?_of_not_mem {s : List Char} (h : '}' ∉ s) : closed? s = none := by
  have hcut : Text.splitOnce? (· = '}') s = none :=
    Text.splitOnce?_eq_none.2 fun c hc => decide_eq_false fun heq => h (heq ▸ hc)
  rw [closed?, hcut, Option.map_none]

theorem closed?_append_brace {s : List Char} (h : '}' ∉ s) (rest : List Char) :
    closed? (s ++ '}' :: rest) = some s := by
  have hcut : Text.splitOnce? (· = '}') (s ++ '}' :: rest) = some (s, rest) :=
    Text.splitOnce?_eq_some.2
      ⟨'}', rfl, rfl, fun c hc => decide_eq_false fun heq => h (heq ▸ hc)⟩
  rw [closed?, hcut, Option.map_some]

/-- The piece that is being read ends as a name at a closing brace; what follows it up to
the next opening brace is read over. -/
theorem filterMap_closed?_append_brace {name : List Char} (hopen : '{' ∉ name)
    (hclose : '}' ∉ name) (s : List Char) :
    (Text.splitAll (· = '{') (name ++ '}' :: s)).filterMap closed? =
      name :: ((Text.splitAll (· = '{') s).drop 1).filterMap closed? := by
  have hfront : ∀ x ∈ name ++ ['}'], decide (x = '{') = false := by
    refine isBrace_eq_false fun h => ?_
    rcases List.mem_append.1 h with h | h
    · exact hopen h
    · exact absurd (List.mem_singleton.1 h) (by decide)
  rw [List.append_cons, Text.splitAll_append hfront]
  cases hs : Text.splitAll (· = '{') s with
  | nil => exact absurd hs (Text.splitAll_ne_nil s)
  | cons piece pieces =>
      rw [List.modifyHead_cons, ← List.append_cons,
        List.filterMap_cons_some (closed?_append_brace hclose piece)]
      rfl

/-- The texts that an interface reads in a path, and those that it reads behind an opening
brace, are the innermost ones of what scanning finds there. -/
theorem closed?_splitAll_and_collect (s : List Char) :
    ((Text.splitAll (· = '{') s).drop 1).filterMap closed? =
        (Template.scan s).map Template.innermost ∧
      ∀ read, '}' ∉ read →
        (Text.splitAll (· = '{') (Template.innermost read.reverse ++ s)).filterMap closed? =
          (Template.scan.collect read s).map Template.innermost := by
  -- Scanning is two readers that call each other on the rest of the text.
  induction s with
  | nil =>
      refine ⟨rfl, fun read hread => ?_⟩
      have hopen := Template.brace_not_mem_innermost read.reverse
      have hclose := Template.not_mem_innermost_reverse hread
      rw [List.append_nil, Text.splitAll_eq_singleton (isBrace_eq_false hopen),
        List.filterMap_cons_none (closed?_of_not_mem hclose)]
      rfl
  | cons c s ih =>
      obtain ⟨hscan, hcollect⟩ := ih
      constructor
      · rw [Template.scan]
        by_cases hc : c = '{'
        · rw [if_pos hc, Text.splitAll_cons_of_pos (decide_eq_true hc)]
          exact hcollect [] List.not_mem_nil
        · rw [if_neg hc, Text.splitAll_cons_of_neg (decide_eq_false hc), ← hscan]
          cases Text.splitAll (· = '{') s <;> rfl
      · intro read hread
        have hopen := Template.brace_not_mem_innermost read.reverse
        have hclose := Template.not_mem_innermost_reverse hread
        rw [Template.scan.collect]
        by_cases hend : c = '}'
        · subst hend
          rw [if_pos rfl, filterMap_closed?_append_brace hopen hclose, List.map_cons, hscan]
        · rw [if_neg hend]
          have hread' : '}' ∉ c :: read := fun h =>
            (List.mem_cons.1 h).elim (fun h => hend h.symm) hread
          rw [← hcollect (c :: read) hread', List.reverse_cons]
          by_cases hc : c = '{'
          · subst hc
            rw [Text.splitAll_append_cons (isBrace_eq_false hopen) rfl,
              List.filterMap_cons_none (closed?_of_not_mem hclose),
              Template.innermost_append_brace, List.nil_append]
          · rw [Template.innermost_append_of_ne hc, ← List.append_cons]

/-- An interface reads the innermost texts of the pairs of braces of a template. -/
theorem placeholders_eq (path : String) :
    placeholders path = ((Template.scan path.toList).map Template.innermost).map String.ofList := by
  rw [placeholders, ← (closed?_splitAll_and_collect path.toList).1, List.map_filterMap]
  refine List.filterMap_congr fun piece _ => ?_
  rw [closed?, Option.map_map]
  rfl

/-! ## When the same names are read -/

theorem brace_not_mem_placeholders {path name : String} (h : name ∈ placeholders path) :
    '{' ∉ name.toList := by
  rw [placeholders_eq, List.map_map] at h
  obtain ⟨read, -, rfl⟩ := List.mem_map.1 h
  rw [Function.comp_apply, String.toList_ofList]
  exact Template.brace_not_mem_innermost read

/-- A name of the template without an opening brace is read by an interface as well. -/
theorem mem_placeholders_of_template {path name : String}
    (h : name ∈ (Template.mk path).placeholders) (hopen : '{' ∉ name.toList) :
    name ∈ placeholders path := by
  rw [placeholders_eq, List.map_map]
  refine List.mem_map.2 ⟨name.toList, (Template.mem_placeholders.1 h).1, ?_⟩
  rw [Function.comp_apply, Template.innermost_of_not_mem hopen, String.ofList_toList]

/-- Where no name of the template holds an opening brace, all that is read is what scanning
finds. -/
theorem placeholders_eq_scan {path : String}
    (h : ∀ name ∈ (Template.mk path).placeholders, '{' ∉ name.toList) :
    placeholders path = (Template.scan path.toList).map String.ofList := by
  have hinnermost : ∀ read ∈ Template.scan path.toList, Template.innermost read = read := by
    intro read hread
    refine Template.innermost_of_not_mem fun hopen => ?_
    have hname : String.ofList read ∈ (Template.mk path).placeholders := by
      rw [Template.mem_placeholders, String.toList_ofList, Ne, String.ofList_eq_empty_iff]
      exact ⟨hread, List.ne_nil_of_mem hopen⟩
    have hnot := h _ hname
    rw [String.toList_ofList] at hnot
    exact hnot hopen
  rw [placeholders_eq, List.map_congr_left hinnermost, List.map_id']

theorem filter_placeholders_eq_iff (path : String) :
    (placeholders path).filter (fun name => !name.isEmpty) = (Template.mk path).placeholders ↔
      ∀ name ∈ (Template.mk path).placeholders, '{' ∉ name.toList := by
  constructor
  · intro h name hname
    rw [← h] at hname
    exact brace_not_mem_placeholders (List.mem_of_mem_filter hname)
  · intro h
    rw [placeholders_eq_scan h, Template.placeholders, List.filter_map]
    congr 1
    refine List.filter_congr fun read _ => ?_
    rw [Function.comp_apply, Bool.eq_iff_iff, Bool.not_eq_true', Bool.not_eq_true',
      Bool.eq_false_iff, Bool.eq_false_iff, Ne, Ne, String.isEmpty_iff,
      String.ofList_eq_empty_iff, List.isEmpty_iff]

/-! ## Parameters without markers -/

/-- The parameters of a method as their own attributes mark them. -/
def declared (inputs : List Source.Input) : Except InterfaceError (List InterfaceParameter) :=
  ((inputs.drop 1).mapM (ofInput [])).map (List.filterMap id)

/-- A parameter without markers, bound to the name of the path that it has. -/
def bound (names : List String) (p : InterfaceParameter) : InterfaceParameter :=
  if p.isLeftOver && names.contains p.name then
    { p with markers := [.directive (.path p.name false)] }
  else p

/-- A parameter without markers is bound to the name of the path that it has, or else is
the body. -/
def completed (names : List String) (p : InterfaceParameter) : InterfaceParameter :=
  (bound names p).asBody

theorem ofInput_eq (names : List String) (input : Source.Input) :
    ofInput names input = (ofInput [] input).map (Option.map (bound names)) := by
  cases input with
  | receiver => rfl
  | typed attributes pattern type =>
      rw [ofInput, ofInput]
      cases pattern.name? with
      | none => rfl
      | some name =>
          dsimp only
          cases readMarkers attributes name with
          | error e => rfl
          | ok markers =>
              cases markers with
              | cons marker markers => rfl
              | nil =>
                  -- Only a parameter without markers of its own is looked up.
                  let unmarked : InterfaceParameter := ⟨name, type, []⟩
                  let asPath : InterfaceParameter :=
                    ⟨name, type, [.directive (.path name false)]⟩
                  change (if names.contains name = true then Except.ok (some asPath)
                      else Except.ok (some unmarked)) =
                    Except.ok (some (if names.contains name = true then asPath else unmarked))
                  split <;> rfl

/-- The names of the path of a method, if it has a path. -/
def pathNames (route : Option (Method × String)) : List String :=
  match route with
  | some (_, path) => placeholders path
  | none => []

/-- Nothing marks the parameter, and its name is none of those of the path. -/
def isUnplaced (names : List String) (p : InterfaceParameter) : Bool :=
  p.isLeftOver && !names.contains p.name

/-- The parameters of a method out of what their own attributes say: at most one may stand for
the body, and only in a method that takes one. -/
def place (route : Option (Method × String)) (own : List InterfaceParameter) :
    Except InterfaceError (List InterfaceParameter) :=
  match own.filter (isUnplaced (pathNames route)) with
  | [] => .ok (own.map (completed (pathNames route)))
  | [_] =>
      if route.any fun (method, _) => takesBody method then
        .ok (own.map (completed (pathNames route)))
      else .error (.unmatchedParameter (pathNames route))
  | _ => .error .severalUnmatched

theorem isLeftOver_bound (names : List String) (p : InterfaceParameter) :
    (bound names p).isLeftOver = isUnplaced names p := by
  unfold bound isUnplaced
  cases hleft : p.isLeftOver with
  | false => rw [Bool.false_and, if_neg Bool.false_ne_true, hleft, Bool.false_and]
  | true =>
      cases names.contains p.name with
      | true => rfl
      | false => exact hleft

/-- Parameters are first marked by their own attributes and by the names of the path, and then
those that are left over are looked at together. -/
theorem ofInputs_eq (route : Option (Method × String)) (inputs : List Source.Input) :
    ofInputs route inputs = declared inputs >>= place route := by
  have hroute : ofInputs route inputs = (do
      let parameters := (← (inputs.drop 1).mapM (ofInput (pathNames route))).filterMap id
      match parameters.filter isLeftOver with
      | [] => return parameters
      | [_] =>
          if route.any fun (method, _) => takesBody method then return parameters.map asBody
          else throw (.unmatchedParameter (pathNames route))
      | _ => throw .severalUnmatched) := rfl
  rw [hroute, funext (ofInput_eq _), Outcome.mapM_map, declared]
  cases (inputs.drop 1).mapM (ofInput []) with
  | error e => rfl
  | ok read =>
      have hbound : (read.map (Option.map (bound (pathNames route)))).filterMap id =
          (read.filterMap id).map (bound (pathNames route)) := by
        rw [List.filterMap_map, List.map_filterMap]
        rfl
      have hleft : ((read.filterMap id).map (bound (pathNames route))).filter isLeftOver =
          ((read.filterMap id).filter (isUnplaced (pathNames route))).map
            (bound (pathNames route)) := by
        rw [List.filter_map, ← funext (isLeftOver_bound _)]
        rfl
      have hcompleted : ((read.filterMap id).map (bound (pathNames route))).map asBody =
          (read.filterMap id).map (completed (pathNames route)) := List.map_map
      dsimp only [bind, Except.bind, Except.map]
      rw [hbound, hleft, hcompleted, place]
      cases hunplaced : (read.filterMap id).filter (isUnplaced (pathNames route)) with
      | nil =>
          -- Nothing is left over, so nothing becomes the body.
          refine congrArg Except.ok (List.map_congr_left fun p hp => ?_)
          have hmarked : ¬ (bound (pathNames route) p).isLeftOver = true := by
            rw [isLeftOver_bound]
            exact List.filter_eq_nil_iff.1 hunplaced p hp
          exact (if_neg hmarked).symm
      | cons p rest => cases rest <;> rfl

/-- What is placed is every parameter, marked by the names of the path or as the body. -/
theorem eq_map_completed_of_place {route : Option (Method × String)}
    {own ps : List InterfaceParameter} (h : place route own = .ok ps) :
    ps = own.map (completed (pathNames route)) := by
  unfold place at h
  split at h
  · exact (Except.ok.inj h).symm
  · split at h
    · exact (Except.ok.inj h).symm
    · cases h
  · cases h

theorem exists_declared_of_ofInputs {route : Option (Method × String)}
    {inputs : List Source.Input} {ps : List InterfaceParameter}
    (h : ofInputs route inputs = .ok ps) :
    ∃ own, declared inputs = .ok own ∧ ps = own.map (completed (pathNames route)) := by
  rw [ofInputs_eq] at h
  obtain ⟨own, hown, hplaced⟩ := Outcome.bind_eq_ok.1 h
  exact ⟨own, hown, eq_map_completed_of_place hplaced⟩

theorem completed_of_mem {names : List String} {p : InterfaceParameter}
    (hmarkers : p.markers = []) (hname : p.name ∈ names) :
    completed names p = { p with markers := [.directive (.path p.name false)] } := by
  have hbound : bound names p = { p with markers := [.directive (.path p.name false)] } := by
    rw [bound, isLeftOver, hmarkers, List.contains_iff_mem.2 hname]
    rfl
  rw [completed, hbound]
  rfl

theorem completed_of_not_mem {names : List String} {p : InterfaceParameter}
    (hmarkers : p.markers = []) (hname : p.name ∉ names) :
    completed names p = { p with markers := [.directive .body] } := by
  have hbound : bound names p = p := by
    have hcontains : names.contains p.name = false :=
      Bool.eq_false_iff.2 fun h => hname (List.contains_iff_mem.1 h)
    rw [bound, hcontains, Bool.and_false, if_neg Bool.false_ne_true]
  rw [completed, hbound, asBody, isLeftOver, hmarkers]
  rfl

@[simp] theorem completed_name (names : List String) (p : InterfaceParameter) :
    (completed names p).name = p.name := by
  unfold completed bound asBody
  split <;> split <;> rfl

theorem completed_of_ne_nil {names : List String} {p : InterfaceParameter}
    (hmarkers : p.markers ≠ []) : completed names p = p := by
  have hmarked : p.isLeftOver = false := by
    rw [isLeftOver, Bool.eq_false_iff]
    exact fun hempty => hmarkers (List.isEmpty_iff.1 hempty)
  rw [completed, bound, hmarked, Bool.false_and, if_neg Bool.false_ne_true, asBody, hmarked,
    if_neg Bool.false_ne_true]

/-- The interface and the template read the same names in a path, in the same order, the
empty ones left out. -/
def ReadsAlike (path : String) : Prop :=
  (placeholders path).filter (fun name => !name.isEmpty) = (Template.mk path).placeholders
deriving Decidable

/-- Nothing marks the parameter, and it has a name, in which there is no brace. -/
structure IsUnmarked (p : InterfaceParameter) : Prop where
  markers : p.markers = []
  named : p.name ≠ ""
  braceless : '{' ∉ p.name.toList

/-- The interface and the template read the same names exactly when no name of the template
holds an opening brace.  A parameter that nothing marks is bound to the placeholder of its
name, and is never the body, if the template has that placeholder; and if the names are read
alike, it is bound only then. -/
theorem readsAlike_iff (path : String) :
    (ReadsAlike path ↔ ∀ name ∈ (Template.mk path).placeholders, '{' ∉ name.toList) ∧
      ∀ (method : Method) (inputs : List Source.Input) (ps : List InterfaceParameter),
        ofInputs (some (method, path)) inputs = .ok ps →
          ∃ own, declared inputs = .ok own ∧
            List.Forall₂ (fun p done => p.IsUnmarked →
              (p.name ∈ (Template.mk path).placeholders →
                done = { p with markers := [.directive (.path p.name false)] }) ∧
              (ReadsAlike path → p.name ∉ (Template.mk path).placeholders →
                done = { p with markers := [.directive .body] })) own ps := by
  refine ⟨filter_placeholders_eq_iff path, fun method inputs ps h => ?_⟩
  obtain ⟨own, hown, rfl⟩ := exists_declared_of_ofInputs h
  refine ⟨own, hown, ?_⟩
  rw [List.forall₂_map_right_iff, List.forall₂_same]
  intro p _ hp
  constructor
  · intro hname
    exact completed_of_mem hp.markers (mem_placeholders_of_template hname hp.braceless)
  · intro halike hname
    refine completed_of_not_mem hp.markers fun hread => hname ?_
    have hsame : (placeholders path).filter (fun name => !name.isEmpty) =
        (Template.mk path).placeholders := halike
    have hnamed : p.name.isEmpty = false :=
      Bool.eq_false_iff.2 fun h => hp.named (String.isEmpty_iff.1 h)
    rw [← hsame]
    exact List.mem_filter.2 ⟨hread, by rw [hnamed, Bool.not_false]⟩

/-- A method that is called with an identifier and a user, neither of them marked. -/
def userInputs : List Source.Input :=
  [.receiver [] true false [.word "self"],
    .typed [] (.binding [.word "id"] "id") (.plain [.word "u64"]),
    .typed [] (.binding [.word "user"] "user") (.plain [.word "User"])]

theorem readsAlike_iff_users :
    ReadsAlike "/users/{id}" ∧
      ∃ id user, ofInputs (some (.put, "/users/{id}")) userInputs = .ok [id, user] ∧
        id.markers = [.directive (.path "id" false)] ∧ user.markers = [.directive .body] := by
  obtain ⟨halike, hparameters⟩ := readsAlike_iff "/users/{id}"
  have hread : ReadsAlike "/users/{id}" := by
    refine halike.2 fun name hname => ?_
    obtain rfl : name = "id" := List.mem_singleton.1 hname
    decide
  have hofInputs : ofInputs (some (.put, "/users/{id}")) userInputs =
      .ok [⟨"id", .plain [.word "u64"], [.directive (.path "id" false)]⟩,
        ⟨"user", .plain [.word "User"], [.directive .body]⟩] := rfl
  obtain ⟨own, hown, hall⟩ := hparameters _ _ _ hofInputs
  cases hown
  obtain ⟨hid, hrest⟩ := List.forall₂_cons.1 hall
  obtain ⟨huser, -⟩ := List.forall₂_cons.1 hrest
  have hid' := (hid ⟨rfl, by decide, by decide⟩).1 (by decide)
  have huser' := (huser ⟨rfl, by decide, by decide⟩).2 hread (by decide)
  exact ⟨hread, _, _, hofInputs, congrArg markers hid', congrArg markers huser'⟩

/-- In a pair of braces with an opening brace inside, the interface reads the end of the
name that the template reads, and binds a parameter to a placeholder that is not there. -/
theorem reads_end_of_nested_name :
    ¬ ReadsAlike "/\x7ba\x7bb\x7d" ∧ (Template.mk "/\x7ba\x7bb\x7d").placeholders = ["a\x7bb"] ∧
      ofInputs (some (.get, "/\x7ba\x7bb\x7d"))
          [.receiver [] true false [.word "self"],
            .typed [] (.binding [.word "b"] "b") (.plain [.word "u64"])] =
        .ok [⟨"b", .plain [.word "u64"], [.directive (.path "b" false)]⟩] :=
  ⟨by decide, rfl, rfl⟩

end InterfaceParameter

end WebClient
