import WebClient.Disk

/-!
# What is on the disk after writing

Of a tree of directories and files, readers see the files.  Making directories changes none of
them, how far it may get (`Disk.Keeps`).  Storing a text in a directory changes one of them
(`Disk.store_of_takes`), or, where it fails, none or that one (`Disk.store_of_not_takes`,
`Disk.store_of_stops`): `Disk.Reaches` says when the file is reached, and then it is a matter of
what the system refuses at its path.
-/

namespace WebClient.Disk

/-- The content of the file at a path. -/
def file? (disk : Disk) (path : List String) : Option String :=
  match disk.node? path with
  | some (.file content) => some content
  | _ => none

theorem file?_eq_some {disk : Disk} {path : List String} {content : String} :
    disk.file? path = some content ↔ disk.node? path = some (.file content) := by
  unfold file?
  split
  · next found h => rw [h, Option.some.injEq, Option.some.injEq, Node.file.injEq]
  · next hnone =>
      constructor
      · intro h
        cases h
      · intro h
        exact absurd h (hnone content)

theorem lookup_filter_ne {path other : List String} (hother : other ≠ path)
    (nodes : List (List String × Node)) :
    (nodes.filter fun (known, _) => known != path).lookup other = nodes.lookup other := by
  induction nodes with
  | nil => rfl
  | cons first rest ih =>
      obtain ⟨known, node⟩ := first
      by_cases hdropped : known = path
      · have hskip : (other == known) = false := beq_false_of_ne (hdropped ▸ hother)
        rw [List.filter_cons_of_neg (by simpa using hdropped), ih, List.lookup_cons, hskip]
      · rw [List.filter_cons_of_pos (by simpa using hdropped), List.lookup_cons,
          List.lookup_cons, ih]

theorem node?_put_self {path : List String} (hpath : path ≠ []) (node : Node) (disk : Disk) :
    (disk.put path node).node? path = some node := by
  have hlookup : (disk.put path node).node? path = (disk.put path node).nodes.lookup path :=
    if_neg (by simpa using hpath)
  rw [hlookup, put, List.lookup_cons_self]

/-- What is put at a path leaves all other paths as they are. -/
theorem node?_put_of_ne {path other : List String} (hother : other ≠ path) (node : Node)
    (disk : Disk) : (disk.put path node).node? other = disk.node? other := by
  have hlookup : (disk.put path node).nodes.lookup other = disk.nodes.lookup other := by
    rw [put, List.lookup_cons, beq_false_of_ne hother]
    exact lookup_filter_ne hother disk.nodes
  rw [node?, node?, hlookup]

/-- A file that is put at a path is there with its content, and all others are as before. -/
theorem file?_put {path : List String} (hpath : path ≠ []) (content : String) (disk : Disk)
    (other : List String) :
    (disk.put path (.file content)).file? other =
      if other = path then some content else disk.file? other := by
  split
  · next hother =>
      rw [hother]
      exact file?_eq_some.2 (node?_put_self hpath (.file content) disk)
  · next hother => rw [file?, node?_put_of_ne hother, file?]

/-! ## Making directories -/

/-- There is a directory at a path, or one can be made there. -/
def Passable (disk : Disk) (path : List String) : Prop :=
  disk.node? path = some .directory ∨ disk.node? path = none ∧ disk.refusal? path = none

/-- What there is once a directory is made at a path, unless something stands there already. -/
def makeOne (path : List String) (disk : Disk) : Disk :=
  if disk.node? path = none then disk.put path .directory else disk

theorem file?_makeOne {path : List String} (hpath : path ≠ []) (other : List String)
    (disk : Disk) : (disk.makeOne path).file? other = disk.file? other := by
  unfold makeOne
  split
  · next hnone =>
      by_cases hother : other = path
      · rw [hother, file?, file?, node?_put_self hpath, hnone]
      · rw [file?, file?, node?_put_of_ne hother]
  · rfl

theorem node?_makeOne_of_ne {path other : List String} (hother : other ≠ path) (disk : Disk) :
    (disk.makeOne path).node? other = disk.node? other := by
  unfold makeOne
  split
  · exact node?_put_of_ne hother .directory disk
  · rfl

@[simp] theorem refusal?_makeOne (path other : List String) (disk : Disk) :
    (disk.makeOne path).refusal? other = disk.refusal? other := by
  unfold makeOne
  split <;> rfl

theorem Passable.node?_makeOne {path : List String} (hpath : path ≠ []) {disk : Disk}
    (h : disk.Passable path) : (disk.makeOne path).node? path = some .directory := by
  unfold makeOne
  split
  · exact node?_put_self hpath .directory disk
  · next hthere => exact h.resolve_right fun hnone => hthere hnone.1

theorem passable_makeOne_iff {path other : List String} (hother : other ≠ path) {disk : Disk} :
    (disk.makeOne path).Passable other ↔ disk.Passable other := by
  rw [Passable, Passable, node?_makeOne_of_ne hother, refusal?_makeOne]

section

variable {there rest : List String} {name : String} {disk : Disk}

/-- A directory is passed, and then made what is missing below it. -/
theorem makeBelow_cons (hname : name.utf8ByteSize ≤ maxNameBytes)
    (h : disk.Passable (there ++ [name])) :
    makeBelow there (name :: rest) disk =
      makeBelow (there ++ [name]) rest (disk.makeOne (there ++ [name])) := by
  rw [makeBelow, if_neg (Nat.not_lt.2 hname), makeOne]
  obtain hthere | ⟨hnone, hfree⟩ := h
  · simp only [hthere, reduceCtorEq, if_false]
  · simp only [hnone, hfree, if_true]

/-- Nothing is made below a directory that is not passed. -/
theorem makeBelow_cons_of_not
    (h : ¬ (name.utf8ByteSize ≤ maxNameBytes ∧ disk.Passable (there ++ [name])))
    (rest : List String) :
    ∃ fault, makeBelow there (name :: rest) disk = (.error fault, disk) := by
  rw [makeBelow]
  split
  · exact ⟨_, rfl⟩
  · next hshort =>
      have hclosed : ¬ disk.Passable (there ++ [name]) :=
        fun hpassable => h ⟨Nat.le_of_not_lt hshort, hpassable⟩
      split
      · next hthere => exact absurd (Or.inl hthere) hclosed
      · exact ⟨_, rfl⟩
      · next hnone =>
          split
          · exact ⟨_, rfl⟩
          · next hfree => exact absurd (Or.inr ⟨hnone, hfree⟩) hclosed

end

/-- What making directories leaves as it was, how far it may get. -/
structure Keeps (path : List String) (disk made : Disk) : Prop where
  file?_eq (other : List String) : made.file? other = disk.file? other
  /-- What is deeper than the directory is not touched. -/
  node?_below {other : List String} (hdeep : path.length < other.length) :
    made.node? other = disk.node? other
  refusal?_eq (other : List String) : made.refusal? other = disk.refusal? other

theorem Keeps.refl (path : List String) (disk : Disk) : Keeps path disk disk :=
  ⟨fun _ => rfl, fun _ => rfl, fun _ => rfl⟩

theorem keeps_makeBelow (there path : List String) (disk : Disk) :
    Keeps (there ++ path) disk (makeBelow there path disk).2 := by
  induction path generalizing there disk with
  | nil => exact .refl _ _
  | cons name rest ih =>
      by_cases hpasses : name.utf8ByteSize ≤ maxNameBytes ∧ disk.Passable (there ++ [name])
      · have hpath : there ++ [name] ≠ [] := by simp
        have hkeeps := ih (there ++ [name]) (disk.makeOne (there ++ [name]))
        rw [← makeBelow_cons hpasses.1 hpasses.2, List.append_assoc,
          List.singleton_append] at hkeeps
        constructor
        case file?_eq =>
          intro other
          rw [hkeeps.file?_eq, file?_makeOne hpath]
        case node?_below =>
          intro other hdeep
          have hother : other ≠ there ++ [name] := by
            rintro rfl
            simp at hdeep
          rw [hkeeps.node?_below hdeep, node?_makeOne_of_ne hother]
        case refusal?_eq =>
          intro other
          rw [hkeeps.refusal?_eq, refusal?_makeOne]
      · obtain ⟨fault, hfails⟩ := makeBelow_cons_of_not hpasses rest
        rw [hfails]
        exact .refl _ _

/-- Directories are made unless a name is too long, or a path is not passable. -/
theorem makeBelow_eq_ok_iff {there path : List String} {disk : Disk} :
    (makeBelow there path disk).1 = .ok () ↔
      (∀ name ∈ path, name.utf8ByteSize ≤ maxNameBytes) ∧
        ∀ front, front <+: path → front ≠ [] → disk.Passable (there ++ front) := by
  induction path generalizing there disk with
  | nil => simp [makeBelow]
  | cons name rest ih =>
      by_cases hpasses : name.utf8ByteSize ≤ maxNameBytes ∧ disk.Passable (there ++ [name])
      case neg =>
        obtain ⟨fault, hfails⟩ := makeBelow_cons_of_not hpasses rest
        rw [hfails]
        refine iff_of_false nofun fun ⟨hshort, hpassable⟩ => hpasses ⟨?_, ?_⟩
        · exact hshort name List.mem_cons_self
        · exact hpassable [name] (List.prefix_append [name] rest) (List.cons_ne_nil _ _)
      case pos =>
        -- What is passable below does not depend on whether the directory above is made yet.
        have hbelow {front : List String} (hne : front ≠ []) :
            (disk.makeOne (there ++ [name])).Passable (there ++ [name] ++ front) ↔
              disk.Passable (there ++ name :: front) := by
          have hother : there ++ [name] ++ front ≠ there ++ [name] := by simpa using hne
          rw [passable_makeOne_iff hother, List.append_assoc, List.singleton_append]
        rw [makeBelow_cons hpasses.1 hpasses.2, ih]
        constructor
        · rintro ⟨hall, hrest⟩
          refine ⟨List.forall_mem_cons.2 ⟨hpasses.1, hall⟩, fun front hfront hne => ?_⟩
          obtain rfl | ⟨deeper, rfl, hdeeper⟩ := List.prefix_cons_iff.1 hfront
          · exact absurd rfl hne
          · by_cases hend : deeper = []
            · rw [hend]
              exact hpasses.2
            · exact (hbelow hend).1 (hrest deeper hdeeper hend)
        · rintro ⟨hshort, hpassable⟩
          refine ⟨(List.forall_mem_cons.1 hshort).2, fun front hfront hne => ?_⟩
          exact (hbelow hne).2 (hpassable (name :: front)
            (List.cons_prefix_cons.2 ⟨rfl, hfront⟩) (List.cons_ne_nil _ _))

theorem node?_makeBelow_self {there path : List String} {disk : Disk}
    (hthere : disk.node? there = some .directory)
    (h : (makeBelow there path disk).1 = .ok ()) :
    (makeBelow there path disk).2.node? (there ++ path) = some .directory := by
  induction path generalizing there disk with
  | nil => rwa [List.append_nil]
  | cons name rest ih =>
      obtain ⟨hshort, hpassable⟩ := makeBelow_eq_ok_iff.1 h
      have hname := hshort name List.mem_cons_self
      have hfirst := hpassable [name] (List.prefix_append [name] rest) (List.cons_ne_nil _ _)
      rw [makeBelow_cons hname hfirst] at h ⊢
      have hmade := ih (hfirst.node?_makeOne (by simp)) h
      rwa [List.append_assoc, List.singleton_append] at hmade

/-! ## Writing -/

variable {directory : List String} {name content : String} {disk : Disk}

/-- A file can be opened: no name on the way is too long, each directory is there or can be
made, and none stands in the place of the file. -/
structure Reaches (disk : Disk) (directory : List String) (name : String) : Prop where
  short : ∀ part ∈ directory ++ [name], part.utf8ByteSize ≤ maxNameBytes
  passable : ∀ front, front <+: directory → disk.Passable front
  notDirectory : disk.node? (directory ++ [name]) ≠ some .directory

/-- A directory takes a file of a name: it is reached, and nothing is refused there. -/
structure Takes (disk : Disk) (directory : List String) (name : String) : Prop
    extends disk.Reaches directory name where
  free : disk.refusal? (directory ++ [name]) = none

/-- A file is opened, but writing it stops midway and leaves something else there. -/
structure Stops (disk : Disk) (directory : List String) (name : String) (fault : FileFault)
    (left : String) : Prop extends disk.Reaches directory name where
  refused : disk.refusal? (directory ++ [name]) = some (.midway fault left)

/-- Once a file is reached, it is a matter of what is refused there. -/
theorem Reaches.store_eq (h : disk.Reaches directory name) (content : String) :
    ∃ made, Keeps directory disk made ∧
      disk.store directory name content =
        match disk.refusal? (directory ++ [name]) with
        | none => (.ok (), made.put (directory ++ [name]) (.file content))
        | some (.outright fault) => (.error fault, made)
        | some (.midway fault left) =>
            (.error fault, made.put (directory ++ [name]) (.file left)) := by
  obtain ⟨hshort, hlast⟩ := List.forall_mem_append.1 h.short
  have hname := hlast name (List.mem_singleton.2 rfl)
  have hmakes : (disk.makeDirectories directory).1 = .ok () :=
    makeBelow_eq_ok_iff.2 ⟨hshort, fun front hfront _ => h.passable front hfront⟩
  have hkeeps : Keeps directory disk (disk.makeDirectories directory).2 :=
    keeps_makeBelow [] directory disk
  have hthere : (disk.makeDirectories directory).2.node? directory = some .directory :=
    node?_makeBelow_self rfl hmakes
  have hfree := h.notDirectory
  rw [← hkeeps.node?_below (by simp)] at hfree
  refine ⟨_, hkeeps, ?_⟩
  rw [← hkeeps.refusal?_eq, store]
  cases hmade : disk.makeDirectories directory with
  | mk outcome made =>
      rw [hmade] at hmakes hthere hfree
      obtain rfl : outcome = .ok () := hmakes
      dsimp only at hthere hfree ⊢
      rw [write, if_neg (Nat.not_lt.2 hname), hthere]
      dsimp only
      split
      · next hdirectory => exact absurd hdirectory hfree
      · rfl

/-- What is not reached is not written, and no file is changed. -/
theorem store_of_not_reaches (h : ¬ disk.Reaches directory name) (content : String) :
    ∃ fault after, disk.store directory name content = (.error fault, after) ∧
      ∀ path, after.file? path = disk.file? path := by
  have hkeeps : Keeps directory disk (disk.makeDirectories directory).2 :=
    keeps_makeBelow [] directory disk
  rw [store]
  cases hmade : disk.makeDirectories directory with
  | mk outcome made =>
      rw [hmade] at hkeeps
      cases outcome with
      | error fault => exact ⟨fault, made, rfl, hkeeps.file?_eq⟩
      | ok done =>
          obtain ⟨hshort, hpassable⟩ := makeBelow_eq_ok_iff.1 (congrArg Prod.fst hmade)
          have hthere : made.node? directory = some .directory := by
            have hself := node?_makeBelow_self rfl (congrArg Prod.fst hmade)
            rwa [show makeBelow [] directory disk = _ from hmade] at hself
          dsimp only
          rw [write]
          split
          · exact ⟨_, made, rfl, hkeeps.file?_eq⟩
          · next hname =>
              rw [hthere]
              dsimp only
              split
              · exact ⟨_, made, rfl, hkeeps.file?_eq⟩
              · next hfree =>
                  refine absurd ?_ h
                  constructor
                  case short =>
                    exact List.forall_mem_append.2
                      ⟨hshort, List.forall_mem_singleton.2 (Nat.le_of_not_lt hname)⟩
                  case passable =>
                    intro front hfront
                    by_cases hroot : front = []
                    · rw [hroot]
                      exact Or.inl rfl
                    · exact hpassable front hfront hroot
                  case notDirectory => rwa [← hkeeps.node?_below (by simp)]

/-- A file that is written is there with its content, and all others are as before. -/
theorem store_of_takes (h : disk.Takes directory name) (content : String) :
    ∃ after, disk.store directory name content = (.ok (), after) ∧
      ∀ path, after.file? path =
        if path = directory ++ [name] then some content else disk.file? path := by
  obtain ⟨made, hkeeps, hstore⟩ := h.toReaches.store_eq content
  rw [h.free] at hstore
  refine ⟨_, hstore, fun path => ?_⟩
  rw [file?_put (by simp), hkeeps.file?_eq]

/-- Where writing stops midway, all other files are as before. -/
theorem store_of_stops {fault : FileFault} {left : String}
    (h : disk.Stops directory name fault left) (content : String) :
    ∃ after, disk.store directory name content = (.error fault, after) ∧
      ∀ path, after.file? path =
        if path = directory ++ [name] then some left else disk.file? path := by
  obtain ⟨made, hkeeps, hstore⟩ := h.toReaches.store_eq content
  rw [h.refused] at hstore
  refine ⟨_, hstore, fun path => ?_⟩
  rw [file?_put (by simp), hkeeps.file?_eq]

/-- Where writing does not even begin, all files are as before. -/
theorem store_of_not_takes (h : ¬ disk.Takes directory name)
    (hstops : ∀ fault left, ¬ disk.Stops directory name fault left) (content : String) :
    ∃ fault after, disk.store directory name content = (.error fault, after) ∧
      ∀ path, after.file? path = disk.file? path := by
  by_cases hreaches : disk.Reaches directory name
  case neg => exact store_of_not_reaches hreaches content
  case pos =>
    obtain ⟨made, hkeeps, hstore⟩ := hreaches.store_eq content
    cases hrefusal : disk.refusal? (directory ++ [name]) with
    | none => exact absurd ⟨hreaches, hrefusal⟩ h
    | some refusal =>
        cases refusal with
        | outright fault =>
            rw [hrefusal] at hstore
            exact ⟨fault, made, hstore, hkeeps.file?_eq⟩
        | midway fault left => exact absurd ⟨hreaches, hrefusal⟩ (hstops fault left)

end WebClient.Disk
