import Mathlib.Data.List.Basic
import WebClient.Template
import WebClient.Proofs.Text.Replacement

/-!
# Putting values into a template

A template is cut into pieces: the slots that `Template.scan` finds, one for each
pair of braces, and the text between them.  Filling the slots at once is what a
reader of the template expects; a draft replaces one token after the other in
the whole text instead.  The two agree as long as no value contains an opening
brace and no name ends with the opening brace and the rest of another name: then no
replacement can make a new slot or touch another one.
-/

namespace WebClient.Template

/-- A piece of a template. -/
inductive Piece where
  /-- Text that stands for itself. -/
  | text (s : List Char)
  /-- What stands between a pair of braces, which may be nothing. -/
  | slot (name : List Char)
  deriving DecidableEq, Repr

/-- The pieces of a template; a brace that is never closed stands for itself. -/
def pieces : List Char → List Piece
  | [] => []
  | c :: rest => if c = '{' then collect [] rest else .text [c] :: pieces rest
where
  /-- Read a slot up to the closing brace; `read` holds its beginning, last
  character first. -/
  collect (read : List Char) : List Char → List Piece
    | [] => [.text ('{' :: read.reverse)]
    | c :: rest => if c = '}' then .slot read.reverse :: pieces rest else collect (c :: read) rest

namespace Piece

/-- A piece as it stands in the template. -/
def render : Piece → List Char
  | .text s => s
  | .slot name => '{' :: name ++ ['}']

/-- What stands between the braces of a slot. -/
def slot? : Piece → Option (List Char)
  | .text _ => none
  | .slot name => some name

/-- A piece with the value of its name in the place of its slot; an empty slot has
no name and stays. -/
def fill (value : String → List Char) : Piece → List Char
  | .slot name => if name.isEmpty then ['{', '}'] else value (String.ofList name)
  | .text s => s

/-- A piece with a value in the place of the slots of one name. -/
def bind (name : String) (value : List Char) : Piece → Piece
  | .slot own => if own = name.toList then .text value else .slot own
  | .text s => .text s

end Piece

/-- The template with the values of all names put in at once. -/
def substitute (value : String → List Char) (t : Template) : List Char :=
  (pieces t.text.toList).flatMap (Piece.fill value)

/-! ## Pieces and scanning -/

theorem pieces_cons (c : Char) (rest : List Char) :
    pieces (c :: rest) =
      if c = '{' then pieces.collect [] rest else .text [c] :: pieces rest := by
  rw [pieces]

theorem collect_cons (read : List Char) (c : Char) (rest : List Char) :
    pieces.collect read (c :: rest) =
      if c = '}' then .slot read.reverse :: pieces rest
      else pieces.collect (c :: read) rest := by
  rw [pieces.collect]

/-- The pieces and the pieces behind an open brace have the text that they are read
from. -/
theorem render_pieces_and_collect (s : List Char) :
    (pieces s).flatMap Piece.render = s ∧
      ∀ read, (pieces.collect read s).flatMap Piece.render = '{' :: read.reverse ++ s := by
  -- The two readers call each other on the rest of the text, so they go together.
  induction s with
  | nil =>
      refine ⟨rfl, fun read => ?_⟩
      simp [pieces.collect, Piece.render]
  | cons c s ih =>
      obtain ⟨hpieces, hcollect⟩ := ih
      constructor
      · rw [pieces_cons]
        split
        · next hc => rw [hcollect, hc]; rfl
        · rw [List.flatMap_cons, hpieces]; rfl
      · intro read
        rw [collect_cons]
        split
        · next hc =>
            rw [List.flatMap_cons, hpieces, hc]
            simp [Piece.render]
        · rw [hcollect]
          simp

/-- The pieces of a text make up the text. -/
theorem render_pieces (s : List Char) : (pieces s).flatMap Piece.render = s :=
  (render_pieces_and_collect s).1

/-- The slots are what scanning finds. -/
theorem slots_pieces_and_collect (s : List Char) :
    (pieces s).filterMap Piece.slot? = scan s ∧
      ∀ read, (pieces.collect read s).filterMap Piece.slot? = scan.collect read s := by
  induction s with
  | nil => exact ⟨rfl, fun read => rfl⟩
  | cons c s ih =>
      obtain ⟨hpieces, hcollect⟩ := ih
      constructor
      · rw [pieces_cons, scan]
        split
        · exact hcollect []
        · exact hpieces
      · intro read
        rw [collect_cons, scan.collect]
        split
        · rw [List.filterMap_cons, hpieces]
          rfl
        · exact hcollect (c :: read)

theorem slots_pieces (s : List Char) : (pieces s).filterMap Piece.slot? = scan s :=
  (slots_pieces_and_collect s).1

/-- No name that scanning finds contains a closing brace. -/
theorem closing_not_mem_scan_and_collect (s : List Char) :
    (∀ name ∈ scan s, '}' ∉ name) ∧
      ∀ read, '}' ∉ read → ∀ name ∈ scan.collect read s, '}' ∉ name := by
  induction s with
  | nil =>
      exact ⟨fun _ h => absurd h List.not_mem_nil, fun _ _ _ h => absurd h List.not_mem_nil⟩
  | cons c s ih =>
      obtain ⟨hscan, hcollect⟩ := ih
      constructor
      · rw [scan]
        split
        · exact hcollect [] List.not_mem_nil
        · exact hscan
      · intro read hread
        rw [scan.collect]
        split
        · intro name hname
          rcases List.mem_cons.1 hname with rfl | hname
          · rwa [List.mem_reverse]
          · exact hscan name hname
        · next hc =>
            refine hcollect (c :: read) fun h => ?_
            rcases List.mem_cons.1 h with h | h
            · exact hc h.symm
            · exact hread h

theorem closing_not_mem_scan {s name : List Char} (h : name ∈ scan s) : '}' ∉ name :=
  (closing_not_mem_scan_and_collect s).1 name h

/-- The names of a template are the scanned texts that are not empty. -/
theorem mem_placeholders {t : Template} {name : String} :
    name ∈ t.placeholders ↔ name.toList ∈ scan t.text.toList ∧ name ≠ "" := by
  unfold placeholders
  rw [List.mem_map]
  constructor
  · rintro ⟨read, hread, rfl⟩
    obtain ⟨hscan, hne⟩ := List.mem_filter.1 hread
    rw [String.toList_ofList]
    refine ⟨hscan, fun hempty => ?_⟩
    rw [String.ofList_eq_empty_iff] at hempty
    simp [hempty] at hne
  · rintro ⟨hscan, hne⟩
    refine ⟨name.toList, List.mem_filter.2 ⟨hscan, ?_⟩, String.ofList_toList⟩
    simpa using hne

/-- A name of a template is not empty and contains no closing brace. -/
theorem name_of_mem_placeholders {t : Template} {name : String}
    (h : name ∈ t.placeholders) : name.toList ≠ [] ∧ '}' ∉ name.toList := by
  obtain ⟨hscan, hne⟩ := mem_placeholders.1 h
  refine ⟨fun hnil => hne (String.toList_eq_nil_iff.1 hnil), closing_not_mem_scan hscan⟩

/-! ## Replacing the tokens of one name -/

/-- No name of the template ends with an opening brace and one of its names, so that no
token stands at the end of the slot of another name. -/
def NamesApart (t : Template) : Prop :=
  ∀ own ∈ t.placeholders, ∀ name ∈ t.placeholders, ¬ ('{' :: name.toList) <:+ own.toList

theorem namesApart_of_not_mem {t : Template} (h : ∀ name ∈ t.placeholders, '{' ∉ name.toList) :
    t.NamesApart :=
  fun own hown _ _ hend => h own hown (hend.subset List.mem_cons_self)

/-- The pieces of a text in which the tokens of some names can be replaced, one name
after the other: only slots contain opening braces, but for the brace that is never
closed, and none of the tokens stands at the end of a slot. -/
inductive Scanned (names : List String) : List Piece → Prop
  | nil : Scanned names []
  | text {s : List Char} {rest : List Piece} (hs : '{' ∉ s) (hrest : Scanned names rest) :
      Scanned names (.text s :: rest)
  | slot {own : List Char} {rest : List Piece}
      (hapart : ∀ name ∈ names, ¬ ('{' :: name.toList) <:+ own) (hclose : '}' ∉ own)
      (hrest : Scanned names rest) : Scanned names (.slot own :: rest)
  | tail {s : List Char} (hs : '}' ∉ s) : Scanned names [.text ('{' :: s)]

theorem scanned_pieces_and_collect (names : List String) (s : List Char) :
    ((∀ own ∈ scan s, ∀ name ∈ names, ¬ ('{' :: name.toList) <:+ own) →
        Scanned names (pieces s)) ∧
      ∀ read, '}' ∉ read →
        (∀ own ∈ scan.collect read s, ∀ name ∈ names, ¬ ('{' :: name.toList) <:+ own) →
          Scanned names (pieces.collect read s) := by
  induction s with
  | nil =>
      refine ⟨fun _ => .nil, fun read hread _ => .tail ?_⟩
      rwa [List.mem_reverse]
  | cons c s ih =>
      obtain ⟨hpieces, hcollect⟩ := ih
      constructor
      · rw [pieces_cons, scan]
        split
        · exact hcollect [] List.not_mem_nil
        · next hc =>
            intro hapart
            refine .text (fun h => hc ?_) (hpieces hapart)
            exact (List.mem_singleton.1 h).symm
      · intro read hread
        rw [collect_cons, scan.collect]
        split
        · intro hapart
          have hread' : '}' ∉ read.reverse := by rwa [List.mem_reverse]
          exact .slot (hapart _ List.mem_cons_self) hread'
            (hpieces fun own h => hapart own (List.mem_cons_of_mem _ h))
        · next hc =>
            refine hcollect (c :: read) fun h => ?_
            rcases List.mem_cons.1 h with h | h
            · exact hc h.symm
            · exact hread h

theorem scanned_pieces {t : Template} (h : t.NamesApart) {names : List String}
    (hnames : ∀ name ∈ names, name ∈ t.placeholders) :
    Scanned names (pieces t.text.toList) := by
  refine (scanned_pieces_and_collect names _).1 fun own hown name hname hend => ?_
  have hne : own ≠ [] := List.ne_nil_of_mem (hend.subset List.mem_cons_self)
  have hmem : String.ofList own ∈ t.placeholders := by
    rw [mem_placeholders, String.toList_ofList, Ne, String.ofList_eq_empty_iff]
    exact ⟨hown, hne⟩
  have hnot := h _ hmem name (hnames name hname)
  rw [String.toList_ofList] at hnot
  exact hnot hend

theorem scanned_bind {names : List String} {name : String} {value : List Char}
    (hvalue : '{' ∉ value) {ps : List Piece} (h : Scanned names ps) :
    Scanned names (ps.map (Piece.bind name value)) := by
  induction h with
  | nil => exact .nil
  | text hs _ ih => exact .text hs ih
  | slot hapart hclose _ ih =>
      rw [List.map_cons, Piece.bind]
      split
      · exact .text hvalue ih
      · exact .slot hapart hclose ih
  | tail hs => exact .tail hs

/-- A token is in front of a text only if it is the slot there. -/
theorem eq_of_token_front {name own rest : List Char} (hname : '}' ∉ name)
    (hown : '}' ∉ own)
    (h : ('{' :: name ++ ['}']) <+: '{' :: own ++ '}' :: rest) : name = own := by
  -- Both names end at the first closing brace, which is the same one.
  rw [List.cons_append, List.cons_append, List.cons_prefix_cons] at h
  replace h := h.2
  induction name generalizing own with
  | nil =>
      cases own with
      | nil => rfl
      | cons d own =>
          rw [List.nil_append, List.cons_append, List.cons_prefix_cons] at h
          exact absurd (h.1 ▸ List.mem_cons_self) hown
  | cons c name ih =>
      cases own with
      | nil =>
          rw [List.cons_append, List.nil_append, List.cons_prefix_cons] at h
          exact absurd (h.1 ▸ List.mem_cons_self) hname
      | cons d own =>
          rw [List.cons_append, List.cons_append, List.cons_prefix_cons] at h
          rw [h.1, ih (fun m => hname (List.mem_cons_of_mem _ m))
            (fun m => hown (List.mem_cons_of_mem _ m)) h.2]

/-- A token does not start anywhere in the slot of another name, unless it stands at the
end of that name. -/
theorem not_token_front {name : String} (hname : '}' ∉ name.toList) {own rest : List Char}
    (hown : '}' ∉ own) (hother : own ≠ name.toList) (hapart : ¬ ('{' :: name.toList) <:+ own)
    {front back : List Char} (hslot : (Piece.slot own).render = front ++ back)
    (hback : back ≠ []) : (token name).isPrefixOf (back ++ rest) = false := by
  rw [Bool.eq_false_iff, Ne, List.isPrefixOf_iff_prefix]
  intro hfront
  -- What is left of the slot ends with its closing brace.
  obtain ⟨inner, hinner⟩ : ∃ inner, back = inner ++ ['}'] := by
    have hlast : back.getLast? = some '}' := by
      rw [← List.getLast?_append_of_ne_nil front hback, ← hslot]
      exact List.getLast?_concat
    exact List.getLast?_eq_some_iff.1 hlast
  have hopened : '{' :: own = front ++ inner := by
    rw [hinner, ← List.append_assoc] at hslot
    exact List.append_cancel_right hslot
  rw [hinner] at hfront
  cases inner with
  | nil => exact absurd (List.cons_prefix_cons.1 hfront).1 (by decide)
  | cons c read =>
      obtain rfl : '{' = c := (List.cons_prefix_cons.1 hfront).1
      have hsuffix : ('{' :: read) <:+ '{' :: own := ⟨front, hopened.symm⟩
      have hread : '}' ∉ read := by
        rcases List.suffix_cons_iff.1 hsuffix with heq | hend
        · exact (List.cons_eq_cons.1 heq).2 ▸ hown
        · exact fun h => hown (hend.subset (List.mem_cons_of_mem _ h))
      have hfront' : ('{' :: name.toList ++ ['}']) <+: '{' :: read ++ '}' :: rest := by
        simpa [token] using hfront
      have hsame : name.toList = read := eq_of_token_front hname hread hfront'
      subst hsame
      rcases List.suffix_cons_iff.1 hsuffix with heq | hend
      · exact hother (List.cons_eq_cons.1 heq).2.symm
      · exact hapart hend

/-- Replacing a token replaces the slots of its name. -/
theorem replaceAll_render {names : List String} {name : String} (hname : name ∈ names)
    (hclose : '}' ∉ name.toList) (value : List Char) {ps : List Piece}
    (h : Scanned names ps) :
    Text.replaceAll (token name) value (ps.flatMap Piece.render) =
      (ps.map (Piece.bind name value)).flatMap Piece.render := by
  induction h with
  | nil => rfl
  | text hs _ ih =>
      rw [List.flatMap_cons, List.map_cons, List.flatMap_cons, ← ih]
      exact Text.replaceAll_append_of_not_mem hs _
  | @slot own rest hapart hown _ ih =>
      rw [List.flatMap_cons, List.map_cons, List.flatMap_cons, ← ih, Piece.bind]
      split
      · next hsame =>
          rw [hsame]
          exact Text.replaceAll_token_append (List.cons_ne_nil _ _) _
      · next hother =>
          exact Text.replaceAll_append_of_not_front fun front back hslot hback =>
            not_token_front hclose hown hother (hapart name hname) hslot hback
  | @tail s hs =>
      -- A brace that is never closed cannot start a token.
      have hmark : '}' ∈ token name := by simp [token]
      have hnot : '}' ∉ [Piece.text ('{' :: s)].flatMap Piece.render := by
        simpa [Piece.render] using hs
      rw [Text.replaceAll_eq_self hmark hnot]
      rfl

/-! ## Replacing the tokens of several names -/

/-- A text with the tokens of several names replaced, one name after the other. -/
def replaceTokens (path : List Char) (bindings : List (String × String)) : List Char :=
  bindings.foldl (fun path b => Text.replaceAll (token b.1) b.2.toList path) path

@[simp] theorem replaceTokens_nil (path : List Char) : replaceTokens path [] = path := rfl

@[simp] theorem replaceTokens_cons (path : List Char) (b : String × String)
    (bindings : List (String × String)) :
    replaceTokens path (b :: bindings) =
      replaceTokens (Text.replaceAll (token b.1) b.2.toList path) bindings := rfl

@[simp] theorem replaceTokens_append (path : List Char) (bs cs : List (String × String)) :
    replaceTokens path (bs ++ cs) = replaceTokens (replaceTokens path bs) cs :=
  List.foldl_append

/-- A piece with the value of the first binding of its name in the place of its slot. -/
def Piece.bindAll (bindings : List (String × String)) (p : Piece) : Piece :=
  bindings.foldl (fun p b => p.bind b.1 b.2.toList) p

theorem bindAll_cons (b : String × String) (bindings : List (String × String)) (p : Piece) :
    Piece.bindAll (b :: bindings) p = Piece.bindAll bindings (p.bind b.1 b.2.toList) := rfl

theorem bindAll_text (bindings : List (String × String)) (s : List Char) :
    Piece.bindAll bindings (.text s) = .text s := by
  induction bindings with
  | nil => rfl
  | cons b bindings ih => exact ih

theorem bindAll_slot (bindings : List (String × String)) (name : String) :
    Piece.bindAll bindings (.slot name.toList) =
      match bindings.lookup name with
      | some value => .text value.toList
      | none => .slot name.toList := by
  induction bindings with
  | nil => rfl
  | cons b bindings ih =>
      obtain ⟨own, value⟩ := b
      rw [bindAll_cons, Piece.bind, List.lookup_cons]
      by_cases hsame : name = own
      · subst hsame
        rw [if_pos rfl, bindAll_text, beq_self_eq_true]
      · have hlist : ¬ name.toList = own.toList := fun h => hsame (String.toList_injective h)
        rw [if_neg hlist, ih, beq_false_of_ne hsame]

theorem replaceTokens_render {names : List String} {bindings : List (String × String)}
    (hnames : ∀ b ∈ bindings, b.1 ∈ names ∧ '}' ∉ b.1.toList)
    (hvalues : ∀ b ∈ bindings, '{' ∉ b.2.toList) {ps : List Piece} (h : Scanned names ps) :
    replaceTokens (ps.flatMap Piece.render) bindings =
      (ps.map (Piece.bindAll bindings)).flatMap Piece.render := by
  induction bindings generalizing ps with
  | nil =>
      have hid : Piece.bindAll [] = id := rfl
      rw [hid, List.map_id]
      rfl
  | cons b bindings ih =>
      obtain ⟨hname, hclose⟩ := hnames b List.mem_cons_self
      have hvalue := hvalues b List.mem_cons_self
      rw [replaceTokens_cons, replaceAll_render hname hclose _ h,
        ih (fun c hc => hnames c (List.mem_cons_of_mem _ hc))
          (fun c hc => hvalues c (List.mem_cons_of_mem _ hc)) (scanned_bind hvalue h),
        List.map_map]
      rfl

/-- Replacing the tokens of bound names one after the other puts all their values in
at once. -/
theorem replaceTokens_eq_substitute {t : Template} {bindings : List (String × String)}
    {value : String → List Char} (hapart : t.NamesApart)
    (hnames : ∀ b ∈ bindings, b.1 ∈ t.placeholders)
    (hvalues : ∀ b ∈ bindings, '{' ∉ b.2.toList)
    (hbound : ∀ name ∈ t.placeholders,
      ∃ text, bindings.lookup name = some text ∧ text.toList = value name) :
    replaceTokens t.text.toList bindings = t.substitute value := by
  have hown : ∀ b ∈ bindings, b.1 ∈ t.placeholders ∧ '}' ∉ b.1.toList :=
    fun b hb => ⟨hnames b hb, (name_of_mem_placeholders (hnames b hb)).2⟩
  have hrender := replaceTokens_render hown hvalues (scanned_pieces hapart fun _ h => h)
  rw [render_pieces] at hrender
  rw [hrender, substitute, List.flatMap_map]
  refine List.flatMap_congr fun p hp => ?_
  cases p with
  | text s => rw [bindAll_text]; rfl
  | slot name =>
      -- The slot is one of the names of the template, or empty and then bound by none.
      have hscan : name ∈ scan t.text.toList := by
        rw [← slots_pieces]
        exact List.mem_filterMap.2 ⟨.slot name, hp, rfl⟩
      have hofList : (String.ofList name).toList = name := String.toList_ofList
      have hslot := bindAll_slot bindings (String.ofList name)
      rw [hofList] at hslot
      rw [hslot]
      by_cases hempty : name = []
      · subst hempty
        have hunbound : bindings.lookup (String.ofList []) = none := by
          rw [List.lookup_eq_none_iff]
          intro b hb
          have hne := (name_of_mem_placeholders (hnames b hb)).1
          rw [bne_iff_ne]
          exact fun h => hne (String.toList_eq_nil_iff.2 h.symm)
        rw [hunbound]
        rfl
      · have hmem : String.ofList name ∈ t.placeholders := by
          rw [mem_placeholders, hofList, Ne, String.ofList_eq_empty_iff]
          exact ⟨hscan, hempty⟩
        obtain ⟨text, hlookup, htext⟩ := hbound _ hmem
        rw [hlookup]
        simp [Piece.render, Piece.fill, hempty, htext]

/-! ## Templates of whole pieces -/

theorem pieces_append {s : List Char} (h : '{' ∉ s) (rest : List Char) :
    pieces (s ++ rest) = s.map (fun c => .text [c]) ++ pieces rest := by
  induction s with
  | nil => rfl
  | cons c s ih =>
      have hc : c ≠ '{' := fun heq => h (heq ▸ List.mem_cons_self)
      rw [List.cons_append, pieces_cons, if_neg hc, ih fun hs => h (List.mem_cons_of_mem _ hs)]
      rfl

theorem collect_append {name : List Char} (h : '}' ∉ name) (read rest : List Char) :
    pieces.collect read (name ++ '}' :: rest) = .slot (read.reverse ++ name) :: pieces rest := by
  induction name generalizing read with
  | nil => rw [List.nil_append, collect_cons, if_pos rfl, List.append_nil]
  | cons c name ih =>
      have hc : c ≠ '}' := fun heq => h (heq ▸ List.mem_cons_self)
      rw [List.cons_append, collect_cons, if_neg hc, ih fun hs => h (List.mem_cons_of_mem _ hs)]
      simp

/-- A piece that is read back from where it stands in a template. -/
def Piece.IsPlain : Piece → Prop
  | .text s => '{' ∉ s
  | .slot name => '}' ∉ name

/-- Plain pieces are filled where they stand. -/
theorem fill_pieces_append (value : String → List Char) {p : Piece} (hp : p.IsPlain)
    (rest : List Char) :
    (pieces (p.render ++ rest)).flatMap (Piece.fill value) =
      p.fill value ++ (pieces rest).flatMap (Piece.fill value) := by
  cases p with
  | text s =>
      have hchars : (s.map fun c => Piece.text [c]).flatMap (Piece.fill value) = s := by
        rw [List.flatMap_map]
        exact List.flatMap_singleton' s
      rw [Piece.render, pieces_append hp, List.flatMap_append, hchars]
      rfl
  | slot name =>
      have hslot : (Piece.slot name).render ++ rest = '{' :: (name ++ '}' :: rest) := by
        simp [Piece.render]
      rw [hslot, pieces_cons, if_pos rfl, collect_append hp, List.flatMap_cons]
      rfl

/-- A template of plain pieces, each behind a slash, is filled piece by piece. -/
theorem substitute_segments (value : String → List Char) {t : Template} {ps : List Piece}
    (ht : t.text.toList = ps.flatMap fun p => '/' :: p.render) (hps : ∀ p ∈ ps, p.IsPlain) :
    t.substitute value = ps.flatMap fun p => '/' :: p.fill value := by
  rw [substitute, ht]
  clear ht
  induction ps with
  | nil => rfl
  | cons p ps ih =>
      obtain ⟨hp, hps⟩ := List.forall_mem_cons.1 hps
      rw [List.flatMap_cons, List.flatMap_cons, List.cons_append, pieces_cons,
        if_neg (by decide), List.flatMap_cons, fill_pieces_append value hp, ih hps]
      rfl

end WebClient.Template
