import WebClient.Proofs.Text.Cutting
import WebClient.Proofs.Url.Path

/-!
# Resolving a path from the root

A text that starts with a slash is resolved against a web URL in one of two ways.
If a slash of either kind comes next, tabs and line breaks not counted, the text
names a server of its own; otherwise it keeps the server of the URL.  The first
two marks that count decide which, whatever stands behind them.

A text that keeps the server is cut into segments, and the path of the result is these
segments pushed behind the root.  Segments that a path keeps and that are no dot
segments come out as they are, and stay in front of whatever does not climb out.
-/

namespace WebClient

/-- The parts of a URL that say which server it is on and who asks. -/
def Url.server (u : Url) : String × String × String × Option Host × Option Nat :=
  (u.scheme, u.username, u.password, u.host, u.port)

namespace Reference

open Text (trimBoth dropTrailing splitOnce?)
open UrlPath (isLineBlank)

/-- The text starts with two slashes, the second of either kind, once tabs and line
breaks are dropped. -/
def namesAuthority (s : List Char) : Bool :=
  match clean s with
  | '/' :: d :: _ => d = '/' || d = '\\'
  | _ => false

/-- The text behind the slashes in front of an authority. -/
def authorityText : List Char → List Char
  | '/' :: '/' :: more => more
  | s => s.dropWhile fun c => c = '/' || c = '\\'

/-! ## The main part of a reference -/

theorem clean_cons_of_blank {c : Char} (h : isLineBlank c = true) (s : List Char) :
    clean (c :: s) = clean s := by
  rw [clean, List.filter_cons_of_neg (by simp [h])]
  rfl

theorem clean_cons {c : Char} (h : isLineBlank c = false) (s : List Char) :
    clean (c :: s) = c :: clean s := by
  rw [clean, List.filter_cons_of_pos (by simp [h])]
  rfl

theorem isLineBlank_of_isOuterBlank {c : Char} (h : isOuterBlank c = false) :
    isLineBlank c = false := by
  rw [← Bool.not_eq_true] at h ⊢
  intro hblank
  rw [isLineBlank, Bool.or_eq_true, Bool.or_eq_true, decide_eq_true_eq, decide_eq_true_eq,
    decide_eq_true_eq] at hblank
  rcases hblank with (rfl | rfl) | rfl <;> exact h (by decide)

theorem cut_fst (mark : Char) (s : List Char) : (cut mark s).1 = s.takeWhile (· != mark) := by
  induction s with
  | nil => rfl
  | cons c s ih =>
      rw [cut, splitOnce?]
      by_cases hc : c = mark
      · simp [hc]
      · rw [List.takeWhile_cons_of_pos (by simpa using hc), ← ih, cut]
        simp only [beq_iff_eq, hc, if_false]
        cases splitOnce? (· == mark) s with
        | none => rfl
        | some parts => rfl

/-- Cutting a text behind a character does not change whether it comes first. -/
theorem head?_clean_takeWhile {mark d : Char} (hd : d ≠ mark) (hmark : isLineBlank mark = false)
    (s : List Char) :
    (clean (s.takeWhile (· != mark))).head? = some d ↔ (clean s).head? = some d := by
  induction s with
  | nil => rfl
  | cons c s ih =>
      by_cases hc : c = mark
      · subst hc
        rw [List.takeWhile_cons_of_neg (by simp), clean_cons hmark]
        simp [clean, Ne.symm hd]
      · rw [List.takeWhile_cons_of_pos (by simpa using hc)]
        cases hblank : isLineBlank c with
        | true => rw [clean_cons_of_blank hblank, clean_cons_of_blank hblank, ih]
        | false => rw [clean_cons hblank, clean_cons hblank, List.head?_cons, List.head?_cons]

/-- Dropping blanks at the end does not change which other character comes first. -/
theorem head?_clean_dropTrailing {d : Char} (hd : isOuterBlank d = false) (s : List Char) :
    (clean (dropTrailing isOuterBlank s)).head? = some d ↔ (clean s).head? = some d := by
  induction s with
  | nil => rfl
  | cons c s ih =>
      rw [dropTrailing]
      cases hrest : dropTrailing isOuterBlank s with
      | nil =>
          -- Nothing is left behind this character, so none but it can come first.
          have hempty : (clean []).head? ≠ some d := by simp [clean]
          have hnone : (clean s).head? ≠ some d := by
            rwa [Ne, ← ih, hrest]
          dsimp only
          cases houter : isOuterBlank c with
          | false =>
              have hblank : isLineBlank c = false := isLineBlank_of_isOuterBlank houter
              rw [if_neg Bool.false_ne_true, clean_cons hblank, clean_cons hblank,
                List.head?_cons, List.head?_cons]
          | true =>
              rw [if_pos rfl]
              refine ⟨fun h => absurd h hempty, fun h => absurd h ?_⟩
              cases hblank : isLineBlank c with
              | true => rwa [clean_cons_of_blank hblank]
              | false =>
                  rw [clean_cons hblank, List.head?_cons, Option.some.injEq]
                  rintro rfl
                  rw [houter] at hd
                  cases hd
      | cons kept more =>
          rw [hrest] at ih
          dsimp only
          cases hblank : isLineBlank c with
          | true => rw [clean_cons_of_blank hblank, clean_cons_of_blank hblank, ih]
          | false => rw [clean_cons hblank, clean_cons hblank, List.head?_cons, List.head?_cons]

/-- The part of a text behind a slash that is read as a path. -/
def pathPart (s : List Char) : List Char :=
  ((dropTrailing isOuterBlank s).takeWhile (· != '#')).takeWhile (· != '?')

/-- The segments of the path of a text behind a slash, as they are written. -/
def codedSegments (s : List Char) : List (List Char) :=
  (Text.splitAll (UrlPath.isSlash .special) (pathPart s)).map UrlPath.coded

/-- The main part of a text behind a slash is the slash and its path. -/
theorem ofText_slash (s : List Char) :
    (ofText ('/' :: s)).main = '/' :: clean (pathPart s) ∧
      (ofText ('/' :: s)).source = '/' :: pathPart s := by
  have htrim : trimBoth isOuterBlank ('/' :: s) = '/' :: dropTrailing isOuterBlank s := by
    rw [trimBoth, List.dropWhile_cons_of_neg (by decide), dropTrailing]
    cases dropTrailing isOuterBlank s with
    | nil => rfl
    | cons c more => rfl
  have hsource : (ofText ('/' :: s)).source =
      (cut '?' (cut '#' (trimBoth isOuterBlank ('/' :: s))).1).1 := rfl
  have hmain : (ofText ('/' :: s)).main = clean (ofText ('/' :: s)).source := rfl
  rw [cut_fst, cut_fst, htrim, List.takeWhile_cons_of_pos (by decide),
    List.takeWhile_cons_of_pos (by decide)] at hsource
  rw [hmain, hsource, clean_cons (by decide)]
  exact ⟨rfl, rfl⟩

/-- A text behind a slash keeps its slash, and what comes first behind it. -/
theorem main_ofText (s : List Char) :
    ∃ rest, (ofText ('/' :: s)).main = '/' :: rest ∧
      ∀ d, (d = '/' ∨ d = '\\') → (rest.head? = some d ↔ (clean s).head? = some d) := by
  -- Neither mark nor blank is a slash, so cutting and dropping keep the first one.
  refine ⟨_, (ofText_slash s).1, fun d hd => ?_⟩
  rw [pathPart, head?_clean_takeWhile _ (by decide), head?_clean_takeWhile _ (by decide),
    head?_clean_dropTrailing]
  all_goals rcases hd with rfl | rfl <;> decide

/-- A text behind a slash names a server when another slash comes next. -/
theorem namesAuthority_slash (s : List Char) :
    namesAuthority ('/' :: s) = true ↔
      ∃ d, (d = '/' ∨ d = '\\') ∧ (clean s).head? = some d := by
  rw [namesAuthority, clean_cons (by decide)]
  cases clean s with
  | nil => simp
  | cons d more => simp

theorem namesAuthority_main (s : List Char) :
    namesAuthority ('/' :: s) = true ↔
      ∃ d more, (ofText ('/' :: s)).main = '/' :: d :: more ∧ (d = '/' ∨ d = '\\') := by
  obtain ⟨rest, hmain, hhead⟩ := main_ofText s
  rw [namesAuthority_slash, hmain]
  constructor
  · rintro ⟨d, hd, hclean⟩
    obtain ⟨more, hrest⟩ := List.head?_eq_some_iff.1 ((hhead d hd).2 hclean)
    exact ⟨d, more, by rw [hrest], hd⟩
  · rintro ⟨d, more, hrest, hd⟩
    obtain ⟨-, rfl⟩ := List.cons_eq_cons.1 hrest
    exact ⟨d, hd, (hhead d hd).1 rfl⟩

/-! ## Texts that are kept -/

/-- A character that a path keeps is neither dropped nor ends the path. -/
theorem of_isPathChar {c : Char} (h : Percent.isPathChar c = true) :
    isOuterBlank c = false ∧ isLineBlank c = false ∧ c ≠ '#' ∧ c ≠ '?' := by
  have houter : isOuterBlank c = false := by
    rw [isOuterBlank, decide_eq_false_iff_not, Nat.not_le]
    simp only [Percent.isPathChar, Percent.isFragmentChar, Percent.isPlain, Text.isControl,
      Bool.and_eq_true, Bool.not_eq_true', Bool.or_eq_false_iff, decide_eq_false_iff_not] at h
    have hcontrol : ¬ c.toNat < 0x20 := h.1.1.2.1
    have hspace : c.toNat ≠ 0x20 := fun heq => h.1.2.1.1.1.1 (Char.toNat_inj.1 heq)
    omega
  refine ⟨houter, isLineBlank_of_isOuterBlank houter, ?_, ?_⟩
  · rintro rfl
    exact absurd h (by decide)
  · rintro rfl
    exact absurd h (by decide)

theorem clean_eq_self {s : List Char} (h : ∀ c ∈ s, Percent.isPathChar c = true) :
    clean s = s := by
  refine List.filter_eq_self.2 fun c hc => ?_
  rw [(of_isPathChar (h c hc)).2.1]
  rfl

theorem coded_eq_self {s : List Char} (h : ∀ c ∈ s, Percent.isPathChar c = true) :
    UrlPath.coded s = s := by
  rw [UrlPath.coded, clean_eq_self h, Percent.encode_eq_self h]

theorem takeWhile_eq_self {mark : Char} {s : List Char} (h : ∀ c ∈ s, c ≠ mark) :
    s.takeWhile (· != mark) = s :=
  List.takeWhile_eq_self_iff.2 fun c hc => bne_iff_ne.2 (h c hc)

/-- A text of characters that a path keeps is all path. -/
theorem pathPart_eq_self {s : List Char} (h : ∀ c ∈ s, Percent.isPathChar c = true) :
    pathPart s = s := by
  rw [pathPart, Text.dropTrailing_eq_self fun c hc => (of_isPathChar (h c hc)).1,
    takeWhile_eq_self fun c hc => (of_isPathChar (h c hc)).2.2.1,
    takeWhile_eq_self fun c hc => (of_isPathChar (h c hc)).2.2.2]

/-- The path of a text goes on behind a slash as it does there. -/
theorem pathPart_append_slash {front : List Char}
    (h : ∀ c ∈ front, Percent.isPathChar c = true) (s : List Char) :
    pathPart (front ++ '/' :: s) = front ++ '/' :: pathPart s := by
  have hmark {mark : Char} (hmark : Percent.isPathChar mark = false) (t : List Char) :
      (front ++ '/' :: t).takeWhile (· != mark) = front ++ '/' :: t.takeWhile (· != mark) := by
    have hfront : ∀ c ∈ front, (c != mark) = true := by
      intro c hc
      rw [bne_iff_ne]
      rintro rfl
      rw [h c hc] at hmark
      cases hmark
    have hslash : ('/' != mark) = true := by
      rw [bne_iff_ne]
      rintro rfl
      cases hmark
    rw [List.takeWhile_append_of_pos hfront,
      List.takeWhile_cons_of_pos (p := (· != mark)) hslash]
  rw [pathPart, Text.dropTrailing_append_cons (by decide), hmark (by decide),
    hmark (by decide), pathPart]

theorem slash_not_mem_codedSegments {s w : List Char} (hw : w ∈ codedSegments s) : '/' ∉ w := by
  obtain ⟨piece, hpiece, rfl⟩ := List.mem_map.1 hw
  intro hslash
  rcases Percent.mem_encode hslash with ⟨hmem, -⟩ | hpercent | hdigit
  · have hnot := (Text.of_mem_splitAll hpiece (List.mem_of_mem_filter hmem)).2
    exact absurd hnot (by decide)
  · exact absurd hpercent (by decide)
  · exact absurd hdigit (by decide)

/-- The text is one piece of a path, which is written as it stands. -/
def IsPiece (w : List Char) : Prop :=
  ∀ c ∈ w, Percent.isPathChar c = true ∧ c ≠ '/' ∧ c ≠ '\\'

theorem IsPiece.isPathChar {w : List Char} (h : IsPiece w) :
    ∀ c ∈ w, Percent.isPathChar c = true := fun c hc => (h c hc).1

theorem IsPiece.isSlash_eq_false {w : List Char} (h : IsPiece w) :
    ∀ c ∈ w, UrlPath.isSlash .special c = false := by
  intro c hc
  obtain ⟨-, hslash, hback⟩ := h c hc
  simp [UrlPath.isSlash, hslash, hback]

theorem codedSegments_piece {w : List Char} (h : IsPiece w) : codedSegments w = [w] := by
  rw [codedSegments, pathPart_eq_self h.isPathChar, Text.splitAll_eq_singleton h.isSlash_eq_false,
    List.map_singleton, coded_eq_self h.isPathChar]

theorem codedSegments_append_slash {w : List Char} (h : IsPiece w) (s : List Char) :
    codedSegments (w ++ '/' :: s) = w :: codedSegments s := by
  rw [codedSegments, pathPart_append_slash h.isPathChar,
    Text.splitAll_append_cons h.isSlash_eq_false (by decide), List.map_cons,
    coded_eq_self h.isPathChar, codedSegments]

/-- Pieces in front of a text, each with a slash behind it, are its first segments. -/
theorem codedSegments_flatMap_append {pieces : List (List Char)} (h : ∀ w ∈ pieces, IsPiece w)
    (s : List Char) :
    codedSegments (pieces.flatMap (· ++ ['/']) ++ s) = pieces ++ codedSegments s := by
  induction pieces with
  | nil => rfl
  | cons w pieces ih =>
      obtain ⟨hw, hpieces⟩ := List.forall_mem_cons.1 h
      rw [List.flatMap_cons, List.append_assoc, List.append_assoc, List.singleton_append,
        codedSegments_append_slash hw, ih hpieces, List.cons_append]

/-- Pieces with slashes between them are the segments. -/
theorem codedSegments_flatMap {w : List Char} {more : List (List Char)}
    (h : ∀ v ∈ w :: more, IsPiece v) :
    codedSegments (w ++ more.flatMap ('/' :: ·)) = w :: more := by
  induction more generalizing w with
  | nil => rw [List.flatMap_nil, List.append_nil, codedSegments_piece (h w List.mem_cons_self)]
  | cons v more ih =>
      obtain ⟨hw, hmore⟩ := List.forall_mem_cons.1 h
      rw [List.flatMap_cons, List.cons_append, codedSegments_append_slash hw, ih hmore]

/-- The segments of a text that a path keeps, without backslashes, are the pieces between
its slashes. -/
theorem codedSegments_eq_splitAll {s : List Char}
    (h : ∀ c ∈ s, Percent.isPathChar c = true ∧ c ≠ '\\') :
    codedSegments s = Text.splitAll (· = '/') s := by
  have hsplit : Text.splitAll (UrlPath.isSlash .special) s = Text.splitAll (· = '/') s :=
    Text.splitAll_congr fun c hc => by simp [UrlPath.isSlash, (h c hc).2]
  have hcoded : ∀ w ∈ Text.splitAll (· = '/') s, UrlPath.coded w = w := fun w hw =>
    coded_eq_self fun c hc => (h c (Text.of_mem_splitAll hw hc).1).1
  rw [codedSegments, pathPart_eq_self fun c hc => (h c hc).1, hsplit,
    List.map_congr_left hcoded, List.map_id']

/-- A text that goes on with a character that a path keeps, and no slash, names no
server. -/
theorem namesAuthority_eq_false {c : Char} (hc : Percent.isPathChar c = true) (hslash : c ≠ '/')
    (hback : c ≠ '\\') (s : List Char) : namesAuthority ('/' :: c :: s) = false := by
  rw [← Bool.not_eq_true, namesAuthority_slash, clean_cons (of_isPathChar hc).2.1]
  rintro ⟨d, hd, hhead⟩
  obtain rfl : c = d := Option.some.inj hhead
  rcases hd with rfl | rfl
  · exact hslash rfl
  · exact hback rfl

end Reference

namespace Url

open Reference (ofText namesAuthority authorityText pathPart codedSegments)

theorem kind_eq_special {u : Url} (h : u.scheme = "http" ∨ u.scheme = "https") :
    u.kind = .special := by
  rcases h with h | h <;> rw [kind, h] <;> rfl

/-- A text behind a slash is resolved without a scheme of its own. -/
theorem join?_slash {base : Url} (hbase : base.kind = .special) (s : List Char) :
    base.join? ('/' :: s) =
      if base.isBare then .error .relativeWithBareBase
      else relative base (ofText ('/' :: s)) (ofText ('/' :: s)).main := by
  obtain ⟨rest, hmain, -⟩ := Reference.main_ofText s
  have hscheme : splitScheme? (ofText ('/' :: s)).main = none := by
    rw [hmain, splitScheme?, if_neg (by decide)]
  rw [join?, resolve, hscheme]
  simp only [hbase, hmain, List.isEmpty_cons, Bool.false_and, Bool.false_eq_true, if_false]

/-- A text behind a slash that names no server keeps that of the base. -/
theorem server_of_join? {base u : Url} (hbase : base.kind = .special) {s : List Char}
    (hs : namesAuthority ('/' :: s) = false) (h : base.join? ('/' :: s) = .ok u) :
    u.server = base.server := by
  obtain ⟨rest, hmain, -⟩ := Reference.main_ofText s
  rw [join?_slash hbase, hmain] at h
  split at h
  · cases h
  · cases rest with
    | nil =>
        cases h
        rfl
    | cons d more =>
        have hd : (d = '/' || d = '\\') = false := by
          rw [← Bool.not_eq_true] at hs ⊢
          intro hd
          exact hs ((Reference.namesAuthority_main s).2 ⟨d, more, hmain, by simpa using hd⟩)
        rw [relative] at h
        simp only [decide_true, Bool.true_or, if_true, hd, Bool.false_eq_true, if_false] at h
        cases h
        rfl

/-- A text behind a slash that names a server is read as one. -/
theorem join?_of_namesAuthority {base u : Url} (hbase : base.kind = .special) {s : List Char}
    (hs : namesAuthority ('/' :: s) = true) (h : base.join? ('/' :: s) = .ok u) :
    readAuthority base.scheme (ofText ('/' :: s)) (authorityText (ofText ('/' :: s)).main) =
      .ok u := by
  obtain ⟨d, more, hmain, hd⟩ := (Reference.namesAuthority_main s).1 hs
  rw [join?_slash hbase, hmain] at h
  rw [hmain, ← h]
  split at h
  · cases h
  · next hrooted =>
      rw [if_neg hrooted, relative]
      rcases hd with rfl | rfl
      · rw [if_pos (by decide), if_pos (by decide), if_pos (by decide)]
        rfl
      · rw [if_pos (by decide), if_pos (by decide), if_neg (by decide)]
        rfl

/-- Nothing but tabs and line breaks is written as the empty segment. -/
theorem text_writeBelowRoot_of_clean {s : List Char} (h : Reference.clean s = []) :
    (UrlPath.writeBelowRoot .special s).text = (UrlPath.writeBelowRoot .special []).text := by
  have hslash : ∀ c ∈ s, UrlPath.isSlash .special c = false := by
    intro c hc
    have hblank := List.filter_eq_nil_iff.1 h c hc
    rw [← Bool.not_eq_true]
    intro hslash
    simp only [UrlPath.isSlash, SchemeKind.isSpecial, Bool.true_and, Bool.or_eq_true,
      decide_eq_true_eq] at hslash
    rcases hslash with rfl | rfl <;> exact hblank (by decide)
  have hcoded : UrlPath.coded s = UrlPath.coded [] := by
    rw [UrlPath.coded, UrlPath.coded, h]
    rfl
  rw [UrlPath.text_writeBelowRoot, UrlPath.text_writeBelowRoot,
    Text.splitAll_eq_singleton hslash, List.map_singleton, hcoded]
  rfl

/-- A text behind a slash that names no server is resolved to its segments, written below
the root. -/
theorem pathText_of_join? {base u : Url} (hbase : base.kind = .special) {s : List Char}
    (hs : namesAuthority ('/' :: s) = false) (h : base.join? ('/' :: s) = .ok u) :
    u.pathText = UrlPath.pushAll ['/'] (codedSegments s) := by
  obtain ⟨hmain, hsource⟩ := Reference.ofText_slash s
  have hbehind (rest : List Char) (hrest : Reference.clean (pathPart s) = rest) :
      (ofText ('/' :: s)).sourceOf rest = pathPart s := by
    rw [Reference.sourceOf, hmain, hsource, hrest, List.length_cons, Nat.add_sub_cancel_left,
      Reference.dropCounted, if_neg (by decide), Reference.dropCounted]
  have hwritten (draft : UrlPath.Draft) :
      (base.withPath (ofText ('/' :: s)) draft).pathText = draft.text :=
    String.toList_ofList
  rw [join?_slash hbase, hmain] at h
  rw [codedSegments, ← UrlPath.text_writeBelowRoot]
  split at h
  · cases h
  · cases hclean : Reference.clean (pathPart s) with
    | nil =>
        rw [hclean] at h
        cases h
        rw [hwritten, hbase, text_writeBelowRoot_of_clean hclean]
    | cons d more =>
        have hd : (d = '/' || d = '\\') = false := by
          rw [← Bool.not_eq_true] at hs ⊢
          intro hd
          exact hs ((Reference.namesAuthority_main s).2
            ⟨d, more, by rw [hmain, hclean], by simpa using hd⟩)
        rw [hclean, relative] at h
        simp only [decide_true, Bool.true_or, if_true, hd, Bool.false_eq_true, if_false] at h
        cases h
        rw [hwritten, hbase, hbehind _ hclean]

/-! ## Segments -/

/-- The segments of the path. -/
def segments (u : Url) : List (List Char) := (Text.splitAll (· = '/') u.pathText).drop 1

/-- The segment stays as it is wherever it stands in a path. -/
def StaysSegment (w : List Char) : Prop := Reference.IsPiece w ∧ ¬ UrlPath.IsDots w

/-- Unreserved characters without dots are a segment that stays. -/
theorem staysSegment_of_isUnreserved {w : List Char}
    (h : ∀ c ∈ w, Percent.isUnreserved c = true ∧ c ≠ '.') : StaysSegment w := by
  have hnot {x : Char} (hx : Percent.isUnreserved x = false) : x ∉ w := fun hmem =>
    Bool.false_ne_true (hx.symm.trans (h x hmem).1)
  refine ⟨fun c hc => ⟨Percent.isPathChar_of_isUnreserved (h c hc).1, ?_, ?_⟩, fun hdots => ?_⟩
  · rintro rfl
    exact hnot (by decide) hc
  · rintro rfl
    exact hnot (by decide) hc
  · rcases UrlPath.eq_of_isDots (hnot (by decide)) hdots with rfl | rfl
    · exact (h '.' List.mem_cons_self).2 rfl
    · exact (h '.' List.mem_cons_self).2 rfl

theorem staysSegment_of_isAlphanum {w : List Char} (h : ∀ c ∈ w, c.isAlphanum = true) :
    StaysSegment w := by
  refine staysSegment_of_isUnreserved fun c hc => ⟨?_, ?_⟩
  · simp [Percent.isUnreserved, h c hc]
  · rintro rfl
    exact absurd (h '.' hc) (by decide)

/-- A path of segments that stay, the first of them not empty, is resolved to these
segments on the server of the base. -/
theorem segments_of_join? {base u : Url} (hbase : base.kind = .special) {c : Char}
    {w : List Char} {more : List (List Char)}
    (hws : ∀ v ∈ (c :: w) :: more, StaysSegment v)
    (h : base.join? (((c :: w) :: more).flatMap ('/' :: ·)) = .ok u) :
    u.server = base.server ∧ u.segments = (c :: w) :: more := by
  have hfirst := (hws _ List.mem_cons_self).1 c List.mem_cons_self
  have hnames (s : List Char) : namesAuthority ('/' :: c :: s) = false :=
    Reference.namesAuthority_eq_false hfirst.1 hfirst.2.1 hfirst.2.2 s
  have hfront : ((c :: w) :: more).flatMap ('/' :: ·) =
      '/' :: c :: (w ++ more.flatMap ('/' :: ·)) := rfl
  rw [hfront] at h
  have hcoded : codedSegments (c :: (w ++ more.flatMap ('/' :: ·))) = (c :: w) :: more :=
    Reference.codedSegments_flatMap fun v hv => (hws v hv).1
  have hpath := pathText_of_join? hbase (hnames _) h
  rw [hcoded, UrlPath.pushAll_root (fun v hv => (hws v hv).2) (List.cons_ne_nil _ _)] at hpath
  refine ⟨server_of_join? hbase (hnames _) h, ?_⟩
  rw [segments, hpath, Text.splitAll_flatMap]
  · rfl
  · exact fun v hv x hx => decide_eq_false ((hws v hv).1 x hx).2.1
  · rfl

/-- Segments that stay, none of them empty, stay in front of what does not climb out of
its place behind them. -/
theorem prefix_of_join? {base u : Url} (hbase : base.kind = .special)
    {literals : List (List Char)} (hliterals : literals ≠ [])
    (hplain : ∀ w ∈ literals, w ≠ [] ∧ StaysSegment w) {s : List Char}
    (h : base.join? (literals.flatMap ('/' :: ·) ++ '/' :: s) = .ok u)
    (hstays : UrlPath.climbsOut 0 (codedSegments s) = false) :
    literals.flatMap ('/' :: ·) ++ ['/'] <+: u.pathText := by
  have hfront := UrlPath.cons_flatMap_slash literals
  have hreference : literals.flatMap ('/' :: ·) ++ '/' :: s =
      '/' :: (literals.flatMap (· ++ ['/']) ++ s) := by
    rw [← List.cons_append, hfront, List.append_assoc, List.singleton_append]
  have hnames : namesAuthority ('/' :: (literals.flatMap (· ++ ['/']) ++ s)) = false := by
    cases literals with
    | nil => exact absurd rfl hliterals
    | cons first more =>
        obtain ⟨c, w, rfl⟩ := List.exists_cons_of_ne_nil (hplain first List.mem_cons_self).1
        have hc := (hplain _ List.mem_cons_self).2.1 c List.mem_cons_self
        exact Reference.namesAuthority_eq_false hc.1 hc.2.1 hc.2.2 _
  have hthere : codedSegments s ≠ [] := fun hnil =>
    Text.splitAll_ne_nil _ (List.map_eq_nil_iff.1 hnil)
  rw [hreference] at h
  have hpath := pathText_of_join? hbase hnames h
  rw [Reference.codedSegments_flatMap_append fun w hw => (hplain w hw).2.1,
    UrlPath.pushAll_append (fun w hw => (hplain w hw).2.2) _ hthere, List.singleton_append,
    hfront] at hpath
  have hprefix := UrlPath.prefix_pushAll ⟨literals.flatMap ('/' :: ·), rfl⟩
    (fun w hw => Reference.slash_not_mem_codedSegments hw)
    (fun w hw => absurd hw List.not_mem_nil) (Nat.zero_le _) hstays
  rw [List.flatMap_nil, List.append_nil] at hprefix
  rw [hpath]
  exact hprefix

end Url

end WebClient
