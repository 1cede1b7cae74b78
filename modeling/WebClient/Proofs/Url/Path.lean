import Mathlib.Data.List.Basic
import WebClient.Url.Parser
import WebClient.Proofs.Percent.Alphabet
import WebClient.Proofs.Percent.Decoding
import WebClient.Proofs.Text.Splitting

/-!
# Paths of web URLs

Where the scheme is a special one other than that of files, a path is written one coded
segment after the other: `UrlPath.push` says what one segment does to the text in front
of it.  Segments that are no dot segments are all kept; a double dot takes the one in
front of it away, so that the text that was there first stays as long as there never
are more double dots than other segments.
-/

namespace WebClient.UrlPath

open Percent (isPathChar)
open Reference (clean)

/-- A segment as it is written: without tabs and line breaks, and encoded. -/
def coded (segment : List Char) : List Char := Percent.encode isPathChar (clean segment)

/-- A text with a coded segment written behind it; `slash` if a slash follows. -/
def push (text segment : List Char) (slash : Bool) : List Char :=
  if isDoubleDot segment then
    let kept := upToSlash (dropSlash text)
    if slash then closed kept else kept
  else if isSingleDot segment then closed text
  else text ++ segment ++ (if slash then ['/'] else [])

/-- A text with coded segments written behind it; a slash follows every one but the
last. -/
def pushAll : List Char → List (List Char) → List Char
  | text, [] => text
  | text, [segment] => push text segment false
  | text, segment :: more => pushAll (push text segment true) more

theorem pushAll_cons (text segment : List Char) {more : List (List Char)} (h : more ≠ []) :
    pushAll text (segment :: more) = pushAll (push text segment true) more := by
  cases more with
  | nil => exact absurd rfl h
  | cons next more => rfl

/-! ## Writing is pushing -/

theorem writePieces_special (text : List Char) (start : Nat) (pieces : List (List Char)) :
    writePieces .special text start pieces =
      (text ++ Percent.encode isPathChar pieces.flatten, start) := by
  induction pieces generalizing text with
  | nil => rw [writePieces, List.flatten_nil, Percent.encode, List.flatMap_nil, List.append_nil]
  | cons piece pieces ih =>
      cases piece with
      | nil => rw [writePieces, ih, List.flatten_cons, List.nil_append]
      | cons c piece =>
          have hfile : (decide (SchemeKind.special = .file) && isDrive (text.drop 1)) = false :=
            rfl
          rw [writePieces]
          · simp only [hfile, Bool.false_eq_true, if_false]
            rw [ih, List.flatten_cons, List.append_assoc, Percent.encode, Percent.encode,
              Percent.encode, List.flatMap_append]
          · exact List.cons_ne_nil _ _

theorem flatten_splitAll_isLineBlank (segment : List Char) :
    (Text.splitAll isLineBlank segment).flatten = clean segment :=
  Text.flatten_splitAll segment

theorem write_special (draft : Draft) (segment : List Char) (slash : Bool) :
    draft.write .special segment slash =
      { draft with text := push draft.text (coded segment) slash } := by
  unfold Draft.write
  dsimp only
  rw [writePieces_special, flatten_splitAll_isLineBlank, ← coded]
  simp only [List.take_left, List.drop_left]
  unfold push
  split
  · rfl
  · split
    · rfl
    · cases coded segment with
      | nil => rfl
      | cons letter more => rfl

theorem writeAll_special (draft : Draft) (segments : List (List Char)) :
    (Draft.writeAll .special draft segments).text = pushAll draft.text (segments.map coded) := by
  induction segments generalizing draft with
  | nil => rfl
  | cons segment more ih =>
      cases more with
      | nil => rw [Draft.writeAll, write_special]; rfl
      | cons next more =>
          rw [Draft.writeAll, ih, write_special]
          · rfl
          · exact List.cons_ne_nil _ _

/-- The text of a path that is written below the root. -/
theorem text_writeBelowRoot (s : List Char) :
    (writeBelowRoot .special s).text =
      pushAll ['/'] ((Text.splitAll (isSlash .special) s).map coded) :=
  writeAll_special ⟨['/'], false⟩ _

/-! ## Dot segments -/

theorem toNat_lt_of_toLower {c : Char} (h : c.toLower.toNat < 0x80) : c.toNat < 0x80 := by
  unfold Char.toLower at h
  split at h
  · next hupper => exact Nat.lt_of_le_of_lt (UInt32.le_iff_toNat_le.1 hupper.2) (by decide)
  · exact h

/-- The spellings of the characters of a dot. -/
theorem of_toLower_eq {c d : Char} (hd : d ∈ ['.', '%', '2', 'e']) (h : c.toLower = d) :
    c = d ∨ d = 'e' ∧ c = 'E' := by
  have hlow : ['.', '%', '2', 'e'].all (fun d => d.toNat < 0x80) = true := rfl
  have hall : ∀ n < 0x80, ['.', '%', '2', 'e'].all (fun d =>
      (Char.ofNat n).toLower = d → Char.ofNat n = d ∨ d = 'e' ∧ Char.ofNat n = 'E') = true := by
    decide
  rw [List.all_eq_true] at hlow
  have hd' : d.toNat < 0x80 := of_decide_eq_true (hlow d hd)
  have hc := List.all_eq_true.1 (hall c.toNat (toNat_lt_of_toLower (h ▸ hd'))) d hd
  rw [Char.ofNat_toNat] at hc
  exact of_decide_eq_true hc h

/-- A dot, in whatever spelling, is read as its byte. -/
theorem decode_append_of_isSingleDot {s : List Char} (h : isSingleDot s = true)
    (rest : List Char) : Percent.decode (s ++ rest) = 0x2e :: Percent.decode rest := by
  simp only [isSingleDot, Text.lower, Bool.or_eq_true, beq_iff_eq] at h
  rcases h with h | h
  · obtain ⟨c, rfl, hc⟩ := List.map_eq_singleton_iff.1 h
    obtain rfl | ⟨hd, -⟩ := of_toLower_eq (by decide) hc
    · exact Percent.decode_cons_of_ne (by decide) rest
    · cases hd
  · obtain ⟨a, s, rfl, ha, h⟩ := List.map_eq_cons_iff.1 h
    obtain ⟨b, s, rfl, hb, h⟩ := List.map_eq_cons_iff.1 h
    obtain ⟨c, rfl, hc⟩ := List.map_eq_singleton_iff.1 h
    obtain rfl | ⟨hd, -⟩ := of_toLower_eq (by decide) ha
    · obtain rfl | ⟨hd, -⟩ := of_toLower_eq (by decide) hb
      · obtain rfl | ⟨-, rfl⟩ := of_toLower_eq (by decide) hc <;> rfl
      · cases hd
    · cases hd

theorem decode_of_isSingleDot {s : List Char} (h : isSingleDot s = true) :
    Percent.decode s = Text.Utf8.encode ['.'] := by
  have hread := decode_append_of_isSingleDot h []
  rwa [List.append_nil] at hread

/-- Two dots in a row make up a double dot. -/
theorem exists_of_isDoubleDot {s : List Char} (h : isDoubleDot s = true) :
    ∃ first second, s = first ++ second ∧ isSingleDot first = true ∧
      isSingleDot second = true := by
  have hcut {a b : List Char} (hs : Text.lower s = a ++ b)
      (ha : a = ['.'] ∨ a = ['%', '2', 'e']) (hb : b = ['.'] ∨ b = ['%', '2', 'e']) :
      ∃ first second, s = first ++ second ∧ isSingleDot first = true ∧
        isSingleDot second = true := by
    obtain ⟨first, second, hparts, hfirst, hsecond⟩ := List.map_eq_append_iff.1 hs
    refine ⟨first, second, hparts, ?_, ?_⟩
    · simpa [isSingleDot, Text.lower, hfirst] using ha
    · simpa [isSingleDot, Text.lower, hsecond] using hb
  simp only [isDoubleDot, Bool.or_eq_true, beq_iff_eq] at h
  rcases h with ((h | h) | h) | h
  · exact hcut (a := ['.']) (b := ['.']) h (Or.inl rfl) (Or.inl rfl)
  · exact hcut (a := ['.']) (b := ['%', '2', 'e']) h (Or.inl rfl) (Or.inr rfl)
  · exact hcut (a := ['%', '2', 'e']) (b := ['.']) h (Or.inr rfl) (Or.inl rfl)
  · exact hcut (a := ['%', '2', 'e']) (b := ['%', '2', 'e']) h (Or.inr rfl) (Or.inr rfl)

theorem decode_of_isDoubleDot {s : List Char} (h : isDoubleDot s = true) :
    Percent.decode s = Text.Utf8.encode ['.', '.'] := by
  obtain ⟨first, second, rfl, hfirst, hsecond⟩ := exists_of_isDoubleDot h
  rw [decode_append_of_isSingleDot hfirst, decode_of_isSingleDot hsecond]
  rfl

/-- A path resolves the segment away. -/
def IsDots (segment : List Char) : Prop :=
  isSingleDot segment = true ∨ isDoubleDot segment = true

theorem decode_of_isDots {s : List Char} (h : IsDots s) :
    Percent.decode s = Text.Utf8.encode ['.'] ∨ Percent.decode s = Text.Utf8.encode ['.', '.'] :=
  h.imp decode_of_isSingleDot decode_of_isDoubleDot

/-- An encoded text is a dot segment only if the text is one. -/
theorem not_isDots_segment {text : String} (hsingle : text ≠ ".") (hdouble : text ≠ "..") :
    ¬ IsDots (Percent.segment text).toList := by
  intro h
  have hread := decode_of_isDots h
  rw [Percent.decode_segment] at hread
  rcases hread with hread | hread
  · have hdot : text.toList = ".".toList := Text.Utf8.encode_injective hread
    exact hsingle (String.toList_injective hdot)
  · have hdots : text.toList = "..".toList := Text.Utf8.encode_injective hread
    exact hdouble (String.toList_injective hdots)

/-- A dot segment without percent signs consists of dots. -/
theorem eq_of_isDots {s : List Char} (hpercent : '%' ∉ s) (h : IsDots s) :
    s = ['.'] ∨ s = ['.', '.'] := by
  have hread := decode_of_isDots h
  rw [Percent.decode_of_not_mem hpercent] at hread
  exact hread.imp Text.Utf8.encode_injective Text.Utf8.encode_injective

/-! ## Segments that are kept -/

theorem push_of_not_isDots {segment : List Char} (h : ¬ IsDots segment) (text : List Char)
    (slash : Bool) :
    push text segment slash = text ++ segment ++ (if slash then ['/'] else []) := by
  rw [IsDots, not_or] at h
  rw [push, if_neg h.2, if_neg h.1]

/-- Segments that are no dot segments are written behind each other. -/
theorem pushAll_append {front : List (List Char)} (hfront : ∀ w ∈ front, ¬ IsDots w)
    (text : List Char) {segments : List (List Char)} (hsegments : segments ≠ []) :
    pushAll text (front ++ segments) = pushAll (text ++ front.flatMap (· ++ ['/'])) segments := by
  induction front generalizing text with
  | nil => rw [List.nil_append, List.flatMap_nil, List.append_nil]
  | cons w front ih =>
      obtain ⟨hw, hfront⟩ := List.forall_mem_cons.1 hfront
      have hmore : front ++ segments ≠ [] := fun h => hsegments (List.append_eq_nil_iff.1 h).2
      rw [List.cons_append, pushAll_cons _ _ hmore, ih hfront, push_of_not_isDots hw, if_pos rfl,
        List.flatMap_cons, List.append_assoc, List.append_assoc, List.append_assoc]

/-- A slash in front of the text and one behind each segment are one in front of each
segment and one behind them all. -/
theorem cons_flatMap_slash (segments : List (List Char)) :
    '/' :: segments.flatMap (· ++ ['/']) = segments.flatMap ('/' :: ·) ++ ['/'] := by
  induction segments with
  | nil => rfl
  | cons w segments ih =>
      rw [List.flatMap_cons, List.flatMap_cons, List.append_assoc, List.append_assoc,
        List.singleton_append, ih, List.cons_append]

/-- Below the root, a path whose segments are no dot segments is made of all of them. -/
theorem pushAll_root {segments : List (List Char)} (h : ∀ w ∈ segments, ¬ IsDots w)
    (hsegments : segments ≠ []) :
    pushAll ['/'] segments = segments.flatMap ('/' :: ·) := by
  obtain ⟨front, last, rfl⟩ := (List.eq_nil_or_concat' segments).resolve_left hsegments
  rw [List.forall_mem_append, List.forall_mem_singleton] at h
  rw [pushAll_append h.1 _ (List.cons_ne_nil _ _), pushAll, push_of_not_isDots h.2,
    List.singleton_append, cons_flatMap_slash, List.flatMap_append, List.flatMap_singleton]
  simp

/-! ## Segments that are taken back -/

/-- How many segments there are to take back after one more; `none` if it takes back one
more than there are. -/
def depthAfter? (depth : Nat) (segment : List Char) : Option Nat :=
  if isDoubleDot segment then
    match depth with
    | 0 => none
    | depth + 1 => some depth
  else if isSingleDot segment then some depth
  else some (depth + 1)

theorem depthAfter?_cases {depth next : Nat} {segment : List Char}
    (h : depthAfter? depth segment = some next) :
    isDoubleDot segment = true ∧ depth = next + 1 ∨
      ¬ isDoubleDot segment = true ∧ isSingleDot segment = true ∧ depth = next ∨
      ¬ IsDots segment ∧ depth + 1 = next := by
  unfold depthAfter? at h
  split at h
  · next hdouble =>
      cases depth with
      | zero => cases h
      | succ depth => exact Or.inl ⟨hdouble, congrArg (· + 1) (Option.some.inj h)⟩
  · next hdouble =>
      split at h
      · next hsingle => exact Or.inr (Or.inl ⟨hdouble, hsingle, Option.some.inj h⟩)
      · next hsingle =>
          exact Or.inr (Or.inr ⟨not_or.2 ⟨hsingle, hdouble⟩, Option.some.inj h⟩)

/-- Somewhere along the segments there are more double dots than segments to take back. -/
def climbsOut : Nat → List (List Char) → Bool
  | _, [] => false
  | depth, segment :: more =>
      match depthAfter? depth segment with
      | none => true
      | some next => climbsOut next more

/-- Segments that are no dot segments do not climb out. -/
theorem climbsOut_eq_false {segments : List (List Char)}
    (h : ∀ w ∈ segments, ¬ IsDots w) (depth : Nat) : climbsOut depth segments = false := by
  induction segments generalizing depth with
  | nil => rfl
  | cons w more ih =>
      obtain ⟨hw, hmore⟩ := List.forall_mem_cons.1 h
      rw [IsDots, not_or] at hw
      have hnext : depthAfter? depth w = some (depth + 1) := by
        unfold depthAfter?
        rw [if_neg hw.2, if_neg hw.1]
      rw [climbsOut, hnext]
      exact ih hmore (depth + 1)

theorem upToSlash_append {w : List Char} (hw : '/' ∉ w) (text : List Char) :
    upToSlash (text ++ '/' :: w) = text ++ ['/'] := by
  have hbehind : ∀ c ∈ w.reverse, (c != '/') = true := by
    intro c hc
    rw [bne_iff_ne]
    rintro rfl
    exact hw (List.mem_reverse.1 hc)
  rw [upToSlash, List.reverse_append, List.reverse_cons, List.append_assoc,
    List.dropWhile_append_of_pos hbehind]
  simp

theorem closed_append_slash (text : List Char) : closed (text ++ ['/']) = text ++ ['/'] := by
  rw [closed, endsInSlash, List.getLast?_concat]
  rfl

/-- The last slash stays only behind what looks like a drive letter. -/
theorem dropSlash_append_slash (text : List Char) :
    dropSlash (text ++ ['/']) = text ∨ dropSlash (text ++ ['/']) = text ++ ['/'] := by
  rw [dropSlash]
  simp only [List.dropLast_concat]
  split
  · exact Or.inl rfl
  · exact Or.inr rfl

section Behind

variable {front : List Char} (hfront : ∃ text, front = text ++ ['/'])
include hfront

theorem exists_append_slash (own : List (List Char)) :
    ∃ text, front ++ own.flatMap (· ++ ['/']) = text ++ ['/'] := by
  obtain ⟨text, rfl⟩ := hfront
  rcases List.eq_nil_or_concat' own with rfl | ⟨init, last, rfl⟩
  · exact ⟨text, List.append_nil _⟩
  · refine ⟨text ++ ['/'] ++ init.flatMap (· ++ ['/']) ++ last, ?_⟩
    simp

/-- Taking a segment back leaves the text in front of the segments. -/
theorem exists_upToSlash {own : List (List Char)} (hown : ∀ w ∈ own, '/' ∉ w)
    (hthere : own ≠ []) :
    ∃ less : List (List Char), (∀ w ∈ less, '/' ∉ w) ∧ own.length ≤ less.length + 1 ∧
      upToSlash (dropSlash (front ++ own.flatMap (· ++ ['/']))) =
        front ++ less.flatMap (· ++ ['/']) := by
  obtain ⟨init, last, rfl⟩ := (List.eq_nil_or_concat' own).resolve_left hthere
  rw [List.forall_mem_append, List.forall_mem_singleton] at hown
  obtain ⟨text, htext⟩ := exists_append_slash hfront init
  have hall : front ++ (init ++ [last]).flatMap (· ++ ['/']) = text ++ '/' :: last ++ ['/'] := by
    rw [List.flatMap_append, ← List.append_assoc, htext]
    simp
  rcases dropSlash_append_slash (text ++ '/' :: last) with hdrop | hdrop
  · refine ⟨init, hown.1, by simp, ?_⟩
    rw [hall, hdrop, upToSlash_append hown.2, htext]
  · refine ⟨init ++ [last], List.forall_mem_append.2 ⟨hown.1, List.forall_mem_singleton.2 hown.2⟩,
      Nat.le_succ _, ?_⟩
    rw [hall, hdrop, upToSlash_append List.not_mem_nil]

/-- A segment with a slash behind it leaves the text in front of the segments, and at
least as many segments to take back as are counted. -/
theorem exists_push {own : List (List Char)} (hown : ∀ w ∈ own, '/' ∉ w) {depth next : Nat}
    (hdepth : depth ≤ own.length) {segment : List Char} (hsegment : '/' ∉ segment)
    (h : depthAfter? depth segment = some next) :
    ∃ kept : List (List Char), (∀ w ∈ kept, '/' ∉ w) ∧ next ≤ kept.length ∧
      push (front ++ own.flatMap (· ++ ['/'])) segment true =
        front ++ kept.flatMap (· ++ ['/']) := by
  have hclosed (kept : List (List Char)) :
      closed (front ++ kept.flatMap (· ++ ['/'])) = front ++ kept.flatMap (· ++ ['/']) := by
    obtain ⟨text, htext⟩ := exists_append_slash hfront kept
    rw [htext, closed_append_slash]
  rcases depthAfter?_cases h with
    ⟨hdouble, rfl⟩ | ⟨hdouble, hsingle, rfl⟩ | ⟨hplain, rfl⟩
  · have hthere : own ≠ [] := List.ne_nil_of_length_pos (by omega)
    obtain ⟨less, hless, hlength, hkept⟩ := exists_upToSlash hfront hown hthere
    refine ⟨less, hless, by omega, ?_⟩
    rw [push, if_pos hdouble]
    simp only [hkept, if_true, hclosed]
  · rw [push, if_neg hdouble, if_pos hsingle]
    exact ⟨own, hown, hdepth, hclosed own⟩
  · refine ⟨own ++ [segment],
      List.forall_mem_append.2 ⟨hown, List.forall_mem_singleton.2 hsegment⟩, ?_, ?_⟩
    · rw [List.length_append]
      exact Nat.succ_le_succ hdepth
    · rw [push_of_not_isDots hplain]
      simp

/-- The last segment leaves the text in front of the segments. -/
theorem prefix_push {own : List (List Char)} (hown : ∀ w ∈ own, '/' ∉ w) {depth next : Nat}
    (hdepth : depth ≤ own.length) {segment : List Char}
    (h : depthAfter? depth segment = some next) :
    front <+: push (front ++ own.flatMap (· ++ ['/'])) segment false := by
  rcases depthAfter?_cases h with
    ⟨hdouble, rfl⟩ | ⟨hdouble, hsingle, rfl⟩ | ⟨hplain, rfl⟩
  · have hthere : own ≠ [] := List.ne_nil_of_length_pos (by omega)
    obtain ⟨less, -, -, hkept⟩ := exists_upToSlash hfront hown hthere
    rw [push, if_pos hdouble]
    simp only [hkept, Bool.false_eq_true, if_false]
    exact List.prefix_append _ _
  · obtain ⟨text, htext⟩ := exists_append_slash hfront own
    rw [push, if_neg hdouble, if_pos hsingle, htext, closed_append_slash, ← htext]
    exact List.prefix_append _ _
  · rw [push_of_not_isDots hplain, List.append_assoc, List.append_assoc]
    exact List.prefix_append _ _

/-- A text stays in front of segments that do not climb out of it. -/
theorem prefix_pushAll {segments : List (List Char)} (hsegments : ∀ w ∈ segments, '/' ∉ w)
    {own : List (List Char)} (hown : ∀ w ∈ own, '/' ∉ w) {depth : Nat}
    (hdepth : depth ≤ own.length) (h : climbsOut depth segments = false) :
    front <+: pushAll (front ++ own.flatMap (· ++ ['/'])) segments := by
  -- What is counted never exceeds the segments behind the text, which are written in full.
  induction segments generalizing own depth with
  | nil => exact List.prefix_append _ _
  | cons segment more ih =>
      obtain ⟨hsegment, hmore⟩ := List.forall_mem_cons.1 hsegments
      rw [climbsOut] at h
      cases hnext : depthAfter? depth segment with
      | none => simp [hnext] at h
      | some next =>
          simp only [hnext] at h
          cases more with
          | nil => exact prefix_push hfront hown hdepth hnext
          | cons other more =>
              obtain ⟨kept, hkept, hlength, hpush⟩ :=
                exists_push hfront hown hdepth hsegment hnext
              rw [pushAll_cons _ _ (List.cons_ne_nil _ _), hpush]
              exact ih hmore hkept hlength h

end Behind

end WebClient.UrlPath
