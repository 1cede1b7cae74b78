import Mathlib.Data.List.DropRight
import WebClient.Proofs.Json.Grammar
import WebClient.Proofs.Outcome

/-!
# Reading arrays and objects

The loop over the items of an array and the loop over the fields of an object have one
shape: an entry, and further entries after commas, up to a closing bracket.  Such a loop
reads exactly the lists of what is read as an entry (`IsListReader.readsItems`).
-/

namespace WebClient.Json

/-- Every text of the relation starts with a byte that is neither a blank nor the given
bracket. -/
def StartsBeside {α : Type} (close : UInt8) (R : Bytes → α → Prop) : Prop :=
  ∀ text x, R text x → ∃ b tail, text = b :: tail ∧ isSpace b = false ∧ b ≠ close

/-! ## Tokens behind blanks -/

theorem isBlank_nil : IsBlank [] := fun _ hb => absurd hb List.not_mem_nil

theorem IsBlank.append {s t : Bytes} (hs : IsBlank s) (ht : IsBlank t) : IsBlank (s ++ t) :=
  fun b hb => (List.mem_append.1 hb).elim (hs b) (ht b)

theorem skipSpace_append {gap : Bytes} (hgap : IsBlank gap) (s : Bytes) :
    skipSpace (gap ++ s) = skipSpace s := List.dropWhile_append_of_pos hgap

theorem skipSpace_cons {b : UInt8} (hb : isSpace b = false) (s : Bytes) :
    skipSpace (b :: s) = b :: s := List.dropWhile_cons_of_neg (by simp [hb])

/-- What is skipped are the blanks in front. -/
theorem exists_skipSpace (s : Bytes) : ∃ gap, s = gap ++ skipSpace s ∧ IsBlank gap :=
  ⟨s.takeWhile isSpace, (List.takeWhile_append_dropWhile (p := isSpace) (l := s)).symm,
    fun _ hb => List.mem_takeWhile_imp hb⟩

theorem closeList_eq_ok {s t : Bytes} :
    closeList s = .ok t ↔ skipSpace s = byte ']' :: t := by
  rw [closeList]
  cases skipSpace s with
  | nil => simp
  | cons b rest =>
      by_cases hclose : b = byte ']'
      · simp [hclose]
      · dsimp only
        rw [if_neg hclose]
        refine iff_of_false ?_ fun h => hclose (List.cons_eq_cons.1 h).1
        split
        · split
          · simp
          · split <;> simp
        · simp

theorem closeObject_eq_ok {s t : Bytes} :
    closeObject s = .ok t ↔ skipSpace s = byte '}' :: t := by
  rw [closeObject]
  cases skipSpace s with
  | nil => simp
  | cons b rest =>
      by_cases hclose : b = byte '}'
      · simp [hclose]
      · dsimp only
        rw [if_neg hclose]
        refine iff_of_false ?_ fun h => hclose (List.cons_eq_cons.1 h).1
        split <;> simp

theorem readColon_eq_ok {s t : Bytes} :
    readColon s = .ok t ↔ skipSpace s = byte ':' :: t := by
  rw [readColon]
  cases skipSpace s with
  | nil => simp
  | cons b rest => by_cases hcolon : b = byte ':' <;> simp [hcolon]

/-! ## Lists of items -/

/-- The input goes on in front of an item: right away for the first one, and after a comma
for any other. -/
def GoesOn : Bool → Bytes → Bytes → Prop
  | true, s, t => skipSpace s = t
  | false, s, t => ∃ r, skipSpace s = byte ',' :: r ∧ skipSpace r = t

theorem GoesOn.skipSpace_eq {first : Bool} {s t : Bytes} (h : GoesOn first s t) :
    skipSpace t = t := by
  cases first with
  | true =>
      obtain rfl : skipSpace s = t := h
      exact List.dropWhile_idempotent isSpace s
  | false =>
      obtain ⟨r, -, rfl⟩ := h
      exact List.dropWhile_idempotent isSpace r

/-- The loop reads entries up to a closing bracket, which stays unread; its state tells
whether an entry is the first one. -/
structure IsListReader {α σ : Type} (close : UInt8) (entry : Reader α) (first : σ → Bool)
    (next : σ → σ) (loop : Nat → σ → Bytes → Except Fault (List α × Bytes)) : Prop where
  first_next : ∀ i, first (next i) = false
  step : ∀ fuel i s xs t, loop (fuel + 1) i s = .ok (xs, t) ↔
    (xs = [] ∧ t = skipSpace s ∧ ∃ tail, t = close :: tail) ∨
    (∃ s₁ x s₂ more, GoesOn (first i) s s₁ ∧ entry s₁ = .ok (x, s₂) ∧
      loop fuel (next i) s₂ = .ok (more, t) ∧ xs = x :: more)

/-- The reader takes the texts of the relation off the front of its input, at least where
a comma, a bracket or a blank stands behind. -/
structure ReadsEntry {α : Type} (entry : Reader α) (R : Bytes → α → Prop) : Prop where
  sound {s : Bytes} {x : α} {rest : Bytes} (h : entry s = .ok (x, rest)) :
    ∃ front text, s = front ++ text ++ rest ∧ IsBlank front ∧ R text x
  complete {front text rest : Bytes} {x : α} (hfront : IsBlank front) (hx : R text x)
    (hrest : ∀ b ∈ rest.head?, isStop b = true) : entry (front ++ text ++ rest) = .ok (x, rest)

section Lists

variable {α σ : Type} {close : UInt8} {entry : Reader α} {first : σ → Bool} {next : σ → σ}
  {loop : Nat → σ → Bytes → Except Fault (List α × Bytes)} {R : Bytes → α → Prop}

/-- What stands behind an item ends it. -/
theorem MoreItemsText.isStop_head {text : Bytes} {xs : List α} (h : MoreItemsText R text xs)
    (hclose : isStop close = true) (tail : Bytes) :
    ∀ b ∈ (text ++ close :: tail).head?, isStop b = true := by
  have hgap {gap rest : Bytes} (hgap : IsBlank gap) {c : UInt8} (hc : isStop c = true) :
      ∀ b ∈ (gap ++ c :: rest).head?, isStop b = true := by
    intro b hb
    cases gap with
    | nil => rwa [← Option.some.inj hb]
    | cons b' gap =>
        rw [← Option.some.inj hb]
        exact isStop_of_isSpace (hgap b' List.mem_cons_self)
  cases h with
  | nil hblank => exact hgap hblank hclose
  | cons hblank _ _ _ =>
      rw [List.append_assoc, List.cons_append]
      exact hgap hblank (by decide)

/-- What is read as an entry does not start with the bracket. -/
theorem ReadsEntry.exists_cons (h : ReadsEntry entry R) (hR : StartsBeside close R)
    (hspace : isSpace close = false) {s rest : Bytes} {x : α} (hread : entry s = .ok (x, rest)) :
    ∃ b tail, s = b :: tail ∧ b ≠ close := by
  obtain ⟨front, text, rfl, hfront, hx⟩ := h.sound hread
  cases front with
  | nil =>
      obtain ⟨b, tail, rfl, -, hb⟩ := hR text x hx
      exact ⟨b, tail ++ rest, rfl, hb⟩
  | cons b front =>
      refine ⟨b, front ++ text ++ rest, rfl, ?_⟩
      rintro rfl
      rw [hfront b List.mem_cons_self] at hspace
      cases hspace

theorem StartsBeside.skipSpace_append (hR : StartsBeside close R) {text : Bytes} {x : α}
    (hx : R text x) (rest : Bytes) : skipSpace (text ++ rest) = text ++ rest := by
  obtain ⟨b, tail, rfl, hb, -⟩ := hR text x hx
  exact skipSpace_cons hb (tail ++ rest)

theorem IsListReader.readsMore (h : IsListReader close entry first next loop)
    (hentry : ReadsEntry entry R) (hR : StartsBeside close R) (hclose : isStop close = true)
    (hspace : isSpace close = false) {fuel : Nat} {i : σ} {s t : Bytes} {xs : List α}
    (hi : first i = false) (hfuel : s.length < fuel) :
    loop fuel i s = .ok (xs, t) ↔
      ∃ text tail, s = text ++ t ∧ t = close :: tail ∧ MoreItemsText R text xs := by
  -- Every round takes a comma at least, so fuel for one byte more than there are never ends.
  induction fuel generalizing i s xs with
  | zero => exact absurd hfuel (Nat.not_lt_zero _)
  | succ fuel ih =>
      rw [h.step, hi]
      constructor
      · rintro (⟨rfl, rfl, tail, htail⟩ | ⟨s₁, x, s₂, more, ⟨r, hcomma, rfl⟩, hread, hmore, rfl⟩)
        · obtain ⟨gap, hs, hgap⟩ := exists_skipSpace s
          exact ⟨gap, tail, hs, htail, .nil hgap⟩
        · obtain ⟨gap, hs, hgap⟩ := exists_skipSpace s
          obtain ⟨front, hr, hfront⟩ := exists_skipSpace r
          obtain ⟨behind, text, htext, hbehind, hx⟩ := hentry.sound hread
          rw [hcomma] at hs
          have hshorter : s₂.length < fuel := by
            rw [hs, hr, htext] at hfuel
            simp only [List.length_append, List.length_cons] at hfuel
            omega
          obtain ⟨later, tail, rfl, ht, hmore⟩ := (ih (h.first_next i) hshorter).1 hmore
          refine ⟨gap ++ byte ',' :: (front ++ behind ++ text ++ later), tail, ?_, ht,
            .cons hgap (hfront.append hbehind) hx hmore⟩
          rw [hs, hr, htext]
          simp
      · rintro ⟨text, tail, rfl, rfl, hmore⟩
        cases hmore with
        | nil hgap =>
            left
            rw [skipSpace_append hgap, skipSpace_cons hspace]
            exact ⟨rfl, rfl, tail, rfl⟩
        | @cons gap front text more x xs hgap hfront hx hmore =>
            right
            have hstop := hmore.isStop_head hclose tail
            refine ⟨text ++ (more ++ close :: tail), x, more ++ close :: tail, xs, ?_,
              hentry.complete isBlank_nil hx hstop, ?_, rfl⟩
            · refine ⟨front ++ text ++ more ++ close :: tail, ?_, ?_⟩
              · rw [List.append_assoc, skipSpace_append hgap]
                exact skipSpace_cons (by decide) _
              · rw [List.append_assoc, List.append_assoc, skipSpace_append hfront,
                  hR.skipSpace_append hx]
            · refine (ih (h.first_next i) ?_).2 ⟨more, tail, rfl, rfl, hmore⟩
              simp only [List.length_append, List.length_cons] at hfuel ⊢
              omega

/-- A loop reads the lists of what is read as an entry, up to the closing bracket. -/
theorem IsListReader.readsItems (h : IsListReader close entry first next loop)
    (hentry : ReadsEntry entry R) (hR : StartsBeside close R) (hclose : isStop close = true)
    (hspace : isSpace close = false) {fuel : Nat} {i : σ} {s t : Bytes} {xs : List α}
    (hi : first i = true) (hfuel : s.length < fuel) :
    loop fuel i s = .ok (xs, t) ↔
      ∃ text tail, s = text ++ t ∧ t = close :: tail ∧ ItemsText R text xs := by
  -- The first round takes no comma; all later ones are those of `readsMore`.
  obtain ⟨fuel, rfl⟩ : ∃ n, fuel = n + 1 := Nat.exists_eq_add_one.2 (Nat.zero_lt_of_lt hfuel)
  rw [h.step, hi]
  constructor
  · rintro (⟨rfl, rfl, tail, htail⟩ | ⟨s₁, x, s₂, more, hgoes, hread, hmore, rfl⟩)
    · obtain ⟨gap, hs, hgap⟩ := exists_skipSpace s
      exact ⟨gap, tail, hs, htail, .nil hgap⟩
    · obtain rfl : skipSpace s = s₁ := hgoes
      obtain ⟨front, hs, hfront⟩ := exists_skipSpace s
      obtain ⟨behind, text, htext, hbehind, hx⟩ := hentry.sound hread
      obtain ⟨b, text', htext', -, -⟩ := hR text x hx
      have hshorter : s₂.length < fuel := by
        rw [hs, htext, htext'] at hfuel
        simp only [List.length_append, List.length_cons] at hfuel
        omega
      obtain ⟨later, tail, rfl, ht, hmore⟩ :=
        (h.readsMore hentry hR hclose hspace (h.first_next i) hshorter).1 hmore
      refine ⟨front ++ behind ++ text ++ later, tail, ?_, ht,
        .cons (hfront.append hbehind) hx hmore⟩
      rw [hs, htext]
      simp
  · rintro ⟨text, tail, rfl, rfl, hitems⟩
    cases hitems with
    | nil hgap =>
        left
        rw [skipSpace_append hgap, skipSpace_cons hspace]
        exact ⟨rfl, rfl, tail, rfl⟩
    | @cons front text more x xs hfront hx hmore =>
        right
        have hstop := hmore.isStop_head hclose tail
        refine ⟨text ++ (more ++ close :: tail), x, more ++ close :: tail, xs, ?_,
          hentry.complete isBlank_nil hx hstop, ?_, rfl⟩
        · rw [GoesOn, List.append_assoc, List.append_assoc, skipSpace_append hfront,
            hR.skipSpace_append hx]
        · refine (h.readsMore hentry hR hclose hspace (h.first_next i) ?_).2
            ⟨more, tail, rfl, rfl, hmore⟩
          obtain ⟨b, text', rfl, -, -⟩ := hR text x hx
          simp only [List.length_append, List.length_cons] at hfuel ⊢
          omega

end Lists

/-! ## Arrays -/

section Arrays

variable {α : Type} {item : Reader α} {R : Bytes → α → Prop}

theorem nextItem?_eq_none {first : Bool} {s : Bytes} :
    nextItem? first s = .ok none ↔ ∃ tail, skipSpace s = byte ']' :: tail := by
  rw [nextItem?]
  cases skipSpace s with
  | nil => simp
  | cons b rest =>
      by_cases hclose : b = byte ']'
      · simp [hclose]
      · dsimp only
        rw [if_neg hclose]
        refine iff_of_false ?_ fun ⟨_, h⟩ => hclose (List.cons_eq_cons.1 h).1
        split
        · simp
        · split
          · split
            · simp
            · split <;> simp
          · simp

theorem nextItem?_true {s s₁ : Bytes} :
    nextItem? true s = .ok (some s₁) ↔
      skipSpace s = s₁ ∧ ∃ b tail, s₁ = b :: tail ∧ b ≠ byte ']' := by
  rw [nextItem?]
  cases skipSpace s with
  | nil => simp +contextual
  | cons b rest =>
      dsimp only
      by_cases hclose : b = byte ']'
      · rw [if_pos hclose]
        refine iff_of_false (by simp) ?_
        rintro ⟨rfl, c, tail, hcons, hc⟩
        exact hc ((List.cons_eq_cons.1 hcons).1 ▸ hclose)
      · rw [if_neg hclose, if_pos rfl, Except.ok.injEq, Option.some.injEq]
        exact ⟨fun h => ⟨h, b, rest, h.symm, hclose⟩, And.left⟩

theorem nextItem?_false {s s₁ : Bytes} :
    nextItem? false s = .ok (some s₁) ↔
      ∃ r, skipSpace s = byte ',' :: r ∧ nextItem? true r = .ok (some s₁) := by
  rw [nextItem?]
  cases skipSpace s with
  | nil => simp
  | cons b rest =>
      dsimp only
      by_cases hcomma : b = byte ','
      · subst hcomma
        rw [if_neg (by decide), if_neg Bool.false_ne_true, if_pos rfl]
        simp only [List.cons.injEq, true_and, exists_eq_left', nextItem?]
        cases skipSpace rest with
        | nil => simp
        | cons c more => by_cases hc : c = byte ']' <;> simp [hc]
      · rw [if_neg Bool.false_ne_true, if_neg hcomma]
        refine iff_of_false ?_ fun ⟨r, h, _⟩ => hcomma (List.cons_eq_cons.1 h).1
        split <;> simp

theorem nextItem?_eq_some {first : Bool} {s s₁ : Bytes} :
    nextItem? first s = .ok (some s₁) ↔
      GoesOn first s s₁ ∧ ∃ b tail, s₁ = b :: tail ∧ b ≠ byte ']' := by
  cases first with
  | true => exact nextItem?_true
  | false =>
      simp only [nextItem?_false, nextItem?_true, GoesOn, ← and_assoc, exists_and_right]

/-- The loop over the items of an array. -/
theorem isListReader_readItems (hitem : ReadsEntry item R) (hR : StartsBeside (byte ']') R) :
    IsListReader (byte ']') item (fun index => index == 0) (· + 1) (readItems item) where
  first_next _ := rfl
  step fuel index s xs t := by
    rw [readItems, Outcome.bind_eq_ok]
    constructor
    · rintro ⟨next, hnext, h⟩
      cases next with
      | none =>
          obtain ⟨tail, htail⟩ := nextItem?_eq_none.1 hnext
          cases h
          exact Or.inl ⟨rfl, rfl, tail, htail⟩
      | some s₁ =>
          obtain ⟨⟨x, s₂⟩, hread, h⟩ := Outcome.bind_eq_ok.1 h
          obtain ⟨⟨more, t'⟩, hmore, h⟩ := Outcome.bind_eq_ok.1 h
          cases h
          exact Or.inr ⟨s₁, x, s₂, more, (nextItem?_eq_some.1 hnext).1,
            Outcome.mapError_eq_ok.1 hread, hmore, rfl⟩
    · rintro (⟨rfl, rfl, htail⟩ | ⟨s₁, x, s₂, more, hgoes, hread, hmore, rfl⟩)
      · exact ⟨none, nextItem?_eq_none.2 htail, rfl⟩
      · -- An item that starts with the bracket would be taken for the end.
        have hstart := hitem.exists_cons hR (by decide) hread
        refine ⟨some s₁, nextItem?_eq_some.2 ⟨hgoes, hstart⟩, ?_⟩
        refine Outcome.bind_eq_ok.2 ⟨(x, s₂), Outcome.mapError_eq_ok.2 hread, ?_⟩
        exact Outcome.bind_eq_ok.2 ⟨(more, t), hmore, rfl⟩

end Arrays

/-! ## Objects -/

section Objects

variable {α : Type} {item : Reader α} {R : Bytes → α → Prop}

theorem nextName?_eq_none {first : Bool} {s : Bytes} :
    nextName? first s = .ok none ↔ ∃ tail, skipSpace s = byte '}' :: tail := by
  rw [nextName?]
  cases skipSpace s with
  | nil => simp
  | cons b rest =>
      by_cases hclose : b = byte '}'
      · simp [hclose]
      · dsimp only
        rw [if_neg hclose]
        refine iff_of_false ?_ fun ⟨_, h⟩ => hclose (List.cons_eq_cons.1 h).1
        split
        · split <;> simp
        · split
          · split
            · simp
            · split
              · simp
              · split <;> simp
          · simp

theorem nextName?_true {s s₁ : Bytes} :
    nextName? true s = .ok (some s₁) ↔ skipSpace s = byte '"' :: s₁ := by
  rw [nextName?]
  cases skipSpace s with
  | nil => simp
  | cons b rest =>
      dsimp only
      by_cases hquote : b = byte '"'
      · subst hquote
        rw [if_neg (by decide), if_pos rfl, if_pos rfl]
        simp
      · rw [if_pos rfl, if_neg hquote]
        refine iff_of_false ?_ fun h => hquote (List.cons_eq_cons.1 h).1
        split <;> simp

theorem nextName?_false {s s₁ : Bytes} :
    nextName? false s = .ok (some s₁) ↔
      ∃ r, skipSpace s = byte ',' :: r ∧ nextName? true r = .ok (some s₁) := by
  rw [nextName?]
  cases skipSpace s with
  | nil => simp
  | cons b rest =>
      dsimp only
      by_cases hcomma : b = byte ','
      · subst hcomma
        rw [if_neg (by decide), if_neg Bool.false_ne_true, if_pos rfl]
        simp only [List.cons.injEq, true_and, exists_eq_left', nextName?_true]
        cases skipSpace rest with
        | nil => simp
        | cons c more =>
            by_cases hquote : c = byte '"'
            · simp [hquote]
            · dsimp only
              rw [if_neg hquote]
              refine iff_of_false ?_ fun h => hquote (List.cons_eq_cons.1 h).1
              split <;> simp
      · rw [if_neg Bool.false_ne_true, if_neg hcomma]
        refine iff_of_false ?_ fun ⟨r, h, _⟩ => hcomma (List.cons_eq_cons.1 h).1
        split <;> simp

theorem nextName?_eq_some {first : Bool} {s s₁ : Bytes} :
    nextName? first s = .ok (some s₁) ↔ GoesOn first s (byte '"' :: s₁) := by
  cases first with
  | true => exact nextName?_true
  | false => simp only [nextName?_false, nextName?_true, GoesOn]

theorem readName_eq_none {first : Bool} {s : Bytes} :
    readName first s = .ok none ↔ nextName? first s = .ok none := by
  rw [readName, below, Outcome.mapError_eq_ok, Outcome.bind_eq_ok]
  constructor
  · rintro ⟨next, hnext, h⟩
    cases next with
    | none => exact hnext
    | some s₁ =>
        obtain ⟨found, -, h⟩ := Outcome.bind_eq_ok.1 h
        cases h
  · exact fun h => ⟨none, h, rfl⟩

theorem readName_eq_some {first : Bool} {s s₂ : Bytes} {name : String} :
    readName first s = .ok (some (name, s₂)) ↔
      ∃ s₁, nextName? first s = .ok (some s₁) ∧ readString s₁ = .ok (name, s₂) := by
  rw [readName, below, Outcome.mapError_eq_ok, Outcome.bind_eq_ok]
  constructor
  · rintro ⟨next, hnext, h⟩
    cases next with
    | none => cases h
    | some s₁ =>
        obtain ⟨found, hfound, h⟩ := Outcome.bind_eq_ok.1 h
        cases h
        exact ⟨s₁, hnext, hfound⟩
  · rintro ⟨s₁, hnext, hread⟩
    exact ⟨some s₁, hnext, Outcome.bind_eq_ok.2 ⟨(name, s₂), hread, rfl⟩⟩

/-- Read a field of an object from the blanks in front of its name on. -/
def readField (item : Reader α) : Reader (String × α) := fun s =>
  match skipSpace s with
  | [] => .error (Flaw.eofInObject.next [])
  | b :: rest =>
      if b = byte '"' then do
        let (name, s) ← readString rest
        let s ← readColon s
        let (x, s) ← item s
        return ((name, x), s)
      else .error (Flaw.keyMustBeString.next (b :: rest))

theorem readField_eq_ok {s rest : Bytes} {name : String} {x : α} :
    readField item s = .ok ((name, x), rest) ↔
      ∃ s₁ s₂ s₃, skipSpace s = byte '"' :: s₁ ∧ readString s₁ = .ok (name, s₂) ∧
        readColon s₂ = .ok s₃ ∧ item s₃ = .ok (x, rest) := by
  rw [readField]
  constructor
  · intro h
    cases hs : skipSpace s with
    | nil =>
        rw [hs] at h
        cases h
    | cons b s₁ =>
        rw [hs] at h
        dsimp only at h
        by_cases hquote : b = byte '"'
        · rw [if_pos hquote] at h
          obtain ⟨⟨name', s₂⟩, hname, h⟩ := Outcome.bind_eq_ok.1 h
          obtain ⟨s₃, hcolon, h⟩ := Outcome.bind_eq_ok.1 h
          obtain ⟨⟨x', rest'⟩, hx, h⟩ := Outcome.bind_eq_ok.1 h
          cases h
          exact ⟨s₁, s₂, s₃, by rw [hquote], hname, hcolon, hx⟩
        · rw [if_neg hquote] at h
          cases h
  · rintro ⟨s₁, s₂, s₃, hs, hname, hcolon, hx⟩
    rw [hs]
    dsimp only
    rw [if_pos rfl]
    refine Outcome.bind_eq_ok.2 ⟨(name, s₂), hname, ?_⟩
    refine Outcome.bind_eq_ok.2 ⟨s₃, hcolon, ?_⟩
    exact Outcome.bind_eq_ok.2 ⟨(x, rest), hx, rfl⟩

theorem startsBeside_fieldText : StartsBeside (byte '}') (FieldText R) := by
  intro text entry h
  cases h
  exact ⟨_, _, rfl, by decide, by decide⟩

theorem readsEntry_readField (hitem : ReadsEntry item R) :
    ReadsEntry (readField item) (FieldText R) where
  sound {s entry rest} h := by
    obtain ⟨name, x⟩ := entry
    obtain ⟨s₁, s₂, s₃, hquote, hread, hcolon, hx⟩ := readField_eq_ok.1 h
    obtain ⟨front, hs, hfront⟩ := exists_skipSpace s
    obtain ⟨nameText, rfl, hname⟩ := readString_eq_ok.1 hread
    obtain ⟨gap, hs₂, hgap⟩ := exists_skipSpace s₂
    obtain ⟨behind, text, rfl, hbehind, hx⟩ := hitem.sound hx
    rw [readColon_eq_ok.1 hcolon] at hs₂
    refine ⟨front, _, ?_, hfront, .field hname hgap hbehind hx⟩
    rw [hs, hquote, hs₂]
    simp
  complete {front text rest entry} hfront h hrest := by
    cases h with
    | @field nameText gap behind text name x hname hgap hbehind hx =>
        refine readField_eq_ok.2
          ⟨nameText ++ byte '"' :: (gap ++ byte ':' :: (behind ++ text ++ rest)),
            gap ++ byte ':' :: (behind ++ text ++ rest), behind ++ text ++ rest, ?_, ?_, ?_,
            hitem.complete hbehind hx hrest⟩
        · rw [List.append_assoc, skipSpace_append hfront, List.cons_append,
            skipSpace_cons (by decide)]
          simp
        · exact readString_eq_ok.2 ⟨nameText, rfl, hname⟩
        · rw [readColon_eq_ok, skipSpace_append hgap, skipSpace_cons (by decide)]

/-- The loop over the fields of an object. -/
theorem isListReader_readFields :
    IsListReader (byte '}') (readField item) id (fun _ => false) (readFields item) where
  first_next _ := rfl
  step fuel first s xs t := by
    rw [readFields, Outcome.bind_eq_ok]
    constructor
    · rintro ⟨next, hnext, h⟩
      cases next with
      | none =>
          have hnone := readName_eq_none.1 hnext
          obtain ⟨tail, htail⟩ := nextName?_eq_none.1 hnone
          cases h
          exact Or.inl ⟨rfl, rfl, tail, htail⟩
      | some found =>
          obtain ⟨name, s₂⟩ := found
          obtain ⟨s₁, hnext, hname⟩ := readName_eq_some.1 hnext
          obtain ⟨s₃, hcolon, h⟩ := Outcome.bind_eq_ok.1 h
          obtain ⟨⟨x, s₄⟩, hx, h⟩ := Outcome.bind_eq_ok.1 h
          obtain ⟨⟨more, t'⟩, hmore, h⟩ := Outcome.bind_eq_ok.1 h
          cases h
          refine Or.inr ⟨byte '"' :: s₁, (name, x), s₄, more, nextName?_eq_some.1 hnext, ?_,
            hmore, rfl⟩
          exact readField_eq_ok.2 ⟨s₁, s₂, s₃, skipSpace_cons (by decide) s₁, hname, hcolon,
            Outcome.mapError_eq_ok.1 hx⟩
    · rintro (⟨rfl, rfl, htail⟩ | ⟨s₁, x, s₂, more, hgoes, hread, hmore, rfl⟩)
      · exact ⟨none, readName_eq_none.2 (nextName?_eq_none.2 htail), rfl⟩
      · obtain ⟨name, x⟩ := x
        obtain ⟨s₂', s₃, s₄, hquote, hname, hcolon, hx⟩ := readField_eq_ok.1 hread
        -- The loop and the reader of a field skip the same blanks.
        rw [hgoes.skipSpace_eq] at hquote
        have hnext := nextName?_eq_some.2 (hquote ▸ hgoes)
        refine ⟨some (name, s₃), readName_eq_some.2 ⟨s₂', hnext, hname⟩, ?_⟩
        refine Outcome.bind_eq_ok.2 ⟨s₄, hcolon, ?_⟩
        refine Outcome.bind_eq_ok.2 ⟨(x, s₂), Outcome.mapError_eq_ok.2 hx, ?_⟩
        exact Outcome.bind_eq_ok.2 ⟨(more, t), hmore, rfl⟩

end Objects

end WebClient.Json
