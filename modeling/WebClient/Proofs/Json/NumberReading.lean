import WebClient.Proofs.Json.Numeral
import WebClient.Proofs.Outcome

/-!
# Reading numbers

Each reader of a part of a number is described on a run of digits and on what stands
behind it.  `readNumber_eq_ok` puts them together: reading takes exactly the numerals off
the front of a text that do not go on behind.
-/

namespace WebClient.Json

/-! ## Reading digits -/

section Reading

variable {negative : Bool} {m : Nat} {num : Number} {rest : Bytes}

theorem finishFloat_eq_ok {exponent : Int} {s : Bytes} :
    finishFloat negative m exponent s = .ok (num, rest) ↔
      (scale? m exponent).map (signed negative) = some num ∧ s = rest := by
  rw [finishFloat]
  cases scale? m exponent <;> simp

theorem readExponentDigits_append {start : Int} {down : Bool} {e : Nat} {ds t : Bytes}
    (he : e < 0x80000000) (hds : ∀ d ∈ ds, isDigit d = true) (ht : NoDigit t) :
    readExponentDigits negative m start down e (ds ++ t) = .ok (num, rest) ↔
      (shifted? m start down (decimal e ds)).map (signed negative) = some num ∧ t = rest := by
  rw [shifted?]
  induction ds generalizing e with
  | nil =>
      have hstop : readExponentDigits negative m start down e t =
          readExponentDigits.finish negative m start down e t := by
        cases t with
        | nil => rfl
        | cons b t => rw [readExponentDigits, if_neg (by simp [noDigit_cons.1 ht])]
      rw [List.nil_append, hstop, readExponentDigits.finish, finishFloat_eq_ok]
      simp [decimal, Nat.not_le.2 he]
  | cons d ds ih =>
      obtain ⟨hd, hds⟩ := List.forall_mem_cons.1 hds
      rw [List.cons_append, readExponentDigits, if_pos hd, decimal_cons]
      by_cases hnext : 0x80000000 ≤ e * 10 + digitValue d
      · -- The exponent has become too large, and no further digit makes it smaller.
        have hle := le_decimal (e * 10 + digitValue d) ds
        rw [if_pos hnext, if_pos (Nat.le_trans hnext hle), dropWhile_isDigit_append hds ht]
        split <;> simp_all
      · rw [if_neg hnext]
        exact ih (Nat.not_le.1 hnext) hds

theorem readLongInteger_append {long : Nat} {ds t : Bytes} (hds : ∀ d ∈ ds, isDigit d = true) :
    readLongInteger negative m long (ds ++ t) =
      readLongInteger negative m (long + ds.length) t := by
  induction ds generalizing long with
  | nil => rfl
  | cons d ds ih =>
      obtain ⟨hd, hds⟩ := List.forall_mem_cons.1 hds
      rw [List.cons_append, readLongInteger, if_pos hd, ih hds, List.length_cons]
      congr 1
      omega

theorem readDigits_append {ds t : Bytes} (hm : m < 0x10000000000000000)
    (hds : ∀ d ∈ ds, isDigit d = true) :
    readDigits negative m (ds ++ t) =
      if decimal m ds < 0x10000000000000000 then readDigits negative (decimal m ds) t
      else readLongInteger negative (takeDigits m ds).1 (takeDigits m ds).2.length t := by
  induction ds generalizing m with
  | nil => rw [List.nil_append, decimal, List.foldl_nil, if_pos hm]
  | cons d ds ih =>
      obtain ⟨hd, hrest⟩ := List.forall_mem_cons.1 hds
      rw [List.cons_append, readDigits, if_pos hd, takeDigits, decimal_cons]
      by_cases hnext : 0x10000000000000000 ≤ m * 10 + digitValue d
      · have hle := le_decimal (m * 10 + digitValue d) ds
        rw [if_pos hnext, if_pos hnext, if_neg (by omega), ← List.cons_append,
          readLongInteger_append hds, Nat.zero_add]
      · rw [if_neg hnext, if_neg hnext]
        exact ih (Nat.not_le.1 hnext) hrest

theorem readFraction_append {before : Int} {places : Nat} {ds t : Bytes}
    (hds : ∀ d ∈ ds, isDigit d = true) (hsome : places ≠ 0 ∨ ds ≠ []) (ht : NoDigit t) :
    readFraction negative m before places (ds ++ t) =
      readOptionalExponent negative (takeDigits m ds).1
        (before - (places + (ds.length - (takeDigits m ds).2.length : Nat))) t := by
  induction ds generalizing m places with
  | nil =>
      have hplaces : places ≠ 0 := hsome.resolve_right (not_not_intro rfl)
      cases t with
      | nil => simp [readFraction, hplaces, takeDigits, readOptionalExponent]
      | cons b t =>
          simp [readFraction, noDigit_cons.1 ht, hplaces, takeDigits]
  | cons d ds ih =>
      obtain ⟨hd, hrest⟩ := List.forall_mem_cons.1 hds
      rw [List.cons_append, readFraction, if_pos hd, takeDigits]
      by_cases hnext : 0x10000000000000000 ≤ m * 10 + digitValue d
      · -- The digits that are skipped do not move the point.
        rw [if_pos hnext, if_pos hnext, dropWhile_isDigit_append hrest ht]
        simp
      · have hshorter : (takeDigits (m * 10 + digitValue d) ds).2.length ≤ ds.length :=
          length_takeDigits_le _ _
        rw [if_neg hnext, if_neg hnext, ih hrest (Or.inl (Nat.succ_ne_zero places))]
        congr 1
        rw [List.length_cons]
        omega

/-! ## Reading exponents -/

/-- Read an exponent after its sign. -/
def readSignedExponent (negative : Bool) (m : Nat) (start : Int) (down : Bool) :
    Bytes → Except Fault (Number × Bytes)
  | [] => .error (Flaw.eofInValue.here [])
  | b :: s =>
      if isDigit b then readExponentDigits negative m start down (digitValue b) s
      else .error (Flaw.invalidNumber.here s)

theorem readExponent_plus {start : Int} {s : Bytes} :
    readExponent negative m start (byte '+' :: s) =
      readSignedExponent negative m start false s := by
  cases s <;> rfl

theorem readExponent_minus {start : Int} {s : Bytes} :
    readExponent negative m start (byte '-' :: s) =
      readSignedExponent negative m start true s := by
  cases s <;> rfl

theorem readExponent_unsigned {start : Int} {s : Bytes}
    (h : ∀ b ∈ s.head?, b ≠ byte '+' ∧ b ≠ byte '-') :
    readExponent negative m start s = readSignedExponent negative m start false s := by
  cases s with
  | nil => rfl
  | cons b s =>
      obtain ⟨hplus, hminus⟩ := h b rfl
      simp only [readExponent, if_neg hplus, if_neg hminus, readSignedExponent]

theorem readSignedExponent_eq_ok {start : Int} {down : Bool} {s : Bytes} :
    readSignedExponent negative m start down s = .ok (num, rest) ↔
      ∃ ds, ds ≠ [] ∧ (∀ d ∈ ds, isDigit d = true) ∧ s = ds ++ rest ∧ NoDigit rest ∧
        (shifted? m start down (decimal 0 ds)).map (signed negative) = some num := by
  -- On a run of digits that is cut off at its end, reading is a computation.
  have hread (d : UInt8) (ds t : Bytes) (hd : isDigit d = true)
      (hds : ∀ d ∈ ds, isDigit d = true) (ht : NoDigit t) :
      readSignedExponent negative m start down (d :: ds ++ t) = .ok (num, rest) ↔
        (shifted? m start down (decimal 0 (d :: ds))).map (signed negative) = some num ∧
          t = rest := by
    have hvalue : digitValue d < 0x80000000 := by
      have hbyte := d.toNat_lt
      rw [digitValue]
      omega
    rw [List.cons_append, readSignedExponent, if_pos hd, readExponentDigits_append hvalue hds ht,
      decimal_cons, Nat.zero_mul, Nat.zero_add]
  constructor
  · intro h
    cases s with
    | nil => cases h
    | cons d s =>
        by_cases hd : isDigit d = true
        · rw [← List.takeWhile_append_dropWhile (p := isDigit) (l := s), ← List.cons_append,
            hread d _ _ hd isDigit_of_mem_takeWhile (noDigit_dropWhile s)] at h
          obtain ⟨hnum, rfl⟩ := h
          exact ⟨d :: s.takeWhile isDigit, List.cons_ne_nil _ _,
            List.forall_mem_cons.2 ⟨hd, isDigit_of_mem_takeWhile⟩,
            by rw [List.cons_append, List.takeWhile_append_dropWhile], noDigit_dropWhile s, hnum⟩
        · rw [readSignedExponent, if_neg hd] at h
          cases h
  · rintro ⟨ds, hsome, hds, rfl, hrest, hnum⟩
    obtain ⟨d, ds, rfl⟩ := List.exists_cons_of_ne_nil hsome
    obtain ⟨hd, hds⟩ := List.forall_mem_cons.1 hds
    exact (hread d ds rest hd hds hrest).2 ⟨hnum, rfl⟩

/-- The first digit of an exponent is not taken for a sign. -/
theorem ne_sign_of_isDigit {d : UInt8} (h : isDigit d = true) :
    d ≠ byte '+' ∧ d ≠ byte '-' := by
  constructor
  · rintro rfl
    revert h
    decide
  · rintro rfl
    revert h
    decide

theorem readExponent_eq_ok {start : Int} {letter : UInt8} {s : Bytes}
    (hletter : letter = byte 'e' ∨ letter = byte 'E') :
    readExponent negative m start s = .ok (num, rest) ↔
      ∃ x : Exponent, x.IsWellFormed ∧ letter :: s = x.text ++ rest ∧ NoDigit rest ∧
        (shifted? m start x.isDown (decimal 0 x.digits)).map (signed negative) = some num := by
  constructor
  · intro h
    -- The sign is read off first, whichever it is.
    obtain ⟨sign, _, tail, hsign, rfl, rfl, htail⟩ : ∃ sign down tail,
        (sign = [] ∨ sign = [byte '+'] ∨ sign = [byte '-']) ∧
        down = decide (sign = [byte '-']) ∧ s = sign ++ tail ∧
        readSignedExponent negative m start down tail = .ok (num, rest) := by
      by_cases hplus : s.head? = some (byte '+')
      · obtain ⟨tail, rfl⟩ := List.head?_eq_some_iff.1 hplus
        rw [readExponent_plus] at h
        exact ⟨[byte '+'], false, tail, Or.inr (Or.inl rfl), by decide, rfl, h⟩
      · by_cases hminus : s.head? = some (byte '-')
        · obtain ⟨tail, rfl⟩ := List.head?_eq_some_iff.1 hminus
          rw [readExponent_minus] at h
          exact ⟨[byte '-'], true, tail, Or.inr (Or.inr rfl), by decide, rfl, h⟩
        · rw [readExponent_unsigned] at h
          · exact ⟨[], false, s, Or.inl rfl, by decide, rfl, h⟩
          · rintro b hb
            rw [Option.mem_def.1 hb] at hplus hminus
            exact ⟨fun heq => hplus (heq ▸ rfl), fun heq => hminus (heq ▸ rfl)⟩
    obtain ⟨ds, hsome, hds, rfl, hrest, hnum⟩ := readSignedExponent_eq_ok.1 htail
    exact ⟨⟨letter, sign, ds⟩, ⟨hletter, hsign, hsome, hds⟩, by simp [Exponent.text], hrest,
      hnum⟩
  · rintro ⟨⟨_, sign, ds⟩, hx, htext, hrest, hnum⟩
    obtain ⟨rfl, rfl⟩ : letter = _ ∧ s = sign ++ ds ++ rest := by
      simpa [Exponent.text] using htext
    have hread (down : Bool) (hdown : down = decide (sign = [byte '-'])) :
        readSignedExponent negative m start down (ds ++ rest) = .ok (num, rest) :=
      readSignedExponent_eq_ok.2 ⟨ds, hx.someDigit, hx.digits, rfl, hrest, hdown ▸ hnum⟩
    obtain rfl | rfl | rfl := hx.sign
    · obtain ⟨d, ds, rfl⟩ := List.exists_cons_of_ne_nil hx.someDigit
      rw [List.nil_append, readExponent_unsigned]
      · exact hread false (by decide)
      · rintro b hb
        obtain rfl : d = b := by simpa using hb
        exact ne_sign_of_isDigit (hx.digits d List.mem_cons_self)
    · rw [List.append_assoc, List.singleton_append, readExponent_plus]
      exact hread false (by decide)
    · rw [List.append_assoc, List.singleton_append, readExponent_minus]
      exact hread true (by decide)

/-! ## Reading endings -/

/-- Without its letter there is no exponent. -/
theorem readOptionalExponent_plain {shift : Int} {t : Bytes}
    (h : ∀ b ∈ t.head?, b ≠ byte 'e' ∧ b ≠ byte 'E') :
    readOptionalExponent negative m shift t = finishFloat negative m shift t := by
  cases t with
  | nil => rfl
  | cons b s => rw [readOptionalExponent, if_neg (by simpa using h b rfl)]

theorem readOptionalExponent_eq_ok {shift : Int} {t : Bytes} (ht : NoDigit t) (places : Bytes) :
    readOptionalExponent negative m shift t = .ok (num, rest) ↔
      ∃ x : Option Exponent, (∀ y ∈ x, y.IsWellFormed) ∧ t = x.elim [] Exponent.text ++ rest ∧
        (Ending.mk (some places) x).EndsBefore rest ∧
        (scaledBy? m shift x).map (signed negative) = some num := by
  constructor
  · intro h
    by_cases hplain : ∀ b ∈ t.head?, b ≠ byte 'e' ∧ b ≠ byte 'E'
    · rw [readOptionalExponent_plain hplain, finishFloat_eq_ok] at h
      obtain ⟨hnum, rfl⟩ := h
      refine ⟨none, by simp, rfl, ?_, hnum⟩
      exact fun b hb => ⟨ht b hb, fun _ => hplain b hb, by simp⟩
    · obtain ⟨b, hb, hletter⟩ : ∃ b ∈ t.head?, b = byte 'e' ∨ b = byte 'E' := by
        simpa [-not_and, not_and_or] using hplain
      obtain ⟨s, rfl⟩ := List.head?_eq_some_iff.1 hb
      rw [readOptionalExponent, if_pos (by simpa using hletter), readExponent_eq_ok hletter] at h
      obtain ⟨x, hx, htext, hrest, hnum⟩ := h
      refine ⟨some x, by simpa using hx, htext, ?_, hnum⟩
      exact fun c hc => ⟨hrest c hc, by simp, by simp⟩
  · rintro ⟨x, hx, rfl, hends, hnum⟩
    cases x with
    | none =>
        rw [Option.elim_none, List.nil_append,
          readOptionalExponent_plain fun b hb => (hends b hb).2.1 rfl]
        exact finishFloat_eq_ok.2 ⟨hnum, rfl⟩
    | some x =>
        have hletter := (hx x rfl).letter
        rw [Option.elim_some, Exponent.text, List.cons_append, List.cons_append,
          readOptionalExponent, if_pos (by simpa using hletter), readExponent_eq_ok hletter]
        exact ⟨x, hx x rfl, by simp [Exponent.text], fun c hc => (hends c hc).1, hnum⟩

/-- The text of an exponent, if there is one, in front of a text without digits. -/
theorem noDigit_exponent {x : Option Exponent} (hx : ∀ y ∈ x, y.IsWellFormed) {t : Bytes}
    (ht : NoDigit t) : NoDigit (x.elim [] Exponent.text ++ t) := by
  cases x with
  | none => exact ht
  | some x =>
      rw [Option.elim_some, Exponent.text, List.cons_append, List.cons_append, noDigit_cons]
      obtain h | h := (hx x rfl).letter <;> rw [h] <;> decide

theorem Ending.EndsBefore.noDigit {e : Ending} (h : e.EndsBefore rest) : NoDigit rest :=
  fun b hb => (h b hb).1

theorem readFraction_eq_ok {long : Nat} {s : Bytes} :
    readFraction negative m long 0 s = .ok (num, rest) ↔
      ∃ places x, (Ending.mk (some places) x).IsWellFormed ∧
        s = places ++ x.elim [] Exponent.text ++ rest ∧
        (Ending.mk (some places) x).EndsBefore rest ∧
        ((Ending.mk (some places) x).float? m long).map (signed negative) = some num := by
  have hread (ds t : Bytes) (hds : ∀ d ∈ ds, isDigit d = true) (hsome : ds ≠ [])
      (ht : NoDigit t) :
      readFraction negative m long 0 (ds ++ t) = .ok (num, rest) ↔
        ∃ x : Option Exponent, (∀ y ∈ x, y.IsWellFormed) ∧ t = x.elim [] Exponent.text ++ rest ∧
          (Ending.mk (some ds) x).EndsBefore rest ∧
          ((Ending.mk (some ds) x).float? m long).map (signed negative) = some num := by
    have hshift (k : Nat) : (long : Int) - ((0 : Nat) + k) = long - k := by omega
    rw [readFraction_append hds (Or.inr hsome) ht, hshift, readOptionalExponent_eq_ok ht ds]
    rfl
  constructor
  · intro h
    by_cases hsome : s.takeWhile isDigit = []
    · cases s with
      | nil => cases h
      | cons b s =>
          have hb : isDigit b = false := by simpa [List.takeWhile_cons] using hsome
          rw [readFraction, hb] at h
          cases h
    · rw [← List.takeWhile_append_dropWhile (p := isDigit) (l := s),
        hread _ _ isDigit_of_mem_takeWhile hsome (noDigit_dropWhile s)] at h
      obtain ⟨x, hx, htext, hends, hnum⟩ := h
      refine ⟨s.takeWhile isDigit, x, ⟨?_, hx⟩, ?_, hends, hnum⟩
      · rintro places ⟨⟩
        exact ⟨hsome, isDigit_of_mem_takeWhile⟩
      · rw [List.append_assoc, ← htext, List.takeWhile_append_dropWhile]
  · rintro ⟨places, x, hwell, rfl, hends, hnum⟩
    obtain ⟨hsome, hplaces⟩ := hwell.fraction places rfl
    rw [List.append_assoc, hread _ _ hplaces hsome (noDigit_exponent hwell.exponent hends.noDigit)]
    exact ⟨x, hwell.exponent, rfl, hends, hnum⟩

/-- The text of an ending in front of a text that it ends before. -/
theorem Ending.noDigit_text {e : Ending} (he : e.IsWellFormed) (h : e.EndsBefore rest) :
    NoDigit (e.text ++ rest) := by
  rw [text, List.append_assoc]
  cases e.fraction with
  | none => exact noDigit_exponent he.exponent h.noDigit
  | some places =>
      rw [Option.elim_some, List.cons_append, noDigit_cons]
      decide

/-- Only an ending with a fraction starts with a point. -/
theorem Ending.head?_ne_point {x : Option Exponent} (he : (Ending.mk none x).IsWellFormed)
    (h : (Ending.mk none x).EndsBefore rest) :
    ((Ending.mk none x).text ++ rest).head? ≠ some (byte '.') := by
  cases x with
  | none => exact fun hb => (h _ hb).2.2 rfl rfl rfl
  | some x =>
      have hletter : x.letter ≠ byte '.' := by
        obtain hx | hx := (he.exponent x rfl).letter <;> rw [hx] <;> decide
      simpa [text, Exponent.text] using hletter

/-- The text of a number goes on behind its integral part where there is an ending. -/
theorem Ending.isNone_iff {e : Ending} (he : e.IsWellFormed) (h : e.EndsBefore rest) :
    e.fraction.isNone ∧ e.exponent.isNone ↔
      ∀ b ∈ (e.text ++ rest).head?, b ≠ byte '.' ∧ b ≠ byte 'e' ∧ b ≠ byte 'E' := by
  obtain ⟨fraction, x⟩ := e
  cases fraction with
  | some places => simp [text]
  | none =>
      cases x with
      | some x =>
          refine iff_of_false (by simp) fun hmarks => ?_
          obtain ⟨-, hletters⟩ := hmarks x.letter rfl
          exact (he.exponent x rfl).letter.elim hletters.1 hletters.2
      | none =>
          refine iff_of_true ⟨rfl, rfl⟩ ?_
          exact fun b hb => ⟨(h b hb).2.2 rfl rfl, (h b hb).2.1 rfl⟩

theorem readLongInteger_plain {long : Nat} {t : Bytes} (ht : NoDigit t)
    (hpoint : t.head? ≠ some (byte '.')) :
    readLongInteger negative m long t = readOptionalExponent negative m long t := by
  cases t with
  | nil => rfl
  | cons b s =>
      have hb : b ≠ byte '.' := fun h => hpoint (h ▸ rfl)
      rw [readLongInteger, if_neg (by simp [noDigit_cons.1 ht]), if_neg hb]

/-- What is read behind an integral part with digits that do not fit. -/
theorem readLongInteger_eq_ok {long : Nat} {t : Bytes} (ht : NoDigit t) :
    readLongInteger negative m long t = .ok (num, rest) ↔
      ∃ e : Ending, e.IsWellFormed ∧ t = e.text ++ rest ∧ e.EndsBefore rest ∧
        (e.float? m long).map (signed negative) = some num := by
  by_cases hpoint : t.head? = some (byte '.')
  · obtain ⟨s, rfl⟩ := List.head?_eq_some_iff.1 hpoint
    rw [readLongInteger, if_neg (by decide), if_pos rfl, readFraction_eq_ok]
    constructor
    · rintro ⟨places, x, hwell, rfl, hends, hnum⟩
      exact ⟨⟨some places, x⟩, hwell, by simp [Ending.text], hends, hnum⟩
    · rintro ⟨⟨fraction, x⟩, hwell, htext, hends, hnum⟩
      cases fraction with
      | none => exact absurd (htext ▸ hpoint) (Ending.head?_ne_point hwell hends)
      | some places =>
          refine ⟨places, x, hwell, ?_, hends, hnum⟩
          simpa [Ending.text] using htext
  · have hfloat (x : Option Exponent) :
        (Ending.mk none x).float? m long = scaledBy? m long x := by
      simp [Ending.float?, takeDigits]
    rw [readLongInteger_plain ht hpoint, readOptionalExponent_eq_ok ht []]
    constructor
    · rintro ⟨x, hx, rfl, hends, hnum⟩
      refine ⟨⟨none, x⟩, ⟨by simp, hx⟩, rfl, ?_, by rw [hfloat, hnum]⟩
      -- Without an exponent the rest could still go on with a fraction.
      intro b hb
      refine ⟨(hends b hb).1, (hends b hb).2.1, ?_⟩
      rintro hnone - rfl
      obtain rfl : x = none := hnone
      exact hpoint hb
    · rintro ⟨⟨fraction, x⟩, hwell, rfl, hends, hnum⟩
      cases fraction with
      | none =>
          refine ⟨x, hwell.exponent, rfl, ?_, by rw [← hfloat, hnum]⟩
          exact fun b hb => ⟨(hends b hb).1, (hends b hb).2.1, by simp⟩
      | some places => exact absurd rfl hpoint

/-- A number that has only an integral part is read as an integer. -/
theorem finishInteger_plain {t : Bytes}
    (h : ∀ b ∈ t.head?, b ≠ byte '.' ∧ b ≠ byte 'e' ∧ b ≠ byte 'E') :
    finishInteger negative m t = .ok (Numeral.ofWhole negative m, t) := by
  cases t with
  | nil => rfl
  | cons b s =>
      obtain ⟨hpoint, hletters⟩ := h b rfl
      rw [finishInteger, if_neg hpoint, if_neg (by simpa using hletters)]
      rfl

/-- Any other number is read on like one with a long integral part. -/
theorem finishInteger_of_not_plain {t : Bytes} (ht : NoDigit t)
    (h : ¬ ∀ b ∈ t.head?, b ≠ byte '.' ∧ b ≠ byte 'e' ∧ b ≠ byte 'E') :
    finishInteger negative m t = readLongInteger negative m 0 t := by
  cases t with
  | nil => exact absurd (by simp) h
  | cons b s =>
      by_cases hpoint : b = byte '.'
      · subst hpoint
        rw [finishInteger, if_pos rfl, readLongInteger, if_neg (by decide), if_pos rfl]
        rfl
      · have hletter : (decide (b = byte 'e') || decide (b = byte 'E')) = true := by
          by_contra hletters
          exact h (by simpa [hpoint] using hletters)
        rw [readLongInteger_plain ht fun heq => hpoint (Option.some.inj heq), finishInteger,
          if_neg hpoint, if_pos hletter, readOptionalExponent, if_pos hletter]
        rfl

/-- What is read behind an integral part that fits. -/
theorem finishInteger_eq_ok {t : Bytes} (ht : NoDigit t) :
    finishInteger negative m t = .ok (num, rest) ↔
      ∃ e : Ending, e.IsWellFormed ∧ t = e.text ++ rest ∧ e.EndsBefore rest ∧
        (if e.fraction.isNone ∧ e.exponent.isNone then some (Numeral.ofWhole negative m)
          else (e.float? m 0).map (signed negative)) = some num := by
  by_cases hplain : ∀ b ∈ t.head?, b ≠ byte '.' ∧ b ≠ byte 'e' ∧ b ≠ byte 'E'
  · rw [finishInteger_plain hplain]
    constructor
    · intro h
      obtain ⟨rfl, rfl⟩ := Prod.mk.inj (Except.ok.inj h)
      refine ⟨⟨none, none⟩, ⟨by simp, by simp⟩, rfl, ?_, rfl⟩
      intro b hb
      obtain ⟨hpoint, hletters⟩ := hplain b hb
      exact ⟨ht b hb, fun _ => hletters, fun _ _ => hpoint⟩
    · rintro ⟨e, he, rfl, hends, hnum⟩
      have hnone := (Ending.isNone_iff he hends).2 hplain
      rw [if_pos hnone] at hnum
      obtain ⟨fraction, x⟩ := e
      obtain ⟨rfl, rfl⟩ : fraction = none ∧ x = none := by simpa using hnone
      exact congrArg (fun n => Except.ok (n, rest)) (Option.some.inj hnum)
  · rw [finishInteger_of_not_plain ht hplain, readLongInteger_eq_ok ht]
    refine exists_congr fun e => and_congr_right fun he => ?_
    refine and_congr_right fun htext => and_congr_right fun hends => ?_
    rw [if_neg]
    rw [Ending.isNone_iff he hends, ← htext]
    exact hplain

/-! ## Reading numbers -/

theorem readDigits_of_noDigit {t : Bytes} (ht : NoDigit t) :
    readDigits negative m t = finishInteger negative m t := by
  cases t with
  | nil => rfl
  | cons b s => rw [readDigits, if_neg (by simp [noDigit_cons.1 ht])]

theorem readNumber_append {whole t : Bytes}
    (hwhole : whole = [byte '0'] ∨ ∃ d ds, whole = d :: ds ∧ d ≠ byte '0')
    (hdigits : ∀ d ∈ whole, isDigit d = true) (ht : NoDigit t) :
    readNumber negative (whole ++ t) =
      if decimal 0 whole < 0x10000000000000000 then finishInteger negative (decimal 0 whole) t
      else readLongInteger negative (takeDigits 0 whole).1 (takeDigits 0 whole).2.length t := by
  obtain rfl | ⟨d, ds, rfl, hzero⟩ := hwhole
  · rw [if_pos (by decide), List.singleton_append, readNumber.eq_def]
    dsimp only
    rw [if_pos rfl]
    cases t with
    | nil => rfl
    | cons b t =>
        dsimp only
        rw [if_neg (by simp [noDigit_cons.1 ht])]
        rfl
  · obtain ⟨hd, hds⟩ := List.forall_mem_cons.1 hdigits
    have hvalue : digitValue d < 0x10000000000000000 := by
      have hbyte := d.toNat_lt
      rw [digitValue]
      omega
    rw [List.cons_append, readNumber.eq_def]
    dsimp only
    rw [if_neg hzero, if_pos hd, readDigits_append hvalue hds, readDigits_of_noDigit ht,
      decimal_cons, takeDigits, Nat.zero_mul, Nat.zero_add, if_neg (Nat.not_le.2 hvalue)]

/-- A number that is read has an integral part without leading zeros. -/
theorem whole_of_readNumber {s : Bytes} (h : readNumber negative s = .ok (num, rest)) :
    s.takeWhile isDigit = [byte '0'] ∨
      ∃ d ds, s.takeWhile isDigit = d :: ds ∧ d ≠ byte '0' := by
  cases s with
  | nil => cases h
  | cons b s =>
      rw [readNumber.eq_def] at h
      dsimp only at h
      by_cases hzero : b = byte '0'
      · rw [if_pos hzero] at h
        left
        subst hzero
        cases s with
        | nil => rfl
        | cons c s =>
            by_cases hc : isDigit c = true
            · simp [hc] at h
            · rw [List.takeWhile_cons_of_pos (by decide), List.takeWhile_cons_of_neg hc]
      · rw [if_neg hzero] at h
        by_cases hb : isDigit b = true
        · exact Or.inr ⟨b, s.takeWhile isDigit, List.takeWhile_cons_of_pos hb, hzero⟩
        · rw [if_neg hb] at h
          cases h

/-- Behind its integral part a number goes on with its ending. -/
theorem readNumber_whole_eq_ok {whole t : Bytes}
    (hwhole : whole = [byte '0'] ∨ ∃ d ds, whole = d :: ds ∧ d ≠ byte '0')
    (hdigits : ∀ d ∈ whole, isDigit d = true) (ht : NoDigit t) :
    readNumber negative (whole ++ t) = .ok (num, rest) ↔
      ∃ e : Ending, e.IsWellFormed ∧ t = e.text ++ rest ∧ e.EndsBefore rest ∧
        (Numeral.mk e negative whole).number? = some num := by
  rw [readNumber_append hwhole hdigits ht]
  by_cases hfits : decimal 0 whole < 0x10000000000000000
  · rw [if_pos hfits, finishInteger_eq_ok ht]
    simp only [Numeral.number?, hfits, and_true, takeDigits_of_lt hfits, List.length_nil]
  · rw [if_neg hfits, readLongInteger_eq_ok ht]
    simp only [Numeral.number?, hfits, and_false, if_false]

/-- Reading takes the numerals off the front of a text that do not go on behind. -/
theorem readNumber_eq_ok {s : Bytes} :
    readNumber negative s = .ok (num, rest) ↔
      ∃ n : Numeral, n.negative = negative ∧ n.IsWellFormed ∧ s = n.unsignedText ++ rest ∧
        n.EndsBefore rest ∧ n.number? = some num := by
  constructor
  · intro h
    have hwhole := whole_of_readNumber h
    rw [← List.takeWhile_append_dropWhile (p := isDigit) (l := s),
      readNumber_whole_eq_ok hwhole isDigit_of_mem_takeWhile (noDigit_dropWhile s)] at h
    -- The integral part is the longest run of digits, since its ending starts with none.
    obtain ⟨e, he, htext, hends, hnum⟩ := h
    refine ⟨⟨e, negative, s.takeWhile isDigit⟩, rfl, ⟨hwhole, isDigit_of_mem_takeWhile, he⟩, ?_,
      hends, hnum⟩
    rw [Numeral.unsignedText, List.append_assoc, ← htext, List.takeWhile_append_dropWhile]
  · rintro ⟨⟨e, _, whole⟩, rfl, hwell, rfl, hends, hnum⟩
    rw [Numeral.unsignedText, List.append_assoc, readNumber_whole_eq_ok hwell.whole hwell.digits
      (Ending.noDigit_text hwell.ending hends)]
    exact ⟨e, hwell.ending, rfl, hends, hnum⟩

end Reading

end WebClient.Json
