import WebClient.Proofs.Json.ListReading
import WebClient.Proofs.Json.NumberReading

/-!
# Reading values

A reader reads the texts of a relation if it takes exactly those off the front of its
input, with blanks in front, that do not go on behind.  Level by level, `Value.read` reads
the texts that `Spells` describes (`reads_spells`).
-/

namespace WebClient.Json

/-- The reader takes exactly the texts of the relation off the front of its input. -/
def Reads {α : Type} (item : Reader α) (R : Bytes → α → Prop) : Prop :=
  ∀ s x rest, item s = .ok (x, rest) ↔
    ∃ front text, s = front ++ text ++ rest ∧ IsBlank front ∧ R text x ∧ EndsBefore text rest

theorem Reads.readsEntry {α : Type} {item : Reader α} {R : Bytes → α → Prop}
    (h : Reads item R) : ReadsEntry item R where
  sound {s x rest} hread := by
    obtain ⟨front, text, hs, hfront, hx, -⟩ := (h s x rest).1 hread
    exact ⟨front, text, hs, hfront, hx⟩
  complete {front text rest x} hfront hx hrest :=
    (h _ x rest).2 ⟨front, text, rfl, hfront, hx, endsBefore_of_isStop hrest⟩

theorem readWord_eq_ok {word s rest : Bytes} :
    readWord word s = .ok rest ↔ s = word ++ rest := by
  induction word generalizing s with
  | nil => simp [readWord]
  | cons w word ih =>
      cases s with
      | nil => simp [readWord]
      | cons b s => by_cases hb : b = w <;> simp [readWord, hb, ih]

/-! ## How a value starts -/

/-- The byte starts a value. -/
def startsValue (b : UInt8) : Bool :=
  isDigit b || b = byte 'n' || b = byte 't' || b = byte 'f' || b = byte '-' || b = byte '"' ||
    b = byte '[' || b = byte '{'

theorem ne_of_isDigit {d b : UInt8} (hd : isDigit d = true) (hb : isDigit b = false) : d ≠ b := by
  rintro rfl
  rw [hd] at hb
  cases hb

theorem isSpace_of_startsValue {b : UInt8} (h : startsValue b = true) : isSpace b = false := by
  rw [← Bool.not_eq_true]
  intro hspace
  simp only [isSpace, Bool.or_eq_true, decide_eq_true_eq] at hspace
  obtain ((rfl | rfl) | rfl) | rfl := hspace <;> exact absurd h (by decide)

/-- A number starts with its sign or a digit. -/
theorem Numeral.exists_text_eq_cons {n : Numeral} (hn : n.IsWellFormed) :
    ∃ b tail, n.text = b :: tail ∧ startsValue b = true := by
  obtain ⟨d, ds, hwhole⟩ := List.exists_cons_of_ne_nil hn.whole_ne_nil
  have hd : isDigit d = true := hn.digits d (hwhole ▸ List.mem_cons_self)
  rw [text, unsignedText, hwhole]
  cases n.negative with
  | false => exact ⟨d, _, rfl, by simp [startsValue, hd]⟩
  | true => exact ⟨byte '-', _, rfl, by decide⟩

theorem ScalarText.exists_eq_cons {text : Bytes} {v : Value} (h : ScalarText text v) :
    ∃ b tail, text = b :: tail ∧ startsValue b = true := by
  cases h with
  | null | yes | no | string => exact ⟨_, _, rfl, by decide⟩
  | number hn => exact Numeral.exists_text_eq_cons hn

theorem Spells.exists_eq_cons {levels : Nat} {text : Bytes} {v : Value}
    (h : Spells levels text v) : ∃ b tail, text = b :: tail ∧ startsValue b = true := by
  cases levels with
  | zero => exact ScalarText.exists_eq_cons h
  | succ levels =>
      obtain h | ⟨inner, items, -, rfl, -⟩ | ⟨inner, fields, -, rfl, -⟩ := h
      · exact h.exists_eq_cons
      · exact ⟨_, _, rfl, by decide⟩
      · exact ⟨_, _, rfl, by decide⟩

theorem startsBeside_spells (levels : Nat) : StartsBeside (byte ']') (Spells levels) := by
  intro text v h
  obtain ⟨b, tail, rfl, hb⟩ := h.exists_eq_cons
  refine ⟨b, tail, rfl, isSpace_of_startsValue hb, ?_⟩
  rintro rfl
  exact absurd hb (by decide)

/-! ## Values -/

theorem readList_eq_ok {levels : Nat} (hread : Reads (Value.read levels) (Spells levels))
    {s rest : Bytes} {items : List Value} :
    (∃ t, readItems (Value.read levels) (s.length + 1) 0 s = .ok (items, t) ∧
      closeList t = .ok rest) ↔
      ∃ inner, s = inner ++ byte ']' :: rest ∧ ItemsText (Spells levels) inner items := by
  have hstarts := startsBeside_spells levels
  have hloop := isListReader_readItems hread.readsEntry hstarts
  constructor
  · rintro ⟨t, hitems, hclose⟩
    obtain ⟨inner, tail, rfl, rfl, hinner⟩ := (hloop.readsItems hread.readsEntry hstarts
      (by decide) (by decide) rfl (Nat.lt_succ_self _)).1 hitems
    rw [closeList_eq_ok, skipSpace_cons (by decide)] at hclose
    exact ⟨inner, by rw [hclose], hinner⟩
  · rintro ⟨inner, rfl, hinner⟩
    refine ⟨byte ']' :: rest, (hloop.readsItems hread.readsEntry hstarts
      (by decide) (by decide) rfl (Nat.lt_succ_self _)).2 ⟨inner, rest, rfl, rfl, hinner⟩, ?_⟩
    rw [closeList_eq_ok, skipSpace_cons (by decide)]

theorem readObject_eq_ok {levels : Nat} (hread : Reads (Value.read levels) (Spells levels))
    {s rest : Bytes} {fields : List (String × Value)} :
    (∃ t, readFields (Value.read levels) (s.length + 1) true s = .ok (fields, t) ∧
      closeObject t = .ok rest) ↔
      ∃ inner, s = inner ++ byte '}' :: rest ∧
        ItemsText (FieldText (Spells levels)) inner fields := by
  have hfield := readsEntry_readField hread.readsEntry
  have hloop := @isListReader_readFields _ (Value.read levels)
  constructor
  · rintro ⟨t, hitems, hclose⟩
    obtain ⟨inner, tail, rfl, rfl, hinner⟩ := (hloop.readsItems hfield startsBeside_fieldText
      (by decide) (by decide) rfl (Nat.lt_succ_self _)).1 hitems
    rw [closeObject_eq_ok, skipSpace_cons (by decide)] at hclose
    exact ⟨inner, by rw [hclose], hinner⟩
  · rintro ⟨inner, rfl, hinner⟩
    refine ⟨byte '}' :: rest, (hloop.readsItems hfield startsBeside_fieldText
      (by decide) (by decide) rfl (Nat.lt_succ_self _)).2 ⟨inner, rest, rfl, rfl, hinner⟩, ?_⟩
    rw [closeObject_eq_ok, skipSpace_cons (by decide)]

theorem Spells.of_scalar {levels : Nat} {text : Bytes} {v : Value} (h : ScalarText text v) :
    Spells levels text v := by
  cases levels with
  | zero => exact h
  | succ levels => exact Or.inl h

/-- A word that is read to its end spells its value. -/
theorem spells_of_readWord {levels : Nat} {b : UInt8} {word t rest : Bytes} {v w : Value}
    (htext : ScalarText (b :: word) w) (hends : EndsBefore (b :: word) rest)
    (h : (readWord word t >>= fun s => pure (w, s)) = .ok (v, rest)) :
    ∃ text, b :: t = text ++ rest ∧ Spells levels text v ∧ EndsBefore text rest := by
  obtain ⟨s, hword, h⟩ := Outcome.bind_eq_ok.1 h
  cases h
  rw [readWord_eq_ok.1 hword]
  exact ⟨b :: word, rfl, .of_scalar htext, hends⟩

/-- A number that is read behind its sign is spelled by both. -/
theorem spells_of_readNumber {levels : Nat} {negative : Bool} {t rest : Bytes} {v : Value}
    (h : (readNumber negative t >>= fun x => pure (Value.number x.1, x.2)) = .ok (v, rest)) :
    ∃ text, (if negative then [byte '-'] else []) ++ t = text ++ rest ∧ Spells levels text v ∧
      EndsBefore text rest := by
  obtain ⟨⟨num, s⟩, hnumber, h⟩ := Outcome.bind_eq_ok.1 h
  cases h
  obtain ⟨n, rfl, hn, rfl, hends, hnum⟩ := readNumber_eq_ok.1 hnumber
  exact ⟨n.text, (List.append_assoc _ _ _).symm, .of_scalar (.number hn hnum),
    (n.endsBefore_text_iff hn).2 hends⟩

/-- A value that is read is spelled by what is taken, which starts right away. -/
theorem spells_of_read {levels : Nat}
    (hread : ∀ below, levels = below + 1 → Reads (Value.read below) (Spells below)) {s rest : Bytes}
    {v : Value} (h : Value.read levels s = .ok (v, rest)) :
    ∃ text, skipSpace s = text ++ rest ∧ Spells levels text v ∧ EndsBefore text rest := by
  rw [Value.read.eq_def] at h
  cases hs : skipSpace s with
  | nil =>
      rw [hs] at h
      cases h
  | cons b t =>
      rw [hs] at h
      dsimp only at h
      -- One case for each byte that a value can start with.
      split_ifs at h with hnull hyes hno hminus hdigit hquote hlist hobject
      · subst hnull
        exact spells_of_readWord .null (endsBefore_concat [_, _, _] (by decide)) h
      · subst hyes
        exact spells_of_readWord .yes (endsBefore_concat [_, _, _] (by decide)) h
      · subst hno
        exact spells_of_readWord .no (endsBefore_concat [_, _, _, _] (by decide)) h
      · subst hminus
        exact spells_of_readNumber h
      · exact spells_of_readNumber h
      · subst hquote
        obtain ⟨⟨text, rest'⟩, hstring, h⟩ := Outcome.bind_eq_ok.1 h
        cases h
        obtain ⟨inner, rfl, hinner⟩ := readString_eq_ok.1 hstring
        refine ⟨byte '"' :: inner ++ [byte '"'], by simp, .of_scalar (.string hinner), ?_⟩
        exact endsBefore_concat (byte '"' :: inner) (by decide)
      · subst hlist
        cases levels with
        | zero => cases h
        | succ below =>
            obtain ⟨⟨items, s'⟩, hitems, h⟩ := Outcome.bind_eq_ok.1 h
            obtain ⟨rest', hclose, h⟩ := Outcome.bind_eq_ok.1 h
            cases h
            obtain ⟨inner, rfl, hinner⟩ :=
              (readList_eq_ok (hread below rfl)).1 ⟨s', hitems, hclose⟩
            refine ⟨byte '[' :: (inner ++ [byte ']']), by simp, ?_, ?_⟩
            · exact Or.inr (Or.inl ⟨inner, items, hinner, rfl, rfl⟩)
            · exact endsBefore_concat (byte '[' :: inner) (by decide)
      · subst hobject
        cases levels with
        | zero => cases h
        | succ below =>
            obtain ⟨⟨fields, s'⟩, hfields, h⟩ := Outcome.bind_eq_ok.1 h
            obtain ⟨rest', hclose, h⟩ := Outcome.bind_eq_ok.1 h
            cases h
            obtain ⟨inner, rfl, hinner⟩ :=
              (readObject_eq_ok (hread below rfl)).1 ⟨s', hfields, hclose⟩
            refine ⟨byte '{' :: (inner ++ [byte '}']), by simp, ?_, ?_⟩
            · exact Or.inr (Or.inr ⟨inner, fields, hinner, rfl, rfl⟩)
            · exact endsBefore_concat (byte '{' :: inner) (by decide)

theorem read_of_scalarText {levels : Nat} {s text rest : Bytes} {v : Value}
    (hs : skipSpace s = text ++ rest) (h : ScalarText text v) (hends : EndsBefore text rest) :
    Value.read levels s = .ok (v, rest) := by
  rw [Value.read.eq_def, hs]
  cases h with
  | null => exact Outcome.bind_eq_ok.2 ⟨rest, readWord_eq_ok.2 rfl, rfl⟩
  | yes => exact Outcome.bind_eq_ok.2 ⟨rest, readWord_eq_ok.2 rfl, rfl⟩
  | no => exact Outcome.bind_eq_ok.2 ⟨rest, readWord_eq_ok.2 rfl, rfl⟩
  | @number n num hn hnum =>
      have hnumber : readNumber n.negative (n.unsignedText ++ rest) = .ok (num, rest) :=
        readNumber_eq_ok.2 ⟨n, rfl, hn, rfl, (n.endsBefore_text_iff hn).1 hends, hnum⟩
      cases hnegative : n.negative with
      | true =>
          rw [hnegative] at hnumber
          rw [Numeral.text, hnegative, if_pos rfl]
          exact Outcome.bind_eq_ok.2 ⟨(num, rest), hnumber, rfl⟩
      | false =>
          -- The first digit is none of the bytes that the reader asks for before digits.
          obtain ⟨d, ds, hwhole⟩ := List.exists_cons_of_ne_nil hn.whole_ne_nil
          have hd : isDigit d = true := hn.digits d (hwhole ▸ List.mem_cons_self)
          rw [hnegative] at hnumber
          rw [Numeral.text, hnegative, if_neg Bool.false_ne_true, List.nil_append]
          rw [Numeral.unsignedText, hwhole] at hnumber ⊢
          simp only [List.cons_append] at hnumber ⊢
          rw [if_neg (ne_of_isDigit hd (by decide)), if_neg (ne_of_isDigit hd (by decide)),
            if_neg (ne_of_isDigit hd (by decide)), if_neg (ne_of_isDigit hd (by decide)), if_pos hd]
          exact Outcome.bind_eq_ok.2 ⟨(num, rest), hnumber, rfl⟩
  | @string inner text hinner =>
      have hstring : readString (inner ++ byte '"' :: rest) = .ok (text, rest) :=
        readString_eq_ok.2 ⟨inner, rfl, hinner⟩
      rw [List.append_assoc, List.cons_append, List.singleton_append]
      exact Outcome.bind_eq_ok.2 ⟨(text, rest), hstring, rfl⟩

theorem read_of_spells {levels : Nat}
    (hread : ∀ below, levels = below + 1 → Reads (Value.read below) (Spells below))
    {s text rest : Bytes} {v : Value} (hs : skipSpace s = text ++ rest)
    (h : Spells levels text v) (hends : EndsBefore text rest) :
    Value.read levels s = .ok (v, rest) := by
  cases levels with
  | zero => exact read_of_scalarText hs h hends
  | succ below =>
      obtain h | ⟨inner, items, hinner, rfl, rfl⟩ | ⟨inner, fields, hinner, rfl, rfl⟩ := h
      · exact read_of_scalarText hs h hends
      · obtain ⟨t, hitems, hclose⟩ : ∃ t, readItems (Value.read below)
            ((inner ++ byte ']' :: rest).length + 1) 0 (inner ++ byte ']' :: rest) =
              .ok (items, t) ∧ closeList t = .ok rest :=
          (readList_eq_ok (hread below rfl)).2 ⟨inner, rfl, hinner⟩
        rw [Value.read.eq_def, hs]
        rw [List.cons_append, List.append_assoc, List.singleton_append]
        exact Outcome.bind_eq_ok.2 ⟨(items, t), hitems,
          Outcome.bind_eq_ok.2 ⟨rest, hclose, rfl⟩⟩
      · obtain ⟨t, hfields, hclose⟩ : ∃ t, readFields (Value.read below)
            ((inner ++ byte '}' :: rest).length + 1) true (inner ++ byte '}' :: rest) =
              .ok (fields, t) ∧ closeObject t = .ok rest :=
          (readObject_eq_ok (hread below rfl)).2 ⟨inner, rfl, hinner⟩
        rw [Value.read.eq_def, hs]
        rw [List.cons_append, List.append_assoc, List.singleton_append]
        exact Outcome.bind_eq_ok.2 ⟨(fields, t), hfields,
          Outcome.bind_eq_ok.2 ⟨rest, hclose, rfl⟩⟩

theorem reads_of_below {levels : Nat}
    (hread : ∀ below, levels = below + 1 → Reads (Value.read below) (Spells below)) :
    Reads (Value.read levels) (Spells levels) := by
  intro s v rest
  constructor
  · intro h
    obtain ⟨front, hs, hfront⟩ := exists_skipSpace s
    obtain ⟨text, hskip, htext, hends⟩ := spells_of_read hread h
    exact ⟨front, text, by rw [hs, hskip, List.append_assoc], hfront, htext, hends⟩
  · rintro ⟨front, text, rfl, hfront, htext, hends⟩
    refine read_of_spells hread ?_ htext hends
    rw [List.append_assoc, skipSpace_append hfront,
      (startsBeside_spells levels).skipSpace_append htext]

/-- Reading takes exactly the values off the front of a text that do not go on behind. -/
theorem reads_spells (levels : Nat) : Reads (Value.read levels) (Spells levels) := by
  induction levels with
  | zero => exact reads_of_below fun below h => absurd h (Nat.zero_ne_add_one below)
  | succ levels ih =>
      refine reads_of_below fun below h => ?_
      obtain rfl := Nat.succ.inj h
      exact ih

end WebClient.Json
