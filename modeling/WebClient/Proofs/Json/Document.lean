import WebClient.Converter.Standard
import WebClient.Proofs.Json.Reading

/-!
# JSON bodies

The converter of JSON bodies reads one value off the front of a body and does not look at
what is left.  So a body is accepted when it starts with a value that does not go on behind
(`ResponseConverter.json_convert_eq_ok`), and it is a JSON document exactly when nothing but
blanks is left.
-/

namespace WebClient

namespace Json

/-- The body starts with a value, in front of the rest. -/
def StartsWith (body : Bytes) (v : Value) (rest : Bytes) : Prop :=
  ∃ front text, body = front ++ text ++ rest ∧ IsBlank front ∧ Spells maxLevels text v ∧
    EndsBefore text rest

theorem ofBytes_any_eq_ok {body : Bytes} {v : Value} :
    Schema.any.ofBytes body = .ok v ↔ ∃ rest, StartsWith body v rest := by
  have hread (rest : Bytes) : Value.read maxLevels body = .ok (v, rest) ↔
      StartsWith body v rest := reads_spells maxLevels body v rest
  rw [Schema.ofBytes, Schema.read, Outcome.map_eq_ok]
  constructor
  · rintro ⟨⟨w, rest⟩, h, rfl⟩
    exact ⟨rest, (hread rest).1 h⟩
  · rintro ⟨rest, h⟩
    exact ⟨(v, rest), (hread rest).2 h, rfl⟩

/-- A body starts with one value at most, and there is one way to take it off. -/
theorem StartsWith.unique {body : Bytes} {v w : Value} {rest rest' : Bytes}
    (h : StartsWith body v rest) (h' : StartsWith body w rest') : v = w ∧ rest = rest' := by
  have hv := (reads_spells maxLevels body v rest).2 h
  rw [(reads_spells maxLevels body w rest').2 h'] at hv
  cases hv
  exact ⟨rfl, rfl⟩

/-- A document is a body that starts with a value and has only blanks behind it. -/
theorem isDocument_iff_of_startsWith {body : Bytes} {v : Value} {rest : Bytes}
    (h : StartsWith body v rest) : IsDocument body v ↔ IsBlank rest := by
  constructor
  · rintro ⟨front, text, rest', hbody, hfront, htext, hrest⟩
    have h' : StartsWith body v rest' :=
      ⟨front, text, hbody, hfront, htext, endsBefore_of_isBlank hrest⟩
    exact (h.unique h').2 ▸ hrest
  · intro hrest
    obtain ⟨front, text, hbody, hfront, htext, -⟩ := h
    exact ⟨front, text, rest, hbody, hfront, htext, hrest⟩

theorem isBlankByte_of_startsValue {b : UInt8} (h : startsValue b = true) :
    isBlankByte b = false := by
  rw [← Bool.not_eq_true]
  intro hblank
  simp only [isBlankByte, Bool.or_eq_true, decide_eq_true_eq] at hblank
  obtain (((rfl | rfl) | rfl) | rfl) | rfl := hblank <;> exact absurd h (by decide)

/-- A body that starts with a value is not blank. -/
theorem StartsWith.not_blank {body : Bytes} {v : Value} {rest : Bytes}
    (h : StartsWith body v rest) : body.all isBlankByte = false := by
  obtain ⟨front, text, rfl, -, htext, -⟩ := h
  obtain ⟨b, tail, rfl, hb⟩ := htext.exists_eq_cons
  rw [List.all_eq_false]
  exact ⟨b, by simp, by simp [isBlankByte_of_startsValue hb]⟩

end Json

namespace ResponseConverter

open Json

/-- A body is accepted if it is blank or starts with a value; whether it is a document makes
no difference. -/
theorem json_convert_eq_ok {body : Bytes} {type : TypeName} {v : Value} :
    json.convert body type = .ok v ↔
      (body.all isBlankByte = true ∧ v = .null) ∨
      (body.all isBlankByte = false ∧ ∃ front text rest, body = front ++ text ++ rest ∧
        IsBlank front ∧ Spells maxLevels text v ∧ EndsBefore text rest ∧
        (IsDocument body v ↔ IsBlank rest)) := by
  rw [json]
  dsimp only
  cases hblank : body.all isBlankByte with
  | true => simp [eq_comm]
  | false =>
      rw [if_neg Bool.false_ne_true, Schema.decodeBytes, Outcome.mapError_eq_ok,
        ofBytes_any_eq_ok]
      constructor
      · rintro ⟨rest, h⟩
        have hdocument := isDocument_iff_of_startsWith h
        obtain ⟨front, text, hbody, hfront, htext, hends⟩ := h
        exact Or.inr ⟨rfl, front, text, rest, hbody, hfront, htext, hends, hdocument⟩
      · rintro (⟨hfalse, -⟩ | ⟨-, front, text, rest, hbody, hfront, htext, hends, -⟩)
        · cases hfalse
        · exact ⟨rest, front, text, hbody, hfront, htext, hends⟩

/-- A second value behind the first one is not looked at. -/
theorem json_convert_second_value :
    json.convert (Text.bytes "1 2") ⟨"T"⟩ = .ok (.int 1) ∧
      (Text.bytes "1 2").all isBlankByte = false ∧ ¬IsDocument (Text.bytes "1 2") (.int 1) := by
  have hread : Value.read maxLevels (Text.bytes "1 2") = .ok (.int 1, [0x20, 0x32]) := rfl
  refine ⟨rfl, by decide, ?_⟩
  rw [isDocument_iff_of_startsWith ((reads_spells maxLevels _ _ _).1 hread)]
  intro hblank
  exact absurd (hblank 0x32 (by decide)) (by decide)

end ResponseConverter

end WebClient
