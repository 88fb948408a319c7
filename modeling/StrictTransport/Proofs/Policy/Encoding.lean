import StrictTransport.Proofs.Policy.Corruption

namespace StrictTransport

namespace Text

variable {text : List CodePoint}

theorem mapM_char?_eq_some_iff {cs : List Char} :
    text.mapM CodePoint.char? = some cs ↔ text = cs.map .scalar := by
  induction text generalizing cs with
  | nil => cases cs <;> simp
  | cons point text ih =>
      cases point with
      | scalar c =>
          cases cs with
          | nil => simp [CodePoint.char?, Option.bind_eq_some_iff]
          | cons d cs => simp [CodePoint.char?, Option.bind_eq_some_iff, ih, and_comm]
      | surrogate half => cases cs <;> simp [CodePoint.char?]

theorem string?_eq_some_iff {s : String} : string? text = some s ↔ text = codePoints s := by
  simp only [string?, Option.map_eq_some_iff, mapM_char?_eq_some_iff, codePoints]
  constructor
  · rintro ⟨cs, rfl, rfl⟩
    rw [String.toList_ofList]
  · rintro rfl
    exact ⟨s.toList, rfl, String.ofList_toList⟩

-- A text is no string if and only if half of a pair stands alone in it.
theorem string?_eq_none_iff : string? text = none ↔ ∃ half, .surrogate half ∈ text := by
  rw [string?, Option.map_eq_none_iff]
  induction text with
  | nil => simp
  | cons point text ih =>
      cases point with
      | scalar c =>
          rw [List.mapM_cons, CodePoint.char?, Option.bind_eq_bind, Option.bind_some,
            Option.bind_eq_bind, Option.bind_eq_none_iff]
          simp [ih, ← Option.eq_none_iff_forall_ne_some]
      | surrogate half => simp [CodePoint.char?]

theorem codePoints_injective : Function.Injective codePoints := fun _ _ heq =>
  Option.some.inj ((string?_eq_some_iff.mpr rfl).symm.trans (string?_eq_some_iff.mpr heq))

-- No half of a pair stands alone in a string.
theorem surrogate_notMem_codePoints {half : Fin 0x800} {s : String} :
    .surrogate half ∉ codePoints s := by
  intro hmem
  have hnone := string?_eq_none_iff.mpr ⟨half, hmem⟩
  rw [string?_eq_some_iff.mpr rfl] at hnone
  cases hnone

end Text

namespace Policy

open Text

variable {registrable : List String → Bool} {limits : Limits} {text : List CodePoint}

theorem ofText_codePoints (s : String) :
    ofText registrable limits (codePoints s) =
      ((ofExtended registrable limits s).1.mapError .corrupted,
        (ofExtended registrable limits s).2) := by
  rw [ofText, string?_eq_some_iff.mpr rfl]

theorem ofText_of_surrogate {half : Fin 0x800} (h : .surrogate half ∈ text) :
    ofText registrable limits text = (.error .unencodable, []) := by
  rw [ofText, string?_eq_none_iff.mpr ⟨half, h⟩]

-- A string is refused for what it lacks.
theorem ofText_codePoints_eq_error_iff (s : String) (e : Unread) :
    (ofText registrable limits (codePoints s)).1 = .error e ↔
      Lacks registrable (Document.parse limits (Utf8.encode s.toList)).1 ∧
        e = .corrupted (remains registrable (Document.parse limits (Utf8.encode s.toList)).1) := by
  rw [ofText_codePoints]
  have hcorrupted := ofExtended_eq_error_iff registrable limits s
  generalize (ofExtended registrable limits s).1 = result at hcorrupted ⊢
  constructor
  · intro herror
    cases result with
    | ok p => cases herror
    | error corrupted =>
        obtain rfl := Except.error.inj herror
        obtain ⟨hlacks, rfl⟩ := (hcorrupted corrupted).mp rfl
        exact ⟨hlacks, rfl⟩
  · rintro ⟨hlacks, rfl⟩
    rw [(hcorrupted _).mpr ⟨hlacks, rfl⟩]
    rfl

-- A text is refused if it has no encoding, or if it lacks what makes a record.
theorem ofText_eq_error_iff (registrable : List String → Bool) (limits : Limits)
    (text : List CodePoint) (e : Unread) :
    (ofText registrable limits text).1 = .error e ↔
      (e = .unencodable ∧ ∃ half, .surrogate half ∈ text) ∨
      ∃ s, text = codePoints s ∧
        Lacks registrable (Document.parse limits (Utf8.encode s.toList)).1 ∧
        e = .corrupted (remains registrable (Document.parse limits (Utf8.encode s.toList)).1) := by
  cases htext : string? text with
  | none =>
      obtain ⟨half, hhalf⟩ := string?_eq_none_iff.mp htext
      rw [ofText_of_surrogate hhalf]
      constructor
      · rintro ⟨⟩
        exact .inl ⟨rfl, half, hhalf⟩
      · rintro (⟨rfl, -⟩ | ⟨s, rfl, -⟩)
        · rfl
        · exact absurd hhalf surrogate_notMem_codePoints
  | some s =>
      obtain rfl := string?_eq_some_iff.mp htext
      rw [ofText_codePoints_eq_error_iff]
      constructor
      · rintro ⟨hlacks, rfl⟩
        exact .inr ⟨s, rfl, hlacks, rfl⟩
      · rintro (⟨-, half, hhalf⟩ | ⟨t, heq, hlacks, rfl⟩)
        · exact absurd hhalf surrogate_notMem_codePoints
        · obtain rfl := codePoints_injective heq
          exact ⟨hlacks, rfl⟩

end Policy

end StrictTransport
