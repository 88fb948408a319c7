import StrictTransport.Proofs.Document.Render
import StrictTransport.Proofs.Numeric.Integer
import StrictTransport.Proofs.Policy.Validity

namespace StrictTransport.Policy

open Document Text

-- The pairs that an extended document tells before the token of the record.
def told (p : Policy) (domain : String) : List Pair :=
  p.version.toList.map (("version", ·)) ++ [("mode", p.mode.name)] ++
    p.masks.map (("mx", ·)) ++ [("max_age", toString p.maxAge)] ++
    [("fetch_time", toString p.fetchTime)] ++ [("domain", domain)]

theorem encode_line (key value : String) :
    Utf8.encode (line key value).toList = lineBytes key value ++ [cr, lf] := by
  have htext : line key value = key ++ ": " ++ value ++ "\r\n" := rfl
  rw [htext, String.toList_append, String.toList_append, String.toList_append, Utf8.encode_append,
    Utf8.encode_append, Utf8.encode_append, lineBytes, List.append_assoc, List.append_assoc,
    List.append_assoc]
  rfl

theorem encode_join (key : String) (values : List String) :
    Utf8.encode (String.join (values.map (line key))).toList =
      document (values.map ((key, ·))) := by
  induction values with
  | nil => rfl
  | cons value values ih =>
      rw [List.map_cons, List.map_cons, document_cons, String.join_cons, String.toList_append,
        Utf8.encode_append, encode_line, ih]
      simp

theorem document_append (first second : List Pair) :
    document (first ++ second) = document first ++ document second :=
  List.flatMap_append

theorem encode_extended {p : Policy} {record : Record} {domain : String}
    (hrecord : p.record = some record) (hdomain : record.domain = some domain) :
    Utf8.encode p.extended.toList =
      document (told p domain) ++ (lineBytes "record_id" record.token ++ [cr, lf]) := by
  have hversion : Utf8.encode (p.version.elim "" (line "version")).toList =
      document (p.version.toList.map (("version", ·))) := by
    cases p.version with
    | none => rfl
    | some version =>
        simp [encode_line, document]
  simp only [extended, hrecord, hdomain, Option.getD_some, String.toList_append,
    Utf8.encode_append, hversion, encode_line, encode_join, told, document_append, document_cons]
  simp [document]

section Told

variable (p : Policy) (domain first : String)

-- All that an extended document tells, when it is read back.
def retold : List Pair :=
  told p domain ++ [("record_id", first)]

theorem encode_extended_eq_document {p : Policy} {record : Record} {domain : String}
    (hrecord : p.record = some record) (hdomain : record.domain = some domain) :
    Utf8.encode p.extended.toList = document (retold p domain record.token) := by
  rw [encode_extended hrecord hdomain, retold, document_append]
  simp [document]

theorem values_retold (key : String) :
    values key (retold p domain first) =
      (if "version" = key then p.version.toList else []) ++
        (if "mode" = key then [p.mode.name] else []) ++ (if "mx" = key then p.masks else []) ++
        (if "max_age" = key then [toString p.maxAge] else []) ++
        (if "fetch_time" = key then [toString p.fetchTime] else []) ++
        (if "domain" = key then [domain] else []) ++ if "record_id" = key then [first] else [] := by
  simp only [retold, told, values_append, values_map, values_singleton]

theorem version_retold : values "version" (retold p domain first) = p.version.toList := by
  simp [values_retold]

theorem mode_retold : values "mode" (retold p domain first) = [p.mode.name] := by
  simp [values_retold]

theorem mx_retold : values "mx" (retold p domain first) = p.masks := by
  simp [values_retold]

theorem maxAge_retold : values "max_age" (retold p domain first) = [toString p.maxAge] := by
  simp [values_retold]

theorem fetchTime_retold :
    values "fetch_time" (retold p domain first) = [toString p.fetchTime] := by
  simp [values_retold]

theorem domain_retold : values "domain" (retold p domain first) = [domain] := by
  simp [values_retold]

theorem recordId_retold : values "record_id" (retold p domain first) = [first] := by
  simp [values_retold]

end Told

theorem keyText_of_told : ∀ key ∈ ["version", "mode", "mx", "max_age", "fetch_time", "domain",
    "record_id"], KeyText key := by
  decide +kernel

theorem told_of_bare {key value : String} (hkey : KeyText key)
    (h : Bare value ∧ '\n' ∉ value.toList) : Told (key, value) :=
  ⟨hkey, h.1, whole_of_notMem hkey (.inr h.2)⟩

-- Numbers are written with ASCII digits and a hyphen.
theorem bare_toString (t : Int) : Bare (toString t) ∧ '\n' ∉ (toString t).toList := by
  have hvisible : ∀ c ∈ (toString t).toList, isBlank c = false := by
    intro c hc
    rcases isAsciiDigit_of_mem_toString hc with hdigit | rfl
    · exact isBlank_of_isAsciiDigit hdigit
    · decide
  have hne := toList_toString_ne_nil t
  exact ⟨bare_of_ends (List.head?_eq_some_head hne) (hvisible _ (List.head_mem hne))
    (List.getLast?_eq_some_getLast hne) (hvisible _ (List.getLast_mem hne)),
    fun hlf => absurd (hvisible _ hlf) (by decide)⟩

theorem ageForm_toString {t : Int} (h : 0 ≤ t) (hlt : t < 10 ^ 10) : AgeForm (toString t) := by
  rw [AgeForm, toList_toString h]
  refine ⟨Nat.length_toDigits_pos, ?_, fun c hc => isAsciiDigit_of_mem_toDigits hc⟩
  rw [Nat.length_toDigits_le_iff (by decide) (by decide)]
  omega

theorem ageForm_toString_iff (t : Int) : AgeForm (toString t) ↔ 0 ≤ t ∧ t < 10 ^ 10 := by
  refine ⟨fun h => ?_, fun h => ageForm_toString h.1 h.2⟩
  obtain ⟨-, hlength, hdigits⟩ := h
  cases t with
  | ofNat n =>
      have hpos : 0 ≤ Int.ofNat n := Int.natCast_nonneg n
      rw [toList_toString hpos, Nat.length_toDigits_le_iff (by decide) (by decide)] at hlength
      exact ⟨hpos, by omega⟩
  | negSucc n =>
      rw [toList_toString_negSucc] at hdigits
      exact absurd (hdigits '-' List.mem_cons_self) (by decide)

theorem decimal_toString {t : Int} (h : 0 ≤ t) : decimal (toString t) = t := by
  rw [decimal, toList_toString h, Nat.ofDigitChars_ten_toDigits, Int.toNat_of_nonneg h]

-- The least age of a mode is never above the greatest one, which has ten digits at most.
structure Bounded (limits : Limits) : Prop where
  softMinAge : 0 ≤ limits.softMinAge
  minAge : 0 ≤ limits.minAge
  softMinAge_le : limits.softMinAge ≤ limits.maxAge
  minAge_le : limits.minAge ≤ limits.maxAge
  digits : limits.maxAge < 10 ^ 10

theorem Bounded.clamped_clamped {limits : Limits} (h : Bounded limits) (mode : Mode) (age : Int) :
    clamped limits mode (clamped limits mode age) = clamped limits mode age := by
  have hsoft := h.softMinAge_le
  have hmin := h.minAge_le
  cases mode <;> simp only [clamped] <;> omega

theorem Bounded.clamped_lt {limits : Limits} (h : Bounded limits) (mode : Mode) (age : Int) :
    clamped limits mode age < 10 ^ 10 := by
  have hsoft := h.softMinAge_le
  have hmin := h.minAge_le
  have hdigits := h.digits
  cases mode <;> simp only [clamped] <;> omega

-- Bounds in their order, the greatest one of ten digits at most.
structure Ordered (limits : Limits) : Prop where
  softMinAge : 0 ≤ limits.softMinAge
  minAge : limits.softMinAge ≤ limits.minAge
  maxAge : limits.minAge ≤ limits.maxAge
  digits : limits.maxAge < 10 ^ 10

theorem Ordered.bounded {limits : Limits} (h : Ordered limits) : Bounded limits where
  softMinAge := h.softMinAge
  minAge := Int.le_trans h.softMinAge h.minAge
  softMinAge_le := Int.le_trans h.minAge h.maxAge
  minAge_le := h.maxAge
  digits := h.digits

end StrictTransport.Policy
