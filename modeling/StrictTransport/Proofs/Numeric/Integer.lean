import Mathlib.Algebra.Group.Int.Defs
import Mathlib.Algebra.Group.Nat.Defs
import Mathlib.Data.List.TakeWhile
import StrictTransport.Numeric.Integer
import StrictTransport.Proofs.Text.Digit
import StrictTransport.Proofs.Text.Split

namespace StrictTransport.Integer

open Text

theorem isNumberBlank_of_isAsciiDigit {c : Char} (h : isAsciiDigit c = true) :
    isNumberBlank c = false := by
  rw [isNumberBlank, isBlank_of_isAsciiDigit h, Bool.false_and]

theorem takeSign_of_isAsciiDigit {c : Char} (h : isAsciiDigit c = true) (cs : List Char) :
    takeSign (c :: cs) = (false, c :: cs) := by
  obtain ⟨hlow, hhigh⟩ := (isAsciiDigit_iff c).mp h
  unfold takeSign
  split
  · rename_i heq
    obtain ⟨rfl, -⟩ := List.cons.inj heq
    exact absurd hlow (by decide)
  · rename_i heq
    obtain ⟨rfl, -⟩ := List.cons.inj heq
    exact absurd hlow (by decide)
  · rfl

theorem ne_underscore_of_isAsciiDigit {c : Char} (h : isAsciiDigit c = true) : c ≠ '_' := by
  rintro rfl
  exact absurd h (by decide)

theorem wellGrouped_of_digits {cs : List Char} (hne : cs ≠ [])
    (h : ∀ c ∈ cs, isAsciiDigit c = true) : wellGrouped cs = true := by
  have hpair : hasPair '_' '_' cs = false := by
    rw [← Bool.not_eq_true, hasPair_iff]
    rintro ⟨before, after, rfl⟩
    exact ne_underscore_of_isAsciiDigit (h '_' (by simp)) rfl
  have hhead : cs.head?.any (· != '_') = true := by
    rw [List.head?_eq_some_head hne, Option.any_some, bne_iff_ne]
    exact ne_underscore_of_isAsciiDigit (h _ (List.head_mem hne))
  have hlast : cs.getLast?.any (· != '_') = true := by
    rw [List.getLast?_eq_some_getLast hne, Option.any_some, bne_iff_ne]
    exact ne_underscore_of_isAsciiDigit (h _ (List.getLast_mem hne))
  rw [wellGrouped, hhead, hlast, hpair]
  rfl

theorem read_digits {cs : List Char} (hne : cs ≠ []) (h : ∀ c ∈ cs, isAsciiDigit c = true) :
    read (String.ofList cs) =
      if digitLimit < cs.length then .error (.tooLong cs.length)
      else .ok (Nat.ofDigitChars 10 cs 0) := by
  obtain ⟨c, rest, rfl⟩ := List.exists_cons_of_ne_nil hne
  have hc := h c List.mem_cons_self
  have hblank : (c :: rest).dropWhile isNumberBlank = c :: rest := by
    rw [List.dropWhile_cons_of_neg]
    rw [isNumberBlank_of_isAsciiDigit hc]
    exact Bool.false_ne_true
  have hrun : ∀ d ∈ c :: rest, ((digitValue? d).isSome || d == '_') = true := by
    intro d hd
    rw [digitValue?_of_isAsciiDigit d (h d hd)]
    rfl
  have htake : (c :: rest).takeWhile (fun d => (digitValue? d).isSome || d == '_') = c :: rest :=
    List.takeWhile_eq_self_iff.mpr hrun
  have hdrop : (c :: rest).dropWhile (fun d => (digitValue? d).isSome || d == '_') = [] :=
    List.dropWhile_eq_nil_iff.mpr hrun
  have hlength : ((c :: rest).filterMap digitValue?).length = (c :: rest).length := by
    rw [List.filterMap_length_eq_length]
    intro d hd
    rw [digitValue?_of_isAsciiDigit d (h d hd)]
    rfl
  simp only [read, String.toList_ofList, hblank, takeSign_of_isAsciiDigit hc, htake, hdrop,
    wellGrouped_of_digits hne h, hlength, ofDigits_digits _ h]
  rfl

theorem lt_of_read {text : String} {t : Int} (h : read text = .ok t) : t < 10 ^ digitLimit := by
  simp only [read] at h
  generalize takeSign (text.toList.dropWhile isNumberBlank) = signed at h
  obtain ⟨negative, cs⟩ := signed
  simp only at h
  generalize cs.takeWhile (fun c => (digitValue? c).isSome || c == '_') = run at h
  have hdigits : ∀ d ∈ run.filterMap digitValue?, d < 10 := by
    intro d hd
    obtain ⟨c, -, hc⟩ := List.mem_filterMap.mp hd
    exact digitValue?_lt hc
  have hvalue := ofDigits_lt hdigits
  generalize run.filterMap digitValue? = digits at h hvalue
  generalize digitLimit = limit at h ⊢
  split_ifs at h with hgroups hlong hrest hminus
  · obtain rfl := Except.ok.inj h
    exact Int.lt_of_le_of_lt (Int.neg_nonpos_of_nonneg (Int.natCast_nonneg _))
      (Int.pow_pos (by decide))
  · obtain rfl := Except.ok.inj h
    have hpow : 10 ^ digits.length ≤ 10 ^ limit :=
      Nat.pow_le_pow_right (by decide) (Nat.le_of_not_lt hlong)
    exact_mod_cast Nat.lt_of_lt_of_le hvalue hpow

-- A number is read back from the text that writes it, unless that text is too long.
theorem read_toString {t : Int} (ht : 0 ≤ t) :
    (read (toString t)).toOption = if t < 10 ^ digitLimit then some t else none := by
  have htext : toString t = String.ofList (Nat.toDigits 10 t.toNat) := by
    rw [← toList_toString ht, String.ofList_toList]
  rw [htext, read_digits Nat.toDigits_ne_nil fun c hc => isAsciiDigit_of_mem_toDigits hc,
    Nat.ofDigitChars_ten_toDigits, Int.toNat_of_nonneg ht]
  have hlength := Nat.length_toDigits_le_iff (n := t.toNat) (k := digitLimit) (b := 10)
    (by decide) (by decide)
  have hlt : t < 10 ^ digitLimit ↔ t.toNat < 10 ^ digitLimit := by
    obtain ⟨n, rfl⟩ := Int.eq_ofNat_of_zero_le ht
    rw [Int.toNat_natCast]
    norm_cast
  rw [← hlt] at hlength
  by_cases h : t < 10 ^ digitLimit
  · rw [if_pos h, if_neg (Nat.not_lt.mpr (hlength.mpr h))]
    rfl
  · rw [if_neg h, if_pos (Nat.lt_of_not_le fun hle => h (hlength.mp hle))]
    rfl

end StrictTransport.Integer
