import Mathlib.Algebra.Group.Nat.Defs
import Mathlib.Data.List.Basic
import StrictTransport.Text.Digit
import StrictTransport.Text.Letter

namespace StrictTransport.Text

theorem isAsciiDigit_iff (c : Char) : isAsciiDigit c = true ↔ 48 ≤ c.toNat ∧ c.toNat ≤ 57 := by
  rw [isAsciiDigit, Bool.and_eq_true, decide_eq_true_iff, decide_eq_true_iff]
  exact Iff.rfl

theorem isBlank_of_isAsciiDigit {c : Char} (h : isAsciiDigit c = true) : isBlank c = false := by
  obtain ⟨hlow, hhigh⟩ := (isAsciiDigit_iff c).mp h
  simp only [isBlank, Bool.or_eq_false_iff, Bool.and_eq_false_iff, decide_eq_false_iff_not,
    beq_eq_false_iff_ne]
  omega

theorem digitValue?_of_isAsciiDigit (c : Char) (h : isAsciiDigit c = true) :
    digitValue? c = some (c.toNat - '0'.toNat) := by
  obtain ⟨hlow, hhigh⟩ := (isAsciiDigit_iff c).mp h
  rw [digitValue?, Table.zeros, List.find?_cons_of_pos]
  · rfl
  · rw [Bool.and_eq_true, decide_eq_true_iff, decide_eq_true_iff]
    omega

theorem ofDigits_digits (cs : List Char) (h : ∀ c ∈ cs, isAsciiDigit c = true) :
    ofDigits (cs.filterMap digitValue?) = Nat.ofDigitChars 10 cs 0 := by
  have hinit : ∀ init, (cs.filterMap digitValue?).foldl (fun n d => 10 * n + d) init =
      Nat.ofDigitChars 10 cs init := by
    induction cs with
    | nil => intro init; rfl
    | cons c cs ih =>
        intro init
        rw [List.filterMap_cons_some (digitValue?_of_isAsciiDigit c (h c (by simp))),
          List.foldl_cons, Nat.ofDigitChars_cons]
        exact ih (fun d hd => h d (List.mem_cons_of_mem c hd)) _
  exact hinit 0

theorem isAsciiDigit_of_mem_toDigits {n : Nat} {c : Char} (h : c ∈ Nat.toDigits 10 n) :
    isAsciiDigit c = true := by
  have hdigit := Nat.isDigit_of_mem_toDigits (by decide) (by decide) h
  rw [isAsciiDigit_iff]
  simp only [Char.isDigit, Bool.and_eq_true, decide_eq_true_eq] at hdigit
  exact hdigit

theorem toList_toString {t : Int} (h : 0 ≤ t) : (toString t).toList = Nat.toDigits 10 t.toNat := by
  obtain ⟨n, rfl⟩ := Int.eq_ofNat_of_zero_le h
  exact Nat.toList_repr

theorem toList_toString_ofNat (n : Nat) : (toString (Int.ofNat n)).toList = Nat.toDigits 10 n :=
  toList_toString (Int.natCast_nonneg n)

theorem toList_toString_negSucc (n : Nat) :
    (toString (Int.negSucc n)).toList = '-' :: Nat.toDigits 10 (n + 1) := by
  have hminus : toString (Int.negSucc n) = "-" ++ (n + 1).repr := rfl
  rw [hminus, String.toList_append, Nat.toList_repr]
  rfl

theorem toList_toString_ne_nil (t : Int) : (toString t).toList ≠ [] := by
  cases t with
  | ofNat n =>
      rw [toList_toString_ofNat]
      exact Nat.toDigits_ne_nil
  | negSucc n =>
      rw [toList_toString_negSucc]
      exact List.cons_ne_nil _ _

theorem isAsciiDigit_of_mem_toString {t : Int} {c : Char} (h : c ∈ (toString t).toList) :
    isAsciiDigit c = true ∨ c = '-' := by
  cases t with
  | ofNat n =>
      rw [toList_toString_ofNat] at h
      exact .inl (isAsciiDigit_of_mem_toDigits h)
  | negSucc n =>
      rw [toList_toString_negSucc, List.mem_cons] at h
      exact h.symm.imp_left isAsciiDigit_of_mem_toDigits

theorem toDigits_inj {m n : Nat} (h : Nat.toDigits 10 m = Nat.toDigits 10 n) : m = n := by
  rw [← Nat.ofDigitChars_ten_toDigits (n := m), h, Nat.ofDigitChars_ten_toDigits]

theorem hyphen_notMem_toDigits (n : Nat) : '-' ∉ Nat.toDigits 10 n :=
  fun hmem => absurd (isAsciiDigit_of_mem_toDigits hmem) (by decide)

theorem eq_of_toString_eq {s t : Int} (h : toString s = toString t) : s = t := by
  have hchars := congrArg String.toList h
  cases s with
  | ofNat m =>
      cases t with
      | ofNat n =>
          rw [toList_toString_ofNat, toList_toString_ofNat] at hchars
          rw [toDigits_inj hchars]
      | negSucc n =>
          rw [toList_toString_ofNat, toList_toString_negSucc] at hchars
          exact absurd (hchars ▸ List.mem_cons_self) (hyphen_notMem_toDigits m)
  | negSucc m =>
      cases t with
      | ofNat n =>
          rw [toList_toString_ofNat, toList_toString_negSucc] at hchars
          exact absurd (hchars ▸ List.mem_cons_self) (hyphen_notMem_toDigits n)
      | negSucc n =>
          rw [toList_toString_negSucc, toList_toString_negSucc] at hchars
          rw [Nat.succ.inj (toDigits_inj (List.cons.inj hchars).2)]

-- Digits have values below ten, in every script.
theorem digitValue?_lt {c : Char} {d : Nat} (h : digitValue? c = some d) : d < 10 := by
  rw [digitValue?, Option.map_eq_some_iff] at h
  obtain ⟨first, hfirst, rfl⟩ := h
  have hrange := List.find?_some hfirst
  rw [Bool.and_eq_true, decide_eq_true_iff, decide_eq_true_iff] at hrange
  omega

theorem ofDigits_lt {digits : List Nat} (h : ∀ d ∈ digits, d < 10) :
    ofDigits digits < 10 ^ digits.length := by
  have hinit : ∀ init, digits.foldl (fun n d => 10 * n + d) init <
      (init + 1) * 10 ^ digits.length := by
    induction digits with
    | nil => exact fun init => by simp
    | cons d digits ih =>
        obtain ⟨hd, hdigits⟩ := List.forall_mem_cons.mp h
        intro init
        calc
          digits.foldl (fun n d => 10 * n + d) (10 * init + d) <
              (10 * init + d + 1) * 10 ^ digits.length := ih hdigits _
          _ ≤ ((init + 1) * 10) * 10 ^ digits.length :=
            Nat.mul_le_mul_right _ (by omega)
          _ = (init + 1) * 10 ^ (digits.length + 1) := by
            rw [Nat.pow_succ, Nat.mul_comm (10 ^ digits.length), Nat.mul_assoc]
  have hzero := hinit 0
  rwa [Nat.zero_add, Nat.one_mul] at hzero

end StrictTransport.Text
