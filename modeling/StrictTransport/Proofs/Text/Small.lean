import Mathlib.Data.List.Chain
import StrictTransport.Proofs.Text.Composition
import StrictTransport.Proofs.Text.Lower

namespace StrictTransport.Text

namespace Table

-- The code points between the ends of a run, those of them that belong to it, and those that it
-- takes them to.
def CaseRun.span (run : CaseRun) : List Nat :=
  List.range' run.first (run.last + 1 - run.first)

def CaseRun.codes (run : CaseRun) : List Nat :=
  run.span.filter fun n => run.apply? n |>.isSome

def CaseRun.images (run : CaseRun) : List Nat :=
  run.span.filterMap run.apply?

-- The characters that have another one as their lower case, and those others.
def capitals : List Nat :=
  lowercase.flatMap CaseRun.codes

def smallCases : List Nat :=
  lowercase.flatMap CaseRun.images

-- Code points as the bits of one number, so that it takes one step to ask for one of them.
def bits (codes : List Nat) : Nat :=
  codes.foldr (fun n b => 1 <<< n ||| b) 0

theorem testBit_bits (codes : List Nat) (n : Nat) : (bits codes).testBit n = true ↔ n ∈ codes := by
  induction codes with
  | nil => simp [bits]
  | cons m codes ih =>
      have hcons : bits (m :: codes) = 1 <<< m ||| bits codes := rfl
      rw [hcons, Nat.testBit_or, Bool.or_eq_true, Nat.one_shiftLeft, Nat.testBit_two_pow, ih, decide_eq_true_iff,
        List.mem_cons, eq_comm]

theorem CaseRun.mem_span {run : CaseRun} {n d : Nat} (h : run.apply? n = some d) :
    n ∈ run.span := by
  unfold CaseRun.apply? at h
  split at h
  · rename_i hrange
    exact List.mem_range'_1.mpr ⟨hrange.1, by omega⟩
  · cases h

theorem CaseRun.mem_codes_iff {run : CaseRun} {n : Nat} :
    n ∈ run.codes ↔ ∃ d, run.apply? n = some d := by
  rw [codes, List.mem_filter, Option.isSome_iff_exists]
  exact and_iff_right_of_imp fun ⟨_, h⟩ => mem_span h

theorem CaseRun.mem_images {run : CaseRun} {n d : Nat} (h : run.apply? n = some d) :
    d ∈ run.images :=
  List.mem_filterMap.mpr ⟨n, mem_span h, h⟩

theorem CaseRun.first_le {run : CaseRun} {n : Nat} (h : n ∈ run.codes) : run.first ≤ n :=
  (List.mem_range'_1.mp (List.mem_filter.mp h).1).1

-- A character below a run is below all that follow.
theorem mapRuns_cases {runs : List CaseRun} (h : runs.Pairwise fun a b => a.first ≤ b.first)
    (n : Nat) :
    (mapRuns n runs = n ∧ n ∉ runs.flatMap CaseRun.codes) ∨
      (n ∈ runs.flatMap CaseRun.codes ∧ mapRuns n runs ∈ runs.flatMap CaseRun.images) := by
  induction runs with
  | nil => exact .inl ⟨rfl, List.not_mem_nil⟩
  | cons run runs ih =>
      obtain ⟨hfirst, hruns⟩ := List.pairwise_cons.mp h
      rw [mapRuns, List.flatMap_cons, List.flatMap_cons]
      split
      · rename_i hlow
        refine .inl ⟨rfl, fun hmem => ?_⟩
        rcases List.mem_append.mp hmem with hcode | hlater
        · have hle := CaseRun.first_le hcode
          omega
        · obtain ⟨other, hother, hcode⟩ := List.mem_flatMap.mp hlater
          have hle := CaseRun.first_le hcode
          have hbelow := hfirst other hother
          omega
      · cases happly : run.apply? n with
        | some d =>
            exact .inr ⟨List.mem_append_left _ (CaseRun.mem_codes_iff.mpr ⟨d, happly⟩),
              List.mem_append_left _ (CaseRun.mem_images happly)⟩
        | none =>
            rcases ih hruns with ⟨hsame, hnone⟩ | ⟨hcode, himage⟩
            · refine .inl ⟨hsame, fun hmem => ?_⟩
              rcases List.mem_append.mp hmem with hcode | hlater
              · obtain ⟨d, hd⟩ := CaseRun.mem_codes_iff.mp hcode
                cases happly.symm.trans hd
              · exact hnone hlater
            · exact .inr ⟨List.mem_append_right _ hcode, List.mem_append_right _ himage⟩

theorem lowercase_sorted : lowercase.Pairwise fun a b => a.first ≤ b.first := by
  have htrans : IsTrans CaseRun fun a b => a.first ≤ b.first := ⟨fun _ _ _ => Nat.le_trans⟩
  exact List.isChain_iff_pairwise.mp (by decide +kernel)

-- What is needed of the tables. A lower case has none of its own.
theorem smallCases_spec : ∀ n ∈ smallCases, (bits capitals).testBit n = false := by
  decide +kernel

theorem pairs_capitals : ∀ e ∈ composites ++ fragments, (bits capitals).testBit e.1 =
    ((bits capitals).testBit e.2.1 || (bits capitals).testBit e.2.2) := by
  decide +kernel

theorem singles_capitals : ∀ e ∈ singletons ++ ideographs ++ supplementaryIdeographs,
    (bits capitals).testBit e.2 = true → (bits capitals).testBit e.1 = true := by
  decide +kernel

theorem capitals_spec : ∀ n ∈ capitals, 0 < n ∧ (n < 0x1100 ∨ 0x1200 ≤ n) ∧
    (n < 0xAC00 ∨ 0xD7A4 ≤ n) := by
  decide +kernel

end Table

-- Whether a character is its own lower case.
def Small (c : Char) : Prop :=
  c.toNat ∉ Table.capitals

theorem lowerChar_cases (c : Char) :
    (lowerChar c = c ∧ Small c) ∨
      (c.toNat ∈ Table.capitals ∧ (lowerChar c).toNat ∈ 0 :: Table.smallCases) := by
  rcases Table.mapRuns_cases Table.lowercase_sorted c.toNat with ⟨hsame, hnone⟩ | ⟨hcode, himage⟩
  · exact .inl ⟨by rw [lowerChar, hsame, Char.ofNat_toNat], hnone⟩
  · refine .inr ⟨hcode, ?_⟩
    rw [lowerChar]
    rcases toNat_ofNat_or (Table.mapRuns c.toNat Table.lowercase) with heq | hzero
    · rw [heq]
      exact List.mem_cons_of_mem _ himage
    · rw [hzero]
      exact List.mem_cons_self

theorem Small.lowerChar_eq {c : Char} (h : Small c) : lowerChar c = c := by
  rcases lowerChar_cases c with ⟨hsame, -⟩ | ⟨hcode, -⟩
  · exact hsame
  · exact absurd hcode h

theorem small_lowerChar (c : Char) : Small (lowerChar c) := by
  rcases lowerChar_cases c with ⟨hsame, hsmall⟩ | ⟨-, himage⟩
  · rwa [hsame]
  · intro hcapital
    rcases List.mem_cons.mp himage with hzero | himage
    · have hpos := (Table.capitals_spec _ hcapital).1
      omega
    · have hbit := Table.smallCases_spec _ himage
      rw [(Table.testBit_bits _ _).mpr hcapital] at hbit
      cases hbit

theorem small_of_mem_lower {c : Char} {cs : List Char} (h : c ∈ lower cs) : Small c := by
  rcases mem_lower h with hmark | ⟨b, -, rfl⟩
  · have hmarks : (lowerMarks.all fun c => !(Table.bits Table.capitals).testBit c.toNat) = true := by
      decide +kernel
    intro hcapital
    have hbit := List.all_eq_true.mp hmarks c hmark
    rw [(Table.testBit_bits _ _).mpr hcapital] at hbit
    cases hbit
  · exact small_lowerChar b

-- What lowering puts in the place of other characters.
def lowerImages : List Char :=
  lowerMarks ++ (0 :: Table.smallCases).map Char.ofNat

theorem mem_lowerImages {c e : Char} (h : e ∈ lowerMarks ∨ e = lowerChar c) :
    e ∈ lowerImages ∨ e = c := by
  rcases h with hmark | rfl
  · exact .inl (List.mem_append_left _ hmark)
  · rcases lowerChar_cases c with ⟨hsame, -⟩ | ⟨-, himage⟩
    · exact .inr hsame
    · refine .inl (List.mem_append_right _ (List.mem_map.mpr ⟨_, himage, ?_⟩))
      exact Char.ofNat_toNat _

-- A text of such characters is its own lower case.
theorem lower_of_small {cs : List Char} (h : ∀ c ∈ cs, Small c) : lower cs = cs := by
  have hcapital : ∀ c : Char, lowerChar c ≠ c → c ∉ cs :=
    fun c hc hmem => hc (h c hmem).lowerChar_eq
  refine lower_eq_self cs fun c hc => ⟨?_, ?_, (h c hc).lowerChar_eq⟩
  · rintro rfl
    exact hcapital '\u03A3' (by decide +kernel) hc
  · rintro rfl
    exact hcapital '\u0130' (by decide +kernel) hc

-- Composing leaves it so: what is put together of such characters is one of them.
theorem kept_small : Canonical.Kept (· ∉ Table.capitals) where
  zero hmem := absurd (Table.capitals_spec 0 hmem).1 (by decide)
  hangul n hn hmem := by
    have hspec := (Table.capitals_spec n hmem).2
    unfold Canonical.Hangul.IsCode at hn
    omega
  pairs e he h := by
    have hbit := Table.pairs_capitals e he
    simp only [← Table.testBit_bits, Bool.not_eq_true] at h ⊢
    rw [h] at hbit
    exact Bool.or_eq_false_iff.mp hbit.symm
  composites e he ha hb := by
    have hbit := Table.pairs_capitals e (List.mem_append_left _ he)
    simp only [← Table.testBit_bits, Bool.not_eq_true] at ha hb ⊢
    rw [hbit, ha, hb]
    rfl
  singles e he h hmem := by
    simp only [← Table.testBit_bits] at h hmem
    exact h (Table.singles_capitals e he hmem)

end StrictTransport.Text
