import StrictTransport.Proofs.Domain.Line
import StrictTransport.Proofs.Text.Small

namespace StrictTransport.Domain

open Text Canonical

-- What a name may lose at its ends.
def isOuter (c : Char) : Bool :=
  isBlank c || c == '.'

theorem isOuter_dot {c : Char} (h : (c == '.') = true) : isOuter c = true := by
  rw [isOuter, h, Bool.or_true]

theorem isOuter_blank {c : Char} (h : isBlank c = true) : isOuter c = true := by
  rw [isOuter, h, Bool.true_or]

-- What lowering brings in is never of these, and never without width.
theorem lowerImages_spec : (lowerImages.all fun c => !isOuter c && !isZeroWidth c) = true := by
  decide +kernel

theorem alone_isOuter : Alone isOuter where
  hangul n hn := by
    have hcode := hn.toNat_ofNat
    unfold Hangul.IsCode at hn
    have hne : Char.ofNat n ≠ '.' := by
      intro heq
      rw [heq] at hcode
      change 46 = n at hcode
      omega
    simp only [isOuter, isBlank, hcode, Bool.or_eq_false_iff, Bool.and_eq_false_iff,
      decide_eq_false_iff_not, beq_eq_false_iff_ne]
    refine ⟨?_, hne⟩
    omega
  pairs := by decide +kernel
  singles := by decide +kernel

theorem kept_visible :
    Kept fun n => ((0x200B ≤ n && n ≤ 0x200D) || n == 0xFEFF) = false where
  zero := by decide
  hangul n hn := by
    unfold Hangul.IsCode at hn
    rw [Bool.or_eq_false_iff, Bool.and_eq_false_iff, decide_eq_false_iff_not,
      decide_eq_false_iff_not, beq_eq_false_iff_ne]
    omega
  pairs := by decide +kernel
  composites := by decide +kernel
  singles := by decide +kernel

-- The form that a name is brought into.
structure Normal (cs : List Char) : Prop where
  small : ∀ c ∈ cs, Small c
  visible : ∀ c ∈ cs, isZeroWidth c = false
  first : ∀ c ∈ cs.head?, isBlank c = false
  last : ∀ c ∈ cs.getLast?, (c == '.') = false

theorem visible_of_lowerImages {c : Char} (h : c ∈ lowerImages) :
    isOuter c = false ∧ isZeroWidth c = false := by
  have hspec := List.all_eq_true.mp lowerImages_spec c h
  rwa [Bool.and_eq_true, Bool.not_eq_true', Bool.not_eq_true'] at hspec

theorem normal_lower_stripped (cs : List Char) : Normal (lower (stripped cs)) where
  small c hc := small_of_mem_lower hc
  visible c hc := by
    have himage : c ∈ lowerImages ∨ c ∈ stripped cs := by
      rcases mem_lower hc with hmark | ⟨b, hb, hlower⟩
      · exact .inl (List.mem_append_left _ hmark)
      · rcases mem_lowerImages (.inr hlower) with himage | rfl
        · exact .inl himage
        · exact .inr hb
    rcases himage with himage | hmem
    · exact (visible_of_lowerImages himage).2
    · have hfilter := mem_of_mem_trimWhile (mem_of_mem_dropEndWhile hmem)
      simpa using (List.mem_filter.mp hfilter).2
  first e he := by
    obtain ⟨c, hc, hlower⟩ := head?_lower he
    rcases mem_lowerImages hlower with himage | rfl
    · exact (Bool.or_eq_false_iff.mp (visible_of_lowerImages himage).1).1
    · obtain ⟨tail, heq, -, -⟩ := dropEndWhile_spec (· == '.')
        (trim (cs.filter fun c => !isZeroWidth c))
      refine of_head?_trimWhile isBlank (cs.filter fun c => !isZeroWidth c) e ?_
      rw [← trim, heq, List.head?_append, ← stripped, hc]
      rfl
  last e he := by
    obtain ⟨c, hc, hlower⟩ := getLast?_lower he
    rcases mem_lowerImages hlower with himage | rfl
    · exact (Bool.or_eq_false_iff.mp (visible_of_lowerImages himage).1).2
    · obtain ⟨-, -, -, hkept⟩ := dropEndWhile_spec (· == '.')
        (trim (cs.filter fun c => !isZeroWidth c))
      exact hkept e hc

-- Of the steps that lead to the normal form only composing and stripping may change it again.
theorem Normal.normalizeChars_eq {cs : List Char} (h : Normal cs) :
    normalizeChars cs = dropEndWhile (· == '.') (trim (Canonical.normalize cs)) := by
  have hvisible : ((Canonical.normalize cs).filter fun c => !isZeroWidth c) =
      Canonical.normalize cs := by
    refine List.filter_eq_self.mpr fun c hc => ?_
    have hkept : isZeroWidth c = false := kept_visible.normalize h.visible c hc
    rw [hkept]
    rfl
  have hsmall : ∀ c ∈ stripped (Canonical.normalize cs), Small c := fun c hc =>
    kept_small.normalize h.small c (mem_of_mem_stripped hc)
  rw [normalizeChars_eq_lower, lower_of_small hsmall, stripped, hvisible]

theorem Normal.stripped_eq {cs : List Char} (h : Normal cs)
    (hlast : ∀ c ∈ cs.getLast?, isBlank c = false) :
    dropEndWhile (· == '.') (trim cs) = cs := by
  cases hhead : cs.head? with
  | none =>
      rw [List.head?_eq_none_iff.mp hhead]
      rfl
  | some a =>
      obtain ⟨rest, rfl⟩ := List.head?_eq_some_iff.mp hhead
      have hb := List.getLast?_eq_some_getLast (List.cons_ne_nil a rest)
      generalize (a :: rest).getLast _ = b at hb
      rw [trim_of_ends hhead (h.first a hhead) hb (hlast b hb)]
      have hend := dropEndWhile_append_of_last (· == '.') b (a :: rest) [] hb (h.last b hb)
        (by simp)
      rwa [List.append_nil] at hend

-- White space and dots come out of composing as many as they went in. So stripping what was
-- composed takes nothing away if it gives back what was there before.
theorem normalize_eq_of_stripped_eq {cs : List Char}
    (h : dropEndWhile (· == '.') (trim (Canonical.normalize cs)) = cs) :
    Canonical.normalize cs = cs ∧ trim (Canonical.normalize cs) = cs := by
  obtain ⟨lead, trail, hcomposed, hlead, htrail⟩ := trimWhile_spec isBlank (Canonical.normalize cs)
  obtain ⟨dots, htrimmed, hdots, -⟩ := dropEndWhile_spec (· == '.')
    (trim (Canonical.normalize cs))
  rw [h] at htrimmed
  rw [← trim, htrimmed] at hcomposed
  have hcount := alone_isOuter.countP_normalize cs
  have houter : ∀ l : List Char, (∀ c ∈ l, isOuter c = true) → l.countP isOuter = l.length :=
    fun l hl => List.countP_eq_length.mpr hl
  rw [hcomposed, List.countP_append, List.countP_append, List.countP_append,
    houter lead fun c hc => isOuter_blank (hlead c hc),
    houter dots fun c hc => isOuter_dot (hdots c hc),
    houter trail fun c hc => isOuter_blank (htrail c hc)] at hcount
  have hleadNil : lead = [] := List.length_eq_zero_iff.mp (by omega)
  have hdotsNil : dots = [] := List.length_eq_zero_iff.mp (by omega)
  have htrailNil : trail = [] := List.length_eq_zero_iff.mp (by omega)
  rw [hleadNil, hdotsNil, htrailNil] at hcomposed
  refine ⟨by simpa using hcomposed, ?_⟩
  rw [htrimmed, hdotsNil, List.append_nil]

theorem Normal.normalizeChars_eq_self_iff {cs : List Char} (h : Normal cs) :
    normalizeChars cs = cs ↔
      Canonical.normalize cs = cs ∧ ∀ c ∈ cs.getLast?, isBlank c = false := by
  rw [h.normalizeChars_eq]
  constructor
  · intro heq
    obtain ⟨hcomposed, htrimmed⟩ := normalize_eq_of_stripped_eq heq
    obtain ⟨-, -, -, hkept⟩ := dropEndWhile_spec isBlank
      ((Canonical.normalize cs).dropWhile isBlank)
    refine ⟨hcomposed, fun c hc => hkept c ?_⟩
    rw [← trimWhile, ← trim, htrimmed]
    exact hc
  · rintro ⟨hcomposed, hlast⟩
    rw [hcomposed, h.stripped_eq hlast]

theorem normal_normalize (name : String) : Normal (normalize name).toList := by
  rw [normalize, onString, String.toList_ofList, normalizeChars_eq_lower]
  exact normal_lower_stripped _

-- The normal form of a normal form is what composing and stripping leave of it. It is the same one
-- just if composing leaves it as it is and it does not end in white space. Dropping dots can lay
-- white space bare; leaving out characters of no width, and lowering, can bring together characters
-- that compose.
theorem normalize_normalize_iff (name : String) :
    (normalize (normalize name)).toList =
        dropEndWhile (· == '.') (trim (Canonical.normalize (normalize name).toList)) ∧
      (normalize (normalize name) = normalize name ↔
        Canonical.normalize (normalize name).toList = (normalize name).toList ∧
          ∀ c ∈ (normalize name).toList.getLast?, isBlank c = false) := by
  have htwice : (normalize (normalize name)).toList = normalizeChars (normalize name).toList := by
    rw [normalize, onString, String.toList_ofList]
  have hnormal := normal_normalize name
  refine ⟨htwice.trans hnormal.normalizeChars_eq, ?_⟩
  rw [← String.toList_inj, htwice]
  exact hnormal.normalizeChars_eq_self_iff

-- A name of each kind whose normal form has another one.
example : (["a. .", "e\u200B\u0301", "J\u030C", "\u0130\u0316"].all fun name =>
    normalize (normalize name) != normalize name) = true := by
  decide +kernel

end StrictTransport.Domain
