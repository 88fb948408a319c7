import StrictTransport.Domain.Name
import StrictTransport.Proofs.Text.Blank
import StrictTransport.Proofs.Text.Lower
import StrictTransport.Proofs.Text.Split

namespace StrictTransport.Domain

open Text

-- The characters of legal labels that are left when a name has been brought into its normal form.
def plainCodes : List Nat :=
  smallLetters ++ (List.range 10).map (48 + ·) ++ [45]

def Plain (c : Char) : Prop :=
  c.toNat ∈ plainCodes

theorem Plain.eq_ofNat {c : Char} (h : Plain c) : ∃ n ∈ plainCodes, c = Char.ofNat n :=
  ⟨c.toNat, h, (Char.ofNat_toNat c).symm⟩

theorem Plain.isBlank {c : Char} (h : Plain c) : isBlank c = false := by
  obtain ⟨n, hn, rfl⟩ := h.eq_ofNat
  exact (show ∀ n ∈ plainCodes, Text.isBlank (Char.ofNat n) = false by decide) n hn

theorem Plain.ne_dot {c : Char} (h : Plain c) : (c == '.') = false := by
  obtain ⟨n, hn, rfl⟩ := h.eq_ofNat
  exact (show ∀ n ∈ plainCodes, (Char.ofNat n == '.') = false by decide) n hn

-- Lowering, composing and the search for characters of no width pass these characters by.
def Settled (c : Char) : Prop :=
  c.toNat < 0x300 ∧ isZeroWidth c = false ∧ c ≠ '\u03A3' ∧ c ≠ '\u0130' ∧ lowerChar c = c

instance (c : Char) : Decidable (Settled c) := by
  unfold Settled
  infer_instance

theorem Plain.settled {c : Char} (h : Plain c) : Settled c := by
  obtain ⟨n, hn, rfl⟩ := h.eq_ofNat
  exact (show ∀ n ∈ plainCodes, Settled (Char.ofNat n) by decide +kernel) n hn

theorem plain_of_mem_lower {cs : List Char} {c : Char} (h : c ∈ lower cs)
    (hlabel : isLabelChar c = true) : Plain c := by
  simp only [isLabelChar, Bool.or_eq_true, beq_iff_eq] at hlabel
  rcases hlabel with (hletter | hdigit) | rfl
  · exact List.mem_append_left _ (List.mem_append_left _ (mem_smallLetters_of_mem_lower h hletter))
  · rw [isAsciiDigit, Bool.and_eq_true, decide_eq_true_iff, decide_eq_true_iff] at hdigit
    have hlow : 48 ≤ c.toNat := hdigit.1
    have hhigh : c.toNat ≤ 57 := hdigit.2
    refine List.mem_append_left _ (List.mem_append_right _ ?_)
    refine List.mem_map.mpr ⟨c.toNat - 48, ?_, ?_⟩
    · exact List.mem_range.mpr (by omega)
    · omega
  · exact (show '-'.toNat ∈ plainCodes by decide)

theorem withoutLineEnd_spec (cs : List Char) :
    cs = withoutLineEnd cs ∨ cs = withoutLineEnd cs ++ ['\n'] := by
  unfold withoutLineEnd
  split
  · rename_i h
    obtain ⟨init, rfl⟩ := List.getLast?_eq_some_iff.mp (beq_iff_eq.mp h)
    exact .inr (by simp)
  · exact .inl rfl

theorem mem_of_mem_withoutLineEnd {cs : List Char} {c : Char} (h : c ∈ withoutLineEnd cs) :
    c ∈ cs := by
  rcases withoutLineEnd_spec cs with heq | heq
  · rwa [heq]
  · rw [heq]
    exact List.mem_append_left _ h

theorem withoutLineEnd_append (cs : List Char) : withoutLineEnd (cs ++ ['\n']) = cs := by
  simp [withoutLineEnd]

theorem withoutLineEnd_of_last {cs : List Char} {c : Char} (h : c ∈ cs.getLast?)
    (hc : c ≠ '\n') : withoutLineEnd cs = cs := by
  rw [withoutLineEnd, if_neg]
  intro hlf
  exact hc (Option.some.inj ((Option.mem_def.mp h).symm.trans (beq_iff_eq.mp hlf)))

-- A name that comes out of its comparison as it went in.
structure Tidy (cs : List Char) : Prop where
  chars : ∀ c ∈ cs, Plain c ∨ c = '.' ∨ c = '\n'
  first : ∃ c ∈ cs.head?, Plain c
  last : ∃ c ∈ cs.getLast?, Plain c

theorem normalizeChars_of_settled (cs : List Char) (h : ∀ c ∈ cs, Settled c) :
    normalizeChars cs = dropEndWhile (· == '.') (trim cs) := by
  have hcanonical : Canonical.normalize cs = cs := by
    rw [Canonical.normalize, if_pos]
    exact List.all_eq_true.mpr fun c hc => decide_eq_true (h c hc).1
  have hvisible : (cs.filter fun c => !isZeroWidth c) = cs :=
    List.filter_eq_self.mpr fun c hc => by rw [(h c hc).2.1]; rfl
  rw [normalizeChars, hcanonical]
  simp only [hvisible]
  refine lower_eq_self _ fun c hc => ?_
  exact (h c (mem_of_mem_trimWhile (mem_of_mem_dropEndWhile hc))).2.2

theorem Tidy.settled {cs : List Char} (h : Tidy cs) : ∀ c ∈ cs, Settled c := by
  intro c hc
  rcases h.chars c hc with hplain | rfl | rfl
  · exact hplain.settled
  · decide
  · decide

theorem Tidy.dropEndWhile_trim {cs : List Char} (h : Tidy cs) (tail : List Char)
    (htail : ∀ c ∈ tail, isBlank c = true) :
    dropEndWhile (· == '.') (trim (cs ++ tail)) = cs := by
  obtain ⟨a, ha, hfirst⟩ := h.first
  obtain ⟨b, hb, hlast⟩ := h.last
  have hdots := dropEndWhile_append_of_last (· == '.') b cs [] hb hlast.ne_dot (by simp)
  rw [List.append_nil] at hdots
  rw [trim, trimWhile_append_of_ends isBlank a b cs tail ha hfirst.isBlank hb hlast.isBlank htail,
    hdots]

theorem Tidy.normalizeChars_eq {cs : List Char} (h : Tidy cs) : normalizeChars cs = cs := by
  have hdrop := h.dropEndWhile_trim [] (by simp)
  rwa [List.append_nil, ← normalizeChars_of_settled cs h.settled] at hdrop

theorem Tidy.normalizeChars_append {cs : List Char} (h : Tidy cs) :
    normalizeChars (cs ++ ['\n']) = cs := by
  rw [normalizeChars_of_settled, h.dropEndWhile_trim ['\n'] (List.forall_mem_singleton.mpr rfl)]
  intro c hc
  rcases List.mem_append.mp hc with hold | hlf
  · exact h.settled c hold
  · rw [List.mem_singleton.mp hlf]
    decide

theorem isLabel_spec {label : List Char} (h : isLabel label = true) :
    withoutLineEnd label ≠ [] ∧ ∀ c ∈ withoutLineEnd label, isLabelChar c = true := by
  simp only [isLabel, Bool.and_eq_true, decide_eq_true_eq, List.all_eq_true] at h
  obtain ⟨⟨⟨⟨hlength, -⟩, hchars⟩, -⟩, -⟩ := h
  exact ⟨List.ne_nil_of_length_pos hlength, hchars⟩

theorem ne_lf_of_isLabelChar {c : Char} (h : isLabelChar c = true) : c ≠ '\n' := by
  rintro rfl
  exact absurd h (by decide)

theorem mem_label {label : List Char} (h : isLabel label = true) {c : Char} (hc : c ∈ label) :
    isLabelChar c = true ∨ c = '\n' := by
  rcases withoutLineEnd_spec label with heq | heq
  · rw [heq] at hc
    exact .inl ((isLabel_spec h).2 c hc)
  · rw [heq] at hc
    rcases List.mem_append.mp hc with hold | hlf
    · exact .inl ((isLabel_spec h).2 c hold)
    · exact .inr (List.mem_singleton.mp hlf)

-- The normal form of a legal name is tidy, up to a line feed that its last label may end in.
theorem tidy_of_isValid {registrable : List String → Bool} {name : String}
    (h : isValid registrable name = true) :
    ∃ cs, Tidy cs ∧ ((normalize name).toList = cs ∨ (normalize name).toList = cs ++ ['\n']) := by
  obtain ⟨text, hname⟩ : ∃ text, (normalize name).toList = lower text :=
    ⟨_, String.toList_ofList⟩
  simp only [isValid, Bool.and_eq_true] at h
  obtain ⟨⟨-, hlabels⟩, -⟩ := h
  rw [List.all_eq_true] at hlabels
  unfold labels at hlabels
  generalize (normalize name).toList = cs at hname hlabels ⊢
  have hplain : ∀ c ∈ cs, isLabelChar c = true → Plain c :=
    fun c hc => plain_of_mem_lower (hname ▸ hc)
  -- the first label begins the name, and the last one ends it but for an LF
  refine ⟨withoutLineEnd cs, ⟨fun c hc => ?_, ?_, ?_⟩, withoutLineEnd_spec cs⟩
  · have hmem := mem_of_mem_withoutLineEnd hc
    rcases mem_of_splitOn '.' hmem with hdot | ⟨label, hlabel, hc⟩
    · exact .inr (.inl hdot)
    · rcases mem_label (hlabels label hlabel) hc with hletter | hlf
      · exact .inl (hplain c hmem hletter)
      · exact .inr (.inr hlf)
  · obtain ⟨label, hlabel, hprefix⟩ := exists_prefix_intercalate ['.'] (splitOn_ne_nil '.' cs)
    rw [← eq_intercalate_splitOn] at hprefix
    obtain ⟨hne, hchars⟩ := isLabel_spec (hlabels label hlabel)
    obtain ⟨c, body, hbody⟩ := List.exists_cons_of_ne_nil hne
    have hc : isLabelChar c = true := hchars c (by rw [hbody]; exact List.mem_cons_self)
    obtain ⟨rest, rfl⟩ : ∃ rest, cs = c :: rest := by
      obtain ⟨tail, rfl⟩ := hprefix
      rcases withoutLineEnd_spec label with heq | heq <;> rw [heq, hbody] <;> exact ⟨_, rfl⟩
    refine ⟨c, ?_, hplain c List.mem_cons_self hc⟩
    rcases withoutLineEnd_spec (c :: rest) with heq | heq
    · rw [← heq]
      rfl
    · cases hcut : withoutLineEnd (c :: rest) with
      | nil =>
          rw [hcut] at heq
          exact absurd (List.cons.inj heq).1 (ne_lf_of_isLabelChar hc)
      | cons a cut =>
          rw [hcut] at heq
          rw [(List.cons.inj heq).1]
          rfl
  · obtain ⟨label, hlabel, hsuffix⟩ := exists_suffix_intercalate ['.'] (splitOn_ne_nil '.' cs)
    rw [← eq_intercalate_splitOn] at hsuffix
    obtain ⟨hne, hchars⟩ := isLabel_spec (hlabels label hlabel)
    obtain ⟨body, c, hbody⟩ := (List.eq_nil_or_concat _).resolve_left hne
    have hc : isLabelChar c = true := hchars c (by rw [hbody]; simp)
    obtain ⟨front, hfront⟩ := hsuffix
    refine ⟨c, ?_, hplain c ?_ hc⟩
    · rcases withoutLineEnd_spec label with heq | heq
      · rw [hbody] at heq
        rw [withoutLineEnd_of_last (c := c) _ (ne_lf_of_isLabelChar hc)] <;>
          rw [← hfront, heq] <;> simp
      · rw [hbody] at heq
        rw [← hfront, heq, ← List.append_assoc, withoutLineEnd_append]
        simp
    · rw [← hfront]
      refine List.mem_append_right _ ?_
      rcases withoutLineEnd_spec label with heq | heq <;> rw [heq, hbody] <;> simp

theorem tidy_normalize_of_isValid {registrable : List String → Bool} {name : String}
    (h : isValid registrable name = true) : Tidy (normalize (normalize name)).toList := by
  obtain ⟨cs, htidy, hname⟩ := tidy_of_isValid h
  rw [normalize, onString, String.toList_ofList]
  rcases hname with heq | heq
  · rwa [heq, htidy.normalizeChars_eq]
  · rwa [heq, htidy.normalizeChars_append]

theorem Tidy.normalize_eq {name : String} (h : Tidy name.toList) : normalize name = name := by
  rw [normalize, onString, h.normalizeChars_eq, String.ofList_toList]

end StrictTransport.Domain
