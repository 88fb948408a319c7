import StrictTransport.Proofs.Domain.Name
import StrictTransport.Proofs.Text.Composition

namespace StrictTransport.Domain

open Text Canonical

theorem mem_lower_of_settled {c : Char} {cs : List Char} (h : Settled c) (hc : c ∈ cs) :
    c ∈ lower cs := by
  obtain ⟨-, -, hsigma, hdotted, hlower⟩ := h
  refine mem_lowerFrom_of_mem (fun a rest => ?_) false [] (.inr hc)
  rw [lowerIn, if_neg (by simpa using hsigma), if_neg (by simpa using hdotted), hlower]

theorem linear_spec {c : Char} (h : linear c = true) :
    Inert c ∧ isZeroWidth c = false := by
  simp only [linear, Bool.or_eq_true, beq_iff_eq] at h
  rcases h with (rfl | rfl) | rfl
  · exact ⟨inert_of_mem (by decide), by decide⟩
  · exact ⟨inert_of_mem (by decide), by decide⟩
  · exact ⟨inert_of_mem (by decide), by decide⟩

theorem inert_cr : Inert '\r' :=
  inert_of_mem (by decide)

theorem full_linear_append {front : List Char} (h : ∀ c ∈ front, linear c = true)
    (rest : List Char) : full (front ++ rest) = front ++ full rest := by
  induction front with
  | nil => rfl
  | cons c front ih =>
      obtain ⟨hc, hfront⟩ := List.forall_mem_cons.mp h
      have hpart := full_append_inert (linear_spec hc).1 [] (front ++ rest)
      rw [List.nil_append] at hpart
      rw [List.cons_append, hpart, ih hfront]
      rfl

-- A composed name without what its normal form leaves out.
def stripped (cs : List Char) : List Char :=
  dropEndWhile (· == '.') (trim (cs.filter fun c => !isZeroWidth c))

theorem normalizeChars_eq_lower (cs : List Char) :
    normalizeChars cs = lower (stripped (Canonical.normalize cs)) := rfl

theorem mem_stripped {c : Char} {cs : List Char} (hblank : isBlank c = false) (hdot : c ≠ '.')
    (hvisible : isZeroWidth c = false) (h : c ∈ cs) : c ∈ stripped cs := by
  have hfilter : c ∈ cs.filter fun c => !isZeroWidth c :=
    List.mem_filter.mpr ⟨h, by rw [hvisible]; rfl⟩
  exact mem_dropEndWhile (by simpa using hdot) (mem_trimWhile hblank hfilter)

theorem mem_of_mem_stripped {c : Char} {cs : List Char} (h : c ∈ stripped cs) : c ∈ cs :=
  (List.mem_filter.mp (mem_of_mem_trimWhile (mem_of_mem_dropEndWhile h))).1

theorem exists_visible {cs : List Char} (h : stripped cs ≠ []) :
    ∃ c ∈ cs.filter fun c => !isZeroWidth c, isBlank c = false := by
  by_contra hnone
  push Not at hnone
  refine h ?_
  have htrim : trim (cs.filter fun c => !isZeroWidth c) = [] := by
    rw [trim, trimWhile, List.dropWhile_eq_nil_iff.mpr fun c hc => by
      simpa using hnone c hc]
    rfl
  rw [stripped, htrim]
  rfl

-- What a legal name may hold.
def Legal (cs : List Char) : Prop :=
  cs ≠ [] ∧ ∀ c ∈ cs, Plain c ∨ c = '.' ∨ c = '\n'

theorem legal_of_isValid {registrable : List String → Bool} {name : String}
    (h : isValid registrable name = true) : Legal (normalize name).toList := by
  obtain ⟨cs, htidy, hname⟩ := tidy_of_isValid h
  obtain ⟨a, ha, -⟩ := htidy.first
  have hne : cs ≠ [] := by
    rintro rfl
    cases ha
  rcases hname with heq | heq
  · rw [heq]
    exact ⟨hne, htidy.chars⟩
  · rw [heq]
    refine ⟨by simp, fun c hc => ?_⟩
    rcases List.mem_append.mp hc with hold | hlf
    · exact htidy.chars c hold
    · exact .inr (.inr (List.mem_singleton.mp hlf))

theorem cr_notMem_of_legal {cs : List Char} (h : Legal cs) : '\r' ∉ cs := by
  intro hmem
  rcases h.2 '\r' hmem with hplain | hdot | hlf
  · exact absurd hplain.isBlank (by decide)
  · cases hdot
  · cases hlf

theorem lowerChar_plain {c : Char} (hlow : c.toNat < 0x300) (hdotted : c ≠ '\u0130')
    (h : Plain (lowerChar c) ∨ lowerChar c = '.' ∨ lowerChar c = '\n') :
    c.toNat < 0xC0 ∨ c.toNat ∈ [0x131, 0x17F] := by
  have hsources : ∀ t ∈ plainCodes ++ [46, 10], 0 < t ∧ ∀ n ∈ Table.sources t Table.lowercase,
      n < 0xC0 ∨ n ∈ [0x131, 0x17F] ∨ 0x300 ≤ n ∨ n = 0x130 := by
    decide +kernel
  have hcode : (lowerChar c).toNat ∈ plainCodes ++ [46, 10] := by
    rcases h with hplain | hdot | hlf
    · exact List.mem_append_left _ hplain
    · rw [hdot]
      decide
    · rw [hlf]
      decide
  obtain ⟨hpos, hfrom⟩ := hsources _ hcode
  have hmap : Table.mapRuns c.toNat Table.lowercase = (lowerChar c).toNat := by
    rcases toNat_ofNat_or (Table.mapRuns c.toNat Table.lowercase) with heq | hzero
    · exact heq.symm
    · rw [lowerChar] at hpos
      omega
  rcases hfrom _ (Table.mem_sources _ _ hpos _ hmap) with hlt | hmem | hhigh | hcapital
  · exact .inl hlt
  · exact .inr hmem
  · omega
  · refine absurd ?_ hdotted
    rw [← Char.ofNat_toNat c, hcapital]

theorem low_of_legal {cs : List Char} (hlow : ∀ c ∈ cs, c.toNat < 0x300)
    (h : Legal (lower (stripped cs))) {c : Char} (hc : c ∈ stripped cs) :
    c.toNat < 0xC0 ∨ c.toNat ∈ [0x131, 0x17F] := by
  have hlower : lower (stripped cs) = (stripped cs).flatMap lowerAlone := by
    refine lower_eq_flatMap _ fun d hd => ?_
    rintro rfl
    exact absurd (hlow _ (mem_of_mem_stripped hd)) (by decide)
  have hlegal : ∀ d ∈ lowerAlone c, Plain d ∨ d = '.' ∨ d = '\n' := fun d hd =>
    h.2 d (hlower ▸ List.mem_flatMap.mpr ⟨c, hc, hd⟩)
  by_cases hdotted : c = '\u0130'
  · have hmark : '\u0307' ∈ lowerAlone c := by
      rw [hdotted]
      decide
    exact absurd (hlegal _ hmark) (by unfold Plain; decide)
  · have halone : lowerAlone c = [lowerChar c] := by
      rw [lowerAlone, if_neg (by simpa using hdotted)]
    exact lowerChar_plain (hlow c (mem_of_mem_stripped hc)) hdotted
      (hlegal _ (halone ▸ List.mem_singleton.mpr rfl))

theorem lt_of_isBlank {c : Char} (hlow : c.toNat < 0x300) (h : isBlank c = true) :
    c.toNat < 0xC0 := by
  simp only [isBlank, Bool.or_eq_true, Bool.and_eq_true, decide_eq_true_iff, beq_iff_eq] at h
  omega

theorem isZeroWidth_of_lt {c : Char} (hlow : c.toNat < 0x300) : isZeroWidth c = false := by
  rw [isZeroWidth, Bool.or_eq_false_iff, Bool.and_eq_false_iff, decide_eq_false_iff_not,
    decide_eq_false_iff_not, beq_eq_false_iff_ne]
  omega

-- A text whose normal form is legal has no characters that composing would change, unless it has
-- one that makes it compose.
theorem normalize_eq_full {cs : List Char} (h : Legal (normalizeChars cs)) :
    Canonical.normalize cs = full cs := by
  by_cases hlow : ∀ c ∈ cs, c.toNat < 0x300
  · have hsame : Canonical.normalize cs = cs := by
      rw [Canonical.normalize, if_pos]
      exact List.all_eq_true.mpr fun c hc => decide_eq_true (hlow c hc)
    rw [normalizeChars_eq_lower, hsame] at h
    rw [hsame]
    refine (full_of_loose fun c hc => loose_of_lt ?_).symm
    by_cases hblank : isBlank c = true
    · exact .inl (lt_of_isBlank (hlow c hc) hblank)
    · by_cases hdot : c = '.'
      · rw [hdot]
        decide
      · exact low_of_legal hlow h (mem_stripped (Bool.eq_false_iff.mpr hblank) hdot
          (isZeroWidth_of_lt (hlow c hc)) hc)
  · rw [Canonical.normalize, if_neg]
    · rfl
    · simpa [List.all_eq_true] using hlow

theorem filter_linear {cs : List Char} (h : ∀ c ∈ cs, linear c = true) :
    (cs.filter fun c => !isZeroWidth c) = cs :=
  List.filter_eq_self.mpr fun c hc => by rw [(linear_spec (h c hc)).2]; rfl

theorem normalize_of_line {lead value trail rest : List Char}
    (hlead : ∀ c ∈ lead, linear c = true) (htrail : ∀ c ∈ trail, linear c = true)
    (hrest : rest = [] ∨ ∃ more, rest = '\r' :: more) (hvalue : Legal (normalizeChars value))
    (hwhole : Legal (normalizeChars (lead ++ (value ++ (trail ++ rest))))) :
    Canonical.normalize (lead ++ (value ++ (trail ++ rest))) =
      lead ++ (Canonical.normalize value ++ (trail ++ full rest)) := by
  have hinert : ∀ c ∈ (trail ++ rest).head?, Inert c := by
    intro c hc
    cases trail with
    | nil =>
        obtain rfl | ⟨more, rfl⟩ := hrest
        · cases hc
        · obtain rfl : '\r' = c := Option.some.inj hc
          exact inert_cr
    | cons d trail =>
        obtain rfl : d = c := Option.some.inj hc
        exact (linear_spec (htrail d List.mem_cons_self)).1
  rw [normalize_eq_full hwhole, normalize_eq_full hvalue, full_linear_append hlead,
    full_append hinert, full_linear_append htrail]

-- The normal form of a legal name is that of its first value. A carriage return behind that would
-- stay between what is visible on both sides of it.
theorem normalizeChars_of_firstValue {cs value : List Char} (h : FirstValue cs value)
    (hvalue : Legal (normalizeChars value)) (hwhole : Legal (normalizeChars cs)) :
    normalizeChars cs = normalizeChars value := by
  obtain ⟨lead, trail, rest, rfl, hlead, htrail, hrest⟩ := h
  have hblank : ∀ {cs : List Char}, (∀ c ∈ cs, linear c = true) → ∀ c ∈ cs, isBlank c = true :=
    fun hcs c hc => isBlank_of_linear (hcs c hc)
  have hne : stripped (Canonical.normalize value) ≠ [] := by
    intro hnil
    rw [normalizeChars_eq_lower, hnil] at hvalue
    exact hvalue.1 rfl
  have hvisible := exists_visible hne
  have hstripped : stripped (lead ++ (Canonical.normalize value ++ (trail ++ full rest))) =
      dropEndWhile (· == '.') (trim (lead ++ (((Canonical.normalize value).filter
        fun c => !isZeroWidth c) ++ (trail ++ (full rest).filter fun c => !isZeroWidth c)))) := by
    rw [stripped, List.filter_append, List.filter_append, List.filter_append, filter_linear hlead,
      filter_linear htrail]
  have hfull := normalize_of_line hlead htrail hrest hvalue hwhole
  rw [normalizeChars_eq_lower, hfull, hstripped] at hwhole ⊢
  rw [normalizeChars_eq_lower, stripped]
  generalize ((Canonical.normalize value).filter fun c => !isZeroWidth c) = kept
    at hvisible hwhole ⊢
  obtain rfl | ⟨more, rfl⟩ := hrest
  · have hnil : ((full []).filter fun c => !isZeroWidth c) = [] := rfl
    rw [hnil, List.append_nil, trim_append (hblank hlead) (hblank htrail) kept]
  · have hcr : ((full ('\r' :: more)).filter fun c => !isZeroWidth c) =
        '\r' :: (full more).filter fun c => !isZeroWidth c := by
      have hpart := full_append_inert inert_cr [] more
      rw [List.nil_append] at hpart
      rw [hpart]
      rfl
    rw [hcr] at hwhole ⊢
    rw [trim_of_line (by decide) (hblank hlead) (hblank htrail) hvisible fun hmem => ?_]
    refine cr_notMem_of_legal hwhole (mem_lower_of_settled (by decide +kernel) ?_)
    exact mem_dropEndWhile (by decide) hmem

theorem lf_notMem_normalizeChars {cs : List Char} (h : '\n' ∉ cs) : '\n' ∉ normalizeChars cs := by
  rw [normalizeChars_eq_lower]
  intro hmem
  rcases mem_lower hmem with hmark | ⟨b, hb, hlower⟩
  · exact absurd hmark (by decide)
  · have hsources : ∀ n ∈ Table.sources 10 Table.lowercase, n = 10 := by
      decide +kernel
    have hcode := hsources _ (Table.mem_sources _ 10 (by decide) _ (ofNat_eq_lf hlower.symm))
    obtain rfl : b = '\n' := by rw [← Char.ofNat_toNat b, hcode]
    exact h (lf_mem_of_mem_normalize (mem_of_mem_stripped hb))

-- A colon is kept, so that no legal name has one.
theorem lf_notMem_normalize {name : String} (h : '\n' ∉ name.toList) :
    '\n' ∉ (normalize name).toList := by
  rw [normalize, onString, String.toList_ofList]
  exact lf_notMem_normalizeChars h

-- Without a line feed nothing is left that a legal name could end in.
theorem tidy_of_isValid_of_line {registrable : List String → Bool} {name : String}
    (h : isValid registrable name = true) (hlf : '\n' ∉ name.toList) :
    Tidy (normalize name).toList := by
  obtain ⟨cs, htidy, heq⟩ := tidy_of_isValid h
  rcases heq with heq | heq
  · exact heq ▸ htidy
  · refine absurd ?_ (lf_notMem_normalize hlf)
    rw [heq]
    simp

theorem colon_notMem_of_legal {cs : List Char} (h : Legal (normalizeChars cs)) : ':' ∉ cs := by
  intro hmem
  have hcomposed : ':' ∈ Canonical.normalize cs := by
    obtain ⟨front, back, rfl⟩ := List.append_of_mem hmem
    rw [normalize_eq_full h, full_append_inert (inert_of_mem (by decide))]
    exact List.mem_append_right _ List.mem_cons_self
  have hkept : ':' ∈ normalizeChars cs :=
    mem_lower_of_settled (by decide +kernel)
      (mem_stripped (by decide) (by decide) (by decide) hcomposed)
  rcases h.2 ':' hkept with hplain | hdot | hlf
  · exact absurd hplain (by unfold Plain; decide)
  · cases hdot
  · cases hlf

end StrictTransport.Domain
