import StrictTransport.Text.Letter

namespace StrictTransport.Text

namespace Table

-- The code points that runs can take to t, and t itself.
def sources (t : Nat) (runs : List CaseRun) : List Nat :=
  t :: runs.filterMap fun run =>
    let n := ((t : Int) - run.offset).toNat
    if run.apply? n = some t then some n else none

theorem mem_sources (n t : Nat) (ht : 0 < t) (runs : List CaseRun) (h : mapRuns n runs = t) :
    n ∈ sources t runs := by
  induction runs with
  | nil => exact List.mem_cons.mpr (.inl h)
  | cons run runs ih =>
      simp only [mapRuns] at h
      split at h
      · exact List.mem_cons.mpr (.inl h)
      · cases happly : run.apply? n with
        | none =>
            rw [happly] at h
            rcases List.mem_cons.mp (ih h) with rfl | hrest
            · exact List.mem_cons_self
            · refine List.mem_cons_of_mem _ ?_
              obtain ⟨other, hmem, heq⟩ := List.mem_filterMap.mp hrest
              exact List.mem_filterMap.mpr ⟨other, List.mem_cons_of_mem _ hmem, heq⟩
        | some d =>
            rw [happly] at h
            obtain rfl : d = t := h
            have hn : ((d : Int) - run.offset).toNat = n := by
              unfold CaseRun.apply? at happly
              split at happly
              · have hd : ((n : Int) + run.offset).toNat = d := Option.some.inj happly
                omega
              · cases happly
            refine List.mem_cons_of_mem _ (List.mem_filterMap.mpr ⟨run, List.mem_cons_self, ?_⟩)
            simp only [hn, happly, if_true]

end Table

-- The letters that isAsciiLetter lets through and lower keeps: those of ASCII in lower case, and
-- the two small letters of other scripts that stand for one of them.
def smallLetters : List Nat :=
  (List.range 26).map (97 + ·) ++ [0x131, 0x17F]

-- The letters that isAsciiLetter lets through and lower changes.
def otherLetters : List Nat :=
  (List.range 26).map (65 + ·) ++ [0x130, 0x212A]

theorem sources_smallLetters : ∀ t ∈ smallLetters, ∀ n ∈ Table.sources t Table.lowercase,
    n ∈ smallLetters ++ otherLetters := by
  decide +kernel

theorem sources_otherLetters : ∀ t ∈ otherLetters, ∀ n ∈ Table.sources t Table.lowercase,
    Table.mapRuns n Table.lowercase ≠ t := by
  decide +kernel

theorem letterVariants_ascii : ∀ e ∈ letterVariants, 97 ≤ e.2 → e.2 ≤ 122 →
    e.1 ∈ smallLetters := by
  decide

theorem mem_smallLetters_of_ascii {n : Nat} (hlow : 97 ≤ n) (hhigh : n ≤ 122) :
    n ∈ smallLetters := by
  refine List.mem_append_left _ (List.mem_map.mpr ⟨n - 97, List.mem_range.mpr ?_, ?_⟩) <;> omega

theorem toNat_ofNat_or (n : Nat) : (Char.ofNat n).toNat = n ∨ (Char.ofNat n).toNat = 0 := by
  by_cases h : n.isValidChar
  · rw [Char.ofNat, dif_pos h]
    exact .inl rfl
  · rw [Char.ofNat, dif_neg h]
    exact .inr rfl

theorem mapRuns_of_isAsciiLetter {c : Char} (h : isAsciiLetter c = true) :
    Table.mapRuns c.toNat Table.lowercase ∈ smallLetters := by
  rw [isAsciiLetter, Bool.and_eq_true, decide_eq_true_iff, decide_eq_true_iff] at h
  have hlow : 97 ≤ (letter c).toNat := h.1
  have hhigh : (letter c).toNat ≤ 122 := h.2
  unfold letter at hlow hhigh
  simp only at hlow hhigh
  generalize Table.mapRuns c.toNat Table.lowercase = low at hlow hhigh ⊢
  generalize hvariant : (letterVariants.lookup low).getD low = v at hlow hhigh
  rcases toNat_ofNat_or v with hv | hv
  · rw [hv] at hlow hhigh
    cases hlookup : letterVariants.lookup low with
    | none =>
        rw [hlookup] at hvariant
        obtain rfl : low = v := hvariant
        exact mem_smallLetters_of_ascii hlow hhigh
    | some w =>
        rw [hlookup] at hvariant
        obtain rfl : w = v := hvariant
        obtain ⟨before, after, heq, -⟩ := List.lookup_eq_some_iff.mp hlookup
        refine letterVariants_ascii (low, w) ?_ hlow hhigh
        rw [heq]
        exact List.mem_append_right _ List.mem_cons_self
  · omega

theorem mem_letters_of_isAsciiLetter {c : Char} (h : isAsciiLetter c = true) :
    c.toNat ∈ smallLetters ++ otherLetters := by
  have hmem := mapRuns_of_isAsciiLetter h
  refine sources_smallLetters _ hmem _ (Table.mem_sources _ _ ?_ _ rfl)
  exact (show ∀ t ∈ smallLetters, 0 < t by decide) _ hmem

-- What lowering brings in that is not the lower case of one character.
def lowerMarks : List Char :=
  ['\u03C2', '\u03C3', 'i', '\u0307']

theorem mem_lowerIn {afterLetter : Bool} {b c : Char} {rest : List Char}
    (h : c ∈ lowerIn afterLetter b rest) : c ∈ lowerMarks ∨ c = lowerChar b := by
  unfold lowerIn at h
  split at h
  · split at h
    · exact .inl (by simp [lowerMarks, List.mem_singleton.mp h])
    · exact .inl (by simp [lowerMarks, List.mem_singleton.mp h])
  · split at h
    · exact .inl (List.mem_cons_of_mem _ (List.mem_cons_of_mem _ h))
    · exact .inr (List.mem_singleton.mp h)

theorem mem_lowerFrom (afterLetter : Bool) (done cs : List Char) (c : Char)
    (h : c ∈ lowerFrom afterLetter done cs) :
    c ∈ done ∨ c ∈ lowerMarks ∨ ∃ b ∈ cs, c = lowerChar b := by
  induction cs generalizing afterLetter done with
  | nil => exact .inl (List.mem_reverse.mp h)
  | cons b cs ih =>
      rw [lowerFrom] at h
      rcases ih _ _ h with hdone | hmark | ⟨a, ha, hc⟩
      · rcases List.mem_append.mp hdone with hnew | hold
        · rcases mem_lowerIn (List.mem_reverse.mp hnew) with hmark | hc
          · exact .inr (.inl hmark)
          · exact .inr (.inr ⟨b, List.mem_cons_self, hc⟩)
        · exact .inl hold
      · exact .inr (.inl hmark)
      · exact .inr (.inr ⟨a, List.mem_cons_of_mem _ ha, hc⟩)

theorem mem_lower {cs : List Char} {c : Char} (h : c ∈ lower cs) :
    c ∈ lowerMarks ∨ ∃ b ∈ cs, c = lowerChar b := by
  rcases mem_lowerFrom false [] cs c h with hnil | hrest
  · exact absurd hnil List.not_mem_nil
  · exact hrest

-- A letter in a lowered text is small, since nothing is lowered to one of the other letters.
theorem mem_smallLetters_of_mem_lower {cs : List Char} {c : Char} (h : c ∈ lower cs)
    (hletter : isAsciiLetter c = true) : c.toNat ∈ smallLetters := by
  rcases List.mem_append.mp (mem_letters_of_isAsciiLetter hletter) with hsmall | hother
  · exact hsmall
  · exfalso
    rcases mem_lower h with hmark | ⟨b, -, rfl⟩
    · have hmarks : lowerMarks.all (fun c => !otherLetters.contains c.toNat) = true := by decide
      have hnot := List.all_eq_true.mp hmarks c hmark
      rw [List.contains_iff_mem.mpr hother] at hnot
      cases hnot
    · unfold lowerChar at hother
      rcases toNat_ofNat_or (Table.mapRuns b.toNat Table.lowercase) with hb | hb
      · rw [hb] at hother
        have hpos := (show ∀ t ∈ otherLetters, 0 < t by decide) _ hother
        exact sources_otherLetters _ hother _ (Table.mem_sources _ _ hpos _ rfl) rfl
      · rw [hb] at hother
        exact absurd hother (by decide)

-- The lower case of a character that is no sigma: what stands around it does not matter.
def lowerAlone (c : Char) : List Char :=
  if c == '\u0130' then ['i', '\u0307'] else [lowerChar c]

theorem lower_eq_flatMap (cs : List Char) (h : ∀ c ∈ cs, c ≠ '\u03A3') :
    lower cs = cs.flatMap lowerAlone := by
  have hfrom : ∀ afterLetter done,
      lowerFrom afterLetter done cs = done.reverse ++ cs.flatMap lowerAlone := by
    induction cs with
    | nil => intro afterLetter done; simp [lowerFrom]
    | cons c cs ih =>
        intro afterLetter done
        obtain ⟨hc, hcs⟩ := List.forall_mem_cons.mp h
        have halone : lowerIn afterLetter c cs = lowerAlone c := by
          rw [lowerIn, if_neg (by simpa using hc), lowerAlone]
        rw [lowerFrom, halone, ih hcs]
        simp
  exact hfrom false []

-- Lowering leaves a text alone if it leaves each of its characters alone.
theorem lower_eq_self (cs : List Char)
    (h : ∀ c ∈ cs, c ≠ '\u03A3' ∧ c ≠ '\u0130' ∧ lowerChar c = c) : lower cs = cs := by
  rw [lower_eq_flatMap cs fun c hc => (h c hc).1]
  induction cs with
  | nil => rfl
  | cons c cs ih =>
      obtain ⟨⟨-, hdotted, hlower⟩, hcs⟩ := List.forall_mem_cons.mp h
      have hc : lowerAlone c = [c] := by
        rw [lowerAlone, if_neg (by simpa using hdotted), hlower]
      rw [List.flatMap_cons, hc, ih hcs]
      rfl

theorem mem_lowerFrom_of_mem {c : Char} {cs : List Char} (h : ∀ a rest, lowerIn a c rest = [c])
    (afterLetter : Bool) (done : List Char) (hc : c ∈ done ∨ c ∈ cs) :
    c ∈ lowerFrom afterLetter done cs := by
  induction cs generalizing afterLetter done with
  | nil => exact List.mem_reverse.mpr (hc.resolve_right List.not_mem_nil)
  | cons d cs ih =>
      rw [lowerFrom]
      refine ih _ _ ?_
      rcases hc with hdone | hmem
      · exact .inl (List.mem_append_right _ hdone)
      · rcases List.mem_cons.mp hmem with rfl | hrest
        · refine .inl (List.mem_append_left _ ?_)
          rw [h]
          exact List.mem_singleton.mpr rfl
        · exact .inr hrest

theorem lowerFrom_eq_append (afterLetter : Bool) (done cs : List Char) :
    lowerFrom afterLetter done cs = done.reverse ++ lowerFrom afterLetter [] cs := by
  induction cs generalizing afterLetter done with
  | nil => simp [lowerFrom]
  | cons c cs ih =>
      rw [lowerFrom, lowerFrom, ih, ih _ (_ ++ [])]
      simp

theorem lowerIn_eq_or (afterLetter : Bool) (c : Char) (rest : List Char) :
    lowerIn afterLetter c rest = [lowerChar c] ∨
      ∃ mark more, lowerIn afterLetter c rest = mark :: more ∧ mark ∈ lowerMarks := by
  unfold lowerIn
  split
  · split
    · exact .inr ⟨'\u03C2', [], rfl, by decide⟩
    · exact .inr ⟨'\u03C3', [], rfl, by decide⟩
  · split
    · exact .inr ⟨'i', ['\u0307'], rfl, by decide⟩
    · exact .inl rfl

theorem exists_prefix_of_lowerFrom {afterLetter : Bool} {es cs : List Char}
    (h : es <+: lowerFrom afterLetter [] cs) (hes : ∀ e ∈ es, e ∉ lowerMarks) :
    ∃ front, front <+: cs ∧ front.map lowerChar = es := by
  induction es generalizing afterLetter cs with
  | nil => exact ⟨[], List.nil_prefix, rfl⟩
  | cons e es ih =>
      obtain ⟨he, hes⟩ := List.forall_mem_cons.mp hes
      cases cs with
      | nil => exact absurd h (by simp [lowerFrom])
      | cons c cs =>
          rw [lowerFrom, List.append_nil, lowerFrom_eq_append, List.reverse_reverse] at h
          rcases lowerIn_eq_or afterLetter c cs with hone | ⟨mark, more, hmark, hmem⟩
          · rw [hone, List.singleton_append, List.cons_prefix_cons] at h
            obtain ⟨front, hfront, hmap⟩ := ih h.2 hes
            refine ⟨c :: front, List.cons_prefix_cons.mpr ⟨rfl, hfront⟩, ?_⟩
            rw [List.map_cons, hmap, h.1]
          · rw [hmark, List.cons_append, List.cons_prefix_cons] at h
            exact absurd (h.1 ▸ hmem) he

-- What a lowered text begins with is the lower case of what the text begins with, character by
-- character, as long as no character of it comes from one that changes with its place.
theorem exists_prefix_of_lower {es cs : List Char} (h : es <+: lower cs)
    (hes : ∀ e ∈ es, e ∉ lowerMarks) : ∃ front, front <+: cs ∧ front.map lowerChar = es :=
  exists_prefix_of_lowerFrom h hes

theorem head?_lower {cs : List Char} {e : Char} (he : e ∈ (lower cs).head?) :
    ∃ c ∈ cs.head?, e ∈ lowerMarks ∨ e = lowerChar c := by
  cases cs with
  | nil => cases he
  | cons c rest =>
      refine ⟨c, rfl, ?_⟩
      rw [lower, lowerFrom, List.append_nil, lowerFrom_eq_append, List.reverse_reverse] at he
      rcases lowerIn_eq_or false c rest with hone | ⟨mark, more, hmark, hmem⟩
      · rw [hone] at he
        exact .inr (Option.some.inj he).symm
      · rw [hmark] at he
        exact .inl (Option.some.inj he ▸ hmem)

theorem lowerFrom_append_singleton (afterLetter : Bool) (done cs : List Char) (c : Char) :
    ∃ after front, lowerFrom afterLetter done (cs ++ [c]) = front ++ lowerIn after c [] := by
  induction cs generalizing afterLetter done with
  | nil => exact ⟨afterLetter, done.reverse, by simp [lowerFrom]⟩
  | cons d cs ih => exact ih _ _

theorem getLast?_lower {cs : List Char} {e : Char} (he : e ∈ (lower cs).getLast?) :
    ∃ c ∈ cs.getLast?, e ∈ lowerMarks ∨ e = lowerChar c := by
  cases hlast : cs.getLast? with
  | none =>
      rw [List.getLast?_eq_none_iff.mp hlast] at he
      cases he
  | some c =>
      refine ⟨c, rfl, ?_⟩
      obtain ⟨init, rfl⟩ := List.getLast?_eq_some_iff.mp hlast
      obtain ⟨after, front, heq⟩ := lowerFrom_append_singleton false [] init c
      have hne : lowerIn after c [] ≠ [] := by
        rcases lowerIn_eq_or after c [] with hone | ⟨mark, more, hmark, -⟩
        · simp [hone]
        · simp [hmark]
      rw [lower, heq, List.getLast?_append, List.getLast?_eq_some_getLast hne] at he
      exact mem_lowerIn (Option.some.inj he ▸ List.getLast_mem hne)

-- The letter of a character is that of its lower case.
theorem letter_of_lowerChar {c e : Char} (h : lowerChar c = e) (he : 0 < e.toNat) :
    letter c = Char.ofNat ((letterVariants.lookup e.toNat).getD e.toNat) := by
  have hlow : Table.mapRuns c.toNat Table.lowercase = e.toNat := by
    unfold lowerChar at h
    rcases toNat_ofNat_or (Table.mapRuns c.toNat Table.lowercase) with heq | hzero
    · rw [← h, heq]
    · rw [h] at hzero
      omega
  simp only [letter, hlow]

end StrictTransport.Text
