import StrictTransport.Proofs.Record.Element

namespace StrictTransport.Record

open Text

theorem allBlank_takeWhile (cs : List Char) : AllBlank (cs.takeWhile isBlank) :=
  fun _ hc => List.mem_takeWhile_imp hc

theorem AllBlank.append {cs ds : List Char} (hcs : AllBlank cs) (hds : AllBlank ds) :
    AllBlank (cs ++ ds) := by
  intro c hc
  rcases List.mem_append.mp hc with hleft | hright
  · exact hcs c hleft
  · exact hds c hright

theorem walk_drop (expected : Expectation) (skipped : Bool) (n : Nat) (cs : List Char) :
    walk expected skipped n cs = walk expected skipped 0 (cs.drop n) := by
  induction n generalizing cs with
  | zero => rfl
  | succ n ih =>
      cases cs with
      | nil => rw [List.drop_nil, walk_nil, walk_nil]
      | cons c cs => rw [walk_succ, ih, List.drop_succ_cons]

theorem walk_eq_none_iff (expected : Expectation) (skipped skipped' : Bool) (size : Nat)
    (cs : List Char) :
    walk expected skipped size cs = none ↔ walk expected skipped' size cs = none := by
  cases cs with
  | nil => rw [walk_nil, walk_nil]
  | cons c cs =>
      cases size with
      | succ size =>
          rw [walk_succ, walk_succ]
          exact walk_eq_none_iff expected skipped skipped' size cs
      | zero =>
          rw [walk_zero, walk_zero]
          split
          · exact Iff.rfl
          · split
            · cases tagAt? (c :: cs) <;> simp
            · split <;> simp

-- White space is passed over.
theorem walk_append_eq_none_iff {expected : Expectation} {skipped : Bool} {gap : List Char}
    (hgap : AllBlank gap) (rest : List Char) :
    walk expected skipped 0 (gap ++ rest) = none ↔ walk expected skipped 0 rest = none := by
  induction gap generalizing skipped with
  | nil => exact Iff.rfl
  | cons c gap ih =>
      obtain ⟨hc, hgap⟩ := List.forall_mem_cons.mp hgap
      rw [List.cons_append, walk_zero, if_pos hc, ih hgap]
      exact walk_eq_none_iff expected true skipped 0 rest

theorem walk_eq_none_of_allBlank {expected : Expectation} {skipped : Bool} {cs : List Char}
    (h : AllBlank cs) : walk expected skipped 0 cs = none := by
  rw [← List.append_nil cs, walk_append_eq_none_iff h, walk_nil]

theorem walk_of_tagAt? {cs : List Char} {tag : Tag} (h : tagAt? cs = some tag) (skipped : Bool) :
    walk .tag skipped 0 cs = walk .delimiter false 0 (cs.drop tag.size) := by
  obtain ⟨part, hcs, ⟨_, rfl, -, hlength, hletters, -, -⟩, hsize⟩ := tagForm_of_tagAt? h
  obtain ⟨c, name, hname⟩ := List.exists_cons_of_length_pos (l := tag.name) (by omega)
  have hblank : isBlank c = false := by
    rw [← Bool.not_eq_true]
    intro hblank
    have hletter := hletters c (by rw [hname]; exact List.mem_cons_self)
    rw [isAsciiLetter_of_isBlank hblank] at hletter
    cases hletter
  cases cs with
  | nil => cases h
  | cons d cs =>
      obtain rfl : d = c := by
        rw [hname] at hcs
        exact (List.cons.inj hcs).1
      obtain ⟨n, hn⟩ := Nat.exists_eq_add_of_le' hsize
      rw [walk_zero, if_neg (by simp [hblank]), if_pos rfl, h]
      simp only
      rw [hn, Nat.add_sub_cancel, walk_drop, List.drop_succ_cons]

theorem walk_semicolon (skipped : Bool) (rest : List Char) :
    walk .delimiter skipped 0 (';' :: rest) = none ↔ walk .tag false 0 rest = none := by
  have hrest : rest = rest.takeWhile isWsp ++ rest.drop (rest.takeWhile isWsp).length := by
    conv_lhs => rw [← List.take_append_drop (rest.takeWhile isWsp).length rest]
    rw [take_length_takeWhile]
  rw [walk_zero, if_neg (by decide), if_neg (by decide), if_pos (beq_self_eq_true _), walk_drop]
  conv_rhs => rw [hrest, walk_append_eq_none_iff (allWsp_takeWhile rest).allBlank]

-- A tag that is waited for is there, unless white space ends the text.
theorem allBlank_or_tag {skipped : Bool} {cs : List Char} (h : walk .tag skipped 0 cs = none) :
    AllBlank cs ∨ ∃ gap rest tag, cs = gap ++ rest ∧ AllBlank gap ∧ tagAt? rest = some tag ∧
      walk .delimiter false 0 (rest.drop tag.size) = none := by
  induction cs generalizing skipped with
  | nil => exact .inl (List.forall_mem_nil _)
  | cons c cs ih =>
      by_cases hblank : isBlank c = true
      · rw [walk_zero, if_pos hblank] at h
        rcases ih h with hall | ⟨gap, rest, tag, rfl, hgap, htag, hrest⟩
        · exact .inl (List.forall_mem_cons.mpr ⟨hblank, hall⟩)
        · exact .inr
            ⟨c :: gap, rest, tag, rfl, List.forall_mem_cons.mpr ⟨hblank, hgap⟩, htag, hrest⟩
      · cases htag : tagAt? (c :: cs) with
        | some tag =>
            rw [walk_of_tagAt? htag] at h
            exact .inr ⟨[], c :: cs, tag, rfl, List.forall_mem_nil _, htag, h⟩
        | none =>
            rw [walk_zero, if_neg hblank, if_pos rfl, htag] at h
            cases h

-- So is a semicolon.
theorem allBlank_or_semicolon {skipped : Bool} {cs : List Char}
    (h : walk .delimiter skipped 0 cs = none) :
    AllBlank cs ∨ ∃ blanks wsp rest, cs = blanks ++ ';' :: (wsp ++ rest) ∧ AllBlank blanks ∧
      AllBlank wsp ∧ walk .tag false 0 rest = none := by
  induction cs generalizing skipped with
  | nil => exact .inl (List.forall_mem_nil _)
  | cons c cs ih =>
      rw [walk_zero] at h
      split at h
      · rename_i hblank
        rcases ih h with hall | ⟨blanks, wsp, rest, rfl, hblanks, hwsp, hrest⟩
        · exact .inl (List.forall_mem_cons.mpr ⟨hblank, hall⟩)
        · exact .inr ⟨c :: blanks, wsp, rest, rfl, List.forall_mem_cons.mpr ⟨hblank, hblanks⟩,
            hwsp, hrest⟩
      · rw [if_neg (by decide)] at h
        split at h
        · rename_i hsemicolon
          refine .inr ⟨[], cs.takeWhile isWsp, cs.drop (cs.takeWhile isWsp).length, ?_,
            List.forall_mem_nil _, (allWsp_takeWhile cs).allBlank, ?_⟩
          · rw [beq_iff_eq.mp hsemicolon, List.nil_append, ← take_length_takeWhile,
              List.length_take_of_le (List.takeWhile_sublist _).length_le, List.take_append_drop]
          · rwa [walk_drop] at h
        · cases h

end StrictTransport.Record
