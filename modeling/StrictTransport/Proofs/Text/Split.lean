import Mathlib.Data.List.Infix
import StrictTransport.Text.Split

namespace StrictTransport.Text

variable {α : Type}

theorem mem_intercalate {sep a : α} {parts : List (List α)} (h : a ∈ [sep].intercalate parts) :
    a = sep ∨ ∃ part ∈ parts, a ∈ part := by
  induction parts with
  | nil => exact absurd h List.not_mem_nil
  | cons part parts ih =>
      cases parts with
      | nil =>
          rw [List.intercalate_singleton] at h
          exact .inr ⟨part, List.mem_cons_self, h⟩
      | cons next parts =>
          rw [List.intercalate_cons_cons, List.mem_append, List.mem_append] at h
          rcases h with (hpart | hsep) | hrest
          · exact .inr ⟨part, List.mem_cons_self, hpart⟩
          · exact .inl (List.mem_singleton.mp hsep)
          · rcases ih hrest with hsep | ⟨other, hmem, ha⟩
            · exact .inl hsep
            · exact .inr ⟨other, List.mem_cons_of_mem _ hmem, ha⟩

theorem mem_intercalate_of_mem {sep part : List α} {parts : List (List α)} {a : α}
    (hpart : part ∈ parts) (ha : a ∈ part) : a ∈ sep.intercalate parts := by
  induction parts with
  | nil => exact absurd hpart List.not_mem_nil
  | cons next parts ih =>
      cases parts with
      | nil =>
          rw [List.intercalate_singleton, ← List.mem_singleton.mp hpart]
          exact ha
      | cons last parts =>
          rw [List.intercalate_cons_cons, List.mem_append]
          rcases List.mem_cons.mp hpart with rfl | hrest
          · exact .inl (List.mem_append_left _ ha)
          · exact .inr (ih hrest)

theorem intercalate_append_singleton (sep last : List α) (parts : List (List α)) :
    sep.intercalate (parts ++ [last]) = parts.flatMap (· ++ sep) ++ last := by
  induction parts with
  | nil => exact List.intercalate_singleton
  | cons part parts ih =>
      obtain ⟨next, others, hparts⟩ := List.exists_cons_of_ne_nil
        (List.append_ne_nil_of_right_ne_nil parts (List.cons_ne_nil last []))
      rw [List.cons_append, hparts, List.intercalate_cons_cons, ← hparts, ih, List.flatMap_cons,
        List.append_assoc _ _ last]

theorem exists_prefix_intercalate (sep : List α) {parts : List (List α)} (h : parts ≠ []) :
    ∃ part ∈ parts, part <+: sep.intercalate parts := by
  obtain ⟨part, rest, rfl⟩ := List.exists_cons_of_ne_nil h
  refine ⟨part, List.mem_cons_self, ?_⟩
  cases rest with
  | nil => rw [List.intercalate_singleton]
  | cons next rest =>
      rw [List.intercalate_cons_cons, List.append_assoc]
      exact List.prefix_append _ _

theorem exists_suffix_intercalate (sep : List α) {parts : List (List α)} (h : parts ≠ []) :
    ∃ part ∈ parts, part <:+ sep.intercalate parts := by
  induction parts with
  | nil => exact absurd rfl h
  | cons part parts ih =>
      cases parts with
      | nil => exact ⟨part, List.mem_cons_self, by rw [List.intercalate_singleton]⟩
      | cons next parts =>
          obtain ⟨last, hmem, hsuffix⟩ := ih (by simp)
          refine ⟨last, List.mem_cons_of_mem _ hmem, ?_⟩
          rw [List.intercalate_cons_cons]
          exact hsuffix.trans (List.suffix_append _ _)

variable [DecidableEq α]

-- The fold of `splitOn` is the library's split at a single separator.
theorem splitOn_eq (sep : α) (l : List α) : splitOn sep l = l.splitOn sep := by
  induction l with
  | nil => simp [splitOn]
  | cons a l ih =>
      have hcons : splitOn sep (a :: l) =
          if a == sep then [] :: splitOn sep l else consHead a (splitOn sep l) := rfl
      rw [hcons, ih, List.splitOn_cons_eq_if_modifyHead]
      obtain ⟨part, parts, h⟩ := List.exists_cons_of_ne_nil (List.splitOn_ne_nil sep l)
      rw [h]
      rfl

theorem eq_intercalate_splitOn (sep : α) (l : List α) :
    l = [sep].intercalate (splitOn sep l) := by
  rw [splitOn_eq, List.intercalate_splitOn]

theorem splitOn_ne_nil (sep : α) (l : List α) : splitOn sep l ≠ [] := by
  rw [splitOn_eq]
  exact List.splitOn_ne_nil sep l

theorem mem_of_splitOn (sep : α) {a : α} {l : List α} (h : a ∈ l) :
    a = sep ∨ ∃ part ∈ splitOn sep l, a ∈ part := by
  rw [eq_intercalate_splitOn sep l] at h
  exact mem_intercalate h

theorem notMem_of_mem_splitOn (sep : α) (l : List α) :
    ∀ part ∈ l.splitOn sep, sep ∉ part := by
  induction l with
  | nil => simp
  | cons a l ih =>
      obtain ⟨part, parts, h⟩ := List.exists_cons_of_ne_nil (List.splitOn_ne_nil sep l)
      rw [List.splitOn_cons_eq_if_modifyHead, h]
      rw [h] at ih
      split
      · rintro p (_ | ⟨_, hp⟩)
        · simp
        · exact ih p hp
      · next ha =>
          rintro p (_ | ⟨_, hp⟩)
          · rw [List.mem_cons, not_or]
            exact ⟨fun he => ha (by simp [he]), ih part (by simp)⟩
          · exact ih p (List.mem_cons_of_mem _ hp)

theorem splitOn_append_cons {sep : α} {front : List α} (h : sep ∉ front) (rest : List α) :
    splitOn sep (front ++ sep :: rest) = front :: splitOn sep rest := by
  rw [splitOn_eq, splitOn_eq]
  refine List.splitOnP_append_cons_of_forall_mem (fun a ha => ?_) sep (by simp) rest
  rw [beq_eq_false_iff_ne]
  rintro rfl
  exact h ha

theorem splitOn_of_notMem {sep : α} {l : List α} (h : sep ∉ l) : splitOn sep l = [l] := by
  rw [splitOn_eq]
  refine List.splitOnP_eq_singleton fun a ha => ?_
  rw [beq_eq_false_iff_ne]
  rintro rfl
  exact h ha

theorem hasPair_cons (first second a : α) (l : List α) :
    hasPair first second (a :: l) =
      (l.head?.any (fun b => a == first && b == second) || hasPair first second l) := by
  cases l <;> rfl

theorem hasPair_iff (first second : α) (l : List α) :
    hasPair first second l = true ↔ [first, second] <:+: l := by
  induction l with
  | nil => simp [hasPair]
  | cons a l ih =>
      rw [hasPair_cons, Bool.or_eq_true, ih, List.infix_cons_iff]
      refine or_congr ?_ Iff.rfl
      cases l with
      | nil => simp [List.cons_prefix_cons]
      | cons b l =>
          simp only [List.head?_cons, Option.any_some, Bool.and_eq_true, beq_iff_eq,
            List.cons_prefix_cons, List.nil_prefix, and_true]
          exact ⟨fun h => ⟨h.1.symm, h.2.symm⟩, fun h => ⟨h.1.symm, h.2.symm⟩⟩

theorem splitOnPair_cons_of_nil (first second a : α) (l : List α) (parts : List (List α))
    (h : splitOnPair first second l = [] :: parts) :
    splitOnPair first second (a :: l) = [a] :: parts := by
  rw [splitOnPair] at h
  rw [splitOnPair, List.foldr_cons, h]
  rfl

theorem splitOnPair_cons_of_cons (first second a b : α) (l part : List α)
    (parts : List (List α)) (h : splitOnPair first second l = (b :: part) :: parts) :
    splitOnPair first second (a :: l) =
      if a = first ∧ b = second then [] :: part :: parts else (a :: b :: part) :: parts := by
  rw [splitOnPair] at h
  rw [splitOnPair, List.foldr_cons, h]
  simp only [Bool.and_eq_true, beq_iff_eq]

theorem splitOnPair_ne_nil (first second : α) (l : List α) : splitOnPair first second l ≠ [] := by
  induction l with
  | nil => simp [splitOnPair]
  | cons a l ih =>
      obtain ⟨part, parts, h⟩ := List.exists_cons_of_ne_nil ih
      cases part with
      | nil => simp [splitOnPair_cons_of_nil first second a l parts h]
      | cons b part =>
          rw [splitOnPair_cons_of_cons first second a b l part parts h]
          split <;> simp

theorem intercalate_splitOnPair (first second : α) (l : List α) :
    [first, second].intercalate (splitOnPair first second l) = l := by
  induction l with
  | nil => simp [splitOnPair]
  | cons a l ih =>
      obtain ⟨part, parts, h⟩ := List.exists_cons_of_ne_nil (splitOnPair_ne_nil first second l)
      rw [h] at ih
      cases part with
      | nil =>
          rw [splitOnPair_cons_of_nil first second a l parts h]
          cases parts <;> simp_all
      | cons b part =>
          rw [splitOnPair_cons_of_cons first second a b l part parts h]
          split
          · next hab =>
              obtain ⟨rfl, rfl⟩ := hab
              cases parts <;> simp_all
          · cases parts <;> simp_all

theorem splitOnPair_cons_of_ne (first second a : α) (ha : a ≠ first) (l part : List α)
    (parts : List (List α)) (h : splitOnPair first second l = part :: parts) :
    splitOnPair first second (a :: l) = (a :: part) :: parts := by
  cases part with
  | nil => exact splitOnPair_cons_of_nil first second a l parts h
  | cons b part =>
      rw [splitOnPair_cons_of_cons first second a b l part parts h, if_neg fun hab => ha hab.1]

theorem splitOnPair_append_of_notMem (first second : α) {front : List α} (hfront : first ∉ front)
    {l part : List α} {parts : List (List α)} (h : splitOnPair first second l = part :: parts) :
    splitOnPair first second (front ++ l) = (front ++ part) :: parts := by
  induction front with
  | nil => exact h
  | cons a front ih =>
      rw [List.mem_cons, not_or] at hfront
      exact splitOnPair_cons_of_ne first second a (Ne.symm hfront.1) _ _ _ (ih hfront.2)

-- A part without the pair stays whole. The pair cannot straddle the end of the part, as its two
-- members differ.
theorem splitOnPair_append (first second : α) (hne : first ≠ second) (part rest : List α)
    (hpart : ¬[first, second] <:+: part) :
    splitOnPair first second (part ++ first :: second :: rest) =
      part :: splitOnPair first second rest := by
  induction part with
  | nil =>
      obtain ⟨next, parts, h⟩ := List.exists_cons_of_ne_nil (splitOnPair_ne_nil first second rest)
      have hsecond : splitOnPair first second (second :: rest) = (second :: next) :: parts := by
        cases next with
        | nil => exact splitOnPair_cons_of_nil first second second rest parts h
        | cons b next =>
            rw [splitOnPair_cons_of_cons first second second b rest next parts h,
              if_neg (fun hs => hne hs.1.symm)]
      rw [List.nil_append, splitOnPair_cons_of_cons first second first second _ _ _ hsecond, h,
        if_pos ⟨rfl, rfl⟩]
  | cons a part ih =>
      rw [List.infix_cons_iff, not_or] at hpart
      rw [List.cons_append]
      cases part with
      | nil => exact splitOnPair_cons_of_nil first second a _ _ (ih hpart.2)
      | cons b part =>
          rw [splitOnPair_cons_of_cons first second a b _ _ _ (ih hpart.2), if_neg]
          rintro ⟨rfl, rfl⟩
          exact hpart.1 ⟨part, rfl⟩

theorem splitOnPair_eq_singleton (first second : α) (l : List α)
    (h : ¬[first, second] <:+: l) : splitOnPair first second l = [l] := by
  induction l with
  | nil => rfl
  | cons a l ih =>
      rw [List.infix_cons_iff, not_or] at h
      cases l with
      | nil => rfl
      | cons b l =>
          rw [splitOnPair_cons_of_cons first second a b _ _ _ (ih h.2), if_neg]
          rintro ⟨rfl, rfl⟩
          exact h.1 ⟨l, rfl⟩

theorem splitOnPair_intercalate (first second : α) (hne : first ≠ second)
    (parts : List (List α)) (hparts : parts ≠ [])
    (h : ∀ part ∈ parts, ¬[first, second] <:+: part) :
    splitOnPair first second ([first, second].intercalate parts) = parts := by
  induction parts with
  | nil => exact absurd rfl hparts
  | cons part parts ih =>
      cases parts with
      | nil =>
          rw [List.intercalate_singleton]
          exact splitOnPair_eq_singleton first second part (h part (by simp))
      | cons next parts =>
          have htail := ih (by simp) (fun p hp => h p (List.mem_cons_of_mem _ hp))
          rw [List.intercalate_cons_cons, List.append_assoc, List.cons_append, List.cons_append,
            List.nil_append, splitOnPair_append first second hne part _ (h part (by simp)), htail]

theorem not_infix_of_mem_splitOnPair (first second : α) (l : List α) :
    ∀ part ∈ splitOnPair first second l, ¬[first, second] <:+: part := by
  induction l with
  | nil => simp [splitOnPair]
  | cons a l ih =>
      obtain ⟨part, parts, h⟩ := List.exists_cons_of_ne_nil (splitOnPair_ne_nil first second l)
      rw [h] at ih
      have hpart := ih part (by simp)
      have hparts := fun p hp => ih p (List.mem_cons_of_mem part hp)
      cases part with
      | nil =>
          rw [splitOnPair_cons_of_nil first second a l parts h]
          rintro p (_ | ⟨_, hp⟩)
          · exact fun hp => absurd hp.length_le (by simp)
          · exact hparts p hp
      | cons b part =>
          rw [splitOnPair_cons_of_cons first second a b l part parts h]
          split
          · rintro p (_ | ⟨_, _ | ⟨_, hp⟩⟩)
            · simp
            · exact fun hp => hpart (List.infix_cons hp)
            · exact hparts p hp
          · next hab =>
              rintro p (_ | ⟨_, hp⟩)
              · rw [List.infix_cons_iff, List.cons_prefix_cons, List.cons_prefix_cons]
                rintro (⟨ha, hb, -⟩ | hp)
                · exact hab ⟨ha.symm, hb.symm⟩
                · exact hpart hp
              · exact hparts p hp

theorem splitOnPair_intercalate_append (first second : α) (hne : first ≠ second)
    {parts : List (List α)} (hparts : parts ≠ [])
    (h : ∀ part ∈ parts, ¬[first, second] <:+: part) (rest : List α) :
    splitOnPair first second ([first, second].intercalate parts ++ first :: second :: rest) =
      parts ++ splitOnPair first second rest := by
  induction parts with
  | nil => exact absurd rfl hparts
  | cons part parts ih =>
      have hpart := h part List.mem_cons_self
      cases parts with
      | nil => rw [List.intercalate_singleton, splitOnPair_append first second hne part rest hpart]; rfl
      | cons next parts =>
          have htail := ih (List.cons_ne_nil _ _) fun p hp => h p (List.mem_cons_of_mem _ hp)
          rw [List.intercalate_cons_cons, List.append_assoc, List.append_assoc, List.cons_append,
            List.cons_append, List.nil_append, splitOnPair_append first second hne part _ hpart,
            htail]
          rfl

-- A text is cut at a pair that stands in it, whatever stands on the two sides of that.
theorem splitOnPair_append_pair (first second : α) (hne : first ≠ second) (l rest : List α) :
    splitOnPair first second (l ++ first :: second :: rest) =
      splitOnPair first second l ++ splitOnPair first second rest := by
  have hparts := splitOnPair_intercalate_append first second hne (splitOnPair_ne_nil first second l)
    (not_infix_of_mem_splitOnPair first second l) rest
  rwa [intercalate_splitOnPair] at hparts

end StrictTransport.Text
