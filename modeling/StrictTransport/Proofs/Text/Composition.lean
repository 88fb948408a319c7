import StrictTransport.Proofs.Text.Canonical
import StrictTransport.Proofs.Text.Lower

namespace StrictTransport.Text.Canonical

-- The letters and the syllables of Hangul, which are taken apart and put together by reckoning.
def Hangul.IsCode (n : Nat) : Prop :=
  (0x1100 ≤ n ∧ n < 0x1200) ∨ (0xAC00 ≤ n ∧ n < 0xD7A4)

-- Whether composing keeps a property of code points: what a character is taken apart into has it,
-- and so has what two characters with it are put together to.
structure Kept (q : Nat → Prop) : Prop where
  zero : q 0
  hangul : ∀ n, Hangul.IsCode n → q n
  pairs : ∀ e ∈ Table.composites ++ Table.fragments, q e.1 → q e.2.1 ∧ q e.2.2
  composites : ∀ e ∈ Table.composites, q e.2.1 → q e.2.2 → q e.1
  singles : ∀ e ∈ Table.singletons ++ Table.ideographs ++ Table.supplementaryIdeographs,
    q e.1 → q e.2

-- Whether the characters of a class stand alone: none is taken apart or put together with another
-- one, and one that stands for another character stands for one of the class.
structure Alone (p : Char → Bool) : Prop where
  hangul : ∀ n, Hangul.IsCode n → p (Char.ofNat n) = false
  pairs : ∀ e ∈ Table.composites ++ Table.fragments,
    p (Char.ofNat e.1) = false ∧ p (Char.ofNat e.2.1) = false ∧ p (Char.ofNat e.2.2) = false
  singles : ∀ e ∈ Table.singletons ++ Table.ideographs ++ Table.supplementaryIdeographs,
    p (Char.ofNat e.2) = p (Char.ofNat e.1)

section Pieces

theorem Hangul.IsCode.toNat_ofNat {n : Nat} (h : IsCode n) : (Char.ofNat n).toNat = n := by
  have hvalid : n.isValidChar := by
    unfold IsCode at h
    exact .inl (by omega)
  rw [Char.ofNat, dif_pos hvalid]
  rfl

theorem Hangul.isCode_of_decompose? {n : Nat} {letters : List Nat}
    (h : decompose? n = some letters) : IsCode n ∧ ∀ m ∈ letters, IsCode m := by
  unfold decompose? syllableBase leadCount vowelCount tailCount leadBase vowelBase tailBase at h
  simp only at h
  split at h
  · rename_i hrange
    rw [Bool.and_eq_true, decide_eq_true_iff, decide_eq_true_iff] at hrange
    refine ⟨.inr (by omega), fun m hm => .inl ?_⟩
    rw [← Option.some.inj h] at hm
    simp only [List.mem_append, List.mem_cons, List.not_mem_nil, or_false] at hm
    rcases hm with (hlead | hvowel) | htail
    · omega
    · omega
    · split at htail
      · cases htail
      · have htail := List.mem_singleton.mp htail
        omega
  · cases h

theorem Hangul.isCode_of_compose? {a b n : Nat} (h : compose? a b = some n) :
    IsCode a ∧ IsCode b ∧ IsCode n := by
  unfold compose? syllableBase leadCount vowelCount tailCount leadBase vowelBase tailBase at h
  unfold IsCode
  split at h
  · rename_i hletters
    simp only [Bool.and_eq_true, decide_eq_true_iff] at hletters
    have hn := Option.some.inj h
    omega
  · split at h
    · rename_i hsyllable
      simp only [Bool.and_eq_true, decide_eq_true_iff, beq_iff_eq] at hsyllable
      have hn := Option.some.inj h
      omega
    · cases h

theorem mem_of_lookup {α : Type} {entries : List (Nat × α)} {n : Nat} {a : α}
    (h : entries.lookup n = some a) : (n, a) ∈ entries := by
  obtain ⟨before, after, heq, -⟩ := List.lookup_eq_some_iff.mp h
  exact heq ▸ List.mem_append_right _ List.mem_cons_self

-- What a character is taken apart into, one step deep.
theorem parts?_cases {n : Nat} {parts : List Nat} (h : parts? n = some parts) :
    (Hangul.IsCode n ∧ ∀ m ∈ parts, Hangul.IsCode m) ∨
      (∃ a b, (n, a, b) ∈ Table.composites ++ Table.fragments ∧ parts = [a, b]) ∨
      ∃ a, (n, a) ∈ Table.singletons ++ Table.ideographs ++ Table.supplementaryIdeographs ∧
        parts = [a] := by
  rw [parts?] at h
  split at h
  · rename_i letters hletters
    cases h
    exact .inl (Hangul.isCode_of_decompose? hletters)
  · split at h
    · rename_i a b hlookup
      cases h
      exact .inr (.inl ⟨a, b, mem_of_lookup hlookup, rfl⟩)
    · split at h
      · rename_i a hlookup
        cases h
        exact .inr (.inr ⟨a, mem_of_lookup hlookup, rfl⟩)
      · cases h

theorem compose?_cases {a b c : Char} (h : compose? a b = some c) :
    (Hangul.IsCode a.toNat ∧ Hangul.IsCode b.toNat ∧ Hangul.IsCode c.toNat) ∨
    ∃ e ∈ Table.composites, c = Char.ofNat e.1 ∧ a.toNat = e.2.1 ∧ b.toNat = e.2.2 := by
  rw [compose?] at h
  split at h
  · rename_i n hn
    obtain ⟨ha, hb, hc⟩ := Hangul.isCode_of_compose? hn
    rw [← Option.some.inj h, hc.toNat_ofNat]
    exact .inl ⟨ha, hb, hc⟩
  · obtain ⟨e, hfind, heq⟩ := Option.map_eq_some_iff.mp h
    have hparts := List.find?_some hfind
    simp only [Bool.and_eq_true, beq_iff_eq] at hparts
    exact .inr ⟨e, List.mem_of_find?_eq_some hfind, heq.symm, hparts.1.symm, hparts.2.symm⟩

-- A character is taken in as a new one, or into the starter.
theorem Composing.push_cases (s : Composing) (c : Char) :
    (s.push c).flush = c :: s.flush ∨
      ∃ starter composed, s.starter = some starter ∧ compose? starter c = some composed ∧
        s.push c = { s with starter := some composed } := by
  rw [push]
  split
  · rename_i composed hcomposed
    obtain ⟨starter, hstarter, hpart⟩ := Option.bind_eq_some_iff.mp hcomposed
    split at hpart
    · cases hpart
    · exact .inr ⟨starter, composed, hstarter, hpart, rfl⟩
  · left
    split <;> simp [flush]

theorem insertMark_perm (c : Char) (done : List Char) : (insertMark c done).Perm (c :: done) := by
  induction done with
  | nil => exact .refl _
  | cons d done ih =>
      rw [insertMark]
      split
      · exact (ih.cons d).trans (.swap c d done)
      · exact .refl _

theorem order_perm (cs : List Char) : (order cs).Perm cs := by
  have hfold : ∀ done : List Char,
      (cs.foldl (fun done c => insertMark c done) done).Perm (cs ++ done) := by
    induction cs with
    | nil => exact fun done => .refl _
    | cons c cs ih =>
        intro done
        exact (ih (insertMark c done)).trans
          (((insertMark_perm c done).append_left cs).trans List.perm_middle)
  have hnil := hfold []
  rw [List.append_nil] at hnil
  exact (List.reverse_perm _).trans hnil

end Pieces

section Kept

variable {q : Nat → Prop}

theorem Kept.ofNat (h : Kept q) {n : Nat} (hn : q n) : q (Char.ofNat n).toNat := by
  rcases toNat_ofNat_or n with heq | heq
  · rwa [heq]
  · rw [heq]
    exact h.zero

theorem Kept.decomposeTo (h : Kept q) (depth : Nat) {n : Nat} (hn : q n) :
    ∀ m ∈ decomposeTo depth n, q m := by
  induction depth generalizing n with
  | zero => exact List.forall_mem_singleton.mpr hn
  | succ depth ih =>
      rw [Canonical.decomposeTo]
      split
      · rename_i parts hparts
        have hq : ∀ m ∈ parts, q m := by
          obtain ⟨-, hletters⟩ | ⟨a, b, hpair, rfl⟩ | ⟨a, hsingle, rfl⟩ := parts?_cases hparts
          · exact fun m hm => h.hangul m (hletters m hm)
          · have hboth := h.pairs _ hpair hn
            exact List.forall_mem_cons.mpr ⟨hboth.1, List.forall_mem_singleton.mpr hboth.2⟩
          · exact List.forall_mem_singleton.mpr (h.singles _ hsingle hn)
        intro m hm
        obtain ⟨part, hpart, hm⟩ := List.mem_flatMap.mp hm
        exact ih (hq part hpart) m hm
      · exact List.forall_mem_singleton.mpr hn

theorem Kept.compose? (h : Kept q) {a b c : Char} (hcompose : compose? a b = some c)
    (ha : q a.toNat) (hb : q b.toNat) : q c.toNat := by
  obtain ⟨-, -, hc⟩ | ⟨e, he, rfl, hfirst, hsecond⟩ := compose?_cases hcompose
  · exact h.hangul _ hc
  · exact h.ofNat (h.composites e he (hfirst ▸ ha) (hsecond ▸ hb))

theorem Kept.push (h : Kept q) {s : Composing} (hs : ∀ d ∈ s.flush, q d.toNat) {c : Char}
    (hc : q c.toNat) : ∀ d ∈ (s.push c).flush, q d.toNat := by
  obtain heq | ⟨starter, composed, hstarter, hcomposed, heq⟩ := s.push_cases c
  · rw [heq]
    exact List.forall_mem_cons.mpr ⟨hc, hs⟩
  · have hmem : starter ∈ s.flush := by simp [Composing.flush, hstarter]
    intro d hd
    rw [heq] at hd
    simp only [Composing.flush, Option.toList_some, List.mem_append, List.mem_singleton] at hd
    rcases hd with (hmark | rfl) | hdone
    · exact hs d (by simp [Composing.flush, hmark])
    · exact h.compose? hcomposed (hs starter hmem) hc
    · exact hs d (by simp [Composing.flush, hdone])

theorem Kept.compose (h : Kept q) {cs : List Char} (hcs : ∀ c ∈ cs, q c.toNat) :
    ∀ d ∈ compose cs, q d.toNat := by
  have hfold : ∀ s : Composing, (∀ d ∈ s.flush, q d.toNat) →
      ∀ d ∈ (cs.foldl Composing.push s).flush, q d.toNat := by
    induction cs with
    | nil => exact fun s hs => hs
    | cons c cs ih =>
        obtain ⟨hc, hcs⟩ := List.forall_mem_cons.mp hcs
        exact fun s hs => ih hcs _ (h.push hs hc)
  exact fun d hd => hfold ⟨[], none, []⟩ (List.forall_mem_nil _) d (List.mem_reverse.mp hd)

theorem Kept.normalize (h : Kept q) {cs : List Char} (hcs : ∀ c ∈ cs, q c.toNat) :
    ∀ d ∈ normalize cs, q d.toNat := by
  rw [Canonical.normalize]
  split
  · exact hcs
  · refine h.compose fun c hc => ?_
    obtain ⟨d, hd, hpart⟩ := List.mem_flatMap.mp ((order_perm _).mem_iff.mp hc)
    obtain ⟨n, hn, rfl⟩ := List.mem_map.mp hpart
    exact h.ofNat (h.decomposeTo 4 (hcs d hd) n hn)

end Kept

section Alone

variable {p : Char → Bool}

theorem countP_flatMap_eq {α β : Type} {p : α → Bool} {r : β → Bool} {f : α → List β} {l : List α}
    (h : ∀ a ∈ l, (f a).countP r = [a].countP p) : (l.flatMap f).countP r = l.countP p := by
  induction l with
  | nil => rfl
  | cons a l ih =>
      obtain ⟨ha, hl⟩ := List.forall_mem_cons.mp h
      rw [List.flatMap_cons, List.countP_append, ha, ih hl, ← List.countP_append,
        List.singleton_append]

theorem Alone.countP_decomposeTo (h : Alone p) (depth n : Nat) :
    (decomposeTo depth n).countP (p ∘ Char.ofNat) = [n].countP (p ∘ Char.ofNat) := by
  induction depth generalizing n with
  | zero => rfl
  | succ depth ih =>
      rw [decomposeTo]
      split
      · rename_i parts hparts
        rw [countP_flatMap_eq fun m _ => ih m]
        obtain ⟨hn, hletters⟩ | ⟨a, b, hpair, rfl⟩ | ⟨a, hsingle, rfl⟩ := parts?_cases hparts
        · rw [List.countP_eq_zero.mpr fun m hm => by simp [h.hangul m (hletters m hm)],
            List.countP_eq_zero.mpr fun m hm => by simp [List.mem_singleton.mp hm, h.hangul n hn]]
        · obtain ⟨hn, ha, hb⟩ := h.pairs _ hpair
          simp [hn, ha, hb]
        · have ha := h.singles _ hsingle
          simp [List.countP_cons, ha]
      · rfl

theorem Alone.countP_decompose (h : Alone p) (c : Char) :
    (decompose c).countP p = [c].countP p := by
  rw [decompose, List.countP_map, h.countP_decomposeTo]
  simp [List.countP_cons]

theorem Alone.isCode (h : Alone p) {c : Char} (hc : Hangul.IsCode c.toNat) : p c = false := by
  rw [← Char.ofNat_toNat c]
  exact h.hangul _ hc

theorem Alone.compose? (h : Alone p) {a b c : Char} (hcompose : compose? a b = some c) :
    p a = false ∧ p b = false ∧ p c = false := by
  obtain ⟨ha, hb, hc⟩ | ⟨e, he, rfl, hfirst, hsecond⟩ := compose?_cases hcompose
  · exact ⟨h.isCode ha, h.isCode hb, h.isCode hc⟩
  · obtain ⟨hc, ha, hb⟩ := h.pairs e (List.mem_append_left _ he)
    rw [← hfirst, Char.ofNat_toNat] at ha
    rw [← hsecond, Char.ofNat_toNat] at hb
    exact ⟨ha, hb, hc⟩

theorem Alone.countP_push (h : Alone p) (s : Composing) (c : Char) :
    (s.push c).flush.countP p = (c :: s.flush).countP p := by
  obtain heq | ⟨starter, composed, hstarter, hcomposed, heq⟩ := s.push_cases c
  · rw [heq]
  · obtain ⟨ha, hb, hc⟩ := h.compose? hcomposed
    rw [heq]
    simp [Composing.flush, hstarter, ha, hb, hc]

theorem Alone.countP_compose (h : Alone p) (cs : List Char) :
    (compose cs).countP p = cs.countP p := by
  have hfold : ∀ s : Composing,
      (cs.foldl Composing.push s).flush.countP p = cs.countP p + s.flush.countP p := by
    induction cs with
    | nil => simp
    | cons c cs ih =>
        intro s
        rw [List.foldl_cons, ih, h.countP_push, List.countP_cons, List.countP_cons]
        omega
  rw [compose, List.countP_reverse, hfold]
  rfl

theorem Alone.countP_normalize (h : Alone p) (cs : List Char) :
    (normalize cs).countP p = cs.countP p := by
  rw [normalize]
  split
  · rfl
  · rw [h.countP_compose, (order_perm _).countP_eq,
      countP_flatMap_eq fun c _ => h.countP_decompose c]

end Alone

section LineFeed

theorem ofNat_eq_lf {n : Nat} (h : Char.ofNat n = '\n') : n = 10 := by
  by_cases hvalid : n.isValidChar
  · rw [Char.ofNat, dif_pos hvalid] at h
    exact congrArg Char.toNat h
  · rw [Char.ofNat, dif_neg hvalid] at h
    cases h

theorem kept_ne_lf : Kept (· ≠ 10) where
  zero := by decide
  hangul n hn := by
    unfold Hangul.IsCode at hn
    omega
  pairs e he _ := by
    have hparts := (pairs_spec e he).2
    omega
  composites e he _ _ := by
    have hlow := (composites_spec e he).1
    omega
  singles e he _ := (singles_spec e he).2

theorem lf_mem_of_mem_normalize {cs : List Char} (h : '\n' ∈ normalize cs) : '\n' ∈ cs := by
  by_cases hmem : '\n' ∈ cs
  · exact hmem
  · refine absurd rfl (kept_ne_lf.normalize (fun c hc heq => hmem ?_) _ h)
    have hlf : c = '\n' := by rw [← Char.ofNat_toNat c, heq]
    rwa [← hlf]

end LineFeed

end StrictTransport.Text.Canonical
