import StrictTransport.Text.Canonical

namespace StrictTransport.Text.Canonical

-- A starter that stands for itself, and that nothing before it takes in.
structure Loose (c : Char) : Prop where
  starter : combiningClass c = 0
  whole : decompose c = [c]
  second : ∀ d, compose? d c = none

-- One that takes nothing in either.
structure Inert (c : Char) : Prop extends Loose c where
  first : ∀ d, compose? c d = none

-- The form of a text that has characters from U+0300 on.
def full (cs : List Char) : List Char :=
  compose (order (cs.flatMap decompose))

section Order

theorem insertMark_of_starter {c : Char} (h : combiningClass c = 0) (done : List Char) :
    insertMark c done = c :: done := by
  cases done with
  | nil => rfl
  | cons d done => rw [insertMark, h, if_neg (by simp)]

-- A mark does not get past a starter.
theorem insertMark_append {d : Char} (h : combiningClass d = 0) (c : Char)
    (done before : List Char) :
    insertMark c (done ++ d :: before) = insertMark c done ++ d :: before := by
  induction done with
  | nil => simp [insertMark, h]
  | cons e done ih =>
      rw [List.cons_append, insertMark, insertMark]
      split
      · rw [ih, List.cons_append]
      · rfl

theorem foldl_insertMark_append {d : Char} (h : combiningClass d = 0) (done before cs : List Char) :
    cs.foldl (fun done c => insertMark c done) (done ++ d :: before) =
      cs.foldl (fun done c => insertMark c done) done ++ d :: before := by
  induction cs generalizing done with
  | nil => rfl
  | cons c cs ih => rw [List.foldl_cons, List.foldl_cons, insertMark_append h, ih]

theorem order_append_starter {c : Char} (h : combiningClass c = 0) (as bs : List Char) :
    order (as ++ c :: bs) = order as ++ c :: order bs := by
  simp only [order]
  rw [List.foldl_append, List.foldl_cons, insertMark_of_starter h]
  have hpart := foldl_insertMark_append h [] (as.foldl (fun done c => insertMark c done) []) bs
  rw [List.nil_append] at hpart
  rw [hpart]
  simp

theorem order_of_starters {cs : List Char} (h : ∀ c ∈ cs, combiningClass c = 0) :
    order cs = cs := by
  induction cs with
  | nil => rfl
  | cons c cs ih =>
      obtain ⟨hc, hcs⟩ := List.forall_mem_cons.mp h
      have hpart := order_append_starter hc [] cs
      rw [List.nil_append] at hpart
      rw [hpart, ih hcs]
      rfl

end Order

section Compose

-- What a text is composed to behind another one.
def Composing.behind (s : Composing) (before : List Char) : Composing :=
  { s with done := s.done ++ before }

theorem Composing.flush_behind (s : Composing) (before : List Char) :
    (s.behind before).flush = s.flush ++ before := by
  simp [behind, flush]

theorem Composing.push_behind (s : Composing) (before : List Char) (c : Char) :
    (s.behind before).push c = (s.push c).behind before := by
  have hsame : ((s.behind before).starter.bind fun starter =>
      if (s.behind before).blocks (combiningClass c) then none else compose? starter c) =
      s.starter.bind fun starter =>
        if s.blocks (combiningClass c) then none else compose? starter c := rfl
  rw [push, push, hsame]
  split
  · rfl
  · split
    · rw [flush_behind]
      rfl
    · rfl

theorem Composing.foldl_behind (s : Composing) (before cs : List Char) :
    cs.foldl push (s.behind before) = (cs.foldl push s).behind before := by
  induction cs generalizing s with
  | nil => rfl
  | cons c cs ih => rw [List.foldl_cons, List.foldl_cons, push_behind, ih]

theorem Composing.push_of_loose {c : Char} (h : Loose c) (s : Composing) :
    s.push c = ⟨s.flush, some c, []⟩ := by
  have hnone : (s.starter.bind fun starter =>
      if s.blocks (combiningClass c) then none else compose? starter c) = none := by
    cases s.starter with
    | none => rfl
    | some starter => rw [Option.bind_some, h.second, ite_self]
  rw [push, hnone, if_pos h.starter]

-- A starter that takes nothing in is as good as finished.
theorem Composing.flush_foldl_of_inert {c : Char} (h : Inert c) (done marks cs : List Char) :
    (cs.foldl push ⟨done, some c, marks⟩).flush =
      (cs.foldl push ⟨c :: done, none, marks⟩).flush := by
  induction cs generalizing marks with
  | nil => simp [flush]
  | cons d cs ih =>
      rw [List.foldl_cons, List.foldl_cons]
      have hstarter : (Composing.mk done (some c) marks).push d =
          if combiningClass d = 0 then ⟨marks ++ c :: done, some d, []⟩
            else ⟨done, some c, d :: marks⟩ := by
        rw [push, Option.bind_some, h.first, ite_self, flush]
        simp
      have hnone : (Composing.mk (c :: done) none marks).push d =
          if combiningClass d = 0 then ⟨marks ++ c :: done, some d, []⟩
            else ⟨c :: done, none, d :: marks⟩ := by
        rw [push, Option.bind_none, flush]
        simp
      rw [hstarter, hnone]
      split
      · rfl
      · exact ih (d :: marks)

theorem compose_append_inert {c : Char} (h : Inert c) (as bs : List Char) :
    compose (as ++ c :: bs) = compose as ++ c :: compose bs := by
  have hbehind : ∀ done : List Char,
      Composing.mk done none [] = (Composing.mk [] none []).behind done := fun _ => rfl
  simp only [compose]
  rw [List.foldl_append, List.foldl_cons, Composing.push_of_loose h.toLoose,
    Composing.flush_foldl_of_inert h, hbehind, Composing.foldl_behind, Composing.flush_behind]
  simp

theorem compose_of_loose {cs : List Char} (h : ∀ c ∈ cs, Loose c) : compose cs = cs := by
  have hflush : ∀ s : Composing, (cs.foldl Composing.push s).flush = cs.reverse ++ s.flush := by
    induction cs with
    | nil => exact fun _ => rfl
    | cons c cs ih =>
        intro s
        obtain ⟨hc, hcs⟩ := List.forall_mem_cons.mp h
        rw [List.foldl_cons, ih hcs, Composing.push_of_loose hc]
        simp [Composing.flush]
  rw [compose, hflush]
  simp [Composing.flush]

end Compose

theorem full_append_inert {c : Char} (h : Inert c) (as bs : List Char) :
    full (as ++ c :: bs) = full as ++ c :: full bs := by
  rw [full, List.flatMap_append, List.flatMap_cons, h.whole, List.singleton_append,
    order_append_starter h.starter, compose_append_inert h]
  rfl

theorem full_append {as bs : List Char} (h : ∀ c ∈ bs.head?, Inert c) :
    full (as ++ bs) = full as ++ full bs := by
  cases bs with
  | nil =>
      have hnil : full [] = [] := rfl
      rw [hnil, List.append_nil, List.append_nil]
  | cons c bs =>
      have hc := h c rfl
      have hpart := full_append_inert hc [] bs
      rw [List.nil_append] at hpart
      rw [full_append_inert hc, hpart]
      rfl

theorem full_of_loose {cs : List Char} (h : ∀ c ∈ cs, Loose c) : full cs = cs := by
  have hwhole : cs.flatMap decompose = cs := by
    induction cs with
    | nil => rfl
    | cons c cs ih =>
        obtain ⟨hc, hcs⟩ := List.forall_mem_cons.mp h
        rw [List.flatMap_cons, hc.whole, ih hcs]
        rfl
  rw [full, hwhole, order_of_starters fun c hc => (h c hc).starter, compose_of_loose h]

section Tables

-- What is needed of the tables, each of which is gone through once.
theorem pairs_spec : ∀ e ∈ Table.composites ++ Table.fragments,
    (0xC0 ≤ e.1 ∧ e.1 ≠ 0x131 ∧ e.1 ≠ 0x17F) ∧ 58 < e.2.1 ∧ 0x300 ≤ e.2.2 := by
  decide +kernel

theorem composites_spec : ∀ e ∈ Table.composites, 0xC0 ≤ e.1 ∧ 58 < e.2.1 ∧ 0x300 ≤ e.2.2 := by
  intro e he
  obtain ⟨⟨hlow, -⟩, hparts⟩ := pairs_spec e (List.mem_append_left _ he)
  exact ⟨hlow, hparts⟩

theorem singles_spec : ∀ e ∈ Table.singletons ++ Table.ideographs ++ Table.supplementaryIdeographs,
    0x300 ≤ e.1 ∧ e.2 ≠ 10 := by
  decide +kernel

theorem combiningClass_of_lt {c : Char} (h : c.toNat < 0x300) : combiningClass c = 0 := by
  have hfirst : ∀ r ∈ Table.combiningClasses.head?, 0x300 ≤ r.1 := by
    decide +kernel
  rw [combiningClass]
  cases hclasses : Table.combiningClasses with
  | nil => rfl
  | cons r classes =>
      have hr : 0x300 ≤ r.1 := hfirst r (by rw [hclasses]; rfl)
      rw [Table.classIn, if_pos (by omega)]

theorem Hangul.compose?_of_lt {a b : Nat} (h : b < 0x300) : Hangul.compose? a b = none := by
  have hvowel : ¬vowelBase ≤ b := by simp only [vowelBase]; omega
  have htail : ¬tailBase < b := by simp only [tailBase]; omega
  simp [Hangul.compose?, hvowel, htail]

theorem compose?_eq_none {a b : Char} (hhangul : Hangul.compose? a.toNat b.toNat = none)
    (htable : ∀ e ∈ Table.composites, e.2.1 = a.toNat → e.2.2 ≠ b.toNat) :
    compose? a b = none := by
  rw [compose?, hhangul]
  refine Option.map_eq_none_iff.mpr (List.find?_eq_none.mpr ?_)
  rintro ⟨n, first, second⟩ he hsame
  rw [Bool.and_eq_true, beq_iff_eq, beq_iff_eq] at hsame
  exact htable _ he hsame.1 hsame.2

theorem compose?_of_lt {c : Char} (h : c.toNat < 0x300) (d : Char) : compose? d c = none := by
  refine compose?_eq_none (Hangul.compose?_of_lt h) fun e he _ => ?_
  have hsecond := (composites_spec e he).2.2
  omega

theorem lookup_eq_none {α : Type} {entries : List (Nat × α)} {n : Nat}
    (h : ∀ e ∈ entries, e.1 ≠ n) : entries.lookup n = none := by
  rw [List.lookup_eq_none_iff]
  exact fun e he => bne_iff_ne.mpr (h e he).symm

-- The characters of legal names that stand before U+0300 are loose, and so are the blanks there.
theorem loose_of_lt {c : Char} (h : c.toNat < 0xC0 ∨ c.toNat ∈ [0x131, 0x17F]) : Loose c := by
  have hlt : c.toNat < 0x300 := by
    rcases h with hlow | hmem
    · omega
    · exact (show ∀ n ∈ [0x131, 0x17F], n < 0x300 by decide) _ hmem
  refine ⟨combiningClass_of_lt hlt, ?_, compose?_of_lt hlt⟩
  have hhangul : Hangul.decompose? c.toNat = none := by
    have hbase : ¬Hangul.syllableBase ≤ c.toNat := by simp only [Hangul.syllableBase]; omega
    simp [Hangul.decompose?, hbase]
  have hpairs : (Table.composites ++ Table.fragments).lookup c.toNat = none := by
    refine lookup_eq_none fun e he heq => ?_
    obtain ⟨⟨hlow, hdotless, hlong⟩, -⟩ := pairs_spec e he
    simp only [List.mem_cons, List.not_mem_nil, or_false] at h
    omega
  have hsingles : (Table.singletons ++ Table.ideographs ++
      Table.supplementaryIdeographs).lookup c.toNat = none := by
    refine lookup_eq_none fun e he heq => ?_
    have hlow := (singles_spec e he).1
    omega
  have hparts : parts? c.toNat = none := by
    simp only [parts?, hhangul, hpairs, hsingles]
  rw [decompose, decomposeTo]
  simp only [hparts, List.map_cons, List.map_nil, Char.ofNat_toNat]

-- Blanks and the colon.
def inertCodes : List Nat := [9, 10, 13, 32, 58]

theorem inert_of_mem {c : Char} (h : c.toNat ∈ inertCodes) : Inert c := by
  have hcode : c.toNat ≤ 58 := (show ∀ n ∈ inertCodes, n ≤ 58 by decide) _ h
  refine ⟨loose_of_lt (.inl (by omega)), fun d => ?_⟩
  have hhangul : Hangul.compose? c.toNat d.toNat = none := by
    have hlead : ¬Hangul.leadBase ≤ c.toNat := by simp only [Hangul.leadBase]; omega
    have hsyllable : ¬Hangul.syllableBase ≤ c.toNat := by simp only [Hangul.syllableBase]; omega
    simp [Hangul.compose?, hlead, hsyllable]
  refine compose?_eq_none hhangul fun e he heq => ?_
  have hfirst := (composites_spec e he).2.1
  omega

end Tables

end StrictTransport.Text.Canonical
