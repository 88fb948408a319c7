import Mathlib.Data.List.TakeWhile
import StrictTransport.Proofs.Text.Blank
import StrictTransport.Record.Parsing

namespace StrictTransport.Record

open Text

theorem sameGeneration_eq_true_iff (a b : Record) :
    a.sameGeneration (some b) = true ↔ ∃ da db, a.domain = some da ∧ b.domain = some db ∧
      Domain.normalize da = Domain.normalize db ∧ a.token = b.token := by
  cases hda : a.domain <;> cases hdb : b.domain <;> simp [sameGeneration, hda, hdb]

theorem take_length_takeWhile (p : Char → Bool) (cs : List Char) :
    cs.take (cs.takeWhile p).length = cs.takeWhile p :=
  List.prefix_iff_eq_take.mp (List.takeWhile_prefix p) |>.symm

theorem colon_notMem_takeWhile {p : Char → Bool} (h : p ':' = false) (cs : List Char) :
    ':' ∉ cs.takeWhile p := by
  intro hmem
  rw [List.mem_takeWhile_imp hmem] at h
  cases h

theorem colon_notMem_of_equalsSize? {cs : List Char} {n : Nat} (h : equalsSize? cs = some n) :
    ':' ∉ cs.take n := by
  simp only [equalsSize?] at h
  split at h
  · rename_i rest hdrop
    obtain rfl := Option.some.inj h
    rw [List.take_add, List.take_add, hdrop, take_length_takeWhile]
    have hrest : ((cs.drop ((cs.takeWhile isWsp).length + 1)).take
        (rest.takeWhile isWsp).length) = rest.takeWhile isWsp := by
      rw [← List.drop_drop, hdrop]
      exact take_length_takeWhile isWsp rest
    rw [hrest]
    simp only [List.mem_append, not_or]
    exact ⟨⟨colon_notMem_takeWhile (by decide) cs, by simp⟩,
      colon_notMem_takeWhile (by decide) rest⟩
  · cases h

theorem colon_notMem_of_tagAt? {cs : List Char} {tag : Tag} (h : tagAt? cs = some tag) :
    0 < tag.size ∧ ':' ∉ cs.take tag.size := by
  simp only [tagAt?] at h
  split at h
  · rename_i hname
    split at h
    · cases h
    · rename_i n hequals
      split at h
      · cases h
      · obtain rfl := Option.some.inj h
        refine ⟨by simp only; omega, ?_⟩
        simp only
        rw [List.take_add, List.take_add, take_length_takeWhile]
        have hprefix : ((cs.take 3).takeWhile isAsciiLetter) <+: cs :=
          (List.takeWhile_prefix _).trans (List.take_prefix 3 cs)
        rw [← List.prefix_iff_eq_take.mp hprefix]
        simp only [List.mem_append, not_or]
        exact ⟨⟨colon_notMem_takeWhile (by decide) _, colon_notMem_of_equalsSize? hequals⟩,
          colon_notMem_takeWhile (by decide) _⟩
  · cases h

-- The equations of the walk. Those that are derived from its definition are slow, as what a tag is
-- gets unfolded for them.
theorem walk_nil (expected : Expectation) (skipped : Bool) (size : Nat) :
    walk expected skipped size [] = none := by
  cases size <;> rfl

theorem walk_succ (expected : Expectation) (skipped : Bool) (size : Nat) (c : Char)
    (rest : List Char) :
    walk expected skipped (size + 1) (c :: rest) = walk expected skipped size rest := by
  rfl

theorem walk_zero (expected : Expectation) (skipped : Bool) (c : Char) (rest : List Char) :
    walk expected skipped 0 (c :: rest) =
      if isBlank c then walk expected true 0 rest
      else if expected = .tag then
        match tagAt? (c :: rest) with
        | some tag => walk .delimiter false (tag.size - 1) rest
        | none => some ⟨expected, skipped, rest.length + 1⟩
      else if c == ';' then walk .tag false (rest.takeWhile isWsp).length rest
      else some ⟨expected, skipped, rest.length + 1⟩ := by
  rfl

-- No element of the grammar has a colon in it.
theorem colon_notMem_of_walk (expected : Expectation) (skipped : Bool) (size : Nat)
    (cs : List Char) (h : walk expected skipped size cs = none) : ':' ∉ cs.drop size := by
  induction cs generalizing expected skipped size with
  | nil =>
      rw [List.drop_nil]
      exact List.not_mem_nil
  | cons c rest ih =>
      cases size with
      | succ size => exact ih expected skipped size h
      | zero =>
          rw [walk_zero] at h
          rw [List.drop_zero]
          split at h
          · rename_i hblank
            rw [List.mem_cons, not_or]
            refine ⟨?_, ih _ _ 0 h⟩
            rintro rfl
            exact absurd hblank (by decide)
          · split at h
            · split at h
              · rename_i tag htag
                obtain ⟨hpos, hfront⟩ := colon_notMem_of_tagAt? htag
                have hback := ih _ _ _ h
                rw [← List.take_append_drop tag.size (c :: rest), List.mem_append, not_or]
                refine ⟨hfront, ?_⟩
                obtain ⟨n, hn⟩ := Nat.exists_eq_add_of_le' hpos
                rw [hn] at hback ⊢
                exact hback
              · cases h
            · split at h
              · rename_i hdelimiter
                rw [beq_iff_eq] at hdelimiter
                rw [List.mem_cons, not_or, hdelimiter]
                refine ⟨by decide, ?_⟩
                rw [← List.take_append_drop (rest.takeWhile isWsp).length rest, List.mem_append,
                  not_or, take_length_takeWhile]
                exact ⟨colon_notMem_takeWhile (by decide) rest, ih _ _ _ h⟩
              · cases h

theorem dropLetters?_spec {expected cs rest : List Char}
    (h : dropLetters? expected cs = some rest) :
    ∃ front, cs = front ++ rest ∧ ∀ c ∈ front, ∃ e ∈ expected, sameLetter e c = true := by
  induction expected generalizing cs with
  | nil =>
      obtain rfl := Option.some.inj h
      exact ⟨[], rfl, fun _ hc => absurd hc List.not_mem_nil⟩
  | cons e expected ih =>
      cases cs with
      | nil => cases h
      | cons c cs =>
          rw [dropLetters?] at h
          split at h
          · rename_i hletter
            obtain ⟨front, rfl, hfront⟩ := ih h
            refine ⟨c :: front, rfl, fun d hd => ?_⟩
            rcases List.mem_cons.mp hd with rfl | hd
            · exact ⟨e, List.mem_cons_self, hletter⟩
            · obtain ⟨e', he', hsame⟩ := hfront d hd
              exact ⟨e', List.mem_cons_of_mem _ he', hsame⟩
          · cases h

theorem colon_notMem_of_dropLetters? {expected cs rest : List Char}
    (hexpected : expected.all (fun e => !sameLetter e ':') = true)
    (h : dropLetters? expected cs = some rest) (hrest : ':' ∉ rest) : ':' ∉ cs := by
  obtain ⟨front, rfl, hfront⟩ := dropLetters?_spec h
  rw [List.mem_append, not_or]
  refine ⟨fun hmem => ?_, hrest⟩
  obtain ⟨e, he, hsame⟩ := hfront ':' hmem
  have hother := List.all_eq_true.mp hexpected e he
  rw [hsame] at hother
  cases hother

theorem colon_notMem_of_dropWhile {p : Char → Bool} (hp : p ':' = false) {cs : List Char}
    (h : ':' ∉ cs.dropWhile p) : ':' ∉ cs := by
  rw [← List.takeWhile_append_dropWhile (p := p) (l := cs), List.mem_append, not_or]
  exact ⟨colon_notMem_takeWhile hp cs, h⟩

theorem colon_notMem_of_dropVersion? {cs rest : List Char} (h : dropVersion? cs = some rest)
    (hrest : ':' ∉ rest) : ':' ∉ cs := by
  unfold dropVersion? at h
  split at h
  · cases h
  · rename_i afterName hname
    split at h
    · cases h
    · rename_i n hequals
      split at h
      · cases h
      · rename_i afterValue hvalue
        split at h
        · rename_i afterDelimiter hdelimiter
          obtain rfl := Option.some.inj h
          have hend : ':' ∉ afterValue := by
            refine colon_notMem_of_dropWhile (p := isWsp) (by decide) ?_
            rw [hdelimiter, List.mem_cons, not_or]
            exact ⟨by decide, hrest⟩
          have hback := colon_notMem_of_dropLetters? (by decide) hvalue hend
          refine colon_notMem_of_dropLetters? (by decide) hname ?_
          rw [← List.take_append_drop n afterName, List.mem_append, not_or]
          exact ⟨colon_notMem_of_equalsSize? hequals, hback⟩
        · cases h

theorem colon_notMem_of_departure? {cs : List Char} (h : departure? cs = none) : ':' ∉ cs := by
  refine colon_notMem_of_dropWhile (p := isBlank) (by decide) ?_
  simp only [departure?] at h
  split at h
  · cases h
  · rename_i rest hversion
    refine colon_notMem_of_dropVersion? hversion ?_
    refine colon_notMem_of_dropWhile (p := isBlank) (by decide) ?_
    exact colon_notMem_of_walk _ _ _ _ h

theorem colon_notMem_of_parse {text : String} {parsed : Parsed} (h : parse text = .ok parsed) :
    ':' ∉ text.toList := by
  simp only [parse] at h
  split at h
  · cases h
  · split at h
    · cases h
    · rename_i hdeparture
      exact fun hmem => colon_notMem_of_departure? hdeparture (mem_trimWhile (by decide) hmem)

theorem mem_of_mem_idValue? {cs value : List Char} (h : idValue? cs = some value) {c : Char}
    (hc : c ∈ value) : c ∈ cs := by
  simp only [idValue?] at h
  split at h
  · cases h
  · rename_i afterName hname
    split at h
    · rename_i rest hequals
      split at h
      · cases h
      · obtain rfl := Option.some.inj h
        have hrest := (List.dropWhile_sublist _).subset ((List.takeWhile_sublist _).subset hc)
        have hname' : c ∈ afterName := (List.dropWhile_sublist isWsp).subset
          (hequals ▸ List.mem_cons_of_mem _ hrest)
        obtain ⟨front, hfront, -⟩ := dropLetters?_spec hname
        refine (List.dropWhile_sublist isWsp).subset ?_
        rw [hfront]
        exact List.mem_append_right _ hname'
    · cases h

theorem mem_of_mem_laterIdValue? {cs value : List Char} (h : laterIdValue? cs = some value)
    {c : Char} (hc : c ∈ value) : c ∈ cs := by
  induction cs with
  | nil => cases h
  | cons d rest ih =>
      rw [laterIdValue?] at h
      split at h
      · rename_i found hfound
        obtain rfl := Option.some.inj h
        split at hfound
        · exact List.mem_cons_of_mem _ (mem_of_mem_idValue? hfound hc)
        · cases hfound
      · exact List.mem_cons_of_mem _ (ih h)

theorem mem_of_mem_token {record : Record} {c : Char} (h : c ∈ record.token.toList) :
    c ∈ record.id.toList := by
  rw [token, onString, String.toList_ofList] at h
  have htext : ∀ c ∈ unquote (trim record.id.toList), c ∈ record.id.toList :=
    fun c hc => mem_of_mem_trimWhile (mem_of_mem_trimWhile hc)
  simp only [tokenChars] at h
  split at h
  · rename_i value hvalue
    exact htext c (mem_of_mem_idValue? hvalue h)
  · cases hlater : laterIdValue? (unquote (trim record.id.toList)) with
    | none =>
        rw [hlater] at h
        exact htext c h
    | some value =>
        rw [hlater] at h
        exact htext c (mem_of_mem_laterIdValue? hlater h)

-- So what is taken from a record that can be read has no colon either.
theorem colon_notMem_token {record : Record} {parsed : Parsed}
    (h : parse record.id = .ok parsed) : ':' ∉ record.token.toList :=
  fun hmem => colon_notMem_of_parse h (mem_of_mem_token hmem)

end StrictTransport.Record
