import Mathlib.Data.List.Forall2
import StrictTransport.Proofs.Record.Token
import StrictTransport.Proofs.Text.Lower

namespace StrictTransport.Record

open Text

def AllBlank (cs : List Char) : Prop :=
  ∀ c ∈ cs, isBlank c = true

def AllWsp (cs : List Char) : Prop :=
  ∀ c ∈ cs, isWsp c = true

-- The same letters, whatever their case.
def Spells (expected cs : List Char) : Prop :=
  List.Forall₂ (fun e c => sameLetter e c = true) expected cs

-- An equals sign with blanks around it.
def EqualsForm (cs : List Char) : Prop :=
  ∃ before after, cs = before ++ '=' :: after ∧ AllWsp before ∧ AllWsp after

-- The version with its semicolon.
def VersionForm (cs : List Char) : Prop :=
  ∃ name equals value blanks, cs = name ++ (equals ++ (value ++ (blanks ++ [';']))) ∧
    Spells ['v'] name ∧ EqualsForm equals ∧ Spells ['S', 'T', 'S', 'v', '1'] value ∧ AllWsp blanks

def isIdChar (c : Char) : Bool :=
  isAsciiLetter c || isAsciiDigit c

-- The tag with the id.
def IdForm (cs id : List Char) : Prop :=
  ∃ name equals, cs = name ++ (equals ++ id) ∧ Spells ['i', 'd'] name ∧ EqualsForm equals ∧
    id ≠ [] ∧ ∀ c ∈ id, isIdChar c = true

-- A tag: one or two letters, an equals sign, and letters and digits.
def TagForm (cs name value : List Char) : Prop :=
  ∃ equals, cs = name ++ (equals ++ value) ∧ EqualsForm equals ∧
    (name.length = 1 ∨ name.length = 2) ∧ (∀ c ∈ name, isAsciiLetter c = true) ∧
    value ≠ [] ∧ ∀ c ∈ value, isIdChar c = true

section Characters

theorem AllWsp.allBlank {cs : List Char} (h : AllWsp cs) : AllBlank cs :=
  fun c hc => isBlank_of_isWsp (h c hc)

theorem isAsciiLetter_of_sameLetter {e c : Char} (h : sameLetter e c = true) :
    isAsciiLetter c = isAsciiLetter e := by
  rw [sameLetter, beq_iff_eq] at h
  rw [isAsciiLetter, isAsciiLetter, h]

theorem isAsciiLetter_of_isBlank {c : Char} (h : isBlank c = true) : isAsciiLetter c = false := by
  rw [← Bool.not_eq_true]
  intro hletter
  have hcode : ∀ n ∈ smallLetters ++ otherLetters, isBlank (Char.ofNat n) = false := by decide
  have hblank := hcode _ (mem_letters_of_isAsciiLetter hletter)
  rw [Char.ofNat_toNat, h] at hblank
  cases hblank

theorem isAsciiDigit_of_isBlank {c : Char} (h : isBlank c = true) : isAsciiDigit c = false := by
  rw [← Bool.not_eq_true]
  intro hdigit
  have hcode : ∀ n < 58, 48 ≤ n → isBlank (Char.ofNat n) = false := by decide
  rw [isAsciiDigit, Bool.and_eq_true, decide_eq_true_iff, decide_eq_true_iff] at hdigit
  have hblank := hcode c.toNat (Nat.lt_succ_of_le hdigit.2) hdigit.1
  rw [Char.ofNat_toNat, h] at hblank
  cases hblank

theorem isIdChar_of_isBlank {c : Char} (h : isBlank c = true) : isIdChar c = false := by
  rw [isIdChar, isAsciiLetter_of_isBlank h, isAsciiDigit_of_isBlank h]
  rfl

theorem isBlank_of_isIdChar {c : Char} (h : isIdChar c = true) : isBlank c = false := by
  rw [← Bool.not_eq_true]
  intro hblank
  rw [isIdChar_of_isBlank hblank] at h
  cases h

theorem isWsp_of_isIdChar {c : Char} (h : isIdChar c = true) : isWsp c = false := by
  rw [← Bool.not_eq_true]
  intro hwsp
  rw [isIdChar_of_isBlank (isBlank_of_isWsp hwsp)] at h
  cases h

theorem isIdChar_of_sameLetter {e c : Char} (he : isAsciiLetter e = true)
    (h : sameLetter e c = true) : isIdChar c = true := by
  rw [isIdChar, isAsciiLetter_of_sameLetter h, he]
  rfl

theorem isTokenChar_of_isIdChar {c : Char} (h : isIdChar c = true) : isTokenChar c = true := by
  rw [isTokenChar, Bool.and_eq_true, bne_iff_ne, Bool.not_eq_true']
  refine ⟨?_, isBlank_of_isIdChar h⟩
  rintro rfl
  exact absurd h (by decide)

theorem eq_one_of_sameLetter {c : Char} (h : sameLetter '1' c = true) : c = '1' := by
  have hone : letter '1' = '1' := by decide
  rw [sameLetter, beq_iff_eq, hone, letter] at h
  have hlow : Table.mapRuns c.toNat Table.lowercase = 49 := by
    generalize Table.mapRuns c.toNat Table.lowercase = low at h ⊢
    cases hlookup : letterVariants.lookup low with
    | none =>
        rw [hlookup, Option.getD_none] at h
        rcases toNat_ofNat_or low with heq | heq
        · rw [← h] at heq
          exact heq.symm
        · rw [← h] at heq
          cases heq
    | some v =>
        have hvariants : ∀ e ∈ letterVariants, Char.ofNat e.2 ≠ '1' := by decide
        rw [hlookup] at h
        obtain ⟨before, after, heq, -⟩ := List.lookup_eq_some_iff.mp hlookup
        exact absurd h.symm (hvariants (low, v) (heq ▸ List.mem_append_right _ List.mem_cons_self))
  have hsources : Table.sources 49 Table.lowercase = [49] := by decide
  have hmem := Table.mem_sources _ 49 (by decide) _ hlow
  rw [hsources, List.mem_singleton] at hmem
  rw [← Char.ofNat_toNat c, hmem]

theorem isIdChar_of_version {e c : Char} (he : e ∈ ['S', 'T', 'S', 'v', '1'])
    (h : sameLetter e c = true) : isIdChar c = true := by
  by_cases hone : e = '1'
  · subst hone
    rw [eq_one_of_sameLetter h]
    decide
  · have hletters : ['S', 'T', 'S', 'v', '1'].all (fun e => e == '1' || isAsciiLetter e) =
        true := by
      decide
    have hletter := List.all_eq_true.mp hletters e he
    rw [Bool.or_eq_true, beq_iff_eq] at hletter
    exact isIdChar_of_sameLetter (hletter.resolve_left hone) h

theorem isAsciiLetter_of_isWsp {c : Char} (h : isWsp c = true) : isAsciiLetter c = false :=
  isAsciiLetter_of_isBlank (isBlank_of_isWsp h)

theorem isAsciiLetter_equals : isAsciiLetter '=' = false := by
  decide

theorem isAsciiLetter_semicolon : isAsciiLetter ';' = false := by
  decide

end Characters

section Elements

theorem dropLetters?_eq_some_iff {expected cs rest : List Char} :
    dropLetters? expected cs = some rest ↔ ∃ front, cs = front ++ rest ∧ Spells expected front := by
  induction expected generalizing cs with
  | nil =>
      simp only [dropLetters?, Option.some.injEq, Spells, List.forall₂_nil_left_iff]
      constructor
      · exact fun h => ⟨[], h, rfl⟩
      · rintro ⟨front, h, rfl⟩
        exact h
  | cons e expected ih =>
      simp only [Spells, List.forall₂_cons_left_iff]
      cases cs with
      | nil =>
          constructor
          · intro h
            cases h
          · rintro ⟨front, h, c, front', -, -, rfl⟩
            cases h
      | cons c cs =>
          rw [dropLetters?]
          constructor
          · intro h
            split at h
            · rename_i hletter
              obtain ⟨front, rfl, hfront⟩ := ih.mp h
              exact ⟨c :: front, rfl, c, front, hletter, hfront, rfl⟩
            · cases h
          · rintro ⟨_, h, c', front, hletter, hfront, rfl⟩
            obtain ⟨rfl, rfl⟩ := List.cons.inj h
            rw [if_pos hletter]
            exact ih.mpr ⟨front, rfl, hfront⟩

theorem Spells.cons {e : Char} {expected cs : List Char} (h : Spells (e :: expected) cs) :
    ∃ c rest, cs = c :: rest ∧ sameLetter e c = true ∧ Spells expected rest := by
  obtain ⟨c, rest, hc, hrest, rfl⟩ := List.forall₂_cons_left_iff.mp h
  exact ⟨c, rest, rfl, hc, hrest⟩

theorem Spells.singleton {e : Char} {cs : List Char} (h : Spells [e] cs) :
    ∃ c, cs = [c] ∧ sameLetter e c = true := by
  obtain ⟨c, rest, rfl, hc, hrest⟩ := h.cons
  rw [List.forall₂_nil_left_iff.mp hrest]
  exact ⟨c, rfl, hc⟩

theorem Spells.pair {e f : Char} {cs : List Char} (h : Spells [e, f] cs) :
    ∃ c d, cs = [c, d] ∧ sameLetter e c = true ∧ sameLetter f d = true := by
  obtain ⟨c, rest, rfl, hc, hrest⟩ := h.cons
  obtain ⟨d, rfl, hd⟩ := hrest.singleton
  exact ⟨c, d, rfl, hc, hd⟩

theorem Spells.of_mem {expected cs : List Char} (h : Spells expected cs) {c : Char} (hc : c ∈ cs) :
    ∃ e ∈ expected, sameLetter e c = true := by
  induction h with
  | nil => cases hc
  | cons hletter _ ih =>
      rcases List.mem_cons.mp hc with rfl | hc
      · exact ⟨_, List.mem_cons_self, hletter⟩
      · obtain ⟨e, he, hsame⟩ := ih hc
        exact ⟨e, List.mem_cons_of_mem _ he, hsame⟩

theorem allWsp_takeWhile (cs : List Char) : AllWsp (cs.takeWhile isWsp) :=
  fun _ hc => List.mem_takeWhile_imp hc

theorem equalsSize?_spec {cs : List Char} {n : Nat} (h : equalsSize? cs = some n) :
    ∃ equals, cs = equals ++ cs.drop n ∧ equals.length = n ∧ EqualsForm equals := by
  simp only [equalsSize?] at h
  split at h
  · rename_i rest hdrop
    obtain rfl := Option.some.inj h
    have hsplit : cs = cs.takeWhile isWsp ++ '=' :: rest := by
      rw [← hdrop, ← take_length_takeWhile isWsp cs, List.length_take_of_le, List.take_append_drop]
      exact (List.takeWhile_sublist isWsp).length_le
    have hrest : rest = rest.takeWhile isWsp ++ rest.drop (rest.takeWhile isWsp).length := by
      conv_lhs => rw [← List.take_append_drop (rest.takeWhile isWsp).length rest]
      rw [take_length_takeWhile]
    refine ⟨cs.takeWhile isWsp ++ '=' :: rest.takeWhile isWsp, ?_, ?_, _, _, rfl,
      allWsp_takeWhile cs, allWsp_takeWhile rest⟩
    · rw [← List.drop_drop, ← List.drop_drop, hdrop, List.append_assoc, List.cons_append]
      rw [List.drop_one, List.tail_cons, ← hrest, ← hsplit]
    · rw [List.length_append, List.length_cons]
      omega
  · cases h

theorem tagAt?_spec {cs : List Char} {tag : Tag} (h : tagAt? cs = some tag) :
    ∃ equals, cs = tag.name ++ (equals ++ tag.value) ++ cs.drop tag.size ∧ EqualsForm equals ∧
      (tag.name.length = 1 ∨ tag.name.length = 2) ∧ (∀ c ∈ tag.name, isAsciiLetter c = true) ∧
      tag.value ≠ [] ∧ (∀ c ∈ tag.value, isIdChar c = true) ∧ 0 < tag.size := by
  simp only [tagAt?] at h
  split at h
  · rename_i hname
    split at h
    · cases h
    · rename_i n hequals
      split at h
      · cases h
      · rename_i hvalue
        obtain rfl := Option.some.inj h
        simp only
        obtain ⟨equals, hsplit, hlength, hform⟩ := equalsSize?_spec hequals
        have hprefix : ((cs.take 3).takeWhile isAsciiLetter) <+: cs :=
          (List.takeWhile_prefix _).trans (List.take_prefix 3 cs)
        generalize hnames : (cs.take 3).takeWhile isAsciiLetter = name at *
        generalize hvalues : (cs.drop (name.length + n)).takeWhile
          (fun c => isAsciiLetter c || isAsciiDigit c) = value at *
        have hfront : cs = name ++ (equals ++ cs.drop (name.length + n)) := by
          conv_lhs => rw [List.prefix_iff_eq_append.mp hprefix |>.symm, hsplit, List.drop_drop]
        have hback : cs.drop (name.length + n) =
            value ++ cs.drop (name.length + n + value.length) := by
          have hvaluePrefix : value <+: cs.drop (name.length + n) :=
            hvalues ▸ List.takeWhile_prefix _
          conv_lhs => rw [List.prefix_iff_eq_append.mp hvaluePrefix |>.symm, List.drop_drop]
        refine ⟨equals, ?_, hform, hname, ?_, ?_, ?_, by omega⟩
        · rw [List.append_assoc, List.append_assoc, ← hback, ← hfront]
        · rw [← hnames]
          exact fun c hc => List.mem_takeWhile_imp hc
        · exact fun hnil => hvalue (List.isEmpty_iff.mpr hnil)
        · rw [← hvalues]
          exact fun c hc => List.mem_takeWhile_imp hc
  · cases h

theorem takeWhile_append_of_neg {α : Type} {p : α → Bool} {cs rest : List α}
    (h : ∀ c ∈ cs, p c = true) (hrest : ∀ c ∈ rest.head?, p c = false) :
    (cs ++ rest).takeWhile p = cs := by
  rw [List.takeWhile_append_of_pos h]
  cases rest with
  | nil => rw [List.takeWhile_nil, List.append_nil]
  | cons c rest =>
      rw [List.takeWhile_cons_of_neg, List.append_nil]
      rw [hrest c rfl]
      exact Bool.false_ne_true

-- No element of the grammar begins or ends with white space, apart from the blanks around the
-- equals sign.
theorem EqualsForm.head? {cs : List Char} (h : EqualsForm cs) (rest : List Char) :
    ∀ c ∈ (cs ++ rest).head?, isAsciiLetter c = false := by
  obtain ⟨before, after, rfl, hbefore, -⟩ := h
  rintro c hc
  cases before with
  | nil =>
      rw [← Option.some.inj hc]
      exact isAsciiLetter_equals
  | cons b before =>
      rw [← Option.some.inj hc]
      exact isAsciiLetter_of_isWsp (hbefore b List.mem_cons_self)

theorem isIdChar_semicolon : isIdChar ';' = false := by
  decide

theorem equalsSize?_append {equals rest : List Char} (h : EqualsForm equals)
    (hrest : ∀ c ∈ rest.head?, isWsp c = false) :
    equalsSize? (equals ++ rest) = some equals.length := by
  obtain ⟨before, after, rfl, hbefore, hafter⟩ := h
  have htake : (before ++ '=' :: after ++ rest).takeWhile isWsp = before := by
    rw [List.append_assoc]
    refine takeWhile_append_of_neg hbefore fun c hc => ?_
    obtain rfl : '=' = c := Option.some.inj hc
    decide
  simp only [equalsSize?, htake]
  rw [List.append_assoc, List.drop_left]
  simp only [List.cons_append, takeWhile_append_of_neg hafter hrest, List.length_append,
    List.length_cons]
  congr 1
  omega

theorem tagAt?_append {name equals value rest : List Char}
    (hname : name.length = 1 ∨ name.length = 2) (hletters : ∀ c ∈ name, isAsciiLetter c = true)
    (hequals : EqualsForm equals) (hnil : value ≠ []) (hvalue : ∀ c ∈ value, isIdChar c = true)
    (hrest : ∀ c ∈ rest.head?, isIdChar c = false) :
    tagAt? (name ++ (equals ++ (value ++ rest))) =
      some ⟨name, value, name.length + equals.length + value.length⟩ := by
  have hhead : ∀ c ∈ (value ++ rest).head?, isWsp c = false := by
    obtain ⟨c, value, rfl⟩ := List.exists_cons_of_ne_nil hnil
    rintro _ ⟨⟩
    exact isWsp_of_isIdChar (hvalue c List.mem_cons_self)
  have hfront : ((name ++ (equals ++ (value ++ rest))).take 3).takeWhile isAsciiLetter = name := by
    have hlength : name.length ≤ 3 := by omega
    rw [List.take_append, List.take_of_length_le hlength]
    refine takeWhile_append_of_neg hletters fun c hc => ?_
    refine hequals.head? (value ++ rest) c ?_
    rw [List.head?_take, if_neg (by omega)] at hc
    exact hc
  have htake : (value ++ rest).takeWhile (fun c => isAsciiLetter c || isAsciiDigit c) = value :=
    takeWhile_append_of_neg hvalue hrest
  simp only [tagAt?, hfront]
  rw [if_pos hname, List.drop_left, equalsSize?_append hequals hhead]
  simp only
  rw [← List.drop_drop, List.drop_left, List.drop_left, htake, if_neg]
  rw [List.isEmpty_iff]
  exact hnil

theorem dropVersion?_form {cs rest : List Char} (h : dropVersion? cs = some rest) :
    ∃ name equals value blanks, cs = name ++ (equals ++ (value ++ (blanks ++ ';' :: rest))) ∧
      Spells ['v'] name ∧ EqualsForm equals ∧ Spells ['S', 'T', 'S', 'v', '1'] value ∧
      AllWsp blanks := by
  unfold dropVersion? at h
  split at h
  · cases h
  · rename_i afterName hname
    split at h
    · cases h
    · rename_i n hequals
      split at h
      · cases h
      · rename_i afterValue hvalue
        split at h
        · rename_i afterVersion hend
          obtain rfl := Option.some.inj h
          obtain ⟨name, rfl, hspells⟩ := dropLetters?_eq_some_iff.mp hname
          obtain ⟨equals, hsplit, -, hform⟩ := equalsSize?_spec hequals
          obtain ⟨value, hdrop, hversion⟩ := dropLetters?_eq_some_iff.mp hvalue
          have hblanks : afterValue = afterValue.takeWhile isWsp ++ ';' :: afterVersion := by
            rw [← hend, List.takeWhile_append_dropWhile]
          rw [hdrop, hblanks] at hsplit
          exact ⟨name, equals, value, afterValue.takeWhile isWsp, by rw [hsplit], hspells, hform,
            hversion, allWsp_takeWhile afterValue⟩
        · cases h

theorem AllBlank.not_isIdChar {blanks : List Char} (h : AllBlank blanks) {rest : List Char}
    (hrest : ∀ c ∈ rest.head?, isIdChar c = false) :
    ∀ c ∈ (blanks ++ rest).head?, isIdChar c = false := by
  cases blanks with
  | nil => exact hrest
  | cons b blanks =>
      rintro _ ⟨⟩
      exact isIdChar_of_isBlank (h b List.mem_cons_self)

theorem head?_semicolon (rest : List Char) : ∀ c ∈ (';' :: rest).head?, isIdChar c = false := by
  rintro _ ⟨⟩
  exact isIdChar_semicolon

theorem tagForm_of_tagAt? {cs : List Char} {tag : Tag} (h : tagAt? cs = some tag) :
    ∃ part, cs = part ++ cs.drop tag.size ∧ TagForm part tag.name tag.value ∧ 0 < tag.size := by
  obtain ⟨equals, hcs, hequals, hlength, hletters, hnil, hvalue, hsize⟩ := tagAt?_spec h
  exact ⟨tag.name ++ (equals ++ tag.value), hcs,
    ⟨equals, rfl, hequals, hlength, hletters, hnil, hvalue⟩, hsize⟩

-- A tag is read as it is written if no letter or digit stands behind it.
theorem TagForm.exists_tagAt? {part name value rest : List Char} (h : TagForm part name value)
    (hrest : ∀ c ∈ rest.head?, isIdChar c = false) :
    ∃ tag, tagAt? (part ++ rest) = some tag ∧ tag.name = name ∧ tag.value = value ∧
      (part ++ rest).drop tag.size = rest := by
  obtain ⟨equals, rfl, hequals, hlength, hletters, hnil, hvalue⟩ := h
  have htag := tagAt?_append hlength hletters hequals hnil hvalue hrest
  rw [List.append_assoc, List.append_assoc]
  refine ⟨_, htag, rfl, rfl, ?_⟩
  rw [← List.drop_drop, ← List.drop_drop, List.drop_left, List.drop_left, List.drop_left]

-- The version is a tag of its own.
theorem tagForm_version {name equals value : List Char} (hname : Spells ['v'] name)
    (hequals : EqualsForm equals) (hvalue : Spells ['S', 'T', 'S', 'v', '1'] value) :
    TagForm (name ++ (equals ++ value)) name value := by
  obtain ⟨v, rfl, hv⟩ := hname.singleton
  have hletter : isAsciiLetter v = true := by
    rw [isAsciiLetter_of_sameLetter hv]
    decide
  have hnil : value ≠ [] := by
    rintro rfl
    cases hvalue
  have hidchars : ∀ c ∈ value, isIdChar c = true := by
    intro c hc
    obtain ⟨e, he, hsame⟩ := hvalue.of_mem hc
    exact isIdChar_of_version he hsame
  exact ⟨equals, rfl, hequals, .inl rfl, List.forall_mem_singleton.mpr hletter, hnil, hidchars⟩

theorem dropVersion?_append {name equals value blanks : List Char} (hname : Spells ['v'] name)
    (hequals : EqualsForm equals) (hvalue : Spells ['S', 'T', 'S', 'v', '1'] value)
    (hblanks : AllWsp blanks) (rest : List Char) :
    dropVersion? (name ++ (equals ++ (value ++ (blanks ++ ';' :: rest)))) = some rest := by
  have hletters : ∀ {expected front : List Char}, Spells expected front → ∀ back,
      dropLetters? expected (front ++ back) = some back :=
    fun h back => dropLetters?_eq_some_iff.mpr ⟨_, rfl, h⟩
  have hhead : ∀ c ∈ (value ++ (blanks ++ ';' :: rest)).head?, isWsp c = false := by
    obtain ⟨s, others, rfl, hs, -⟩ := hvalue.cons
    rintro _ ⟨⟩
    exact isWsp_of_isIdChar (isIdChar_of_version List.mem_cons_self hs)
  have hend : (blanks ++ ';' :: rest).dropWhile isWsp = ';' :: rest := by
    rw [List.dropWhile_append_of_pos hblanks, List.dropWhile_cons_of_neg (by decide)]
  simp only [dropVersion?, hletters hname, equalsSize?_append hequals hhead, List.drop_left,
    hletters hvalue, hend]

end Elements

end StrictTransport.Record
