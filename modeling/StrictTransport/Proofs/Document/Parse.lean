import Mathlib.Data.List.Forall2
import StrictTransport.Proofs.Document.Line
import StrictTransport.Proofs.Text.Split
import StrictTransport.Proofs.Text.Utf8

namespace StrictTransport.Document

open Text

-- What the lines of a body are: joined by their ends they make the body, and no line holds an end.
-- The ends are CR LF if the body has one, and LF if not.
def AreLines (body : Bytes) (ls : List Bytes) : Prop :=
  ls ≠ [] ∧
    if [cr, lf] <:+: body then
      [cr, lf].intercalate ls = body ∧ ∀ line ∈ ls, ¬[cr, lf] <:+: line
    else
      [lf].intercalate ls = body ∧ ∀ line ∈ ls, lf ∉ line

-- A line that is not too long and has a key and a value.
def Carries (limits : Limits) (line : Bytes) (pair : String × String) : Prop :=
  (line.length : Int) ≤ limits.lineLength ∧
    ∃ key value, PairForm line key value ∧ pair = (keyText key, text value)

def visible (ls : List Bytes) : List Bytes :=
  ls.filter fun line => !line.all isBlankByte

theorem areLines_iff (body : Bytes) (ls : List Bytes) : AreLines body ls ↔ ls = lines body := by
  have hne : cr ≠ lf := by decide
  unfold AreLines lines
  by_cases h : [cr, lf] <:+: body
  · rw [if_pos h, if_pos ((hasPair_iff cr lf body).mpr h)]
    constructor
    · rintro ⟨hls, hbody, hlines⟩
      rw [← hbody, splitOnPair_intercalate cr lf hne ls hls hlines]
    · rintro rfl
      exact ⟨splitOnPair_ne_nil cr lf body, intercalate_splitOnPair cr lf body,
        not_infix_of_mem_splitOnPair cr lf body⟩
  · rw [if_neg h, if_neg (fun hp => h ((hasPair_iff cr lf body).mp hp)), splitOn_eq]
    constructor
    · rintro ⟨hls, hbody, hlines⟩
      rw [← hbody, List.splitOn_intercalate lf hlines hls]
    · rintro rfl
      exact ⟨List.splitOn_ne_nil lf body, List.intercalate_splitOn lf,
        notMem_of_mem_splitOn lf body⟩

theorem lf_notMem_text (value : Bytes) (h : lf ∉ value) : '\n' ∉ (text value).toList := by
  rw [text, String.toList_ofList]
  exact fun hm => h (Utf8.mem_of_mem_decodeLossy value '\n' (by decide) hm)

theorem not_all_blank_of_colon {line : Bytes} (h : colon ∈ line) :
    line.all isBlankByte = false := by
  rw [← Bool.not_eq_true]
  intro hall
  exact absurd (List.all_eq_true.mp hall colon h) (by decide)

theorem PairForm.colon_mem {line key value : Bytes} (h : PairForm line key value) :
    colon ∈ line := by
  obtain ⟨before, gap, rest, rfl, -, -, -, -⟩ := h
  simp

theorem PairForm.visible {line key value : Bytes} (h : PairForm line key value) :
    line.all isBlankByte = false :=
  not_all_blank_of_colon h.colon_mem

theorem readLine_eq_nothing_iff (limits : Limits) (number : Nat) (line : Bytes) :
    readLine limits number line = .nothing ↔ line.all isBlankByte = true := by
  unfold readLine
  split
  · next h => simp [h]
  · next h =>
      refine iff_of_false ?_ h
      split
      · simp
      · split <;> simp

theorem readLine_eq_pair_iff (limits : Limits) (number : Nat) (line : Bytes) (k v : String) :
    readLine limits number line = .pair k v ↔ Carries limits line (k, v) := by
  unfold readLine Carries
  split
  · next h =>
      refine iff_of_false (by simp) ?_
      rintro ⟨-, key, value, hform, -⟩
      simp [hform.visible] at h
  · split
    · next hlong => exact iff_of_false (by simp) (fun h => absurd h.1 (by omega))
    · next hlong =>
        cases hp : pair? line with
        | none =>
            refine iff_of_false (by simp) ?_
            rintro ⟨-, key, value, hform, -⟩
            simp [pair?_of_pairForm hform] at hp
        | some pair =>
            obtain ⟨key, value⟩ := pair
            constructor
            · intro h
              obtain ⟨rfl, rfl⟩ := Reading.pair.inj h
              exact ⟨by omega, key, value, PairForm.of_pair? hp, rfl⟩
            · rintro ⟨-, key', value', hform, heq⟩
              rw [pair?_of_pairForm hform] at hp
              obtain ⟨rfl, rfl⟩ := Prod.mk.inj (Option.some.inj hp)
              obtain ⟨rfl, rfl⟩ := Prod.mk.inj heq
              rfl

theorem Carries.visible {limits : Limits} {line : Bytes} {pair : String × String}
    (h : Carries limits line pair) : line.all isBlankByte = false := by
  obtain ⟨-, key, value, hform, -⟩ := h
  exact hform.visible

theorem visible_cons (line : Bytes) (ls : List Bytes) :
    visible (line :: ls) = if line.all isBlankByte then visible ls else line :: visible ls := by
  cases h : line.all isBlankByte <;> simp [visible, h]

-- Lines may be numbered from anywhere.
def readingsFrom (limits : Limits) (first : Nat) (ls : List Bytes) : List Reading :=
  (ls.zipIdx first).map fun (line, number) => readLine limits number line

theorem readingsFrom_cons (limits : Limits) (first : Nat) (line : Bytes) (ls : List Bytes) :
    readingsFrom limits first (line :: ls) =
      readLine limits first line :: readingsFrom limits (first + 1) ls := by
  simp only [readingsFrom, List.zipIdx_cons, List.map_cons]

-- A visible line has a pair or a problem, never both.
theorem readingsFrom_iff (limits : Limits) (ls : List Bytes) (first : Nat)
    (pairs : List (String × String)) :
    ((readingsFrom limits first ls).filterMap Reading.pair? = pairs ∧
        (readingsFrom limits first ls).filterMap Reading.problem? = []) ↔
      List.Forall₂ (Carries limits) (visible ls) pairs := by
  induction ls generalizing first pairs with
  | nil =>
      change [] = pairs ∧ [] = [] ↔ List.Forall₂ (Carries limits) [] pairs
      rw [List.forall₂_nil_left_iff]
      exact ⟨fun h => h.1.symm, fun h => ⟨h.symm, rfl⟩⟩
  | cons line ls ih =>
      rw [readingsFrom_cons]
      cases h : readLine limits first line with
      | nothing =>
          have hblank := (readLine_eq_nothing_iff limits first line).mp h
          rw [visible_cons, if_pos hblank]
          exact ih (first + 1) pairs
      | pair k v =>
          have hcarries := (readLine_eq_pair_iff limits first line k v).mp h
          rw [visible_cons, if_neg (by simp [hcarries.visible]), List.forall₂_cons_left_iff]
          simp only [List.filterMap_cons, Reading.pair?, Reading.problem?, ← ih (first + 1)]
          constructor
          · rintro ⟨rfl, hproblems⟩
            exact ⟨(k, v), _, hcarries, ⟨rfl, hproblems⟩, rfl⟩
          · rintro ⟨pair, pairs, hpair, ⟨rfl, hproblems⟩, rfl⟩
            have hread := (readLine_eq_pair_iff limits first line pair.1 pair.2).mpr hpair
            rw [h] at hread
            obtain ⟨rfl, rfl⟩ := Reading.pair.inj hread
            exact ⟨rfl, hproblems⟩
      | problem p =>
          have hvisible : ¬line.all isBlankByte = true := by
            intro hblank
            rw [(readLine_eq_nothing_iff limits first line).mpr hblank] at h
            cases h
          rw [visible_cons, if_neg hvisible]
          refine iff_of_false (fun hall => by simp [Reading.problem?] at hall) ?_
          intro hall
          obtain ⟨pair, pairs', hcarries, -, -⟩ := List.forall₂_cons_left_iff.mp hall
          rw [(readLine_eq_pair_iff limits first line pair.1 pair.2).mpr hcarries] at h
          cases h

-- Reading a document raises no cautions, so its problems are all that is found.
theorem parse_eq_iff_problems (limits : Limits) (body : Bytes) (pairs : List (String × String)) :
    parse limits body = (pairs, .empty) ↔
      (parse limits body).1 = pairs ∧ (parse limits body).2.problems = [] := by
  constructor
  · intro h
    simp only [h, Validation.empty, and_self]
  · rintro ⟨hpairs, hproblems⟩
    have hvalidation : (parse limits body).2 = .empty := by
      change Validation.mk (parse limits body).2.problems [] = .empty
      rw [hproblems, Validation.empty]
    rw [← hpairs, ← hvalidation]

theorem parse_eq_iff (limits : Limits) (body : Bytes) (pairs : List (String × String)) :
    parse limits body = (pairs, .empty) ↔
      List.Forall₂ (Carries limits) (visible (lines body)) pairs := by
  rw [parse_eq_iff_problems, ← readingsFrom_iff limits (lines body) 1 pairs]
  rfl

end StrictTransport.Document
