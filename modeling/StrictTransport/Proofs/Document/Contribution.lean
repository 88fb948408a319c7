import StrictTransport.Proofs.Document.Parse
import StrictTransport.Proofs.Text.Fault
import StrictTransport.Proofs.Text.Lower

namespace StrictTransport.Document

open Text

-- What one line adds, by its number and its own bytes alone. Only of a visible line that is not too
-- long it is asked whether it has the form of a pair.
inductive Contributes (limits : Limits) (number : Nat) (line : Bytes) : Reading → Prop
  | blank (hblank : ∀ b ∈ line, isBlankByte b = true) : Contributes limits number line .nothing
  | pair {key value : Bytes} {name content : String}
      (hfits : (line.length : Int) ≤ limits.lineLength) (hform : PairForm line key value)
      (hname : Utf8.Decodes key name.toList) (hcontent : Utf8.Decodes value content.toList) :
      Contributes limits number line (.pair (lowered name) content)
  | long (hvisible : ∃ b ∈ line, isBlankByte b = false)
      (hlong : limits.lineLength < line.length) :
      Contributes limits number line (.problem (.longLine number limits.lineLength))
  | bad {shown : String} (hvisible : ∃ b ∈ line, isBlankByte b = false)
      (hfits : (line.length : Int) ≤ limits.lineLength)
      (hform : ∀ key value, ¬PairForm line key value)
      (hshown : Utf8.Decodes line shown.toList) :
      Contributes limits number line (.problem (.badLine number shown))

theorem text_eq_iff {bytes : Bytes} {s : String} :
    text bytes = s ↔ Utf8.Decodes bytes s.toList := by
  rw [← Utf8.decodeLossy_eq_iff, text, ← String.toList_inj, String.toList_ofList]

theorem lt_of_isKeyByte {b : UInt8} (h : isKeyByte b = true) : b < 0x80 := by
  simp only [isKeyByte, isAlphanumeric, Bool.or_eq_true, Bool.and_eq_true, decide_eq_true_iff,
    beq_iff_eq, ← UInt8.toNat_inj, UInt8.le_iff_toNat_le, UInt8.reduceToNat] at h
  rw [UInt8.lt_iff_toNat_lt]
  change b.toNat < 0x80
  omega

-- A key is decoded and lowered as any text is.
theorem keyText_eq {key : Bytes} (h : ∀ b ∈ key, isKeyByte b = true) :
    keyText key = lowered (text key) := by
  have hlower : ∀ n < 0x80, lowerAlone (Char.ofNat n) = [(Char.ofNat n).toLower] ∧
      Char.ofNat n ≠ '\u03A3' := by
    decide +kernel
  have hascii : ∀ b ∈ key, b < 0x80 := fun b hb => lt_of_isKeyByte (h b hb)
  have hcode : ∀ b ∈ key, b.toNat < 0x80 := fun b hb => UInt8.lt_iff_toNat_lt.mp (hascii b hb)
  rw [keyText, lowered, text, onString, String.toList_ofList, Utf8.decodeLossy_of_ascii hascii,
    lower_eq_flatMap _ (List.forall_mem_map.mpr fun b hb => (hlower _ (hcode b hb)).2),
    List.flatMap_map, List.map_eq_flatMap]
  congr 1
  exact (List.flatMap_congr fun b hb => (hlower _ (hcode b hb)).1).symm

theorem not_all_blank_iff (line : Bytes) :
    ¬line.all isBlankByte = true ↔ ∃ b ∈ line, isBlankByte b = false := by
  rw [List.all_eq_true]
  push Not
  simp only [ne_eq, Bool.not_eq_true]

theorem contributes_readLine (limits : Limits) (number : Nat) (line : Bytes) :
    Contributes limits number line (readLine limits number line) := by
  unfold readLine
  split
  · next hblank => exact .blank (List.all_eq_true.mp hblank)
  · next hblank =>
      have hvisible := (not_all_blank_iff line).mp hblank
      split
      · next hlong => exact .long hvisible hlong
      · next hlong =>
          have hfits : (line.length : Int) ≤ limits.lineLength := by omega
          cases hpair : pair? line with
          | none =>
              refine .bad hvisible hfits (fun key value hform => ?_) (text_eq_iff.mp rfl)
              rw [pair?_of_pairForm hform] at hpair
              cases hpair
          | some pair =>
              have hform := PairForm.of_pair? hpair
              dsimp only
              rw [keyText_eq hform.isKeyByte]
              exact .pair hfits hform (text_eq_iff.mp rfl) (text_eq_iff.mp rfl)

theorem Contributes.readLine_eq {limits : Limits} {number : Nat} {line : Bytes} {r : Reading}
    (h : Contributes limits number line r) : readLine limits number line = r := by
  cases h with
  | blank hblank =>
      exact (readLine_eq_nothing_iff limits number line).mpr (List.all_eq_true.mpr hblank)
  | pair hfits hform hname hcontent =>
      rw [← text_eq_iff.mpr hname, ← text_eq_iff.mpr hcontent, ← keyText_eq hform.isKeyByte]
      exact (readLine_eq_pair_iff limits number line _ _).mpr ⟨hfits, _, _, hform, rfl⟩
  | long hvisible hlong =>
      rw [readLine, if_neg ((not_all_blank_iff line).mpr hvisible), if_pos hlong]
  | bad hvisible hfits hform hshown =>
      rw [← text_eq_iff.mpr hshown]
      have hnone : pair? line = none := by
        refine Option.eq_none_iff_forall_not_mem.mpr fun pair hpair => ?_
        exact hform pair.1 pair.2 (PairForm.of_pair? hpair)
      rw [readLine, if_neg ((not_all_blank_iff line).mpr hvisible), if_neg (by omega), hnone]

theorem contributes_iff (limits : Limits) (number : Nat) (line : Bytes) (r : Reading) :
    Contributes limits number line r ↔ readLine limits number line = r :=
  ⟨Contributes.readLine_eq, fun h => h ▸ contributes_readLine limits number line⟩

theorem Contributes.text_problem {limits : Limits} {number : Nat} {line : Bytes} {p : Problem}
    (h : Contributes limits number line (.problem p)) :
    ∃ fault : String, p.text = s!"Line {number}: {fault}" := by
  cases h with
  | long _ _ =>
      have htext : (Problem.longLine number limits.lineLength).text =
          s!"Line {number}: Longer than {limits.lineLength} bytes" := rfl
      have hmark : ": Longer than " = ": " ++ "Longer than " := by decide
      refine ⟨s!"Longer than {limits.lineLength} bytes", ?_⟩
      rw [htext, hmark]
      simp only [toString, String.append_assoc]
  | @bad shown _ _ _ _ =>
      have htext : (Problem.badLine number shown).text =
          s!"Line {number}: Not a key: value pair: {shown}" := rfl
      have hmark : ": Not a key: value pair: " = ": " ++ "Not a key: value pair: " := by decide
      refine ⟨s!"Not a key: value pair: {shown}", ?_⟩
      rw [htext, hmark]
      simp only [toString, String.append_assoc]

theorem forall₂_contributes_iff (limits : Limits) (ls : List (Bytes × Nat)) (rs : List Reading) :
    List.Forall₂ (fun (line, number) r => Contributes limits number line r) ls rs ↔
      rs = ls.map fun (line, number) => readLine limits number line := by
  simp only [contributes_iff]
  rw [eq_comm, ← List.forall₂_eq_eq_eq, List.forall₂_map_left_iff]

-- A body is read line by line: each line adds what it would add in any other body, in order.
theorem parse_eq_iff_contributes (limits : Limits) (body : Bytes) :
    (∀ pairs validation, parse limits body = (pairs, validation) ↔
      ∃ ls rs, AreLines body ls ∧
        List.Forall₂ (fun (line, number) r => Contributes limits number line r) (ls.zipIdx 1) rs ∧
        pairs = rs.filterMap Reading.pair? ∧ validation = ⟨rs.filterMap Reading.problem?, []⟩) ∧
      (∀ number line, ∃! r, Contributes limits number line r) ∧
      ∀ number line p, Contributes limits number line (.problem p) →
        ∃ fault : String, p.text = s!"Line {number}: {fault}" := by
  refine ⟨fun pairs validation => ?_, fun number line => ?_, fun _ _ _ h => h.text_problem⟩
  · simp only [areLines_iff, forall₂_contributes_iff]
    constructor
    · intro h
      obtain ⟨rfl, rfl⟩ := Prod.mk.inj h
      exact ⟨lines body, readings limits body, rfl, rfl, rfl, rfl⟩
    · rintro ⟨_, _, rfl, rfl, rfl, rfl⟩
      rfl
  · exact ⟨readLine limits number line, contributes_readLine limits number line,
      fun r hr => hr.readLine_eq.symm⟩

end StrictTransport.Document
