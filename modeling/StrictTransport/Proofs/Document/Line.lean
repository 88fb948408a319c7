import StrictTransport.Policy.Document
import StrictTransport.Proofs.Text.Blank

namespace StrictTransport.Document

open Text

def AllWsp (bytes : Bytes) : Prop :=
  ∀ b ∈ bytes, isWspByte b = true

-- A letter or digit, then up to 31 bytes of keys.
def KeyForm (key : Bytes) : Prop :=
  (∃ b ∈ key.head?, isAlphanumeric b = true) ∧ key.length ≤ 32 ∧ ∀ b ∈ key, isKeyByte b = true

-- Not empty, on one line, with nothing at its ends that would be trimmed.
def ValueForm (value : Bytes) : Prop :=
  (∃ b ∈ value.head?, isBlankByte b = false) ∧ (∃ b ∈ value.getLast?, isWspByte b = false) ∧
    lf ∉ value

-- A value with the blanks around it, and at most one LF behind them.
def ValuePart (bytes value : Bytes) : Prop :=
  ∃ lead trail ending, bytes = lead ++ (value ++ (trail ++ ending)) ∧ AllWsp lead ∧
    AllWsp trail ∧ (ending = [] ∨ ending = [lf]) ∧ ValueForm value

-- The grammar of lines: blanks, a key, blanks, a colon, and the part with the value.
def PairForm (line key value : Bytes) : Prop :=
  ∃ before gap rest, line = before ++ (key ++ (gap ++ colon :: rest)) ∧ AllWsp before ∧
    AllWsp gap ∧ KeyForm key ∧ ValuePart rest value

theorem isWspByte_iff (b : UInt8) : isWspByte b = true ↔ b = 32 ∨ b = 9 := by
  simp [isWspByte]

theorem isBlankByte_of_isWspByte (b : UInt8) (h : isWspByte b = true) : isBlankByte b = true := by
  rcases (isWspByte_iff b).mp h with rfl | rfl <;> decide

theorem isWspByte_of_isBlankByte_eq_false (b : UInt8) (h : isBlankByte b = false) :
    isWspByte b = false := by
  rw [← Bool.not_eq_true] at h ⊢
  exact fun hw => h (isBlankByte_of_isWspByte b hw)

theorem isKeyByte_of_isWspByte (b : UInt8) (h : isWspByte b = true) : isKeyByte b = false := by
  rcases (isWspByte_iff b).mp h with rfl | rfl <;> decide

theorem isWspByte_of_isKeyByte (b : UInt8) (h : isKeyByte b = true) : isWspByte b = false := by
  by_contra hw
  rw [Bool.not_eq_false] at hw
  simp [isKeyByte_of_isWspByte b hw] at h

theorem AllWsp.dropWhile_append {blanks : Bytes} (h : AllWsp blanks) (rest : Bytes) :
    (blanks ++ rest).dropWhile isWspByte = rest.dropWhile isWspByte :=
  List.dropWhile_append_of_pos h

theorem allWsp_takeWhile (bytes : Bytes) : AllWsp (bytes.takeWhile isWspByte) :=
  fun _ hb => List.mem_takeWhile_imp hb

theorem withoutLineFeed_append (line ending : Bytes) (h : ∀ b ∈ line.getLast?, b ≠ lf)
    (hending : ending = [] ∨ ending = [lf]) : withoutLineFeed (line ++ ending) = line := by
  rcases hending with rfl | rfl
  · rw [List.append_nil, withoutLineFeed, if_neg]
    intro hl
    exact h lf (by simpa using hl) rfl
  · simp [withoutLineFeed]

theorem withoutLineFeed_spec (line : Bytes) :
    ∃ ending, line = withoutLineFeed line ++ ending ∧ (ending = [] ∨ ending = [lf]) := by
  unfold withoutLineFeed
  split
  · next h =>
      rw [beq_iff_eq] at h
      obtain ⟨init, rfl⟩ := List.getLast?_eq_some_iff.mp h
      exact ⟨[lf], by simp, Or.inr rfl⟩
  · exact ⟨[], by simp, Or.inl rfl⟩

theorem ValuePart.of_value? {bytes value : Bytes} (h : value? bytes = some value) :
    ValuePart bytes value := by
  simp only [value?] at h
  split at h
  · next hv =>
      obtain ⟨ending, hending, hlf⟩ := withoutLineFeed_spec (bytes.dropWhile isWspByte)
      obtain ⟨trail, htrail, hall, hlast⟩ := dropEndWhile_spec isWspByte
        (withoutLineFeed (bytes.dropWhile isWspByte))
      obtain rfl := Option.some.inj h
      generalize dropEndWhile isWspByte (withoutLineFeed (bytes.dropWhile isWspByte)) = value at *
      rw [htrail] at hending hv
      simp only [Bool.and_eq_true, Option.any_eq_true, Bool.not_eq_true', List.contains_eq_mem,
        decide_eq_false_iff_not] at hv
      obtain ⟨⟨b, hb, hblank⟩, hnot⟩ := hv
      refine ⟨bytes.takeWhile isWspByte, trail, ending, ?_, allWsp_takeWhile bytes, hall, hlf, ?_⟩
      · rw [← List.append_assoc value, ← hending, List.takeWhile_append_dropWhile]
      · -- An empty value would begin with a blank of its trail.
        cases value with
        | nil =>
            have ht := hall b (List.mem_of_head? hb)
            simp [isBlankByte_of_isWspByte b ht] at hblank
        | cons a value =>
            obtain rfl : a = b := by simpa using hb
            obtain ⟨c, hc⟩ : ∃ c, c ∈ (a :: value).getLast? :=
              ⟨_, List.getLast?_eq_some_getLast (by simp)⟩
            exact ⟨⟨a, rfl, hblank⟩, ⟨c, hc, hlast c hc⟩,
              fun hl => hnot (List.mem_append_left _ hl)⟩
  · exact absurd h (by simp)

theorem value?_of_valuePart {bytes value : Bytes} (h : ValuePart bytes value) :
    value? bytes = some value := by
  obtain ⟨lead, trail, ending, rfl, hlead, htrail, hending, ⟨b, hb, hblank⟩, ⟨c, hc, hwsp⟩,
    hlf⟩ := h
  have hdrop : (lead ++ (value ++ (trail ++ ending))).dropWhile isWspByte =
      value ++ trail ++ ending := by
    rw [hlead.dropWhile_append, dropWhile_append_of_head isWspByte b value _ hb
      (isWspByte_of_isBlankByte_eq_false b hblank), List.append_assoc]
  have hnot : lf ∉ value ++ trail := by
    rw [List.mem_append, not_or]
    exact ⟨hlf, fun ht => absurd (htrail lf ht) (by decide)⟩
  have hfeed : withoutLineFeed (value ++ trail ++ ending) = value ++ trail :=
    withoutLineFeed_append _ _ (fun b hb he => hnot (he ▸ List.mem_of_getLast? hb)) hending
  have hhead : (value ++ trail).head?.any (fun b => !isBlankByte b) = true := by
    obtain ⟨tail, rfl⟩ := List.head?_eq_some_iff.mp hb
    simp [hblank]
  simp only [value?, hdrop, hfeed, hhead, Bool.true_and]
  rw [if_pos (by simpa using hnot),
    dropEndWhile_append_of_last isWspByte c value trail hc hwsp htrail]

theorem isKey_iff {key : Bytes} (hkey : ∀ b ∈ key, isKeyByte b = true) :
    isKey key = true ↔ KeyForm key := by
  rw [isKey, Bool.and_eq_true, Option.any_eq_true]
  exact and_congr Iff.rfl ⟨fun h => ⟨of_decide_eq_true h, hkey⟩, fun h => decide_eq_true h.1⟩

theorem drop_length_takeWhile (p : UInt8 → Bool) (bytes : Bytes) :
    bytes.drop (bytes.takeWhile p).length = bytes.dropWhile p := by
  have h : (bytes.takeWhile p ++ bytes.dropWhile p).drop (bytes.takeWhile p).length =
      bytes.dropWhile p := List.drop_left
  rwa [List.takeWhile_append_dropWhile] at h

theorem PairForm.of_pair? {line key value : Bytes} (h : pair? line = some (key, value)) :
    PairForm line key value := by
  simp only [pair?, drop_length_takeWhile] at h
  have hline : line = line.takeWhile isWspByte ++ line.dropWhile isWspByte :=
    List.takeWhile_append_dropWhile.symm
  generalize line.dropWhile isWspByte = body at h hline
  have hbody : body = body.takeWhile isKeyByte ++ ((body.dropWhile isKeyByte).takeWhile isWspByte ++
      (body.dropWhile isKeyByte).dropWhile isWspByte) := by
    rw [List.takeWhile_append_dropWhile, List.takeWhile_append_dropWhile]
  have hkey : ∀ b ∈ body.takeWhile isKeyByte, isKeyByte b = true :=
    fun _ hb => List.mem_takeWhile_imp hb
  split at h
  · exact absurd h (by simp)
  · next hk =>
      rw [Bool.not_eq_true', Bool.not_eq_false, isKey_iff hkey] at hk
      split at h
      · next b rest hcolon =>
          split at h
          · next hb =>
              obtain ⟨value', hvalue, heq⟩ := Option.map_eq_some_iff.mp h
              obtain ⟨rfl, rfl⟩ := Prod.mk.inj heq
              obtain rfl : b = colon := by simpa using hb
              rw [hcolon] at hbody
              exact ⟨line.takeWhile isWspByte, (body.dropWhile isKeyByte).takeWhile isWspByte, rest,
                hline.trans (congrArg _ hbody), allWsp_takeWhile line, allWsp_takeWhile _, hk,
                ValuePart.of_value? hvalue⟩
          · exact absurd h (by simp)
      · exact absurd h (by simp)

-- What stands before the colon decides about the key alone, and what stands behind it about the
-- value alone.
theorem pair?_key_colon {before key gap : Bytes} (hbefore : AllWsp before) (hkey : KeyForm key)
    (hgap : AllWsp gap) (rest : Bytes) :
    pair? (before ++ (key ++ (gap ++ colon :: rest))) =
      (value? rest).map fun value => (key, value) := by
  obtain ⟨b, hb, halnum⟩ := hkey.1
  have hdrop : (before ++ (key ++ (gap ++ colon :: rest))).dropWhile isWspByte =
      key ++ (gap ++ colon :: rest) := by
    rw [hbefore.dropWhile_append, dropWhile_append_of_head isWspByte b key _ hb
      (isWspByte_of_isKeyByte b (hkey.2.2 b (List.mem_of_head? hb)))]
  have htake : (key ++ (gap ++ colon :: rest)).takeWhile isKeyByte = key := by
    rw [List.takeWhile_append_of_pos hkey.2.2]
    cases gap with
    | nil => simp [show isKeyByte colon = false from rfl]
    | cons a gap => simp [isKeyByte_of_isWspByte a (hgap a (by simp))]
  have hgapDrop : (gap ++ colon :: rest).dropWhile isWspByte = colon :: rest := by
    rw [hgap.dropWhile_append]
    rfl
  simp only [pair?, hdrop, htake, (isKey_iff hkey.2.2).mpr hkey, List.drop_left, hgapDrop]
  rfl

theorem pair?_of_pairForm {line key value : Bytes} (h : PairForm line key value) :
    pair? line = some (key, value) := by
  obtain ⟨before, gap, rest, rfl, hbefore, hgap, hkey, hvalue⟩ := h
  rw [pair?_key_colon hbefore hkey hgap, value?_of_valuePart hvalue, Option.map_some]

theorem PairForm.isKeyByte {line key value : Bytes} (h : PairForm line key value) :
    ∀ b ∈ key, isKeyByte b = true := by
  obtain ⟨_, _, _, -, -, -, hkey, -⟩ := h
  exact hkey.2.2

theorem pair?_eq_some_iff (line key value : Bytes) :
    pair? line = some (key, value) ↔ PairForm line key value :=
  ⟨PairForm.of_pair?, pair?_of_pairForm⟩

end StrictTransport.Document
