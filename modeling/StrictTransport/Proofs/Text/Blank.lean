import Mathlib.Data.List.DropRight
import StrictTransport.Text.Basic

namespace StrictTransport.Text

variable {α : Type}

theorem dropWhile_append_of_head (p : α → Bool) (a : α) (l rest : List α)
    (ha : a ∈ l.head?) (h : p a = false) : (l ++ rest).dropWhile p = l ++ rest := by
  obtain ⟨tail, rfl⟩ := List.head?_eq_some_iff.mp ha
  simp [h]

theorem dropEndWhile_append_of_last (p : α → Bool) (a : α) (l tail : List α)
    (ha : a ∈ l.getLast?) (h : p a = false) (ht : ∀ b ∈ tail, p b = true) :
    dropEndWhile p (l ++ tail) = l := by
  obtain ⟨init, rfl⟩ := List.getLast?_eq_some_iff.mp ha
  rw [dropEndWhile, List.reverse_append, List.dropWhile_append_of_pos (by simpa using ht)]
  simp [h]

theorem dropEndWhile_spec (p : α → Bool) (l : List α) :
    ∃ tail, l = dropEndWhile p l ++ tail ∧ (∀ b ∈ tail, p b = true) ∧
      ∀ a ∈ (dropEndWhile p l).getLast?, p a = false := by
  refine ⟨l.rtakeWhile p, List.rdropWhile_append_rtakeWhile.symm, ?_, ?_⟩
  · exact fun b hb => List.mem_rtakeWhile_imp hb
  · intro a ha
    change a ∈ (l.rdropWhile p).getLast? at ha
    obtain ⟨hne, rfl⟩ := List.mem_getLast?_eq_getLast ha
    exact Bool.eq_false_iff.mpr (List.rdropWhile_last_not p l hne)

theorem dropEndWhile_append_of_all {p : α → Bool} {tail : List α} (h : ∀ b ∈ tail, p b = true)
    (l : List α) : dropEndWhile p (l ++ tail) = dropEndWhile p l := by
  rw [dropEndWhile, dropEndWhile, List.reverse_append, List.dropWhile_append_of_pos]
  exact fun b hb => h b (List.mem_reverse.mp hb)

-- Nothing in front of a member that is kept is dropped.
theorem dropEndWhile_append_cons {p : α → Bool} {a : α} (h : p a = false) (front rest : List α) :
    dropEndWhile p (front ++ a :: rest) = front ++ a :: dropEndWhile p rest := by
  have hkept : (a :: front.reverse).dropWhile p = a :: front.reverse :=
    List.dropWhile_cons_of_neg (by simp [h])
  rw [dropEndWhile, dropEndWhile, List.reverse_append, List.reverse_cons, List.append_assoc,
    List.singleton_append, List.dropWhile_append, hkept]
  split
  · rename_i hempty
    simp [List.isEmpty_iff.mp hempty]
  · simp

theorem mem_of_mem_dropEndWhile {p : α → Bool} {l : List α} {a : α}
    (h : a ∈ dropEndWhile p l) : a ∈ l := by
  obtain ⟨tail, hl, -, -⟩ := dropEndWhile_spec p l
  rw [hl]
  exact List.mem_append_left _ h

theorem mem_of_mem_trimWhile {p : α → Bool} {l : List α} {a : α} (h : a ∈ trimWhile p l) :
    a ∈ l :=
  (List.dropWhile_sublist p).subset (mem_of_mem_dropEndWhile h)

theorem trimWhile_spec (p : α → Bool) (l : List α) :
    ∃ lead trail, l = lead ++ (trimWhile p l ++ trail) ∧ (∀ a ∈ lead, p a = true) ∧
      ∀ a ∈ trail, p a = true := by
  obtain ⟨trail, heq, htrail, -⟩ := dropEndWhile_spec p (l.dropWhile p)
  refine ⟨l.takeWhile p, trail, ?_, fun a ha => List.mem_takeWhile_imp ha, htrail⟩
  rw [trimWhile, ← heq, List.takeWhile_append_dropWhile]

theorem of_head?_trimWhile (p : α → Bool) (l : List α) :
    ∀ a ∈ (trimWhile p l).head?, p a = false := by
  intro a ha
  obtain ⟨trail, heq, -, -⟩ := dropEndWhile_spec p (l.dropWhile p)
  obtain ⟨rest, hrest⟩ := List.head?_eq_some_iff.mp ha
  rw [trimWhile] at hrest
  rw [hrest] at heq
  have hhead := List.head?_dropWhile_not p l
  rw [heq, List.cons_append, List.head?_cons] at hhead
  simpa using hhead

theorem head?_trimWhile {p : α → Bool} {a : α} (ha : p a = false) (l : List α) :
    a ∈ (trimWhile p (a :: l)).head? := by
  have hkept := dropEndWhile_append_cons ha [] l
  rw [List.nil_append, List.nil_append] at hkept
  rw [trimWhile, List.dropWhile_cons_of_neg (by simp [ha]), hkept]
  rfl

-- A text is trimmed to the part of it that begins and ends in what is kept.
theorem trimWhile_append_of_ends (p : α → Bool) (a b : α) (l tail : List α)
    (ha : a ∈ l.head?) (hfirst : p a = false) (hb : b ∈ l.getLast?) (hlast : p b = false)
    (ht : ∀ c ∈ tail, p c = true) : trimWhile p (l ++ tail) = l := by
  rw [trimWhile, dropWhile_append_of_head p a l tail ha hfirst,
    dropEndWhile_append_of_last p b l tail hb hlast ht]

theorem mem_dropEndWhile {p : α → Bool} {l : List α} {a : α} (ha : p a = false)
    (h : a ∈ l) : a ∈ dropEndWhile p l := by
  obtain ⟨tail, hl, htail, -⟩ := dropEndWhile_spec p l
  rw [hl, List.mem_append] at h
  refine h.resolve_right fun hmem => ?_
  rw [htail a hmem] at ha
  cases ha

theorem mem_trimWhile {p : α → Bool} {l : List α} {a : α} (ha : p a = false) (h : a ∈ l) :
    a ∈ trimWhile p l := by
  have hdrop : a ∈ l.dropWhile p := by
    rw [← List.takeWhile_append_dropWhile (p := p) (l := l), List.mem_append] at h
    refine h.resolve_left fun hfront => ?_
    rw [List.mem_takeWhile_imp hfront] at ha
    cases ha
  exact mem_dropEndWhile ha hdrop

-- What stands between two members that are kept is kept with them.
theorem mem_trimWhile_of_between {p : α → Bool} {front back : List α} (a : α)
    (hfront : ∃ b ∈ front, p b = false) (hback : ∃ b ∈ back, p b = false) :
    a ∈ trimWhile p (front ++ a :: back) := by
  obtain ⟨b, hb, hbp⟩ := hfront
  obtain ⟨c, hc, hcp⟩ := hback
  have hne : (front.dropWhile p).isEmpty = false := by
    rw [List.isEmpty_eq_false_iff]
    intro hnil
    rw [List.dropWhile_eq_nil_iff.mp hnil b hb] at hbp
    cases hbp
  rw [trimWhile, List.dropWhile_append, hne, if_neg Bool.false_ne_true]
  obtain ⟨tail, heq, htail, -⟩ := dropEndWhile_spec p (front.dropWhile p ++ a :: back)
  -- The end that is cut off begins behind the last member that is kept.
  have hcut : c ∉ tail := by
    intro hmem
    rw [htail c hmem] at hcp
    cases hcp
  generalize dropEndWhile p (front.dropWhile p ++ a :: back) = kept at heq
  rcases List.append_eq_append_iff.mp heq with ⟨part, rfl, hrest⟩ | ⟨part, -, hrest⟩
  · cases part with
    | nil =>
        rw [List.nil_append] at hrest
        exact absurd (hrest ▸ List.mem_cons_of_mem a hc) hcut
    | cons d part =>
        rw [(List.cons.inj hrest).1]
        exact List.mem_append_right _ List.mem_cons_self
  · refine absurd ?_ hcut
    rw [hrest]
    exact List.mem_append_right _ (List.mem_cons_of_mem a hc)

-- What is left of a list without the end of it that satisfies `p`.
structure TrimsEnd (p : α → Bool) (l kept : List α) : Prop where
  around : ∃ trail, l = kept ++ trail ∧ ∀ a ∈ trail, p a = true
  last : ∀ a ∈ kept.getLast?, p a = false

-- What is left of a list without the beginning and the end of it that satisfy `p`.
structure Trims (p : α → Bool) (l kept : List α) : Prop where
  around : ∃ lead trail, l = lead ++ (kept ++ trail) ∧ (∀ a ∈ lead, p a = true) ∧
    ∀ a ∈ trail, p a = true
  first : ∀ a ∈ kept.head?, p a = false
  last : ∀ a ∈ kept.getLast?, p a = false

theorem trimsEnd_dropEndWhile (p : α → Bool) (l : List α) : TrimsEnd p l (dropEndWhile p l) := by
  obtain ⟨trail, heq, htrail, hlast⟩ := dropEndWhile_spec p l
  exact ⟨⟨trail, heq, htrail⟩, hlast⟩

theorem dropEndWhile_eq_iff {p : α → Bool} {l kept : List α} :
    dropEndWhile p l = kept ↔ TrimsEnd p l kept := by
  constructor
  · rintro rfl
    exact trimsEnd_dropEndWhile p l
  · rintro ⟨⟨trail, rfl, htrail⟩, hlast⟩
    cases hkept : kept.getLast? with
    | none =>
        rw [List.getLast?_eq_none_iff.mp hkept, dropEndWhile_append_of_all htrail]
        rfl
    | some a => exact dropEndWhile_append_of_last p a kept trail hkept (hlast a hkept) htrail

theorem trims_trimWhile (p : α → Bool) (l : List α) : Trims p l (trimWhile p l) :=
  ⟨trimWhile_spec p l, of_head?_trimWhile p l, (trimsEnd_dropEndWhile p (l.dropWhile p)).last⟩

theorem trimWhile_eq_iff {p : α → Bool} {l kept : List α} :
    trimWhile p l = kept ↔ Trims p l kept := by
  constructor
  · rintro rfl
    exact trims_trimWhile p l
  · rintro ⟨⟨lead, trail, rfl, hlead, htrail⟩, hfirst, hlast⟩
    rw [trimWhile, List.dropWhile_append_of_pos hlead]
    cases hkept : kept.head? with
    | none =>
        rw [List.head?_eq_none_iff.mp hkept, List.nil_append,
          List.dropWhile_eq_nil_iff.mpr htrail]
        rfl
    | some a =>
        rw [dropWhile_append_of_head p a kept trail hkept (hfirst a hkept)]
        exact dropEndWhile_eq_iff.mpr ⟨⟨trail, rfl, htrail⟩, hlast⟩

theorem trimmed_eq_iff {s kept : String} :
    trimmed s = kept ↔ Trims isBlank s.toList kept.toList := by
  rw [← trimWhile_eq_iff, ← String.toList_inj, trimmed, onString, String.toList_ofList]
  rfl

-- Only white space is trimmed to nothing.
theorem trimmed_eq_empty_iff {s : String} :
    trimmed s = "" ↔ ∀ c ∈ s.toList, isBlank c = true := by
  rw [trimmed_eq_iff]
  constructor
  · rintro ⟨⟨lead, trail, hs, hlead, htrail⟩, -, -⟩ c hc
    rw [hs] at hc
    rcases List.mem_append.mp hc with hfront | hback
    · exact hlead c hfront
    · exact htrail c hback
  · intro h
    exact ⟨⟨s.toList, [], (List.append_nil _).symm, h, by simp⟩, by simp, by simp⟩

theorem withoutFinalDots_eq_iff {s kept : String} :
    withoutFinalDots s = kept ↔ TrimsEnd (· == '.') s.toList kept.toList := by
  rw [← dropEndWhile_eq_iff, ← String.toList_inj, withoutFinalDots, onString,
    String.toList_ofList]

-- White space around a text does not matter.
theorem trim_append {lead trail : List Char} (hlead : ∀ c ∈ lead, isBlank c = true)
    (htrail : ∀ c ∈ trail, isBlank c = true) (cs : List Char) :
    trim (lead ++ (cs ++ trail)) = trim cs := by
  rw [trim, trimWhile, trim, trimWhile, List.dropWhile_append_of_pos hlead, List.dropWhile_append]
  split
  · rename_i hempty
    rw [List.isEmpty_iff.mp hempty, List.dropWhile_eq_nil_iff.mpr htrail]
  · exact dropEndWhile_append_of_all htrail _

theorem trim_eq_self {cs : List Char} (h : ∀ c ∈ cs, isBlank c = false) : trim cs = cs := by
  have hdrop : cs.dropWhile isBlank = cs :=
    List.dropWhile_eq_self_iff.mpr fun hpos => by
      rw [h _ (List.getElem_mem hpos)]
      exact Bool.false_ne_true
  rw [trim, trimWhile, hdrop]
  refine List.rdropWhile_eq_self_iff.mpr fun hnil => ?_
  rw [h _ (List.getLast_mem hnil)]
  exact Bool.false_ne_true

theorem trim_of_ends {cs : List Char} {a b : Char} (ha : a ∈ cs.head?) (hfirst : isBlank a = false)
    (hb : b ∈ cs.getLast?) (hlast : isBlank b = false) : trim cs = cs := by
  have hkept := trimWhile_append_of_ends isBlank a b cs [] ha hfirst hb hlast (by simp)
  rwa [List.append_nil] at hkept

theorem isBlank_of_isWsp {c : Char} (h : isWsp c = true) : isBlank c = true := by
  rw [isWsp, Bool.or_eq_true, beq_iff_eq, beq_iff_eq] at h
  rcases h with rfl | rfl <;> decide

theorem isAsciiBlank_of_isBlank {c : Char} (h : isBlank c = false) :
    isAsciiBlank c.toNat = false := by
  simp only [isBlank, Bool.or_eq_false_iff, Bool.and_eq_false_iff, decide_eq_false_iff_not,
    beq_eq_false_iff_ne] at h
  rw [isAsciiBlank, Bool.or_eq_false_iff, Bool.and_eq_false_iff, decide_eq_false_iff_not,
    decide_eq_false_iff_not, beq_eq_false_iff_ne]
  omega

-- A blank that is trimmed away behind something visible has nothing but blanks behind it.
theorem trim_of_line {lead kept trail behind : List Char} {a : Char} (ha : isBlank a = true)
    (hlead : ∀ c ∈ lead, isBlank c = true) (htrail : ∀ c ∈ trail, isBlank c = true)
    (hkept : ∃ b ∈ kept, isBlank b = false)
    (hgone : a ∉ trim (lead ++ (kept ++ (trail ++ a :: behind)))) :
    trim (lead ++ (kept ++ (trail ++ a :: behind))) = trim kept := by
  by_cases hall : ∀ c ∈ behind, isBlank c = true
  · refine trim_append hlead (fun c hc => ?_) kept
    rcases List.mem_append.mp hc with htrailing | hc
    · exact htrail c htrailing
    · rcases List.mem_cons.mp hc with rfl | hbehind
      · exact ha
      · exact hall c hbehind
  · push Not at hall
    obtain ⟨c, hc, hvisible⟩ := hall
    obtain ⟨b, hb, hbVisible⟩ := hkept
    refine absurd ?_ hgone
    have hassoc : lead ++ (kept ++ (trail ++ a :: behind)) =
        (lead ++ (kept ++ trail)) ++ a :: behind := by
      simp
    rw [hassoc]
    refine mem_trimWhile_of_between a ⟨b, by simp [hb], hbVisible⟩ ⟨c, hc, ?_⟩
    exact Bool.eq_false_iff.mpr hvisible

-- The blanks that may stand around the value of a line.
def linear (c : Char) : Bool :=
  c == ' ' || c == '\t' || c == '\n'

theorem isBlank_of_linear {c : Char} (h : linear c = true) : isBlank c = true := by
  simp only [linear, Bool.or_eq_true, beq_iff_eq] at h
  rcases h with (rfl | rfl) | rfl <;> decide

-- A text has a first value, with linear white space around it. Behind that the text ends, or a
-- carriage return stands there.
def FirstValue (text first : List Char) : Prop :=
  ∃ lead trail rest, text = lead ++ (first ++ (trail ++ rest)) ∧ (∀ c ∈ lead, linear c = true) ∧
    (∀ c ∈ trail, linear c = true) ∧ (rest = [] ∨ ∃ more, rest = '\r' :: more)

theorem FirstValue.head? {text first : List Char} (h : FirstValue text first) (hne : first ≠ [])
    {c : Char} (hc : c ∈ text.head?) (hvisible : isBlank c = false) : c ∈ first.head? := by
  obtain ⟨lead, trail, rest, rfl, hlead, -, -⟩ := h
  cases lead with
  | nil =>
      obtain ⟨d, others, rfl⟩ := List.exists_cons_of_ne_nil hne
      exact hc
  | cons d lead =>
      obtain rfl : d = c := Option.some.inj hc
      rw [isBlank_of_linear (hlead d List.mem_cons_self)] at hvisible
      cases hvisible

theorem FirstValue.eq_of_visible {text first : List Char} (h : FirstValue text first)
    (hvisible : ∀ c ∈ text, isBlank c = false) : text = first := by
  obtain ⟨lead, trail, rest, rfl, hlead, htrail, hrest⟩ := h
  have hblank : ∀ c, isBlank c = true → c ∉ lead ++ (first ++ (trail ++ rest)) := by
    intro c hc hmem
    rw [hvisible c hmem] at hc
    cases hc
  have hleadNil : lead = [] := List.eq_nil_iff_forall_not_mem.mpr fun c hc =>
    hblank c (isBlank_of_linear (hlead c hc)) (List.mem_append_left _ hc)
  have htrailNil : trail = [] := List.eq_nil_iff_forall_not_mem.mpr fun c hc =>
    hblank c (isBlank_of_linear (htrail c hc)) (by simp [hc])
  have hrestNil : rest = [] := by
    rcases hrest with hnil | ⟨more, rfl⟩
    · exact hnil
    · exact absurd (by simp) (hblank '\r' (by decide))
  rw [hleadNil, htrailNil, hrestNil, List.nil_append, List.append_nil, List.append_nil]

end StrictTransport.Text
