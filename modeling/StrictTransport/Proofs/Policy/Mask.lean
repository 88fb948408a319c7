import Mathlib.Data.List.Forall2
import Mathlib.Data.List.Infix
import StrictTransport.Policy.Mask

namespace StrictTransport.Mask

open Text

-- What one character of a mask takes of a host name.
def Takes (m : Char) (segment : List Char) : Prop :=
  if m = '*' then '\n' ∉ segment else ∃ c, segment = [c] ∧ sameLetter m c = true

-- The host name is cut into one segment for each character of the mask.
def Fits (mask host : List Char) : Prop :=
  ∃ segments : List (List Char), segments.flatten = host ∧ List.Forall₂ Takes mask segments

section Fits

variable {m : Char} {mask host segment : List Char}

theorem takes_star : Takes '*' segment ↔ '\n' ∉ segment :=
  Iff.of_eq (if_pos rfl)

theorem takes_of_ne (hm : m ≠ '*') :
    Takes m segment ↔ ∃ c, segment = [c] ∧ sameLetter m c = true :=
  Iff.of_eq (if_neg hm)

theorem Takes.reverse (h : Takes m segment) : Takes m segment.reverse := by
  by_cases hm : m = '*'
  · subst hm
    rw [takes_star, List.mem_reverse]
    exact takes_star.mp h
  · obtain ⟨c, rfl, hc⟩ := (takes_of_ne hm).mp h
    exact h

theorem fits_nil : Fits [] host ↔ host = [] := by
  constructor
  · rintro ⟨segments, rfl, hsegments⟩
    rw [List.forall₂_nil_left_iff.mp hsegments]
    rfl
  · rintro rfl
    exact ⟨[], rfl, .nil⟩

theorem fits_cons :
    Fits (m :: mask) host ↔ ∃ front back, host = front ++ back ∧ Takes m front ∧ Fits mask back := by
  constructor
  · rintro ⟨segments, rfl, hsegments⟩
    obtain ⟨front, rest, hfront, hrest, rfl⟩ := List.forall₂_cons_left_iff.mp hsegments
    exact ⟨front, rest.flatten, List.flatten_cons, hfront, rest, rfl, hrest⟩
  · rintro ⟨front, back, rfl, hfront, segments, rfl, hsegments⟩
    exact ⟨front :: segments, List.flatten_cons, .cons hfront hsegments⟩

theorem fits_cons_of_ne (hm : m ≠ '*') :
    Fits (m :: mask) host ↔
      ∃ c rest, host = c :: rest ∧ sameLetter m c = true ∧ Fits mask rest := by
  rw [fits_cons]
  constructor
  · rintro ⟨front, rest, rfl, hfront, hrest⟩
    obtain ⟨c, rfl, hc⟩ := (takes_of_ne hm).mp hfront
    exact ⟨c, rest, rfl, hc, hrest⟩
  · rintro ⟨c, rest, rfl, hc, hrest⟩
    exact ⟨[c], rest, rfl, (takes_of_ne hm).mpr ⟨c, rfl, hc⟩, hrest⟩

-- A star takes nothing more, or one more character.
theorem fits_star_cons :
    Fits ('*' :: mask) host ↔
      Fits mask host ∨ ∃ c rest, host = c :: rest ∧ c ≠ '\n' ∧ Fits ('*' :: mask) rest := by
  constructor
  · intro h
    obtain ⟨front, back, rfl, hfront, hback⟩ := fits_cons.mp h
    cases front with
    | nil => exact .inl hback
    | cons c front =>
        rw [takes_star, List.mem_cons, not_or] at hfront
        refine .inr ⟨c, front ++ back, rfl, Ne.symm hfront.1, ?_⟩
        exact fits_cons.mpr ⟨front, back, rfl, takes_star.mpr hfront.2, hback⟩
  · rintro (h | ⟨c, rest, rfl, hc, h⟩)
    · exact fits_cons.mpr ⟨[], host, rfl, takes_star.mpr List.not_mem_nil, h⟩
    · obtain ⟨front, back, rfl, hfront, hback⟩ := fits_cons.mp h
      refine fits_cons.mpr ⟨c :: front, back, rfl, ?_, hback⟩
      rw [takes_star, List.mem_cons, not_or]
      exact ⟨Ne.symm hc, takes_star.mp hfront⟩

theorem Fits.reverse (h : Fits mask host) : Fits mask.reverse host.reverse := by
  obtain ⟨segments, rfl, hsegments⟩ := h
  refine ⟨(segments.map List.reverse).reverse, List.reverse_flatten.symm, List.rel_reverse ?_⟩
  exact List.forall₂_map_right_iff.mpr (hsegments.imp fun _ _ => Takes.reverse)

theorem fits_reverse : Fits mask.reverse host.reverse ↔ Fits mask host := by
  refine ⟨fun h => ?_, Fits.reverse⟩
  have hback := h.reverse
  rwa [List.reverse_reverse, List.reverse_reverse] at hback

end Fits

section Coverage

variable {m : Char} {mask host : List Char}

-- What is known about each end of a host name, the longest first.
def Tells (mask : List Char) (known : List Bool) (host : List Char) : Prop :=
  List.Forall₂ (fun b tail => b = true ↔ Fits mask tail) known host.tails

theorem tells_nil {b : Bool} (h : b = true ↔ Fits mask []) : Tells mask [b] [] :=
  .cons h .nil

theorem tells_cons {b : Bool} {known : List Bool} {c : Char}
    (h : b = true ↔ Fits mask (c :: host)) (hknown : Tells mask known host) :
    Tells mask (b :: known) (c :: host) := by
  rw [Tells, List.tails_cons]
  exact .cons h hknown

theorem Tells.headD {known : List Bool} (h : Tells mask known host) :
    known.headD false = true ↔ Fits mask host := by
  cases host with
  | nil =>
      obtain ⟨b, rest, hb, -, rfl⟩ := List.forall₂_cons_right_iff.mp h
      exact hb
  | cons c host =>
      obtain ⟨b, rest, hb, -, rfl⟩ := List.forall₂_cons_right_iff.mp h
      exact hb

theorem Tells.tail {known : List Bool} {c : Char} (h : Tells mask known (c :: host)) :
    Tells mask known.tail host := by
  rw [Tells, List.tails_cons] at h
  obtain ⟨b, rest, -, hrest, rfl⟩ := List.forall₂_cons_right_iff.mp h
  exact hrest

-- The shorter ends come first: a star looks at the end without the first character.
theorem Tells.extend {known : List Bool} (h : Tells mask known host) :
    Tells (m :: mask) (extend m host known) host := by
  induction host generalizing known with
  | nil =>
      obtain ⟨b, rest, hb, hrest, rfl⟩ := List.forall₂_cons_right_iff.mp h
      obtain rfl := List.forall₂_nil_right_iff.mp hrest
      rw [Mask.extend]
      by_cases hm : m = '*'
      · subst hm
        refine tells_nil (hb.trans ?_)
        rw [fits_star_cons]
        exact ⟨.inl, fun hor => hor.resolve_right nofun⟩
      · rw [if_neg (by simpa using hm)]
        refine tells_nil (iff_of_false Bool.false_ne_true ?_)
        rw [fits_cons_of_ne hm]
        exact nofun
  | cons c host ih =>
      have hlater := ih h.tail
      rw [Mask.extend]
      refine tells_cons ?_ hlater
      by_cases hm : m = '*'
      · subst hm
        rw [if_pos (beq_self_eq_true _), fits_star_cons, Bool.or_eq_true, Bool.and_eq_true,
          bne_iff_ne, h.headD, hlater.headD]
        simp
      · rw [if_neg (by simpa using hm), fits_cons_of_ne hm, Bool.and_eq_true, h.tail.headD]
        simp

theorem tells_coverage (mask host : List Char) : Tells mask (coverage host mask) host := by
  induction mask with
  | nil =>
      rw [coverage]
      induction host with
      | nil => exact tells_nil (iff_of_true rfl (fits_nil.mpr rfl))
      | cons c host ih =>
          refine tells_cons (iff_of_false Bool.false_ne_true fun h => ?_) ih
          exact List.cons_ne_nil c host (fits_nil.mp h)
  | cons m mask ih =>
      rw [coverage]
      exact ih.extend

-- A character before the first star takes the first character of the host name, or nothing fits.
theorem fits_iff_peel (mask host : List Char) :
    Fits mask host ↔ ∃ rest, peel mask host = some rest ∧ Fits rest.1 rest.2 := by
  fun_induction peel mask host with
  | case1 => simp
  | case2 c host => simp [fits_nil]
  | case3 m mask host hm => simp
  | case4 m mask hm c host hc ih =>
      rw [fits_cons_of_ne (by simpa using hm), ← ih]
      simp [hc]
  | case5 m mask hm c host hc =>
      rw [fits_cons_of_ne (by simpa using hm)]
      simp [hc]
  | case6 m mask hm =>
      rw [fits_cons_of_ne (by simpa using hm)]
      simp

-- What is compared at once stands before the first star, and behind the last one.
theorem covers_iff (mask host : List Char) : covers mask host = true ↔ Fits mask host := by
  rw [covers, fits_iff_peel mask host]
  cases peel mask host with
  | none => simp
  | some rest =>
      obtain ⟨mask, host⟩ := rest
      simp only [Option.some.injEq, exists_eq_left']
      rw [← fits_reverse, fits_iff_peel mask.reverse host.reverse]
      cases peel mask.reverse host.reverse with
      | none => simp
      | some rest =>
          obtain ⟨mask, host⟩ := rest
          simp only [Option.some.injEq, exists_eq_left']
          exact (tells_coverage mask host).headD

end Coverage

end StrictTransport.Mask
