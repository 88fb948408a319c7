import StrictTransport.Proofs.Domain.Name
import StrictTransport.Proofs.Policy.Draft
import StrictTransport.Proofs.Policy.Extended

namespace StrictTransport

-- Whether a caution says that an age has been changed.
def Caution.isAboutAge : Caution → Bool
  | aboveMaxAge .. | belowMinAge .. | belowSoftMinAge .. => true
  | _ => false

namespace Policy

open Text

def leastAge (limits : Limits) : Mode → Int
  | .none => 0
  | .testing => limits.softMinAge
  | .enforce => limits.minAge

-- The value of an age: one to ten ASCII digits. One line feed behind them is let through.
def WritesAge (value digits : String) : Prop :=
  AgeForm digits ∧ (value = digits ∨ value = digits ++ "\n")

-- The age that pairs ask for. The last value counts.
inductive AsksAge (limits : Limits) (pairs : List Pair) : Int → Prop where
  | absent (hnone : values "max_age" pairs = []) : AsksAge limits pairs 0
  | read {value digits : String} (hlast : (values "max_age" pairs).getLast? = some value)
      (hdigits : WritesAge value digits) : AsksAge limits pairs (decimal digits)
  | unreadable {value : String} (hlast : (values "max_age" pairs).getLast? = some value)
      (hdigits : ∀ digits, ¬ WritesAge value digits) : AsksAge limits pairs limits.minAge

-- The mode that pairs ask for, in any case and with white space around it.
inductive AsksMode (pairs : List Pair) : Mode → Prop where
  | absent (hnone : values "mode" pairs = []) : AsksMode pairs .none
  | read {word : String} {mode : Mode} (hlast : (values "mode" pairs).getLast? = some word)
      (hname : mode.Named word) : AsksMode pairs mode
  | unknown {word : String} (hlast : (values "mode" pairs).getLast? = some word)
      (hname : ∀ mode : Mode, ¬mode.Named word) : AsksMode pairs .none

theorem AsksMode.requestedMode_eq {pairs : List Pair} {mode : Mode} (h : AsksMode pairs mode) :
    requestedMode pairs = mode := by
  rw [requestedMode, lastValue?]
  cases h with
  | absent hnone =>
      rw [hnone]
      rfl
  | read hlast hname =>
      rw [hlast, Option.bind_some, (Mode.read?_eq_some_iff _ _).mpr hname]
      rfl
  | @unknown word hlast hname =>
      have hread : Mode.read? word = none :=
        Option.eq_none_iff_forall_ne_some.mpr fun mode hmode =>
          hname mode ((Mode.read?_eq_some_iff _ _).mp hmode)
      rw [hlast, Option.bind_some, hread]
      rfl

section WritesAge

variable {value digits : String}

theorem lf_notMem_of_ageForm (h : AgeForm digits) : '\n' ∉ digits.toList :=
  fun hmem => absurd (h.2.2 '\n' hmem) (by decide)

theorem isAge_eq_true_iff : isAge value = true ↔ ∃ digits, WritesAge value digits := by
  have hform : isAge value = true ↔
      AgeForm (String.ofList (Domain.withoutLineEnd value.toList)) := by
    simp only [isAge, AgeForm, String.toList_ofList, Bool.and_eq_true, decide_eq_true_eq,
      List.all_eq_true, and_assoc]
  constructor
  · intro h
    refine ⟨_, hform.mp h, ?_⟩
    rcases Domain.withoutLineEnd_spec value.toList with heq | heq
    · rw [← heq, String.ofList_toList]
      exact .inl rfl
    · refine .inr (String.toList_inj.mp ?_)
      rw [String.toList_append, String.toList_ofList]
      exact heq
  · rintro ⟨digits, hdigits, rfl | rfl⟩
    · exact (isAge_iff _ (lf_notMem_of_ageForm hdigits)).mpr hdigits
    · rw [hform, String.toList_append]
      change AgeForm (String.ofList (Domain.withoutLineEnd (digits.toList ++ ['\n'])))
      rwa [Domain.withoutLineEnd_append, String.ofList_toList]

theorem ageOf_of_writesAge (h : WritesAge value digits) : ageOf value = decimal digits := by
  obtain ⟨hform, rfl | rfl⟩ := h
  · exact ageOf_eq _ hform
  · have hlf : digitValue? '\n' = none := by decide
    have hdigits : (digits ++ "\n").toList.filterMap digitValue? =
        digits.toList.filterMap digitValue? := by
      rw [String.toList_append, List.filterMap_append]
      simp [hlf]
    rw [← ageOf_eq _ hform, ageOf, ageOf, hdigits]

end WritesAge

theorem AsksAge.requestedAge_eq {limits : Limits} {pairs : List Pair} {age : Int}
    (h : AsksAge limits pairs age) : requestedAge limits pairs = age := by
  rw [requestedAge, lastValue?]
  cases h with
  | absent hnone =>
      rw [hnone]
      rfl
  | read hlast hdigits =>
      rw [hlast]
      simp only
      rw [if_pos (isAge_eq_true_iff.mpr ⟨_, hdigits⟩), ageOf_of_writesAge hdigits]
  | unreadable hlast hdigits =>
      rw [hlast]
      simp only
      rw [if_neg fun h => (Exists.elim (isAge_eq_true_iff.mp h)) hdigits]

theorem AsksAge.nonneg {limits : Limits} {pairs : List Pair} {age : Int} (hlimits : Bounded limits)
    (h : AsksAge limits pairs age) : 0 ≤ age := by
  cases h with
  | absent hnone => exact Int.le_refl 0
  | read hlast hdigits => exact Int.natCast_nonneg _
  | unreadable hlast hdigits => exact hlimits.minAge

section Clamp

variable {limits : Limits} {mode : Mode} {age : Int}

theorem Bounded.clamped_eq (h : Bounded limits) (hage : 0 ≤ age) :
    clamped limits mode age = max (min age limits.maxAge) (leastAge limits mode) := by
  have hsoft := h.softMinAge
  have hsoftMax := h.softMinAge_le
  cases mode <;> simp only [clamped, leastAge]
  omega

theorem Bounded.clamped_mem (h : Bounded limits) (hage : 0 ≤ age) :
    leastAge limits mode ≤ clamped limits mode age ∧ clamped limits mode age ≤ limits.maxAge := by
  have hsoft := h.softMinAge
  have hsoftMax := h.softMinAge_le
  have hmin := h.minAge_le
  cases mode <;> simp only [clamped, leastAge] <;> omega

theorem Bounded.leastAge_nonneg (h : Bounded limits) : 0 ≤ leastAge limits mode := by
  cases mode
  · exact Int.le_refl 0
  · exact h.softMinAge
  · exact h.minAge

-- Nothing is lowered first and raised then, since no least age is above the greatest one.
theorem Bounded.clampAge_snd_ne_nil_iff (h : Bounded limits) :
    (clampAge limits mode age).2 ≠ [] ↔ age ≠ clamped limits mode age := by
  have hsoftMax := h.softMinAge_le
  have hmin := h.minAge_le
  rw [clampAge_snd]
  cases mode <;> simp only [clamped] <;> split_ifs <;> simp <;> omega

theorem isAboutAge_of_mem_clampAge {caution : Caution}
    (h : caution ∈ (clampAge limits mode age).2) : caution.isAboutAge = true := by
  rcases mem_clampAge h with rfl | rfl | rfl
  · rfl
  · rfl
  · rfl

theorem isAboutAge_of_mem_cautions {pairs : List Pair} {caution : Caution}
    (h : caution ∈ cautions pairs) : caution.isAboutAge = false := by
  rcases mem_cautions h with ⟨key, rfl⟩ | ⟨value, rfl⟩
  · rfl
  · rfl

theorem Bounded.exists_isAboutAge_iff (h : Bounded limits) (pairs : List Pair) :
    (∃ c ∈ cautions pairs ++ (clampAge limits mode age).2, c.isAboutAge = true) ↔
      age ≠ clamped limits mode age := by
  rw [← h.clampAge_snd_ne_nil_iff]
  constructor
  · rintro ⟨c, hmem, habout⟩
    rcases List.mem_append.mp hmem with hpairs | hclamp
    · rw [isAboutAge_of_mem_cautions hpairs] at habout
      cases habout
    · exact List.ne_nil_of_mem hclamp
  · intro hne
    obtain ⟨c, hc⟩ := List.exists_mem_of_ne_nil _ hne
    exact ⟨c, List.mem_append_right _ hc, isAboutAge_of_mem_clampAge hc⟩

end Clamp

-- A policy with the age that it asks for within the limits. What has been changed about the age is
-- told behind the cautions `before`.
structure Clamps (limits : Limits) (mode : Mode) (age : Int) (before : List Caution)
    (p : Policy) : Prop where
  maxAge : p.maxAge = max (min age limits.maxAge) (leastAge limits mode)
  least : leastAge limits mode ≤ p.maxAge
  greatest : p.maxAge ≤ limits.maxAge
  told : ∃ found, p.validation.cautions = before ++ found ∧
    ((∃ c ∈ found, c.isAboutAge = true) ↔ age ≠ p.maxAge)

theorem Bounded.clamps_assemble {limits : Limits} (h : Bounded limits) (origin : Origin)
    (fetchTime : Int) (record : Option Record) {pairs : List Pair} {mode : Mode} {age : Int}
    (hmode : AsksMode pairs mode) (hage : AsksAge limits pairs age) :
    Clamps limits mode age origin.validation.cautions
      (assemble limits origin fetchTime record pairs) := by
  have hmaxAge : (assemble limits origin fetchTime record pairs).maxAge =
      clamped limits mode age := by
    rw [assemble_maxAge, hmode.requestedMode_eq, hage.requestedAge_eq]
  have hbounds : leastAge limits mode ≤ clamped limits mode age ∧
      clamped limits mode age ≤ limits.maxAge := h.clamped_mem (hage.nonneg h)
  refine ⟨hmaxAge.trans (h.clamped_eq (hage.nonneg h)), hmaxAge ▸ hbounds.1, hmaxAge ▸ hbounds.2,
    _, assemble_cautions limits origin fetchTime record pairs, ?_⟩
  rw [hmode.requestedMode_eq, hage.requestedAge_eq, hmaxAge]
  exact h.exists_isAboutAge_iff pairs

-- The age of a policy lies within the limits for its mode, and asking for it changes nothing.
theorem build_clamps {limits : Limits} (h : Bounded limits) (registrable : List String → Bool)
    (origin : Origin) (fetchTime : Int) (record : Option Record) {pairs : List Pair} {mode : Mode}
    {age : Int} (hmode : AsksMode pairs mode) (hage : AsksAge limits pairs age) :
    ∃ p, (build registrable limits origin (some fetchTime) record pairs).1 = .ok p ∧
      p.mode = mode ∧ Clamps limits mode age origin.validation.cautions p ∧
      ∀ again, AsksMode again mode → values "max_age" again = [toString p.maxAge] →
        ∃ q found, (build registrable limits origin (some fetchTime) record again).1 = .ok q ∧
          q.maxAge = p.maxAge ∧ q.validation.cautions = origin.validation.cautions ++ found ∧
          ∀ c ∈ found, c.isAboutAge = false := by
  have hclamps := h.clamps_assemble origin fetchTime record hmode hage
  have hasked : (assemble limits origin fetchTime record pairs).mode = mode := by
    rw [assemble_mode, hmode.requestedMode_eq]
  refine ⟨_, build_some limits origin fetchTime record pairs registrable, hasked, hclamps,
    fun again hagainMode hvalues => ?_⟩
  generalize assemble limits origin fetchTime record pairs = p at hclamps hvalues ⊢
  obtain ⟨hmaxAge, hleast, hgreatest, -⟩ := hclamps
  have hnonneg : 0 ≤ p.maxAge := Int.le_trans h.leastAge_nonneg hleast
  have hform : AgeForm (toString p.maxAge) :=
    ageForm_toString hnonneg (Int.lt_of_le_of_lt hgreatest h.digits)
  have hagainAge : AsksAge limits again p.maxAge := by
    rw [← decimal_toString hnonneg]
    exact .read (by rw [hvalues]; rfl) ⟨hform, .inl rfl⟩
  have hagain := h.clamps_assemble origin fetchTime record hagainMode hagainAge
  have hsame : (assemble limits origin fetchTime record again).maxAge = p.maxAge := by
    rw [hagain.maxAge, Int.min_eq_left hgreatest, Int.max_eq_left hleast]
  obtain ⟨found, hfound, habout⟩ := hagain.told
  refine ⟨_, found, build_some limits origin fetchTime record again registrable, hsame, hfound,
    fun c hc => Bool.eq_false_iff.mpr fun hc' => ?_⟩
  exact habout.mp ⟨c, hc, hc'⟩ hsame.symm

-- An age that is overridden by one with a line feed behind it.
def lineEndAge : List Pair :=
  [("max_age", "1"), ("mode", " Enforce"), ("mx", "*.example.com"), ("max_age", "604800\n"),
    ("version", "STSv1")]

theorem lineEndAge_clamped :
    Bounded .standard ∧ AsksMode lineEndAge .enforce ∧ AsksAge .standard lineEndAge 604800 ∧
      ∃ p, (build (fun _ => true) .standard ⟨.empty, 0, []⟩ (some 1700000000) none
          lineEndAge).1 = .ok p ∧ p.mode = .enforce ∧ p.maxAge = 604800 := by
  have hbounded : Bounded .standard := ⟨by decide, by decide, by decide, by decide, by decide⟩
  have hlastMode : (values "mode" lineEndAge).getLast? = some " Enforce" := by decide
  have hword : Mode.read? " Enforce" = some .enforce := by decide +kernel
  have hmode : AsksMode lineEndAge .enforce :=
    .read hlastMode ((Mode.read?_eq_some_iff _ _).mp hword)
  have hlastAge : (values "max_age" lineEndAge).getLast? = some "604800\n" := by decide
  have hdigits : WritesAge "604800\n" "604800" :=
    ⟨(isAge_iff _ (by decide)).mp (by decide), .inr rfl⟩
  have hage : AsksAge .standard lineEndAge 604800 := .read hlastAge hdigits
  obtain ⟨p, hbuild, hpmode, hclamps, -⟩ :=
    build_clamps hbounded (fun _ => true) ⟨.empty, 0, []⟩ 1700000000 none hmode hage
  exact ⟨hbounded, hmode, hage, p, hbuild, hpmode, hclamps.maxAge⟩

end Policy

end StrictTransport
