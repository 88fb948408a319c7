import StrictTransport.Record.Lookup
import Mathlib.Data.List.Basic

namespace StrictTransport.Record

open Resolver

variable {σ τ : Type} {name text : String} {texts : List String}
  {first second : Except Failure (List String)}

-- Whether a text is the only one among several that announces itself as a record, wherever it
-- stands among them.
def Sole (text : String) (texts : List String) : Prop :=
  announces text = true ∧ ∃ before after, texts = before ++ text :: after ∧
    ∀ other ∈ before ++ after, announces other = false

-- Whether there is nothing to be found: the name does not exist, or it has no texts.
def IsAbsent (outcome : Except Failure (List String)) : Prop :=
  outcome = .error .noName ∨ outcome = .error .noAnswer

-- What a lookup tells of records: its failure, or the texts that announce themselves.
def related (outcome : Except Failure (List String)) : Except Failure (List String) :=
  outcome.map (List.filter announces)

theorem sole_iff : Sole text texts ↔ texts.filter announces = [text] := by
  simp only [Sole, List.filter_eq_cons_iff, List.filter_eq_nil_iff, List.mem_append]
  constructor
  · rintro ⟨htext, before, after, rfl, hothers⟩
    exact ⟨before, after, rfl, fun other h => by simp [hothers other (.inl h)], htext,
      fun other h => by simp [hothers other (.inr h)]⟩
  · rintro ⟨before, after, rfl, hbefore, htext, hafter⟩
    refine ⟨htext, before, after, rfl, fun other h => ?_⟩
    rcases h with h | h
    · simpa using hbefore other h
    · simpa using hafter other h

theorem select_eq_ok_iff : select texts = .ok text ↔ Sole text texts := by
  rw [sole_iff, select]
  cases texts.filter announces with
  | nil => simp
  | cons found rest => cases rest <;> simp

theorem select_eq_several_iff : select texts = .error .several ↔ 2 ≤ texts.countP announces := by
  rw [List.countP_eq_length_filter, select]
  cases texts.filter announces with
  | nil => simp
  | cons found rest => cases rest <;> simp

theorem select_ne_wrongPlace {place domain : String} :
    select texts ≠ .error (.wrongPlace place domain) := by
  unfold select
  split <;> nofun

theorem select_filter : select (texts.filter announces) = select texts := by
  simp only [select, List.filter_filter, Bool.and_self]

theorem ofFailure_cases (failure : Failure) :
    SearchFault.ofFailure failure = .unreportable ∨
      ∃ reported, SearchFault.ofFailure failure = .resolver reported := by
  unfold SearchFault.ofFailure
  cases failure.reported? with
  | none => exact .inl rfl
  | some reported => exact .inr ⟨reported, rfl⟩

theorem ofFailure_ne_wrongPlace {failure : Failure} {place domain : String} :
    SearchFault.ofFailure failure ≠ .wrongPlace place domain := by
  rcases ofFailure_cases failure with h | ⟨reported, h⟩ <;> rw [h] <;> nofun

theorem ofFailure_ne_several {failure : Failure} : SearchFault.ofFailure failure ≠ .several := by
  rcases ofFailure_cases failure with h | ⟨reported, h⟩ <;> rw [h] <;> nofun

theorem absence_error (name : String) (failure : Failure) :
    absence name (.error failure) = .noRecord ∨ absence name (.error failure) = .noDomain ∨
      absence name (.error failure) = .ofFailure failure := by
  cases failure <;> simp [absence]

theorem absence_eq_wrongPlace_iff {place domain : String} :
    absence name second = .wrongPlace place domain ↔
      (place = target name ∧ domain = name) ∧
        ∃ texts, second = .ok texts ∧ ∃ text ∈ texts, announces text = true := by
  constructor
  · intro h
    cases second with
    | ok texts =>
        simp only [absence] at h
        split at h
        · rename_i hany
          cases h
          exact ⟨⟨rfl, rfl⟩, texts, rfl, List.any_eq_true.mp hany⟩
        · cases h
    | error failure =>
        rcases absence_error name failure with hnone | hnone | hnone
        · cases hnone.symm.trans h
        · cases hnone.symm.trans h
        · exact absurd (hnone.symm.trans h) ofFailure_ne_wrongPlace
  · rintro ⟨⟨rfl, rfl⟩, texts, rfl, hannounced⟩
    simp only [absence, List.any_eq_true.mpr hannounced, if_true]

theorem absence_ne_several : absence name second ≠ .several := by
  intro h
  cases second with
  | ok texts =>
      simp only [absence] at h
      split at h <;> cases h
  | error failure =>
      rcases absence_error name failure with hnone | hnone | hnone
      · cases hnone.symm.trans h
      · cases hnone.symm.trans h
      · exact ofFailure_ne_several (hnone.symm.trans h)

theorem absence_related : absence name (related second) = absence name second := by
  cases second with
  | ok texts =>
      have hany : (texts.filter announces).any announces = texts.any announces := by
        simp only [List.any_filter, Bool.and_self]
      simp only [related, Except.map, absence, hany]
  | error failure => rfl

theorem isAbsent_error_iff {failure : Failure} :
    IsAbsent (.error failure) ↔ failure.isAbsence = true := by
  cases failure <;> simp [IsAbsent, Failure.isAbsence]

-- What a search ends in, by what its lookups give: that of the name for the record, and that of the
-- domain itself.
def verdict (name : String) (first second : Except Failure (List String)) :
    Except SearchFault String :=
  match first with
  | .ok texts => select texts
  | .error failure =>
    if failure.isAbsence then .error (absence name second) else .error (.ofFailure failure)

theorem verdict_of_absent (h : IsAbsent first) :
    verdict name first second = .error (absence name second) := by
  rcases h with rfl | rfl <;> rfl

theorem verdict_of_failed {failure : Failure} (h : ¬IsAbsent (.error failure)) :
    verdict name (.error failure) second = .error (.ofFailure failure) := by
  rw [isAbsent_error_iff] at h
  exact if_neg h

theorem verdict_eq_ok_iff :
    verdict name first second = .ok text ↔ ∃ texts, first = .ok texts ∧ Sole text texts := by
  cases first with
  | ok texts =>
      simp only [verdict, select_eq_ok_iff]
      exact ⟨fun h => ⟨texts, rfl, h⟩, fun ⟨_, heq, h⟩ => Except.ok.inj heq ▸ h⟩
  | error failure =>
      simp only [verdict]
      split <;> simp

theorem verdict_eq_several_iff :
    verdict name first second = .error .several ↔
      ∃ texts, first = .ok texts ∧ 2 ≤ texts.countP announces := by
  cases first with
  | ok texts =>
      simp only [verdict, select_eq_several_iff]
      exact ⟨fun h => ⟨texts, rfl, h⟩, fun ⟨_, heq, h⟩ => Except.ok.inj heq ▸ h⟩
  | error failure =>
      constructor
      · intro h
        by_cases habsent : IsAbsent (.error failure)
        · exact absurd (Except.error.inj ((verdict_of_absent habsent).symm.trans h))
            absence_ne_several
        · exact absurd (Except.error.inj ((verdict_of_failed habsent).symm.trans h))
            ofFailure_ne_several
      · rintro ⟨texts, heq, -⟩
        cases heq

theorem verdict_eq_wrongPlace_iff {place domain : String} :
    verdict name first second = .error (.wrongPlace place domain) ↔
      (place = target name ∧ domain = name) ∧ IsAbsent first ∧
        ∃ texts, second = .ok texts ∧ ∃ text ∈ texts, announces text = true := by
  by_cases habsent : IsAbsent first
  · rw [verdict_of_absent habsent, Except.error.injEq, absence_eq_wrongPlace_iff]
    simp only [habsent, true_and]
  · simp only [habsent, false_and, and_false, iff_false]
    intro h
    cases first with
    | ok texts => exact select_ne_wrongPlace h
    | error failure =>
        rw [verdict_of_failed habsent] at h
        exact ofFailure_ne_wrongPlace (Except.error.inj h)

theorem verdict_related :
    verdict name (related first) (related second) = verdict name first second := by
  cases first with
  | ok texts => exact select_filter
  | error failure =>
      by_cases habsent : IsAbsent (.error failure)
      · rw [verdict_of_absent habsent, ← absence_related, ← verdict_of_absent habsent]
        rfl
      · rw [verdict_of_failed habsent, ← verdict_of_failed habsent]
        rfl

-- What the second lookup gives does not matter unless the first one finds nothing at all.
theorem verdict_of_present (h : ¬IsAbsent first) (second second' : Except Failure (List String)) :
    verdict name first second = verdict name first second' := by
  cases first with
  | ok texts => rfl
  | error failure => rw [verdict_of_failed h, verdict_of_failed h]

theorem verdict_congr {first' second' : Except Failure (List String)}
    (hfirst : related first' = related first)
    (hsecond : IsAbsent first → related second' = related second) :
    verdict name first' second' = verdict name first second := by
  rw [← verdict_related, hfirst]
  by_cases habsent : IsAbsent first
  · rw [hsecond habsent, verdict_related]
  · rw [verdict_related, verdict_of_present habsent second' second]

-- The world after lookups of the texts under several names, one after the other.
def afterLookups (o : Outside σ) (options : Options) : List String → World σ → World σ
  | [], w => w
  | name :: names, w => afterLookups o options names (query o options true name "TXT" w).2

section Search

variable (o : Outside σ) (options : Options) (domain : String) (w : World σ)

theorem search_fst :
    let name := Domain.normalize domain
    let first := query o options true (target name) "TXT" w
    let second := query o options true name "TXT" first.2
    (search o options domain w).1 = verdict name first.1 second.1 := by
  dsimp only [search]
  cases query o options true (target (Domain.normalize domain)) "TXT" w with
  | mk outcome w₁ =>
      cases outcome with
      | ok texts => rfl
      | error failure =>
          dsimp only [verdict]
          split <;> rfl

theorem search_snd_of_absent
    (h : IsAbsent (query o options true (target (Domain.normalize domain)) "TXT" w).1) :
    (search o options domain w).2 =
      afterLookups o options [target (Domain.normalize domain), Domain.normalize domain] w := by
  dsimp only [search, afterLookups]
  generalize query o options true (target (Domain.normalize domain)) "TXT" w = first at h ⊢
  obtain ⟨outcome, w₁⟩ := first
  rcases h with rfl | rfl <;> rfl

theorem search_snd_of_present
    (h : ¬IsAbsent (query o options true (target (Domain.normalize domain)) "TXT" w).1) :
    (search o options domain w).2 =
      afterLookups o options [target (Domain.normalize domain)] w := by
  dsimp only [search, afterLookups]
  generalize query o options true (target (Domain.normalize domain)) "TXT" w = first at h ⊢
  obtain ⟨outcome, w₁⟩ := first
  cases outcome with
  | ok texts => rfl
  | error failure =>
      rw [isAbsent_error_iff] at h
      simp only [h]
      rfl

-- A search gives the one text that announces itself, wherever it stands among the texts under the
-- name for the record. Several such texts are a fault of their own. The domain itself is looked up
-- exactly if there is nothing under that name, and only then a text can be in the wrong place.
-- Texts that do not announce themselves make no difference.
theorem search_selects (o' : Outside τ) (options' : Options) (w' : World τ) :
    let name := Domain.normalize domain
    let first := query o options true (target name) "TXT" w
    let second := query o options true name "TXT" first.2
    let first' := query o' options' true (target name) "TXT" w'
    let second' := query o' options' true name "TXT" first'.2
    let result := search o options domain w
    (∀ text, result.1 = .ok text ↔ ∃ texts, first.1 = .ok texts ∧ Sole text texts) ∧
    (result.1 = .error .several ↔
      ∃ texts, first.1 = .ok texts ∧ 2 ≤ texts.countP announces) ∧
    (∀ place around, result.1 = .error (.wrongPlace place around) ↔
      (place = target name ∧ around = name) ∧ IsAbsent first.1 ∧
        ∃ texts, second.1 = .ok texts ∧ ∃ text ∈ texts, announces text = true) ∧
    (∃ further, (further = [] ∨ further = [name]) ∧ (name ∈ further ↔ IsAbsent first.1) ∧
      result.2 = afterLookups o options (target name :: further) w) ∧
    (related first'.1 = related first.1 →
      (IsAbsent first.1 → related second'.1 = related second.1) →
      (search o' options' domain w').1 = result.1) := by
  intro name first second first' second' result
  have hresult : result.1 = verdict name first.1 second.1 := search_fst o options domain w
  have hresult' : (search o' options' domain w').1 = verdict name first'.1 second'.1 :=
    search_fst o' options' domain w'
  rw [hresult, hresult']
  refine ⟨fun text => verdict_eq_ok_iff, verdict_eq_several_iff,
    fun place around => verdict_eq_wrongPlace_iff, ?_, fun hfirst hsecond => ?_⟩
  · by_cases habsent : IsAbsent first.1
    · exact ⟨[name], .inr rfl, by simp only [List.mem_singleton, habsent],
        search_snd_of_absent o options domain w habsent⟩
    · exact ⟨[], .inl rfl, by simp only [List.not_mem_nil, habsent],
        search_snd_of_present o options domain w habsent⟩
  · exact verdict_congr hfirst hsecond

end Search

-- A world without a transport, where texts stand under the domain alone.
def misplaced (texts : List String) : Outside Unit where
  now _ := 0
  depth _ := 1000
  resolve question _ :=
    (if question.name = "example.com" then
      .ok (.chunked (texts.map fun text => [Text.Utf8.encode text.toList]))
    else .error .noName, ())
  request _ x := (.error (.transport "no transport"), x)
  close _ x := x

def misplacedSearch (texts : List String) : Except SearchFault String :=
  (search (misplaced texts) .standard "example.com" ⟨(), .standard, []⟩).1

theorem misplacedSearch_wrongPlace :
    misplacedSearch ["v=STSv1; id=1;"] =
        .error (.wrongPlace "_mta-sts.example.com" "example.com") ∧
      misplacedSearch ["v=spf1 -all", "", "v=STSv1; id=1;", "v=STSv2; id=2;"] =
        misplacedSearch ["v=STSv1; id=1;"] := by
  have hselects := search_selects (misplaced ["v=STSv1; id=1;"]) .standard "example.com"
    ⟨(), .standard, []⟩ (misplaced ["v=spf1 -all", "", "v=STSv1; id=1;", "v=STSv2; id=2;"])
    .standard ⟨(), .standard, []⟩
  constructor
  · exact (hselects.2.2.1 _ _).mpr ⟨by decide +kernel, .inl (by decide +kernel),
      ["v=STSv1; id=1;"], by decide +kernel, "v=STSv1; id=1;", by decide, by decide⟩
  · exact hselects.2.2.2.2 (by decide +kernel) fun _ => by decide +kernel

end StrictTransport.Record
