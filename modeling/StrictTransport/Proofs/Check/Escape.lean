import StrictTransport.Proofs.Check.Outage
import StrictTransport.Proofs.Record.Selection
import StrictTransport.Proofs.Resolver.Query

namespace StrictTransport

open Resolver

variable {σ : Type} {o : Outside σ}

namespace Resolver

-- Why a failure cannot be reported: it does not tell how much time ran out.
inductive Failure.Untold : Failure → Prop
  | expired : Untold (.expired none)
  | mishap {mishap : Mishap} (h : mishap.reportable = false) : Untold (.other mishap)

theorem Failure.reported?_eq_none_iff {failure : Failure} :
    failure.reported? = none ↔ failure.Untold := by
  constructor
  · intro h
    cases failure with
    | expired seconds =>
        cases seconds with
        | none => exact .expired
        | some time => cases h
    | other mishap =>
        simp only [reported?] at h
        split at h
        · cases h
        · exact .mishap (Bool.eq_false_iff.mpr ‹_›)
    | _ => cases h
  · intro h
    cases h with
    | expired => rfl
    | mishap hmishap => simp only [reported?, hmishap, Bool.false_eq_true, if_false]

theorem expiry_cases (options : Options) (seconds : Option Binary64) :
    options.expiry seconds = .noRetryCount ∨ options.expiry seconds = .expired seconds := by
  unfold Options.expiry
  split
  · exact .inl rfl
  · exact .inr rfl

section Queried

variable {options : Options} {remember : Bool} {name type : String} {w w' : World σ}
  {failure : Failure}

theorem Put.exists_resolve (h : Put o options remember name type w (.error failure) w')
    (huntold : failure.Untold) : ∃ question x, (o.resolve question x).1 = .error failure := by
  obtain ⟨w₁, -, hasked⟩ := h
  cases hquestion : options.question name type with
  | error refusal =>
      rw [hquestion] at hasked
      cases hasked
      rcases question_eq_error hquestion with rfl | rfl <;> cases huntold
  | ok question =>
      rw [hquestion] at hasked
      exact ⟨question, w₁.state, congrArg Prod.fst hasked⟩

-- A failure that cannot be reported has been given by the resolver.
theorem Queried.exists_resolve {depth retries : Nat} {result : Except Failure (List String)}
    (h : Queried o options remember depth retries name type w result w')
    (hresult : result = .error failure) (huntold : failure.Untold) :
    ∃ question x, (o.resolve question x).1 = .error failure := by
  induction h with
  | recalled => cases hresult
  | answered => cases hresult
  | @expired _ _ _ _ _ seconds hput =>
      obtain rfl := Except.error.inj hresult
      rcases expiry_cases options seconds with hexpiry | hexpiry
      · rw [hexpiry] at huntold
        cases huntold
      · rw [hexpiry] at huntold ⊢
        exact hput.exists_resolve huntold
  | tooDeep =>
      obtain rfl := Except.error.inj hresult
      cases huntold
  | again hput hagain ih => exact ih hresult
  | failed hput hlasting =>
      obtain rfl := Except.error.inj hresult
      exact hput.exists_resolve huntold

theorem exists_resolve_of_query (h : (query o options remember name type w).1 = .error failure)
    (huntold : failure.Untold) : ∃ question x, (o.resolve question x).1 = .error failure :=
  (queryFrom_queried o options remember _ _ name type w).exists_resolve h huntold

end Queried

end Resolver

namespace Record

variable {name : String} {first second : Except Failure (List String)}

-- Whether a lookup ends in a failure that cannot be reported.
def IsUntold (outcome : Except Failure (List String)) : Prop :=
  ∃ failure, outcome = .error failure ∧ failure.Untold

theorem isUntold_error_iff {failure : Failure} : IsUntold (.error failure) ↔ failure.Untold :=
  ⟨fun ⟨_, heq, h⟩ => Except.error.inj heq ▸ h, fun h => ⟨failure, rfl, h⟩⟩

theorem ofFailure_eq_unreportable_iff {failure : Failure} :
    SearchFault.ofFailure failure = .unreportable ↔ failure.Untold := by
  rw [← Failure.reported?_eq_none_iff, SearchFault.ofFailure]
  cases failure.reported? <;> simp

theorem not_isUntold_of_isAbsent (h : IsAbsent first) : ¬IsUntold first := by
  rcases h with rfl | rfl <;> rw [isUntold_error_iff] <;> nofun

theorem select_ne_unreportable {texts : List String} : select texts ≠ .error .unreportable := by
  unfold select
  split <;> nofun

theorem absence_eq_unreportable_iff : absence name second = .unreportable ↔ IsUntold second := by
  cases second with
  | ok texts =>
      simp only [absence, IsUntold, reduceCtorEq, false_and, exists_false, iff_false]
      intro h
      split at h <;> cases h
  | error failure =>
      rw [isUntold_error_iff]
      cases failure with
      | noName => constructor <;> intro h <;> cases h
      | noAnswer => constructor <;> intro h <;> cases h
      | _ => exact ofFailure_eq_unreportable_iff

theorem verdict_eq_unreportable_iff :
    verdict name first second = .error .unreportable ↔
      IsUntold first ∨ IsAbsent first ∧ IsUntold second := by
  by_cases habsent : IsAbsent first
  · rw [verdict_of_absent habsent, Except.error.injEq, absence_eq_unreportable_iff]
    simp only [not_isUntold_of_isAbsent habsent, habsent, true_and, false_or]
  · simp only [habsent, false_and, or_false]
    cases first with
    | ok texts => exact ⟨fun h => absurd h select_ne_unreportable, nofun⟩
    | error failure =>
        rw [verdict_of_failed habsent, Except.error.injEq, ofFailure_eq_unreportable_iff,
          isUntold_error_iff]

-- Whether the lookups for the record of a domain end in a failure that cannot be reported: the
-- first one does, or it finds nothing at all and the second one does.
def Unreported (o : Outside σ) (options : Options) (domain : String) (w : World σ) : Prop :=
  let name := Domain.normalize (Domain.normalize domain)
  let first := query o options true (target name) "TXT" w
  IsUntold first.1 ∨ IsAbsent first.1 ∧ IsUntold (query o options true name "TXT" first.2).1

theorem find_eq_unreportable_iff (o : Outside σ) (options : Options) (domain : String)
    (w : World σ) :
    (find o options domain w).1 = .error .unreportable ↔ Unreported o options domain w := by
  have hsearch : (search o options (Domain.normalize domain) w).1 = .error .unreportable ↔
      Unreported o options domain w := by
    rw [search_fst]
    exact verdict_eq_unreportable_iff
  rw [← hsearch, find]
  cases search o options (Domain.normalize domain) w with
  | mk outcome w₁ =>
      cases outcome with
      | error fault => exact Iff.of_eq (by simp only [Except.error.injEq])
      | ok text =>
          dsimp only
          split <;> simp

theorem not_unreported (h : ∀ question x failure, (o.resolve question x).1 = .error failure →
    ¬failure.Untold) (options : Options) (domain : String) (w : World σ) :
    ¬Unreported o options domain w := by
  have hquery (name : String) (w : World σ) : ¬IsUntold (query o options true name "TXT" w).1 := by
    rintro ⟨failure, hfailure, huntold⟩
    obtain ⟨question, x, hresolve⟩ := exists_resolve_of_query hfailure huntold
    exact h question x failure hresolve huntold
  rintro (hfirst | ⟨-, hsecond⟩)
  · exact hquery _ _ hfirst
  · exact hquery _ _ hsecond

end Record

namespace Check

theorem getPolicy_record_iff (setting : Setting) (domain : String) (s : Store) (w : World σ) :
    (∃ fault, (getPolicy o setting domain s w).1 = .error (.record fault)) ↔
      (Record.find o setting.options (Domain.normalize domain) w).1 = .error .unreportable := by
  cases hfind : Record.find o setting.options (Domain.normalize domain) w with
  | mk found w₁ =>
      cases found with
      | error fault =>
          by_cases hfault : fault = .unreportable
          · subst hfault
            simp [getPolicy, hfind]
          · rw [getPolicy_of_missed hfault hfind s]
            simp [hfault]
      | ok record =>
          rw [getPolicy_of_found hfind s]
          dsimp only
          cases (Store.getOrFetch o (fetcher o setting.client setting.limits) (some record) s w₁).1
            with
          | error failure => simp [Except.mapError, Except.map]
          | ok given => simp [Except.mapError, Except.map]

-- The search for the record of a domain ends in a record or in a fault that is told, and a fault
-- that is told means no policy. Only a timeout of the resolver that does not tell how much time ran
-- out, and that ends the lookups, gets past all that.
theorem getPolicy_unreported (o : Outside σ) (setting : Setting) (domain : String) (s : Store)
    (w : World σ) :
    ((Record.find o setting.options domain w).1 = .error .unreportable ↔
      Record.Unreported o setting.options domain w) ∧
    ((∃ fault, (getPolicy o setting domain s w).1 = .error (.record fault)) ↔
      Record.Unreported o setting.options (Domain.normalize domain) w) ∧
    (∀ fault, (Record.find o setting.options (Domain.normalize domain) w).1 = .error fault →
      fault ≠ .unreportable → (getPolicy o setting domain s w).1 = .ok none) ∧
    ((∀ question x failure, (o.resolve question x).1 = .error failure → ¬failure.Untold) →
      ∀ name, ¬Record.Unreported o setting.options name w) := by
  refine ⟨Record.find_eq_unreportable_iff o setting.options domain w, ?_,
    fun fault hfind hfault => ?_, fun h name => Record.not_unreported h setting.options name w⟩
  · rw [← Record.find_eq_unreportable_iff]
    exact getPolicy_record_iff setting domain s w
  · rw [getPolicy_of_missed hfault (Prod.ext hfind rfl) s]

-- A check where every question to the resolver fails in the same way.
def failingCheck (failure : Failure) : Except Fault (Option Policy) :=
  (getPolicy (answering (.error failure)) ⟨.standard, .standard, .standard⟩ "example.com"
    Store.empty ⟨1700000000, .standard, []⟩).1

-- An expiry escapes if it does not tell how much time ran out, and is no more than the lack of a
-- policy if it does.
theorem untoldExpiry_escapes :
    (∃ fault, failingCheck (.expired none) = .error (.record fault)) ∧
      failingCheck (.expired (some (.ofInt 2))) = .ok none := by
  have hunreported := fun failure => getPolicy_unreported (answering (.error failure))
    ⟨.standard, .standard, .standard⟩ "example.com" Store.empty ⟨1700000000, .standard, []⟩
  constructor
  · exact (hunreported (.expired none)).2.1.mpr
      (.inl ⟨.expired none, by decide +kernel, .expired⟩)
  · exact (hunreported (.expired (some (.ofInt 2)))).2.2.1
      (.resolver (.expired (some (.ofInt 2)))) (by decide +kernel) nofun

end Check

end StrictTransport
