import StrictTransport.Proofs.Policy.Restore

namespace StrictTransport.Policy

open Text

-- A value of a fetch time that is no number.
def Unreadable (value : String) : Prop :=
  ∀ t, Integer.read value ≠ .ok t

-- The fetch time that pairs tell: the last one that is a number, and 0 if none is.
inductive TellsTime (pairs : List Pair) : Int → Prop where
  | last {before after : List Pair} {value : String} {t : Int}
      (hpairs : pairs = before ++ ("fetch_time", value) :: after)
      (hread : Integer.read value = .ok t)
      (hafter : ∀ later, ("fetch_time", later) ∈ after → Unreadable later) : TellsTime pairs t
  | none (h : ∀ value, ("fetch_time", value) ∈ pairs → Unreadable value) : TellsTime pairs 0

section Time

variable {pairs : List Pair} {t : Int}

theorem fetchTimes_append (first second : List Pair) :
    fetchTimes (first ++ second) = fetchTimes first ++ fetchTimes second := by
  rw [fetchTimes, values_append, List.filterMap_append]
  rfl

theorem fetchTimes_eq_nil_iff :
    fetchTimes pairs = [] ↔ ∀ value, ("fetch_time", value) ∈ pairs → Unreadable value := by
  simp only [fetchTimes, List.filterMap_eq_nil_iff, mem_values, Unreadable]
  refine forall₂_congr fun value hvalue => ?_
  cases Integer.read value with
  | error e => simp [Except.toOption]
  | ok t => simp [Except.toOption]

theorem TellsTime.toldFetchTime_eq (h : TellsTime pairs t) : toldFetchTime pairs = t := by
  rw [toldFetchTime]
  cases h with
  | @last before after value _ hpairs hread hafter =>
      have hone : fetchTimes [("fetch_time", value)] = [t] := by
        simp [fetchTimes, values_singleton, hread, Except.toOption]
      have htimes : fetchTimes pairs = fetchTimes before ++ [t] := by
        rw [hpairs, ← List.singleton_append, fetchTimes_append, fetchTimes_append, hone,
          fetchTimes_eq_nil_iff.mpr hafter, List.append_nil]
      rw [htimes, List.getLast?_concat]
      rfl
  | none h =>
      rw [fetchTimes_eq_nil_iff.mpr h]
      rfl

-- A pair that tells no time leaves the time that is told.
theorem TellsTime.append_singleton (h : TellsTime pairs t) {pair : Pair}
    (hpair : ∀ value, pair = ("fetch_time", value) → Unreadable value) :
    TellsTime (pairs ++ [pair]) t := by
  have hmem : ∀ {l : List Pair}, (∀ value, ("fetch_time", value) ∈ l → Unreadable value) →
      ∀ value, ("fetch_time", value) ∈ l ++ [pair] → Unreadable value := by
    intro l hl value hvalue
    rcases List.mem_append.mp hvalue with hold | hnew
    · exact hl value hold
    · exact hpair value (List.mem_singleton.mp hnew).symm
  cases h with
  | @last before after value _ hpairs hread hafter =>
      have hpairs' : pairs ++ [pair] = before ++ ("fetch_time", value) :: (after ++ [pair]) := by
        rw [hpairs, List.append_assoc, List.cons_append]
      exact .last hpairs' hread (hmem hafter)
  | none h => exact .none (hmem h)

theorem tellsTime_toldFetchTime (pairs : List Pair) : TellsTime pairs (toldFetchTime pairs) := by
  have hexists : ∃ t, TellsTime pairs t := by
    induction pairs using List.reverseRecOn with
    | nil => exact ⟨0, .none fun _ h => absurd h List.not_mem_nil⟩
    | append_singleton pairs pair ih =>
        obtain ⟨t, ht⟩ := ih
        by_cases hnew : ∃ value t, pair = ("fetch_time", value) ∧ Integer.read value = .ok t
        · obtain ⟨value, t, rfl, hread⟩ := hnew
          exact ⟨t, .last rfl hread fun _ h => absurd h List.not_mem_nil⟩
        · push Not at hnew
          exact ⟨t, ht.append_singleton fun value hpair t => hnew value t hpair⟩
  obtain ⟨t, ht⟩ := hexists
  rwa [ht.toldFetchTime_eq]

theorem tellsTime_iff : TellsTime pairs t ↔ t = toldFetchTime pairs := by
  refine ⟨fun h => h.toldFetchTime_eq.symm, ?_⟩
  rintro rfl
  exact tellsTime_toldFetchTime pairs

end Time

-- What keeps pairs from telling a record.
inductive Lacks (registrable : List String → Bool) (pairs : List Pair) : Prop where
  | version (h : ∀ value, ("version", value) ∉ pairs)
  | domain (h : ∀ value, ("domain", value) ∈ pairs → Domain.isValid registrable value = false)
  | token (h : ∀ value, ("record_id", value) ∈ pairs → ∀ c ∈ value.toList, isBlank c = true)
  | time (t : Int) (h : TellsTime pairs t) (ht : t ≤ 0)

-- What is told all the same.
def remains (registrable : List String → Bool) (pairs : List Pair) : Corrupted :=
  ⟨lastValue? "version" pairs, toldDomain? registrable pairs, toldToken? pairs,
    toldFetchTime pairs⟩

section Record

variable (registrable : List String → Bool) (pairs : List Pair)

theorem lastValue?_eq_none_iff (key : String) :
    lastValue? key pairs = none ↔ ∀ value, (key, value) ∉ pairs := by
  rw [lastValue?, List.getLast?_eq_none_iff, List.eq_nil_iff_forall_not_mem]
  simp only [mem_values]

theorem toldDomain?_eq_none_iff :
    toldDomain? registrable pairs = none ↔
      ∀ value, ("domain", value) ∈ pairs → Domain.isValid registrable value = false := by
  rw [toldDomain?, Option.map_eq_none_iff, List.getLast?_eq_none_iff, List.filter_eq_nil_iff]
  simp only [mem_values, Bool.not_eq_true]

theorem toldToken?_eq_none_iff :
    toldToken? pairs = none ↔
      ∀ value, ("record_id", value) ∈ pairs → ∀ c ∈ value.toList, isBlank c = true := by
  rw [toldToken?, List.getLast?_eq_none_iff, List.filter_eq_nil_iff]
  simp only [List.mem_map, mem_values, forall_exists_index, and_imp, forall_apply_eq_imp_iff₂,
    bne_iff_ne, ne_eq, not_not, trimmed_eq_empty_iff]

theorem lacks_iff :
    Lacks registrable pairs ↔
      lastValue? "version" pairs = none ∨ toldDomain? registrable pairs = none ∨
        toldToken? pairs = none ∨ toldFetchTime pairs ≤ 0 := by
  rw [lastValue?_eq_none_iff, toldDomain?_eq_none_iff, toldToken?_eq_none_iff]
  constructor
  · rintro (h | h | h | ⟨t, h, ht⟩)
    · exact .inl h
    · exact .inr (.inl h)
    · exact .inr (.inr (.inl h))
    · exact .inr (.inr (.inr (tellsTime_iff.mp h ▸ ht)))
  · rintro (h | h | h | h)
    · exact .version h
    · exact .domain h
    · exact .token h
    · exact .time _ (tellsTime_toldFetchTime pairs) h

theorem toldRecord_eq_error_iff (e : Corrupted) :
    toldRecord registrable pairs = .error e ↔
      Lacks registrable pairs ∧ e = remains registrable pairs := by
  rw [lacks_iff, toldRecord, remains]
  cases lastValue? "version" pairs with
  | none => simp [eq_comm]
  | some version =>
      cases toldDomain? registrable pairs with
      | none => simp [eq_comm]
      | some domain =>
          cases toldToken? pairs with
          | none => simp [eq_comm]
          | some token =>
              by_cases htime : toldFetchTime pairs ≤ 0
              · simp [htime, eq_comm]
              · simp [htime]

end Record

theorem ofExtended_eq_error_iff (registrable : List String → Bool) (limits : Limits)
    (text : String) (e : Corrupted) :
    (ofExtended registrable limits text).1 = .error e ↔
      Lacks registrable (Document.parse limits (Utf8.encode text.toList)).1 ∧
        e = remains registrable (Document.parse limits (Utf8.encode text.toList)).1 := by
  rw [← toldRecord_eq_error_iff]
  simp only [ofExtended, build]
  cases toldRecord registrable (Document.parse limits (Utf8.encode text.toList)).1 with
  | error e => simp
  | ok r => simp

end StrictTransport.Policy
