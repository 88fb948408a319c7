import StrictTransport.Proofs.Policy.Draft

namespace StrictTransport.Policy

-- The keys that a fetched policy is made of.
def policyKeys : List String := ["version", "mode", "mx", "max_age"]

-- Whether two lists of pairs give each policy key the same values. Nothing is said of how the keys
-- follow on each other, or of other keys.
def SameValues (first second : List Pair) : Prop :=
  ∀ key ∈ policyKeys, values key first = values key second

-- Policies that ask for the same, with the same findings. Only the order of the warnings is open.
structure Alike (p q : Policy) : Prop where
  version : p.version = q.version
  mode : p.mode = q.mode
  masks : p.masks = q.masks
  maxAge : p.maxAge = q.maxAge
  fetchTime : p.fetchTime = q.fetchTime
  record : p.record = q.record
  valid : p.isValid = q.isValid
  errors : p.validation.errors = q.validation.errors
  warnings : p.validation.warnings.Perm q.validation.warnings

section SameValues

variable {first second : List Pair}

theorem SameValues.lastValue?_eq (h : SameValues first second) {key : String}
    (hkey : key ∈ policyKeys) : lastValue? key first = lastValue? key second := by
  rw [lastValue?, lastValue?, h key hkey]

theorem SameValues.requestedMode_eq (h : SameValues first second) :
    requestedMode first = requestedMode second := by
  rw [requestedMode, requestedMode, h.lastValue?_eq (by decide)]

theorem SameValues.requestedAge_eq (h : SameValues first second) (limits : Limits) :
    requestedAge limits first = requestedAge limits second := by
  rw [requestedAge, requestedAge, h.lastValue?_eq (by decide)]

theorem mem_policyKeys_of_required : ∀ key ∈ requiredKeys, key ∈ policyKeys := by
  decide

theorem SameValues.problems_eq (h : SameValues first second) :
    problems first = problems second := by
  have hmissing : (requiredKeys.filter fun key => (values key first).isEmpty) =
      requiredKeys.filter fun key => (values key second).isEmpty :=
    List.filter_congr fun key hkey => by rw [h key (mem_policyKeys_of_required key hkey)]
  rw [problems, problems, badAges, badAges, h "max_age" (by decide), hmissing]

theorem SameValues.cautions_perm (h : SameValues first second) :
    (cautions first).Perm (cautions second) :=
  Policy.cautions_perm fun key hkey => h key (mem_policyKeys_of_required key hkey)

theorem SameValues.alike_assemble (h : SameValues first second) (limits : Limits)
    (origin : Origin) (fetchTime : Int) (record : Option Record) :
    Alike (assemble limits origin fetchTime record first)
      (assemble limits origin fetchTime record second) := by
  have hmaxAge : (assemble limits origin fetchTime record first).maxAge =
      (assemble limits origin fetchTime record second).maxAge := by
    rw [assemble_maxAge, assemble_maxAge, h.requestedMode_eq, h.requestedAge_eq]
  have hproblems : (assemble limits origin fetchTime record first).validation.problems =
      (assemble limits origin fetchTime record second).validation.problems := by
    rw [assemble_problems, assemble_problems, h.problems_eq]
  refine ⟨?_, ?_, ?_, hmaxAge, rfl, rfl, ?_, ?_, ?_⟩
  · rw [assemble_version, assemble_version, h.lastValue?_eq (by decide)]
  · rw [assemble_mode, assemble_mode, h.requestedMode_eq]
  · rw [assemble_masks, assemble_masks, h "mx" (by decide)]
  · rw [Bool.eq_iff_iff, isValid_iff, isValid_iff, hproblems, hmaxAge, assemble_mode,
      assemble_mode, h.requestedMode_eq, assemble_masks, assemble_masks, h "mx" (by decide)]
  · rw [Validation.errors, hproblems]
    rfl
  · rw [Validation.warnings, Validation.warnings, assemble_cautions, assemble_cautions,
      h.requestedMode_eq, h.requestedAge_eq]
    exact ((h.cautions_perm.append_right _).append_left _).map _

end SameValues

-- A fetched policy is what its four keys say. The time and the record are not taken from pairs.
theorem build_alike (registrable : List String → Bool) (limits : Limits) (origin : Origin)
    (fetchTime : Int) (record : Option Record) {first second : List Pair}
    (h : SameValues first second) :
    ∃ p q, (build registrable limits origin (some fetchTime) record first).1 = .ok p ∧
      (build registrable limits origin (some fetchTime) record second).1 = .ok q ∧ Alike p q ∧
      p.fetchTime = fetchTime ∧ p.record = record :=
  ⟨_, _, build_some limits origin fetchTime record first registrable,
    build_some limits origin fetchTime record second registrable,
    h.alike_assemble limits origin fetchTime record, rfl, rfl⟩

-- Pairs in another order, with pairs that tell another time and another record.
def shuffledPairs : List Pair :=
  [("fetch_time", "1"), ("max_age", "604800"), ("mode", "none"), ("mx", "a.example.com"),
    ("domain", "example.net"), ("mode", "enforce"), ("version", "STSv1"), ("record_id", "forged"),
    ("mx", "b.example.com"), ("max_age", "86400"), ("mode", "strict")]

def sortedPairs : List Pair :=
  [("version", "STSv1"), ("mode", "none"), ("mode", "enforce"), ("mode", "strict"),
    ("mx", "a.example.com"), ("mx", "b.example.com"), ("max_age", "604800"), ("max_age", "86400")]

theorem shuffledPairs_alike :
    SameValues shuffledPairs sortedPairs ∧ cautions shuffledPairs ≠ cautions sortedPairs ∧
      ∃ p q, (build (fun _ => true) .standard ⟨.empty, 0, []⟩ (some 1700000000)
          (some ⟨some "example.com", "v=STSv1; id=1;"⟩) shuffledPairs).1 = .ok p ∧
        (build (fun _ => true) .standard ⟨.empty, 0, []⟩ (some 1700000000)
          (some ⟨some "example.com", "v=STSv1; id=1;"⟩) sortedPairs).1 = .ok q ∧ Alike p q ∧
        p.fetchTime = 1700000000 ∧ p.record = some ⟨some "example.com", "v=STSv1; id=1;"⟩ := by
  have hsame : SameValues shuffledPairs sortedPairs := by
    unfold SameValues
    decide
  exact ⟨hsame, by decide +kernel, build_alike _ _ _ _ _ hsame⟩

end StrictTransport.Policy
