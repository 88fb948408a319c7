import StrictTransport.Proofs.Policy.Restore
import StrictTransport.Proofs.Store.Downgrade

namespace StrictTransport.Store

open Text

variable {σ ε : Type}

-- Whether what a call fetches is made of a response, for the record that the call brings.
def Call.Builds (call : Call σ ε) : Prop :=
  ∀ p, call.fetched = .ok (some p) → ∃ limits now response?,
    p = (Policy.ofResponse limits now response? call.record).1

-- Whether a record, if there is one, is one of a domain with this normal form.
def IsFor (name : String) (record? : Option Record) : Prop :=
  (record?.bind Record.domain).map Domain.normalize = some name

-- Whether a use builds what it fetches.
def Use.Builds : Use σ ε → Prop
  | .put _ _ => True
  | .load _ _ _ => True
  | .answer call => call.Builds

-- Whether what a use may store under a name is for a domain of that name. A loaded text tells a
-- domain of its own, and what is fetched is stored under the normal form of a normal form.
def Use.Matches (name : String) : Use σ ε → Prop
  | .put domain p => Domain.normalize domain = name → IsFor name p.record
  | .load registrable limits entries => ∀ entry ∈ entries, Domain.normalize entry.1 = name →
      ∀ record, Policy.toldRecord registrable
          (Document.parse limits (Utf8.encode entry.2.toList)).1 = .ok record →
        IsFor name (some record)
  | .answer call => ∀ looked token, subject? call.record = some (looked, token) →
      Domain.normalize looked = name → looked = name

-- Whether the policy under a name, if there is one, is for a domain of that name.
def Keeps (name : String) (s : Store) : Prop :=
  ∀ p, s.find? name = some p → IsFor name p.record

theorem domain_of_subject? {record? : Option Record} {looked token : String}
    (h : subject? record? = some (looked, token)) :
    ∃ record domain, record? = some record ∧ record.domain = some domain ∧
      looked = Domain.normalize domain ∧ token = record.token := by
  obtain ⟨record, hrecord, hsubject⟩ := Option.bind_eq_some_iff.mp h
  obtain ⟨domain, hdomain, heq⟩ := Option.map_eq_some_iff.mp hsubject
  obtain ⟨hlooked, htoken⟩ := Prod.mk.inj heq
  exact ⟨record, domain, hrecord, hdomain, hlooked.symm, htoken.symm⟩

theorem isFor_of_subject? {record? : Option Record} {looked token : String}
    (h : subject? record? = some (looked, token)) : IsFor looked record? := by
  obtain ⟨record, domain, rfl, hdomain, rfl, -⟩ := domain_of_subject? h
  rw [IsFor, Option.bind_some, hdomain, Option.map_some]

theorem record_of_ofExtended {registrable : List String → Bool} {limits : Limits} {text : String}
    {q : Policy} (h : (Policy.ofExtended registrable limits text).1 = .ok q) :
    ∃ record, Policy.toldRecord registrable
        (Document.parse limits (Utf8.encode text.toList)).1 = .ok record ∧
      q.record = some record := by
  obtain ⟨record, htold, rfl⟩ := (Policy.ofExtended_eq_ok_iff registrable limits text q).mp h
  exact ⟨record, htold, rfl⟩

theorem Use.keeps_apply {o : Outside σ} {name : String} {s : Store} {use : Use σ ε}
    (hbuilds : use.Builds) (hmatches : use.Matches name) (hs : Keeps name s) :
    Keeps name (use.apply o s) := by
  cases use with
  | put domain p =>
      intro q hq
      change (s.put domain p).find? name = some q at hq
      rw [find?_put] at hq
      split at hq
      · rename_i hname
        obtain rfl := Option.some.inj hq
        exact hmatches hname.symm
      · exact hs q hq
  | load registrable limits entries =>
      intro q hq
      change (s.load registrable limits entries).1.find? name = some q at hq
      rw [find?_load, Option.or_eq_some_iff] at hq
      rcases hq with hlast | ⟨-, hq⟩
      · obtain ⟨entry, hmem, hname, p, hread, rfl⟩ := lastLoaded?_eq_some hlast
        obtain ⟨record, htold, hrecord⟩ := record_of_ofExtended hread
        change IsFor name p.record
        rw [hrecord]
        exact hmatches entry hmem hname record htold
      · exact hs q hq
  | answer call =>
      intro q hq
      change (getOrFetch o call.fetch call.record s call.world).2.1.find? name = some q at hq
      rcases (getOrFetch_ends o call.fetch call.record s call.world).find?_eq name with
        heq | ⟨looked, token, p, hsubject, hname, hfetch, -, hfind, -⟩
      · exact hs q (heq ▸ hq)
      · obtain rfl := Option.some.inj (hfind.symm.trans hq)
        obtain ⟨limits, now, response?, rfl⟩ := hbuilds p hfetch
        rw [← hmatches looked token hsubject hname]
        exact isFor_of_subject? hsubject

theorem keeps_afterUses (o : Outside σ) {name : String} {uses : List (Use σ ε)} {s : Store}
    (hbuilds : ∀ use ∈ uses, use.Builds) (hmatches : ∀ use ∈ uses, use.Matches name)
    (hs : Keeps name s) : Keeps name (afterUses o uses s) := by
  induction uses generalizing s with
  | nil => exact hs
  | cons use uses ih =>
      have hfirst := Use.keeps_apply (o := o) (hbuilds use List.mem_cons_self)
        (hmatches use List.mem_cons_self) hs
      exact ih (fun later h => hbuilds later (List.mem_cons_of_mem _ h))
        (fun later h => hmatches later (List.mem_cons_of_mem _ h)) hfirst

theorem Ends.stored_of_outcome {o : Outside σ} {fetch : Fetch σ ε} {record? : Option Record}
    {s s' : Store} {w w' : World σ} {outcome : Outcome ε}
    (h : Ends o fetch record? s w outcome s' w') {p : Policy}
    (houtcome : outcome = .ok ⟨some p, .stored⟩) :
    ∃ looked token q, subject? record? = some (looked, token) ∧ s.find? looked = some q ∧
      isStale q token (w.now o) = false ∧ p = q.asCached := by
  cases h with
  | bypassed hsubject =>
      cases hfetch : (fetch record? w).1 with
      | error e =>
          rw [hfetch] at houtcome
          cases houtcome
      | ok q? =>
          rw [hfetch] at houtcome
          cases houtcome
  | @stored looked token q hsubject hfound hfresh =>
      cases houtcome
      exact ⟨looked, token, q, hsubject, hfound, hfresh, rfl⟩
  | _ => cases houtcome

-- A policy that is given without a fetch belongs to a record with the token that the caller brings.
-- It is of the caller's generation if what has been stored under the caller's name was for domains
-- of that name.
theorem answer_generation (o : Outside σ) (uses : List (Use σ ε))
    (hbuilds : ∀ use ∈ uses, use.Builds) (call : Call σ ε) (p : Policy) :
    (call.answer o (afterUses o uses empty)).1 = .ok ⟨some p, .stored⟩ →
      ∃ record domain own, call.record = some record ∧ record.domain = some domain ∧
        p.record = some own ∧ own.token = record.token ∧
        ((∀ use ∈ uses, use.Matches (Domain.normalize domain)) →
          own.sameGeneration (some record) = true) := by
  intro houtcome
  obtain ⟨looked, token, q, hsubject, hfind, hfresh, rfl⟩ :=
    (getOrFetch_ends o call.fetch call.record (afterUses o uses empty) call.world).stored_of_outcome
      houtcome
  obtain ⟨record, domain, hrecord, hdomain, rfl, rfl⟩ := domain_of_subject? hsubject
  obtain ⟨own, hown, htoken⟩ := record_of_isStale hfresh
  refine ⟨record, domain, own, hrecord, hdomain, hown, htoken, fun hmatches => ?_⟩
  have hkeeps := keeps_afterUses o hbuilds hmatches (s := empty) nofun q hfind
  rw [hown, IsFor, Option.bind_some, Option.map_eq_some_iff] at hkeeps
  obtain ⟨told, htold, hname⟩ := hkeeps
  exact (Record.sameGeneration_eq_true_iff own record).mpr
    ⟨told, domain, htold, hdomain, hname, htoken⟩

-- A response with the document of a policy.
def dayResponse : Https.Response :=
  ⟨200, "OK", [], some (Utf8.encode
    "version: STSv1\nmode: enforce\nmx: mail.example.com\nmax_age: 86400\n".toList),
    true, .present 0, false, none⟩

-- A call at a time whose fetch builds a policy.
def buildCall (domain : String) (time : Int) : Call Int String where
  record := some ⟨some domain, "v=STSv1; id=1;"⟩
  fetch record? w :=
    (.ok (some (Policy.ofResponse .standard (w.now clockWorld) (some dayResponse) record?).1), w)
  world := ⟨time, .standard, []⟩

-- An entry under one name with the text of a domain of that name, another one with the text of
-- another domain, and a call for a third domain.
def dayUses : List (Use Int String) :=
  [.load (fun _ => true) .standard
    [dayEntry "example.com" "example.com", dayEntry "example.org" "example.net"],
    .answer (buildCall "example.edu" 1700000000)]

theorem builds_dayUses : ∀ use ∈ dayUses, use.Builds := by
  intro use huse
  simp only [dayUses, List.mem_cons, List.not_mem_nil, or_false] at huse
  rcases huse with rfl | rfl
  · trivial
  · intro p hfetched
    exact ⟨_, _, _, (Option.some.inj (Except.ok.inj hfetched)).symm⟩

-- Where the policy of an outcome comes from, and the record that it belongs to.
def origin? (outcome : Outcome ε) : Option (Source × Option Record) :=
  outcome.toOption.bind fun given => given.policy.map fun p => (given.source, p.record)

theorem exists_stored {outcome : Outcome ε} {record? : Option Record}
    (h : origin? outcome = some (.stored, record?)) :
    ∃ p, outcome = .ok ⟨some p, .stored⟩ ∧ p.record = record? := by
  cases outcome with
  | error failure => cases h
  | ok given =>
      obtain ⟨policy, source⟩ := given
      obtain ⟨p, rfl, heq⟩ := Option.map_eq_some_iff.mp h
      obtain ⟨rfl, hrecord⟩ := Prod.mk.inj heq
      exact ⟨p, rfl, hrecord⟩

-- What stands under a name may be for another domain, if it was loaded.
theorem strangerEntry_served :
    (∀ use ∈ dayUses, use.Builds) ∧
      ∃ p own, ((buildCall "example.org" 1700000000).answer clockWorld
        (afterUses clockWorld dayUses empty)).1 = .ok ⟨some p, .stored⟩ ∧ p.record = some own ∧
        own.sameGeneration (some ⟨some "example.org", "v=STSv1; id=1;"⟩) = false := by
  have horigin : origin? ((buildCall "example.org" 1700000000).answer clockWorld
      (afterUses clockWorld dayUses empty)).1 =
      some (.stored, some ⟨some "example.net", "v=STSv1; id=1;"⟩) := by
    decide +kernel
  obtain ⟨p, hanswer, hown⟩ := exists_stored horigin
  exact ⟨builds_dayUses, p, _, hanswer, hown, by decide +kernel⟩

theorem ownEntry_served :
    (∀ use ∈ dayUses, use.Builds) ∧ (∀ use ∈ dayUses, use.Matches "example.com") ∧
      ∃ p own, ((buildCall "Example.com." 1700000001).answer clockWorld
        (afterUses clockWorld dayUses empty)).1 = .ok ⟨some p, .stored⟩ ∧ p.record = some own ∧
        own.sameGeneration (some ⟨some "Example.com.", "v=STSv1; id=1;"⟩) = true := by
  have htold : Policy.toldRecord (fun _ => true) (Document.parse .standard
      (Utf8.encode (dayEntry "example.com" "example.com").2.toList)).1 =
      .ok ⟨some "example.com", "v=STSv1; id=1;"⟩ := by
    decide +kernel
  have hmatches : ∀ use ∈ dayUses, use.Matches "example.com" := by
    intro use huse
    simp only [dayUses, List.mem_cons, List.not_mem_nil, or_false] at huse
    rcases huse with rfl | rfl
    · intro entry hentry hname record hrecord
      simp only [List.mem_cons, List.not_mem_nil, or_false] at hentry
      rcases hentry with rfl | rfl
      · obtain rfl := Except.ok.inj (htold.symm.trans hrecord)
        change some (Domain.normalize "example.com") = some "example.com"
        decide +kernel
      · exact absurd hname (by decide +kernel)
    · intro looked token hsubject hname
      obtain ⟨rfl, -⟩ := Prod.mk.inj (Option.some.inj hsubject)
      exact absurd hname (by decide +kernel)
  have hname : Domain.normalize "Example.com." = "example.com" := by decide +kernel
  have horigin : origin? ((buildCall "Example.com." 1700000001).answer clockWorld
      (afterUses clockWorld dayUses empty)).1 =
      some (.stored, some ⟨some "example.com", "v=STSv1; id=1;"⟩) := by
    decide +kernel
  obtain ⟨p, hanswer, -⟩ := exists_stored horigin
  obtain ⟨record, domain, own, hrecord, hdomain, hown, -, hsame⟩ :=
    answer_generation clockWorld dayUses builds_dayUses (buildCall "Example.com." 1700000001) p
      hanswer
  obtain rfl := Option.some.inj hrecord
  obtain rfl := Option.some.inj hdomain
  exact ⟨builds_dayUses, hmatches, p, own, hanswer, hown, hsame (hname.symm ▸ hmatches)⟩

end StrictTransport.Store
