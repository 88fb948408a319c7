import StrictTransport.Proofs.Https.Client
import StrictTransport.Proofs.Record.Lookup
import StrictTransport.Proofs.Store.Downgrade

namespace StrictTransport.Check

variable {σ : Type} {o : Outside σ}

theorem fetcher_of_uncrashed (h : Https.Uncrashed o) (client : Https.Client) (limits : Limits)
    (record? : Option Record) (w : World σ) :
    ∃ p, (fetcher o client limits record? w).1 = .ok (some p) := by
  obtain ⟨response?, hget⟩ := Https.Client.get_eq_ok h client limits.bodySize record? w
  simp only [fetcher, fetchPolicy]
  cases hcall : client.get o limits.bodySize record? w with
  | mk result w' =>
      rw [hcall] at hget
      cases hget
      exact ⟨_, rfl⟩

-- A stored policy that is valid, and that holds until the check is over, is not given up for an
-- invalid one when a record is found. When none is found there is no policy, and the stored one
-- stays. It is stored under the domain of the record, which is the domain of the check in its
-- normal form.
theorem getPolicy_outage (o : Outside σ) (hrequests : Https.Uncrashed o) (setting : Setting)
    (domain : String) (s : Store) (w : World σ) (old : Policy)
    (hget : s.get? (Domain.normalize (Domain.normalize domain)) = some old)
    (hvalid : old.isValid = true)
    (hlasts : old.isExpired ((getPolicy o setting domain s w).2.2.now o) = false) :
    (∀ record w', Record.find o setting.options (Domain.normalize domain) w = (.ok record, w') →
      ∃ q, (getPolicy o setting domain s w).1 = .ok (some q) ∧ q.isValid = true) ∧
    ∀ fault w', Record.find o setting.options (Domain.normalize domain) w = (.error fault, w') →
      fault ≠ .unreportable →
      (getPolicy o setting domain s w).1 = .ok none ∧ (getPolicy o setting domain s w).2.1 = s := by
  refine ⟨fun record w' hfound => ?_, fun fault w' hmissed hfault => ?_⟩
  · obtain ⟨text, parsed, w₁, -, rfl, -, -⟩ := Record.find_eq_ok hfound
    rw [getPolicy_of_found hfound s] at hlasts ⊢
    obtain ⟨p, hfetch⟩ := fetcher_of_uncrashed hrequests setting.client setting.limits
      (some ⟨some (Domain.normalize (Domain.normalize domain)), text⟩) w'
    obtain ⟨⟨q, source, houtcome, hq, -⟩, -⟩ :=
      (Store.getOrFetch_ends o (fetcher o setting.client setting.limits)
        (some ⟨some (Domain.normalize (Domain.normalize domain)), text⟩) s w').keeps
        (Store.subject?_of_domain rfl) hfetch hget hvalid hlasts
    exact ⟨q, by rw [houtcome]; rfl, hq⟩
  · rw [getPolicy_of_missed hfault hmissed s]
    exact ⟨rfl, rfl⟩

-- A clock, and one answer to every question.
def answering (answer : Except Resolver.Failure (List String)) : Outside Int :=
  { Store.clockWorld with
    resolve := fun _ time =>
      (answer.map fun texts => .chunked (texts.map fun text => [Text.Utf8.encode text.toList]),
        time) }

-- A check of a domain whose policy is stored and lasts for another second.
def lateCheck (answer : Except Resolver.Failure (List String)) :
    Except Fault (Option Policy) × Store × World Int :=
  getPolicy (answering answer) ⟨.standard, .standard, .standard⟩ "example.com"
    (Store.empty.put "example.com" (Store.dayPolicy ⟨some "example.com", "v=STSv1; id=1;"⟩))
    ⟨1700086399, .standard, []⟩

theorem lateCheck_kept_or_none :
    (∃ q, (lateCheck (.ok ["v=STSv1; id=2;"])).1 = .ok (some q) ∧ q.isValid = true) ∧
      (lateCheck (.error .noName)).1 = .ok none := by
  have houtage := fun answer => getPolicy_outage (answering answer) (fun _ _ _ => ⟨nofun, nofun⟩)
    ⟨.standard, .standard, .standard⟩ "example.com"
    (Store.empty.put "example.com" (Store.dayPolicy ⟨some "example.com", "v=STSv1; id=1;"⟩))
    ⟨1700086399, .standard, []⟩ (Store.dayPolicy ⟨some "example.com", "v=STSv1; id=1;"⟩)
    (by decide +kernel) (by decide)
  have hfound : (Record.find (answering (.ok ["v=STSv1; id=2;"])) .standard
      (Domain.normalize "example.com") ⟨1700086399, .standard, []⟩).1 =
        .ok ⟨some "example.com", "v=STSv1; id=2;"⟩ := by
    decide +kernel
  have hmissed : (Record.find (answering (.error .noName)) .standard
      (Domain.normalize "example.com") ⟨1700086399, .standard, []⟩).1 = .error .noDomain := by
    decide +kernel
  constructor
  · exact (houtage (.ok ["v=STSv1; id=2;"]) (by decide +kernel)).1 _ _ (Prod.ext hfound rfl)
  · exact ((houtage (.error .noName) (by decide +kernel)).2 _ _ (Prod.ext hmissed rfl) nofun).1

-- Failures of the resolver, and answers without a record to go by, make a check end without a
-- policy, although a valid one is stored that has not expired.
theorem lateCheck_stored_and_none :
    ((Store.empty.put "example.com" (Store.dayPolicy ⟨some "example.com", "v=STSv1; id=1;"⟩)).get?
        "example.com").any (fun p => p.isValid && !p.isExpired 1700086399) = true ∧
      [
        .error .noName, .error .noAnswer, .error .noServers, .error (.timedOut (.ofInt 2)),
        .error (.expired (some (.ofInt 2))), .ok ["v=STSv1; id=1;", "v=STSv1; id=2;"],
        .ok ["v=STSv1; id"]
      ].map (fun answer => (lateCheck answer).1.toOption) = List.replicate 7 (some none) := by
  decide +kernel

end StrictTransport.Check
