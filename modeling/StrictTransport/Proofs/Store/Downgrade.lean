import StrictTransport.Proofs.Check.Fetch
import StrictTransport.Proofs.Store.Lifetime

namespace StrictTransport.Store

variable {σ ε : Type}

theorem isExpired_of_isStale {p : Policy} {token : String} {now : Int}
    (h : isStale p token now = false) : p.isExpired now = false :=
  (Bool.or_eq_false_iff.mp h).1

theorem record_of_isStale {p : Policy} {token : String} {now : Int}
    (h : isStale p token now = false) :
    ∃ record, p.record = some record ∧ record.token = token := by
  have hrecord := (Bool.or_eq_false_iff.mp h).2
  cases hp : p.record with
  | none =>
      rw [hp] at hrecord
      cases hrecord
  | some record =>
      rw [hp] at hrecord
      exact ⟨record, rfl, by simpa using hrecord⟩

-- However a call ends whose fetch gives a policy, it does not lose a stored policy that is valid
-- and has not expired in the meantime.
theorem Ends.keeps {o : Outside σ} {fetch : Fetch σ ε} {record? : Option Record} {s s' : Store}
    {w w' : World σ} {outcome : Outcome ε} (h : Ends o fetch record? s w outcome s' w')
    {name token : String} (hsubject : subject? record? = some (name, token)) {p old : Policy}
    (hfetch : (fetch record? w).1 = .ok (some p)) (hfind : s.find? name = some old)
    (hold : old.isValid = true) (hlasts : old.isExpired (w'.now o) = false) :
    (∃ q source, outcome = .ok ⟨some q, source⟩ ∧ q.isValid = true ∧
      (p.isValid = false → q = old.asCached)) ∧
    ∃ q, s'.find? name = some q ∧ q.isValid = true := by
  cases h with
  | bypassed hsubject' => cases hsubject'.symm.trans hsubject
  | stored hsubject' hfound hfresh =>
      cases hsubject'.symm.trans hsubject
      cases hfound.symm.trans hfind
      exact ⟨⟨old.asCached, .stored, rfl, hold, fun _ => rfl⟩, old, hfind, hold⟩
  | raised _ _ hfetch' => cases hfetch'.symm.trans hfetch
  | nothing _ _ hfetch' => cases hfetch'.symm.trans hfetch
  | fetched hsubject' hmissed hfetch' hvalid =>
      cases hsubject'.symm.trans hsubject
      cases hfetch'.symm.trans hfetch
      refine ⟨⟨p, .fetched, rfl, hvalid, fun hinvalid => ?_⟩, ?_⟩
      · cases hinvalid.symm.trans hvalid
      · -- the policy may have been stored under another name
        rw [find?_put]
        split
        · exact ⟨p, rfl, hvalid⟩
        · exact ⟨old, hfind, hold⟩
  | kept hsubject' hmissed hfetch' hinvalid hfound hlasts' =>
      cases hsubject'.symm.trans hsubject
      cases hfound.symm.trans hfind
      exact ⟨⟨old.asCached, .kept, rfl, hold, fun _ => rfl⟩, old, hfind, hold⟩
  | unusable hsubject' hmissed hfetch' hinvalid hgone =>
      cases hsubject'.symm.trans hsubject
      cases hlasts.symm.trans (hgone old hfind)

-- A valid policy that a call gives still holds when the call ends.
theorem Ends.holds {o : Outside σ} {client : Https.Client} {limits : Limits}
    {record? : Option Record} {s s' : Store} {w w' : World σ} {outcome : Outcome String}
    (h : Ends o (Check.fetcher o client limits) record? s w outcome s' w') {q : Policy}
    {source : Source} (houtcome : outcome = .ok ⟨some q, source⟩) (hvalid : q.isValid = true) :
    q.isExpired (w'.now o) = false := by
  cases h with
  | bypassed hsubject =>
      cases hfetch : (Check.fetcher o client limits record? w).1 with
      | error e =>
          rw [hfetch] at houtcome
          cases houtcome
      | ok p =>
          rw [hfetch] at houtcome
          cases houtcome
          exact Check.isExpired_of_fetcher hfetch hvalid
  | @stored name token p hsubject hfound hfresh =>
      cases houtcome
      exact isExpired_of_isStale (p := p) hfresh
  | raised _ _ hfetch => cases houtcome
  | nothing _ _ hfetch => cases houtcome
  | fetched hsubject hmissed hfetch hvalid' =>
      cases houtcome
      exact Check.isExpired_of_fetcher hfetch hvalid
  | kept hsubject hmissed hfetch hinvalid hfound hlasts =>
      cases houtcome
      exact hlasts
  | unusable hsubject hmissed hfetch hinvalid hgone =>
      cases houtcome
      cases hinvalid.symm.trans hvalid

-- A stored policy that is valid, and that holds until the call is over, is given up for a valid one
-- only. When policies are fetched from their hosts, no valid policy is given that has expired. The
-- times are those at which the call ends.
theorem getOrFetch_no_downgrade (o : Outside σ) (s : Store) (w : World σ) (record : Record)
    (domain : String) (hdomain : record.domain = some domain) :
    (∀ (fetch : Fetch σ ε) (p old : Policy),
      let result := getOrFetch o fetch (some record) s w
      (fetch (some record) w).1 = .ok (some p) →
      s.find? (Domain.normalize domain) = some old → old.isValid = true →
      old.isExpired (result.2.2.now o) = false →
      (∃ q source, result.1 = .ok ⟨some q, source⟩ ∧ q.isValid = true ∧
        (p.isValid = false → q = old.asCached)) ∧
      ∃ q, result.2.1.find? (Domain.normalize domain) = some q ∧ q.isValid = true) ∧
    ∀ (client : Https.Client) (limits : Limits) (q : Policy) (source : Source),
      let result := getOrFetch o (Check.fetcher o client limits) (some record) s w
      result.1 = .ok ⟨some q, source⟩ → q.isValid = true →
      q.isExpired (result.2.2.now o) = false := by
  refine ⟨fun fetch p old hfetch hfind hold hlasts => ?_, fun client limits q source => ?_⟩
  · exact (getOrFetch_ends o fetch (some record) s w).keeps (subject?_of_domain hdomain) hfetch
      hfind hold hlasts
  · exact (getOrFetch_ends o (Check.fetcher o client limits) (some record) s w).holds

-- The policy of the day before is due to be replaced, and its host cannot be reached.
theorem unreachable_kept :
    let old := dayPolicy ⟨some "example.com", "v=STSv1; id=1;"⟩
    let result := getOrFetch clockWorld (Check.fetcher clockWorld .standard .standard)
      (some ⟨some "Example.com.", "v=STSv1; id=2;"⟩) (empty.put "example.com" old)
      ⟨1700086399, .standard, []⟩
    (∃ source, result.1 = .ok ⟨some old.asCached, source⟩) ∧
      old.isExpired (result.2.2.now clockWorld) = false := by
  intro old result
  have hvalid : old.isValid = true := by decide
  have hlasts : old.isExpired (result.2.2.now clockWorld) = false := by decide +kernel
  have hfind : (empty.put "example.com" old).find? (Domain.normalize "Example.com.") =
      some old := by
    decide +kernel
  have hboth := getOrFetch_no_downgrade (ε := String) clockWorld (empty.put "example.com" old)
    ⟨1700086399, .standard, []⟩ ⟨some "Example.com.", "v=STSv1; id=2;"⟩ "Example.com." rfl
  obtain ⟨⟨q, source, houtcome, hq, hsame⟩, -⟩ :=
    hboth.1 (Check.fetcher clockWorld .standard .standard) _ old rfl hfind hvalid hlasts
  obtain rfl := hsame (by decide +kernel)
  exact ⟨⟨source, houtcome⟩, hboth.2 .standard .standard old.asCached source houtcome hq⟩

end StrictTransport.Store
