import StrictTransport.Proofs.Check.Outage
import StrictTransport.Proofs.Record.Recent

namespace StrictTransport

open Resolver

variable {σ ε : Type} {o : Outside σ}

theorem Https.Client.get_later (hforward : o.Forward) {maxAge : Int}
    {w : World (σ × List Exchange)} (h : Tracked o maxAge w) (client : Client) (limit : Int)
    {record : Record} {domain : String} (hdomain : record.domain = some domain) :
    ∃ own, .requested ⟨client.url domain, client.timeout, client.trust == .system⟩ ∈ own ∧
      Later o maxAge w own (client.get o.logged limit (some record) w).2 := by
  have hrequest := hforward.request
    ⟨client.url domain, client.timeout, client.trust == .system⟩ w.state.1
  simp only [Client.get, Option.bind_some, hdomain, Outside.request_logged]
  cases hanswer : o.request ⟨client.url domain, client.timeout, client.trust == .system⟩
      w.state.1 with
  | mk result state =>
      rw [hanswer] at hrequest
      cases result with
      | error failure =>
          exact ⟨_, List.mem_cons_self, h.later rfl (fun e he => he) rfl hrequest⟩
      | ok reply =>
          have hclosed : ∀ taken, Later o maxAge w
              [.requested ⟨client.url domain, client.timeout, client.trust == .system⟩,
                .closed taken]
              { w with state := o.logged.close taken (state, w.log ++ [.requested
                ⟨client.url domain, client.timeout, client.trust == .system⟩]) } := fun taken =>
            h.later rfl (fun e he => he) (List.append_assoc _ _ _)
              (Int.le_trans hrequest (hforward.close _ _))
          dsimp only
          split
          · exact ⟨_, List.mem_cons_self, hclosed 0⟩
          · exact ⟨_, List.mem_cons_self, (hclosed (collect limit reply.chunks).taken).note _⟩

namespace Check

theorem fetcher_later (hforward : o.Forward) {maxAge : Int} {w : World (σ × List Exchange)}
    (h : Tracked o maxAge w) (client : Https.Client) (limits : Limits) {record : Record}
    {domain : String} (hdomain : record.domain = some domain) :
    ∃ request own, .requested request ∈ own ∧
      Later o maxAge w own (fetcher o.logged client limits (some record) w).2 := by
  obtain ⟨own, hmem, hlater⟩ := client.get_later hforward h limits.bodySize hdomain
  refine ⟨_, own, hmem, ?_⟩
  simp only [fetcher, fetchPolicy]
  split
  · rename_i message w₁ hget
    rwa [hget] at hlater
  · rename_i response? w₁ hget
    rw [hget] at hlater
    exact hlater.note _

-- Only what is stored, and fresh, is given without a request.
theorem ends_later (hforward : o.Forward) {maxAge : Int} {w : World (σ × List Exchange)}
    (h : Tracked o maxAge w) (client : Https.Client) (limits : Limits) {record : Record}
    {domain : String} (hdomain : record.domain = some domain) {s s' : Store}
    {outcome : Store.Outcome String} {w' : World (σ × List Exchange)}
    (hends : Store.Ends o.logged (fetcher o.logged client limits) (some record) s w outcome s' w') :
    (∃ p, outcome = .ok ⟨some p.asCached, .stored⟩ ∧ w' = w ∧
      Store.isStale p record.token (w.now o.logged) = false) ∨
    ∃ request own, .requested request ∈ own ∧ Later o maxAge w own w' := by
  have hsubject := Store.subject?_of_domain hdomain
  obtain ⟨request, own, hmem, hlater⟩ := fetcher_later hforward h client limits hdomain
  cases hends with
  | stored hsubject' hfound hfresh =>
      obtain ⟨-, rfl⟩ := Prod.mk.inj (Option.some.inj (hsubject'.symm.trans hsubject))
      exact .inl ⟨_, rfl, rfl, hfresh⟩
  | kept => exact .inr ⟨request, own, hmem, hlater.note _⟩
  | _ => exact .inr ⟨request, own, hmem, hlater⟩

-- The name under which a check looks for the record of a domain.
def recordName (domain : String) : String :=
  Record.target (Domain.normalize (Domain.normalize (Domain.normalize domain)))

-- Whether a policy belongs to the generation of a text that the resolver has given for a name
-- recently.
def Told (maxAge now : Int) (log own : List Exchange) (name : String) (p : Policy) : Prop :=
  ∃ record text texts, p.record = some record ∧ record.token = Record.token ⟨none, text⟩ ∧
    text ∈ texts ∧ Recent maxAge now log own name texts

-- A check that makes no request gives a stored policy that has not expired, for a record that the
-- resolver has told of recently.
theorem getPolicy_later (hforward : o.Forward) {maxAge : Int} {w : World (σ × List Exchange)}
    (h : Tracked o maxAge w) (setting : Setting) (domain : String) (s : Store) :
    let result := getPolicy o.logged setting domain s w
    ∃ own, Later o maxAge w own result.2.2 ∧
      ∀ p, result.1 = .ok (some p) → (∀ request, .requested request ∉ own) →
        p.isExpired (result.2.2.now o.logged) = false ∧
        Told maxAge (result.2.2.now o.logged) result.2.2.log own (recordName domain) p := by
  obtain ⟨own, hlater, hrecent⟩ := Record.find_later hforward h (Domain.normalize domain)
  cases hfind : Record.find o.logged setting.options (Domain.normalize domain) w with
  | mk found w₁ =>
      rw [hfind] at hlater hrecent
      cases found with
      | error fault =>
          obtain ⟨hleft, hnone⟩ := getPolicy_of_error hfind s
          dsimp only
          rw [hleft]
          exact ⟨own, hlater, fun p hp => absurd hp (hnone p)⟩
      | ok record =>
          obtain ⟨text, parsed, w₂, -, hrecord, -, -⟩ := Record.find_eq_ok hfind
          have hdomain := congrArg Record.domain hrecord
          rw [getPolicy_of_found hfind]
          have hends := Store.getOrFetch_ends o.logged
            (fetcher o.logged setting.client setting.limits) (some record) s w₁
          generalize Store.getOrFetch o.logged (fetcher o.logged setting.client setting.limits)
            (some record) s w₁ = result at hends ⊢
          obtain ⟨outcome, s', w'⟩ := result
          obtain ⟨p, rfl, rfl, hfresh⟩ | ⟨request, own', hmem, hlater'⟩ :=
            ends_later hforward hlater.tracked setting.client setting.limits hdomain hends
          · refine ⟨own, hlater, fun q hq _ => ?_⟩
            cases hq
            obtain ⟨texts, htext, hrecent⟩ := hrecent record rfl
            obtain ⟨record', hstored, htoken⟩ := Store.record_of_isStale hfresh
            exact ⟨Store.isExpired_of_isStale hfresh, record', record.id, texts, hstored, htoken,
              htext, hrecent⟩
          · refine ⟨_, hlater.trans hlater', fun p _ hquiet => ?_⟩
            exact absurd (List.mem_append_right own hmem) (hquiet request)

-- A check among others, and what happens in the world before it.
structure Visit (o : Outside σ) where
  before : σ → σ
  forward : ∀ x, o.now x ≤ o.now (before x)
  setting : Setting
  domain : String

-- The same visit in the world with a log.
def Visit.logged (visit : Visit o) : Visit o.logged where
  before x := (visit.before x.1, x.2)
  forward x := visit.forward x.1
  setting := visit.setting
  domain := visit.domain

def Visit.enter (visit : Visit o) (w : World σ) : World σ :=
  { w with state := visit.before w.state }

def Visit.check (visit : Visit o) (s : Store) (w : World σ) :
    Except Fault (Option Policy) × Store × World σ :=
  getPolicy o visit.setting visit.domain s (visit.enter w)

-- The store and the world after several checks that share both.
def afterVisits : List (Visit o) → Store × World σ → Store × World σ
  | [], x => x
  | visit :: visits, x => afterVisits visits (visit.check x.1 x.2).2

theorem Visit.check_plain (visit : Visit o) (s : Store) (w : World (σ × List Exchange)) :
    let result := visit.logged.check s w
    visit.check s w.plain = (result.1, result.2.1, result.2.2.plain) :=
  getPolicy_plain o visit.setting visit.domain s (visit.logged.enter w)

theorem afterVisits_plain (visits : List (Visit o)) (s : Store) (w : World (σ × List Exchange)) :
    let reached := afterVisits (visits.map Visit.logged) (s, w)
    afterVisits visits (s, w.plain) = (reached.1, reached.2.plain) := by
  induction visits generalizing s w with
  | nil => rfl
  | cons visit visits ih =>
      simp only [List.map_cons, afterVisits, visit.check_plain s w]
      exact ih _ _

theorem Visit.enter_later {maxAge : Int} (visit : Visit o) {w : World (σ × List Exchange)}
    (h : Tracked o maxAge w) : Later o maxAge w [] (visit.logged.enter w) :=
  h.later rfl (fun _ he => he) (List.append_nil _).symm (visit.forward w.state.1)

theorem tracked_afterVisits (hforward : o.Forward) {maxAge : Int} (visits : List (Visit o))
    (s : Store) {w : World (σ × List Exchange)} (h : Tracked o maxAge w) :
    Tracked o maxAge (afterVisits (visits.map Visit.logged) (s, w)).2 := by
  induction visits generalizing s w with
  | nil => exact h
  | cons visit visits ih =>
      obtain ⟨own, hlater, -⟩ := getPolicy_later hforward (visit.enter_later h).tracked
        visit.setting visit.domain s
      exact ih _ hlater.tracked

-- Checks share a store, and an answer cache that is empty at first. A policy that one of them gives
-- without a request has not expired, and it belongs to a text that the resolver gave, for the name
-- that the check looks up, less than the cache's greatest age ago, or just now if that age is zero.
-- The log only tells what has passed: the check does the same without it.
theorem getPolicy_recent (hforward : o.Forward) (size maxAge : Int) (visits : List (Visit o))
    (visit : Visit o) (s : Store) (state : σ) :
    let reached := afterVisits (visits.map Visit.logged) (s, ⟨(state, []), ⟨size, maxAge, []⟩, []⟩)
    let plain := afterVisits visits (s, ⟨state, ⟨size, maxAge, []⟩, []⟩)
    let result := visit.logged.check reached.1 reached.2
    visit.check plain.1 plain.2 = (result.1, result.2.1, result.2.2.plain) ∧
    ∃ own, result.2.2.log = reached.2.log ++ own ∧
      ∀ p, result.1 = .ok (some p) → (∀ request, .requested request ∉ own) →
        p.isExpired (result.2.2.now o.logged) = false ∧
        Told maxAge (result.2.2.now o.logged) result.2.2.log own (recordName visit.domain) p := by
  have hstart : Tracked o maxAge ⟨(state, []), ⟨size, maxAge, []⟩, []⟩ := ⟨rfl, nofun⟩
  have htracked := tracked_afterVisits hforward visits s hstart
  have hplain := afterVisits_plain visits s ⟨(state, []), ⟨size, maxAge, []⟩, []⟩
  generalize afterVisits (visits.map Visit.logged) (s, ⟨(state, []), ⟨size, maxAge, []⟩, []⟩) =
    reached at htracked hplain ⊢
  obtain ⟨own, hlater, hgiven⟩ := getPolicy_later hforward (visit.enter_later htracked).tracked
    visit.setting visit.domain reached.1
  refine ⟨?_, own, hlater.log_eq, hgiven⟩
  change afterVisits visits (s, ⟨state, ⟨size, maxAge, []⟩, []⟩) = _ at hplain
  rw [hplain]
  exact visit.check_plain reached.1 reached.2

-- A check some seconds after the one before.
def dayVisit (answer : Except Resolver.Failure (List String)) (seconds : Nat) :
    Visit (answering answer) where
  before time := time + seconds
  forward _ := Int.le_add_of_nonneg_right (Int.natCast_nonneg seconds)
  setting := ⟨.standard, .standard, .standard⟩
  domain := "example.com"

theorem forward_answering (answer : Except Resolver.Failure (List String)) :
    (answering answer).Forward :=
  ⟨fun _ _ => Int.le_refl _, fun _ _ => Int.le_refl _, fun _ _ => Int.le_refl _⟩

-- A store with a policy for the record that is answered.
def dayStore : Store :=
  Store.empty.put "example.com" (Store.dayPolicy ⟨some "example.com", "v=STSv1; id=1;"⟩)

-- The store and the world after a first check, whose answer is remembered.
def dayReached : Store × World (Int × List Exchange) :=
  afterVisits ([dayVisit (.ok ["v=STSv1; id=1;"]) 1000].map Visit.logged)
    (dayStore, ⟨(1700000000, []), ⟨1, 1800, []⟩, []⟩)

def secondCheck : Except Fault (Option Policy) × Store × World (Int × List Exchange) :=
  (dayVisit (.ok ["v=STSv1; id=1;"]) 1000).logged.check dayReached.1 dayReached.2

theorem secondCheck_recent :
    secondCheck.2.2.log = dayReached.2.log ∧ ∃ p, secondCheck.1 = .ok (some p) ∧
      p.isExpired (secondCheck.2.2.now (answering (.ok ["v=STSv1; id=1;"])).logged) = false ∧
      Told 1800 (secondCheck.2.2.now (answering (.ok ["v=STSv1; id=1;"])).logged)
        secondCheck.2.2.log [] (recordName "example.com") p := by
  obtain ⟨own, hlog, hrecent⟩ := (getPolicy_recent (forward_answering (.ok ["v=STSv1; id=1;"])) 1
    1800 [dayVisit (.ok ["v=STSv1; id=1;"]) 1000] (dayVisit (.ok ["v=STSv1; id=1;"]) 1000) dayStore
    1700000000).2
  change secondCheck.2.2.log = dayReached.2.log ++ own at hlog
  have hlength : secondCheck.2.2.log.length = dayReached.2.log.length := by decide +kernel
  obtain rfl : own = [] := by
    rw [hlog, List.length_append] at hlength
    exact List.eq_nil_of_length_eq_zero (by omega)
  have hgiven : secondCheck.1.toOption.join.isSome = true := by decide +kernel
  match hcheck : secondCheck.1 with
  | .ok (some p) => exact ⟨by rw [hlog, List.append_nil], p, rfl, hrecent p hcheck nofun⟩
  | .ok none => cases hcheck ▸ hgiven
  | .error fault => cases hcheck ▸ hgiven

-- If nothing is remembered, a stored policy is given for an answer that has just come, and that is
-- not less than no time old.
theorem firstCheck_unremembered :
    let visit := dayVisit (.ok ["v=STSv1; id=1;"]) 1000
    let result := visit.logged.check dayStore ⟨(1700000000, []), ⟨1, 0, []⟩, []⟩
    result.1.toOption = some (some
      (Store.dayPolicy ⟨some "example.com", "v=STSv1; id=1;"⟩).asCached) ∧
    (∀ request, .requested request ∉ result.2.2.log) ∧
    ¬∃ question answer time, .resolved question (.ok answer) time ∈ result.2.2.log ∧
      result.2.2.now (answering (.ok ["v=STSv1; id=1;"])).logged - time < 0 := by
  intro visit result
  have hlog : ∀ e ∈ result.2.2.log, (match e with
      | .resolved _ _ time => decide (time ≤ 1700001000)
      | .requested _ => false
      | .closed _ => true) = true := by
    decide +kernel
  have hnow : result.2.2.now (answering (.ok ["v=STSv1; id=1;"])).logged = 1700001000 := by
    decide +kernel
  refine ⟨by decide +kernel, fun request hmem => ?_, ?_⟩
  · cases hlog _ hmem
  · rintro ⟨question, answer, time, hmem, hage⟩
    have htime := of_decide_eq_true (hlog _ hmem)
    omega

end Check

end StrictTransport
