import Mathlib.Data.List.Rotate
import StrictTransport.Proofs.MailHost.Order
import StrictTransport.Proofs.Resolver.Reorder

namespace StrictTransport

open Resolver

variable {σ ε α : Type} {o o' : Outside σ} {w w' : World σ}

-- Whether two calls on one store give what belongs together, and leave the same store and two
-- worlds that are in step.
inductive Store.Together (r : α → α → Prop) : α × Store × World σ → α × Store × World σ → Prop
  | intro {a b : α} {s : Store} {w w' : World σ} (given : r a b) (left : w.Alike w') :
      Together r (a, s, w) (b, s, w')

-- Whether two reports tell the same, but for why the mail hosts of the domain are not known.
inductive Check.Report.Agree : Report → Report → Prop
  | same (report : Report) : Agree report report
  | unread {p : Policy} {now : Int} {fault fault' : MailHost.Fault} {hosts : List (String × Bool)}
      (h : fault.Unread) (h' : fault'.Unread) :
      Agree (.found p now (some fault) hosts) (.found p now (some fault') hosts)

namespace Check

-- A check among others, and what happens in the world before it.
structure Job (σ : Type) where
  before : σ → σ
  setting : Setting
  hosts : List String
  checkHosts : Bool
  domain : String

def Job.run (o : Outside σ) (job : Job σ) (s : Store) (w : World σ) :
    Except Fault Report × Store × World σ :=
  Check.run o job.setting job.hosts job.checkHosts job.domain s
    { w with state := job.before w.state }

-- The reports of several checks that share a store and an answer cache, and what they leave.
def runAll (o : Outside σ) :
    List (Job σ) → Store → World σ → List (Except Fault Report) × Store × World σ
  | [], s, w => ([], s, w)
  | job :: jobs, s, w =>
      let (report, s, w) := job.run o s w
      let (reports, s, w) := runAll o jobs s w
      (report :: reports, s, w)

end Check

section Policies

theorem Record.lookup_alike (h : o.Reordered o') (hw : w.Alike w') (options : Options)
    (name : String) :
    InStep Eq (query o options true name "TXT" w) (query o' options true name "TXT" w') := by
  have hquery := Resolver.query_alike h isType_record.1 isType_record.2 options true name hw
  generalize query o options true name "TXT" w = result,
    query o' options true name "TXT" w' = result' at hquery ⊢
  obtain ⟨htexts, hleft⟩ := hquery
  cases htexts with
  | ok htexts => exact .intro (congrArg Except.ok (htexts.2 (by decide))) hleft
  | error failure => exact .intro rfl hleft

theorem Record.search_alike (h : o.Reordered o') (hw : w.Alike w') (options : Options)
    (domain : String) : InStep Eq (search o options domain w) (search o' options domain w') := by
  have hfirst := lookup_alike h hw options (target (Domain.normalize domain))
  simp only [search]
  generalize query o options true (target (Domain.normalize domain)) "TXT" w = first,
    query o' options true (target (Domain.normalize domain)) "TXT" w' = first' at hfirst ⊢
  obtain ⟨rfl, hleft⟩ := hfirst
  rename_i first w₁ w₁'
  cases first with
  | ok texts => exact .intro rfl hleft
  | error failure =>
      have hsecond := lookup_alike h hleft options (Domain.normalize domain)
      dsimp only
      generalize query o options true (Domain.normalize domain) "TXT" w₁ = second,
        query o' options true (Domain.normalize domain) "TXT" w₁' = second' at hsecond ⊢
      obtain ⟨rfl, hleft'⟩ := hsecond
      split
      · exact .intro rfl hleft'
      · exact .intro rfl hleft

theorem Record.find_alike (h : o.Reordered o') (hw : w.Alike w') (options : Options)
    (domain : String) : InStep Eq (find o options domain w) (find o' options domain w') := by
  have hsearch := search_alike h hw options (Domain.normalize domain)
  simp only [find]
  generalize search o options (Domain.normalize domain) w = found,
    search o' options (Domain.normalize domain) w' = found' at hsearch ⊢
  obtain ⟨rfl, hleft⟩ := hsearch
  rename_i found w₁ w₁'
  cases found with
  | error fault => exact .intro rfl hleft
  | ok text =>
      dsimp only
      cases parse text with
      | error fault => exact .intro rfl hleft
      | ok parsed => exact .intro rfl (hleft.note _)

theorem Https.Client.get_alike (h : o.Reordered o') (hw : w.Alike w') (client : Client)
    (limit : Int) (record? : Option Record) :
    InStep Eq (client.get o limit record? w) (client.get o' limit record? w') := by
  simp only [Client.get, ← h.request_eq, ← h.close_eq, ← hw.state_eq]
  cases record?.bind Record.domain with
  | none => exact .intro rfl hw
  | some domain =>
      dsimp only
      cases o.request ⟨client.url domain, client.timeout, client.trust == .system⟩ w.state with
      | mk result state =>
          cases result with
          | error failure => exact .intro rfl (hw.withState state)
          | ok reply =>
              dsimp only
              split
              · exact .intro rfl (hw.withState _)
              · exact .intro rfl ((hw.withState _).note _)

theorem Store.getOrFetch_alike (h : o.Reordered o') {fetch fetch' : Fetch σ ε}
    {record? : Option Record} (hfetch : InStep Eq (fetch record? w) (fetch' record? w'))
    (s : Store) (hw : w.Alike w') :
    Together Eq (getOrFetch o fetch record? s w) (getOrFetch o' fetch' record? s w') := by
  simp only [getOrFetch, ← hw.now_eq h]
  generalize fetch record? w = fetched, fetch' record? w' = fetched' at hfetch ⊢
  obtain ⟨rfl, hleft⟩ := hfetch
  cases subject? record? with
  | none => exact .intro rfl hleft
  | some subject =>
      dsimp only
      cases s.fresh? subject.1 subject.2 (w.now o) with
      | some p => exact .intro rfl hw
      | none =>
          dsimp only
          rw [← hleft.now_eq h]
          exact .intro rfl (hleft.note _)

namespace Check

theorem fetcher_alike (h : o.Reordered o') (client : Https.Client) (limits : Limits)
    (record? : Option Record) (hw : w.Alike w') :
    InStep Eq (fetcher o client limits record? w) (fetcher o' client limits record? w') := by
  have hget := client.get_alike h hw limits.bodySize record?
  simp only [fetcher, fetchPolicy]
  generalize client.get o limits.bodySize record? w = got,
    client.get o' limits.bodySize record? w' = got' at hget ⊢
  obtain ⟨rfl, hleft⟩ := hget
  rename_i got w₁ w₁'
  cases got with
  | error message => exact .intro rfl hleft
  | ok response? =>
      dsimp only
      rw [← hleft.now_eq h]
      exact .intro rfl (hleft.note _)

-- The policy of a domain does not depend on its mail hosts.
theorem getPolicy_alike (h : o.Reordered o') (setting : Setting) (domain : String) (s : Store)
    (hw : w.Alike w') :
    Store.Together Eq (getPolicy o setting domain s w) (getPolicy o' setting domain s w') := by
  have hfind := Record.find_alike h hw setting.options (Domain.normalize domain)
  simp only [getPolicy]
  generalize Record.find o setting.options (Domain.normalize domain) w = found,
    Record.find o' setting.options (Domain.normalize domain) w' = found' at hfind ⊢
  obtain ⟨rfl, hleft⟩ := hfind
  rename_i found w₁ w₁'
  cases found with
  | error fault => cases fault <;> exact .intro rfl hleft
  | ok record =>
      have hcall := Store.getOrFetch_alike h
        (fetcher_alike h setting.client setting.limits (some record) hleft) s hleft
      dsimp only
      generalize Store.getOrFetch o (fetcher o setting.client setting.limits) (some record) s w₁ =
        call, Store.getOrFetch o' (fetcher o' setting.client setting.limits) (some record) s
        w₁' = call' at hcall ⊢
      obtain ⟨rfl, hleft⟩ := hcall
      rename_i outcome s' w₂ w₂'
      cases outcome with
      | error failure => exact .intro rfl hleft
      | ok given => exact .intro rfl hleft

end Check

end Policies

section Hosts

theorem MailHost.search_agree (h : o.Reordered o') (hw : w.Alike w') (options : Options)
    (domain : String) : InStep Agree (search o options domain w) (search o' options domain w') := by
  have hquery := query_alike h isType_mail.1 isType_mail.2 options true domain hw
  simp only [search]
  generalize query o options true domain "MX" w = result,
    query o' options true domain "MX" w' = result' at hquery ⊢
  obtain ⟨htexts, hleft⟩ := hquery
  cases htexts with
  | ok htexts => exact .intro (ofTexts_agree htexts.1) hleft
  | error failure => cases failure <;> exact .intro (.same _) hleft

theorem MailHost.search_of_query {options : Options} {domain : String} {texts : List String}
    (h : (query o options true domain "MX" w).1 = .ok texts) :
    (search o options domain w).1 = ofTexts texts := by
  simp only [search]
  generalize query o options true domain "MX" w = result at h ⊢
  obtain ⟨result, w₁⟩ := result
  obtain rfl := h
  rfl

namespace Check

theorem hostNames_agree (h : o.Reordered o') (hw : w.Alike w') (options : Options) (wanted : Bool)
    (domain : String) :
    InStep MailHost.Agree (hostNames o options wanted domain w)
      (hostNames o' options wanted domain w') := by
  cases wanted with
  | false => exact .intro (.same _) hw
  | true =>
      have hsearch := MailHost.search_agree h hw options domain
      simp only [hostNames, if_true]
      generalize MailHost.search o options domain w = found,
        MailHost.search o' options domain w' = found' at hsearch ⊢
      obtain ⟨hagree, hleft⟩ := hsearch
      exact .intro (hagree.map _) hleft

-- Two checks of a domain hold the same hosts against the same policy at the same time.
theorem run_agree (h : o.Reordered o') (hw : w.Alike w') (setting : Setting) (hosts : List String)
    (checkHosts : Bool) (domain : String) (s : Store) :
    Store.Together (Likewise Report.Agree) (run o setting hosts checkHosts domain s w)
      (run o' setting hosts checkHosts domain s w') := by
  have hpolicy := getPolicy_alike h setting (Domain.normalize domain) s hw
  simp only [run]
  generalize getPolicy o setting (Domain.normalize domain) s w = got,
    getPolicy o' setting (Domain.normalize domain) s w' = got' at hpolicy ⊢
  obtain ⟨rfl, hleft⟩ := hpolicy
  rename_i got s' w₁ w₁'
  cases got with
  | error fault => exact .intro (.error fault) hleft
  | ok policy? =>
      cases policy? with
      | none => exact .intro (.ok (.same _)) hleft
      | some p =>
          have hnames := hostNames_agree h hleft setting.options checkHosts
            (Domain.normalize domain)
          simp only [← hleft.now_eq h]
          generalize hostNames o setting.options checkHosts (Domain.normalize domain) w₁ = found,
            hostNames o' setting.options checkHosts (Domain.normalize domain) w₁' = found'
            at hnames ⊢
          obtain ⟨hagree, hleft'⟩ := hnames
          cases hagree with
          | same =>
              rename_i names w₂ w₂'
              cases names with
              | ok names => exact .intro (.ok (.same _)) hleft'
              | error fault =>
                  cases fault with
                  | unreportable => exact .intro (.error _) hleft'
                  | _ => exact .intro (.ok (.same _)) hleft'
          | unread hfault hfault' =>
              -- No such fault breaks the check off.
              cases hfault <;> cases hfault' <;>
                exact .intro (.ok (.unread (by constructor) (by constructor))) hleft'

theorem runAll_agree (h : o.Reordered o') (jobs : List (Job σ)) (s : Store) (hw : w.Alike w') :
    Store.Together (List.Forall₂ (Likewise Report.Agree)) (runAll o jobs s w)
      (runAll o' jobs s w') := by
  induction jobs generalizing s w w' with
  | nil => exact .intro .nil hw
  | cons job jobs ih =>
      have hreport := run_agree h (hw.withState (job.before w.state)) job.setting job.hosts
        job.checkHosts job.domain s
      simp only [runAll, Job.run, ← hw.state_eq]
      generalize run o job.setting job.hosts job.checkHosts job.domain s _ = done,
        run o' job.setting job.hosts job.checkHosts job.domain s _ = done' at hreport ⊢
      obtain ⟨hagree, hleft⟩ := hreport
      rename_i report report' s' w₁ w₁'
      have hrest := ih s' hleft
      dsimp only
      generalize runAll o jobs s' w₁ = rest, runAll o' jobs s' w₁' = rest' at hrest ⊢
      obtain ⟨hreports, hleft⟩ := hrest
      exact .intro (.cons hagree hreports) hleft

end Check

end Hosts

namespace Check

-- Two worlds differ in the order of their answers for mail hosts, and checks go on in both. The
-- hosts of a domain are those that its answers name, one for each answer, by preference and then by
-- name, unless the only answer says that there are none; they are found if each answer names one.
-- The same hosts are found in both worlds. The checks hold the same hosts against the same
-- policies; all that may differ is which answer is told of, if several name no host.
theorem hosts_of_reordered (h : o.Reordered o') (hw : w.Alike w') (jobs : List (Job σ)) (s : Store)
    (options : Options) (domain : String) :
    let reached := runAll o jobs s w
    let reached' := runAll o' jobs s w'
    (List.Forall₂ (Likewise Report.Agree) reached.1 reached'.1 ∧ reached.2.1 = reached'.2.1 ∧
      reached.2.2.Alike reached'.2.2) ∧
    (∀ answers : List String, answers.map withoutFinalDots ≠ [MailHost.nullRecord] →
      (query o options true domain "MX" reached.2.2).1 = .ok (Answer.texts answers).strings →
      ∀ hosts, (MailHost.search o options domain reached.2.2).1 = .ok hosts ↔
        MailHost.Lists answers hosts) ∧
    ∀ hosts, (MailHost.search o options domain reached.2.2).1 = .ok hosts ↔
      (MailHost.search o' options domain reached'.2.2).1 = .ok hosts := by
  intro reached reached'
  have hrun : Store.Together _ reached reached' := runAll_agree h jobs s hw
  generalize reached = x, reached' = x' at hrun ⊢
  obtain ⟨hreports, hleft⟩ := hrun
  rename_i reports reports' s' w₁ w₁'
  refine ⟨⟨hreports, rfl, hleft⟩, fun answers hnull hanswer hosts => ?_, fun hosts => ?_⟩
  · rw [MailHost.search_of_query hanswer, ← MailHost.lists_withoutFinalDots]
    exact MailHost.ofTexts_eq_ok_iff hnull
  · have hsearch := MailHost.search_agree h hleft options domain
    dsimp only
    generalize MailHost.search o options domain w₁ = found,
      MailHost.search o' options domain w₁' = found' at hsearch ⊢
    obtain ⟨hagree, -⟩ := hsearch
    exact hagree.ok_iff hosts

def mailTexts : List String :=
  ["20 b.example.com.", "10 Mail.example.com.", "10 backup.example.org."]

-- A world in which each question for mail hosts is answered from the next of them on, and in which
-- all domains have the same policy.
def roundRobin (start : ℕ) : Outside ℕ where
  now _ := 1700000000
  depth _ := 1000
  resolve question i :=
    (.ok (if question.type = "MX" then .texts (mailTexts.rotate (start + i))
      else .chunked [[Text.Utf8.encode "v=STSv1; id=1;".toList]]), i + 1)
  request request i :=
    (.ok {
      url := request.url
      status := 200
      reason := some "OK"
      headers := [("Content-Type", "text/plain")]
      chunks := [Text.Utf8.encode
        "version: STSv1\nmode: enforce\nmx: *.example.com\nmax_age: 604800\n".toList]
      failure := none
      certificates := .present 1 }, i)
  close _ i := i

theorem reordered_roundRobin (start start' : ℕ) :
    (roundRobin start).Reordered (roundRobin start') where
  now_eq := rfl
  depth_eq := rfl
  request_eq := rfl
  close_eq := rfl
  after_eq _ _ := rfl
  other question i hother := by
    simp only [roundRobin, if_neg hother]
  mail question i hmail := by
    simp only [roundRobin, if_pos hmail]
    exact .ok (.texts ((List.rotate_perm _ _).trans (List.rotate_perm _ _).symm))

-- Two checks of one domain, of which the second one recalls the hosts.
def roundRobinJobs : List (Job ℕ) :=
  List.replicate 2 ⟨id, ⟨.standard, .standard, .standard⟩, [], true, "example.com"⟩

def roundRobinChecks (start : ℕ) : List (Except Fault Report) × Store × World ℕ :=
  runAll (roundRobin start) roundRobinJobs Store.empty ⟨0, .standard, []⟩

-- Whether a check finds a policy, and the hosts of its domain.
def findsHosts : Except Fault Report → Bool
  | .ok (.found _ _ none _) => true
  | _ => false

theorem lists_mailTexts : MailHost.Lists mailTexts
    [⟨10, "backup.example.org"⟩, ⟨10, "mail.example.com"⟩, ⟨20, "b.example.com"⟩] where
  each := by
    refine ⟨[⟨20, "b.example.com"⟩, ⟨10, "mail.example.com"⟩, ⟨10, "backup.example.org"⟩], ?_, ?_⟩
    · exact MailHost.mapM_read_eq_ok_iff.mp (by decide +kernel)
    · decide
  inOrder := by decide

-- The same hosts are found wherever the answers begin.
theorem roundRobinChecks_agree :
    let hosts : List MailHost :=
      [⟨10, "backup.example.org"⟩, ⟨10, "mail.example.com"⟩, ⟨20, "b.example.com"⟩]
    (roundRobinChecks 2).1.map findsHosts = [true, true] ∧
    List.Forall₂ (Likewise Report.Agree) (roundRobinChecks 2).1 (roundRobinChecks 3).1 ∧
    (MailHost.search (roundRobin 2) .standard "example.com" (roundRobinChecks 2).2.2).1 =
      .ok hosts ∧
    (MailHost.search (roundRobin 3) .standard "example.com" (roundRobinChecks 3).2.2).1 =
      .ok hosts := by
  intro hosts
  obtain ⟨⟨hreports, -⟩, hlists, hsame⟩ := hosts_of_reordered (reordered_roundRobin 2 3)
    (⟨rfl, ⟨rfl, rfl, .nil⟩, rfl⟩ : World.Alike ⟨0, .standard, []⟩ ⟨0, .standard, []⟩)
    roundRobinJobs Store.empty .standard "example.com"
  have hfound := (hlists mailTexts (by decide +kernel) (by decide +kernel) hosts).mpr
    lists_mailTexts
  unfold roundRobinChecks
  exact ⟨by decide +kernel, hreports, hfound, (hsame hosts).mp hfound⟩

end Check

end StrictTransport
