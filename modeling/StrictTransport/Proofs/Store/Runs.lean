import StrictTransport.Store.Fetch
import StrictTransport.Proofs.Store.Entries

namespace StrictTransport.Store

variable {σ ε : Type}

-- How a call ends: its outcome, the store and the world it leaves. There is one case for each way
-- out, with all that was checked before it.
inductive Ends (o : Outside σ) (fetch : Fetch σ ε) (record? : Option Record) (s : Store)
    (w : World σ) : Outcome ε → Store → World σ → Prop where
  | bypassed (hsubject : subject? record? = none) :
      Ends o fetch record? s w (bypass (fetch record? w).1) s (fetch record? w).2
  | stored {name token : String} {p : Policy} (hsubject : subject? record? = some (name, token))
      (hfound : s.find? name = some p) (hfresh : isStale p token (w.now o) = false) :
      Ends o fetch record? s w (.ok ⟨some p.asCached, .stored⟩) s w
  | raised {name token : String} {e : ε} (hsubject : subject? record? = some (name, token))
      (hfresh : s.fresh? name token (w.now o) = none) (hfetch : (fetch record? w).1 = .error e) :
      Ends o fetch record? s w (.error (.fetch e)) s (fetch record? w).2
  | nothing {name token : String} (hsubject : subject? record? = some (name, token))
      (hfresh : s.fresh? name token (w.now o) = none) (hfetch : (fetch record? w).1 = .ok none) :
      Ends o fetch record? s w (.error .nothing) s (fetch record? w).2
  | fetched {name token : String} {p : Policy} (hsubject : subject? record? = some (name, token))
      (hfresh : s.fresh? name token (w.now o) = none) (hfetch : (fetch record? w).1 = .ok (some p))
      (hvalid : p.isValid = true) :
      Ends o fetch record? s w (.ok ⟨some p, .fetched⟩) (s.put name p) (fetch record? w).2
  | kept {name token : String} {p old : Policy} (hsubject : subject? record? = some (name, token))
      (hfresh : s.fresh? name token (w.now o) = none) (hfetch : (fetch record? w).1 = .ok (some p))
      (hvalid : p.isValid = false) (hfound : s.find? name = some old)
      (hlasts : old.isExpired ((fetch record? w).2.now o) = false) :
      Ends o fetch record? s w (.ok ⟨some old.asCached, .kept⟩) s
        ((fetch record? w).2.note [.keptCached name])
  | unusable {name token : String} {p : Policy} (hsubject : subject? record? = some (name, token))
      (hfresh : s.fresh? name token (w.now o) = none) (hfetch : (fetch record? w).1 = .ok (some p))
      (hvalid : p.isValid = false)
      (hgone : ∀ old, s.find? name = some old → old.isExpired ((fetch record? w).2.now o) = true) :
      Ends o fetch record? s w (.ok ⟨some p, .unusable⟩) s (fetch record? w).2

theorem note_nil (w : World σ) : w.note [] = w := by
  rw [World.note, List.append_nil]

theorem getOrFetch_ends (o : Outside σ) (fetch : Fetch σ ε) (record? : Option Record) (s : Store)
    (w : World σ) :
    Ends o fetch record? s w (getOrFetch o fetch record? s w).1
      (getOrFetch o fetch record? s w).2.1 (getOrFetch o fetch record? s w).2.2 := by
  unfold getOrFetch
  cases hsubject : subject? record? with
  | none => exact .bypassed hsubject
  | some subject =>
      obtain ⟨name, token⟩ := subject
      cases hfresh : s.fresh? name token (w.now o) with
      | some p =>
          simp only [hfresh]
          obtain ⟨hfound, hholds⟩ := Option.filter_eq_some_iff.mp hfresh
          exact .stored hsubject hfound (by simpa using hholds)
      | none =>
          simp only [hfresh]
          match hfetch : (fetch record? w).1 with
          | .error e =>
              simp only [conclude, note_nil]
              exact .raised hsubject hfresh hfetch
          | .ok none =>
              simp only [conclude, note_nil]
              exact .nothing hsubject hfresh hfetch
          | .ok (some p) =>
              simp only [conclude, settle]
              cases hvalid : p.isValid with
              | true =>
                  simp only [if_true, note_nil]
                  exact .fetched hsubject hfresh hfetch hvalid
              | false =>
                  simp only [Bool.false_eq_true, if_false]
                  cases hkeep : (s.find? name).filter
                      fun old => !old.isExpired ((fetch record? w).2.now o) with
                  | some old =>
                      obtain ⟨hfound, hlasts⟩ := Option.filter_eq_some_iff.mp hkeep
                      exact .kept hsubject hfresh hfetch hvalid hfound (by simpa using hlasts)
                  | none =>
                      simp only [note_nil]
                      refine .unusable hsubject hfresh hfetch hvalid fun old hfound => ?_
                      simpa using Option.filter_eq_none_iff.mp hkeep old hfound

theorem subject?_eq_none_iff (record? : Option Record) :
    subject? record? = none ↔ record?.bind Record.domain = none := by
  cases record? with
  | none => simp [subject?]
  | some record => simp [subject?]

-- What a call may do to a store at a time, `result` being what its fetch gives. Only a valid policy
-- that it fetched itself is stored, under one name, and then it is also what the call returns.
structure Atomic (record? : Option Record) (now : Int) (result : Except ε (Option Policy))
    (s : Store) (outcome : Outcome ε) (s' : Store) : Prop where
  names : s.keys <+: s'.keys
  stores : ∀ name token p, subject? record? = some (name, token) → s.fresh? name token now = none →
    result = .ok (some p) → p.isValid = true →
    outcome = .ok ⟨some p, .fetched⟩ ∧ s'.find? (Domain.normalize name) = some p
  changed : s' ≠ s → ∃ name token p, subject? record? = some (name, token) ∧
    result = .ok (some p) ∧ p.isValid = true ∧ outcome = .ok ⟨some p, .fetched⟩ ∧
    s'.find? (Domain.normalize name) = some p ∧
    ∀ other, other ≠ Domain.normalize name → s'.find? other = s.find? other
  raised : ∀ failure, outcome = .error failure → s' = s
  served : ∀ given, outcome = .ok given → given.source = .stored ∨ given.source = .kept →
    s' = s ∧ ∃ name token p, subject? record? = some (name, token) ∧ s.find? name = some p ∧
      given.policy = some p.asCached
  nameless : record?.bind Record.domain = none → s' = s

theorem Ends.atomic {o : Outside σ} {fetch : Fetch σ ε} {record? : Option Record}
    {s s' : Store} {w w' : World σ} {outcome : Outcome ε}
    (h : Ends o fetch record? s w outcome s' w') :
    Atomic record? (w.now o) (fetch record? w).1 s outcome s' := by
  cases h with
  | bypassed hsubject =>
      refine ⟨List.prefix_rfl, fun name token p hname => ?_, absurd rfl, fun _ _ => rfl, ?_,
        fun _ => rfl⟩
      · rw [hsubject] at hname
        cases hname
      intro given hgiven hsource
      cases hfetch : (fetch record? w).1 with
      | error e => simp [hfetch, bypass] at hgiven
      | ok p =>
          rw [hfetch, bypass, Except.ok.injEq] at hgiven
          simp [← hgiven] at hsource
  | @stored name token p hsubject hfound hfresh =>
      refine ⟨List.prefix_rfl, fun _ _ _ hname hmissed => ?_, absurd rfl, fun _ _ => rfl, ?_,
        fun _ => rfl⟩
      · cases hsubject.symm.trans hname
        rw [fresh?, hfound, Option.filter_eq_none_iff] at hmissed
        simp [hfresh] at hmissed
      rintro given ⟨⟩ -
      exact ⟨rfl, name, token, p, hsubject, hfound, rfl⟩
  | raised hsubject hfresh hfetch =>
      refine ⟨List.prefix_rfl, fun _ _ _ _ _ hresult => ?_, absurd rfl, fun _ _ => rfl,
        fun given hgiven => ?_, fun _ => rfl⟩
      · cases hfetch.symm.trans hresult
      · cases hgiven
  | nothing hsubject hfresh hfetch =>
      refine ⟨List.prefix_rfl, fun _ _ _ _ _ hresult => ?_, absurd rfl, fun _ _ => rfl,
        fun given hgiven => ?_, fun _ => rfl⟩
      · cases hfetch.symm.trans hresult
      · cases hgiven
  | @fetched name token p hsubject hfresh hfetch hvalid =>
      refine ⟨keys_prefix_put s name p, fun _ _ _ hname _ hresult _ => ?_, fun _ => ?_, nofun, ?_,
        fun hnone => ?_⟩
      · cases hsubject.symm.trans hname
        cases hfetch.symm.trans hresult
        exact ⟨rfl, by rw [find?_put, if_pos rfl]⟩
      · refine ⟨name, token, p, hsubject, hfetch, hvalid, rfl, ?_, fun other hother => ?_⟩
        · rw [find?_put, if_pos rfl]
        · rw [find?_put, if_neg hother]
      · rintro given ⟨⟩ hsource
        simp at hsource
      · rw [(subject?_eq_none_iff record?).mpr hnone] at hsubject
        cases hsubject
  | @kept name token p old hsubject hfresh hfetch hvalid hfound hlasts =>
      refine ⟨List.prefix_rfl, fun _ _ _ _ _ hresult husable => ?_, absurd rfl, fun _ _ => rfl, ?_,
        fun _ => rfl⟩
      · cases hfetch.symm.trans hresult
        cases hvalid.symm.trans husable
      rintro given ⟨⟩ -
      exact ⟨rfl, name, token, old, hsubject, hfound, rfl⟩
  | unusable hsubject hfresh hfetch hvalid hgone =>
      refine ⟨List.prefix_rfl, fun _ _ _ _ _ hresult husable => ?_, absurd rfl, fun _ _ => rfl, ?_,
        fun _ => rfl⟩
      · cases hfetch.symm.trans hresult
        cases hvalid.symm.trans husable
      rintro given ⟨⟩ hsource
      simp at hsource

-- What stands under a name after a call stood there before, or it is a valid policy that the call
-- fetched, and that was there when its fetch ended.
theorem Ends.find?_eq {o : Outside σ} {fetch : Fetch σ ε} {record? : Option Record}
    {s s' : Store} {w w' : World σ} {outcome : Outcome ε}
    (h : Ends o fetch record? s w outcome s' w') (name : String) :
    s'.find? name = s.find? name ∨ ∃ looked token p, subject? record? = some (looked, token) ∧
      Domain.normalize looked = name ∧ (fetch record? w).1 = .ok (some p) ∧ p.isValid = true ∧
      s'.find? name = some p ∧ w' = (fetch record? w).2 := by
  cases h with
  | @fetched looked token p hsubject hmissed hfetch hvalid =>
      by_cases hname : name = Domain.normalize looked
      · refine .inr ⟨looked, token, p, hsubject, hname.symm, hfetch, hvalid, ?_, rfl⟩
        rw [find?_put, if_pos hname]
      · exact .inl (by rw [find?_put, if_neg hname])
  | _ => exact .inl rfl

theorem Ends.sound {o : Outside σ} {fetch : Fetch σ ε} {record? : Option Record}
    {s s' : Store} {w w' : World σ} {outcome : Outcome ε}
    (h : Ends o fetch record? s w outcome s' w') (hs : Sound s) : Sound s' := by
  cases h with
  | fetched _ _ _ hvalid => exact hs.put _ hvalid
  | _ => exact hs

-- A call: the record it brings, its way to fetch, and the world that it finds.
structure Call (σ ε : Type) where
  record : Option Record
  fetch : Fetch σ ε
  world : World σ

namespace Call

def fetched (call : Call σ ε) : Except ε (Option Policy) :=
  (call.fetch call.record call.world).1

def answer (o : Outside σ) (s : Store) (call : Call σ ε) : Outcome ε × Store :=
  let (outcome, s, _) := getOrFetch o call.fetch call.record s call.world
  (outcome, s)

end Call

-- The store that calls leave, one after the other. The world is each time another one, so that the
-- clock may have moved to any time in between.
def afterCalls (o : Outside σ) (calls : List (Call σ ε)) (s : Store) : Store :=
  calls.foldl (fun s call => (call.answer o s).2) s

theorem sound_afterCalls (o : Outside σ) (calls : List (Call σ ε)) {s : Store} (hs : Sound s) :
    Sound (afterCalls o calls s) := by
  induction calls generalizing s with
  | nil => exact hs
  | cons call calls ih =>
      exact ih ((getOrFetch_ends o call.fetch call.record s call.world).sound hs)

-- Every policy in a store that calls have filled is valid, and each call stores its own fetched
-- policy, if that is valid, or leaves the store as it was.
theorem answer_atomic (o : Outside σ) (calls : List (Call σ ε)) (call : Call σ ε) :
    let s := afterCalls o calls empty
    let (outcome, s') := call.answer o s
    Sound s' ∧ Atomic call.record (call.world.now o) call.fetched s outcome s' := by
  have hends := getOrFetch_ends o call.fetch call.record (afterCalls o calls empty) call.world
  exact ⟨hends.sound (sound_afterCalls o calls .of_empty), hends.atomic⟩

-- A world that is nothing but a clock.
def clockWorld : Outside Int where
  now time := time
  depth _ := 1000
  resolve _ time := (.error .noServers, time)
  request _ time := (.error (.transport "no transport"), time)
  close _ time := time

-- A policy for a record that holds for a day.
def dayPolicy (record : Record) : Policy :=
  ⟨some "STSv1", .enforce, ["mail.example.com"], 86400, 1700000000, some record, 0, [], .empty,
    false⟩

-- A call at a time for the policy of a domain, which its fetch gives.
def dayCall (domain : String) (time : Int) : Call Int String where
  record := some ⟨some domain, "v=STSv1; id=1;"⟩
  fetch record? w := (.ok (record?.map dayPolicy), w)
  world := ⟨time, .standard, []⟩

-- The first call for a domain stores what it fetches.
theorem dayCall_stored :
    let (outcome, s') := (dayCall "example.com" 1700000000).answer clockWorld empty
    Sound s' ∧ outcome = .ok ⟨some (dayPolicy ⟨some "example.com", "v=STSv1; id=1;"⟩), .fetched⟩ ∧
      s'.find? "example.com" = some (dayPolicy ⟨some "example.com", "v=STSv1; id=1;"⟩) := by
  obtain ⟨hsound, hatomic⟩ := answer_atomic clockWorld [] (dayCall "example.com" 1700000000)
  have hname : Domain.normalize "example.com" = "example.com" := by decide +kernel
  obtain ⟨houtcome, hfound⟩ := hatomic.stores _ _ _ rfl rfl rfl rfl
  rw [hname, hname] at hfound
  exact ⟨hsound, houtcome, hfound⟩

end StrictTransport.Store
