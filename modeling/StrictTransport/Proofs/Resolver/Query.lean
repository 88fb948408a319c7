import Mathlib.Logic.Function.Iterate
import StrictTransport.Proofs.Resolver.Cache
import StrictTransport.Proofs.World.Log

namespace StrictTransport

variable {σ : Type}

namespace Resolver

theorem Cache.key_inj {name other type : String} :
    key name type = key other type ↔ name = other := by
  simp only [key, String.append_left_inj]
  rfl

-- A question that is put since no answer to it is remembered, with what comes of it.
def Put (o : Outside σ) (options : Options) (remember : Bool) (name type : String) (w : World σ)
    (result : Except Failure Answer) (w' : World σ) : Prop :=
  ∃ w₁, remembered o remember (Cache.key name type) w = (none, w₁) ∧
    ask o (options.question name type) w₁ = (result, w')

-- How a query ends: its answer is remembered, it is answered, its time runs out and it is put again
-- or cannot be, or it fails. Its name and type get their normal forms each time.
inductive Queried (o : Outside σ) (options : Options) (remember : Bool) :
    Nat → Nat → String → String → World σ → Except Failure (List String) → World σ → Prop
  | recalled {depth retries : Nat} {name type : String} {w w' : World σ} {texts : List String}
      (hfound : remembered o remember (Cache.key (Domain.normalize name) (uppered type)) w =
        (some texts, w')) :
      Queried o options remember depth retries name type w (.ok texts) w'
  | answered {depth retries : Nat} {name type : String} {w w' : World σ} {answer : Answer}
      (hput : Put o options remember (Domain.normalize name) (uppered type) w (.ok answer) w') :
      Queried o options remember depth retries name type w (.ok answer.strings)
        (keep o remember (Cache.key (Domain.normalize name) (uppered type)) answer.strings w')
  | expired {depth : Nat} {name type : String} {w w' : World σ} {seconds : Option Binary64}
      (hput : Put o options remember (Domain.normalize name) (uppered type) w
        (.error (.expired seconds)) w') :
      Queried o options remember depth 0 name type w (.error (options.expiry seconds)) w'
  | tooDeep {retries : Nat} {name type : String} {w w' : World σ} {seconds : Option Binary64}
      (hput : Put o options remember (Domain.normalize name) (uppered type) w
        (.error (.expired seconds)) w') :
      Queried o options remember 0 (retries + 1) name type w (.error .tooDeep) w'
  | again {depth retries : Nat} {name type : String} {w w₁ w' : World σ} {seconds : Option Binary64}
      {result : Except Failure (List String)}
      (hput : Put o options remember (Domain.normalize name) (uppered type) w
        (.error (.expired seconds)) w₁)
      (hagain : Queried o options remember depth retries (Domain.normalize name) (uppered type) w₁
        result w') :
      Queried o options remember (depth + 1) (retries + 1) name type w result w'
  | failed {depth retries : Nat} {name type : String} {w w' : World σ} {failure : Failure}
      (hput : Put o options remember (Domain.normalize name) (uppered type) w (.error failure) w')
      (hlasting : ∀ seconds, failure ≠ .expired seconds) :
      Queried o options remember depth retries name type w (.error failure) w'

theorem queryFrom_queried (o : Outside σ) (options : Options) (remember : Bool)
    (depth retries : Nat) (name type : String) (w : World σ) :
    Queried o options remember depth retries name type w
      (queryFrom o options remember depth retries name type w).1
      (queryFrom o options remember depth retries name type w).2 := by
  rw [queryFrom.eq_def]
  dsimp only
  split
  · rename_i records w₁ hfound
    exact .recalled hfound
  · rename_i w₁ hmissed
    split
    · rename_i answer w₂ hasked
      exact .answered ⟨w₁, hmissed, hasked⟩
    · rename_i seconds w₂ hasked
      cases retries with
      | zero => exact .expired ⟨w₁, hmissed, hasked⟩
      | succ retries =>
          cases depth with
          | zero => exact .tooDeep ⟨w₁, hmissed, hasked⟩
          | succ depth =>
              exact .again ⟨w₁, hmissed, hasked⟩
                (queryFrom_queried o options remember depth retries _ _ w₂)
    · rename_i failure w₂ hlasting hasked
      exact .failed ⟨w₁, hmissed, hasked⟩ hlasting

section Questions

variable {options : Options}

-- The question for a name and type differs from another one in these alone.
theorem question_eq_map (name type name' type' : String) :
    options.question name' type' =
      (options.question name type).map fun q => { q with name := name', type := type' } := by
  unfold Options.question
  cases options.timeout with
  | none => rfl
  | some timeout =>
      by_cases hprepared : options.prepared = true
      · simp only [hprepared, if_true]
        rfl
      · simp only [hprepared]
        cases timeout.toReal? <;> rfl

theorem question_eq_error_of {name type : String} {failure : Failure}
    (h : options.question name type = .error failure) (name' type' : String) :
    options.question name' type' = .error failure := by
  rw [question_eq_map name type, h]
  rfl

theorem question_eq_ok {name type : String} {question : Question}
    (h : options.question name type = .ok question) :
    question.name = name ∧ question.type = type := by
  unfold Options.question at h
  split at h
  · cases h
  · split at h
    · cases h
      exact ⟨rfl, rfl⟩
    · split at h <;> cases h
      exact ⟨rfl, rfl⟩

theorem question_eq_error {name type : String} {failure : Failure}
    (h : options.question name type = .error failure) :
    failure = .noTimeLimit ∨ failure = .timeLimitTooLarge := by
  unfold Options.question at h
  split at h
  · cases h
    exact .inl rfl
  · split at h
    · cases h
    · split at h <;> cases h
      exact .inr rfl

theorem question_ne_expired {name type : String} {seconds : Option Binary64} :
    options.question name type ≠ .error (.expired seconds) := by
  intro h
  rcases question_eq_error h with hfailure | hfailure <;> cases hfailure

end Questions

-- What happens while nothing more is remembered: the log gets longer, the clock goes on, and the
-- cache loses entries at most.
structure Onward (o : Outside σ) (w : World (σ × List Exchange)) (own : List Exchange)
    (w' : World (σ × List Exchange)) : Prop where
  log_eq : w'.log = w.log ++ own
  now_le : w.now o.logged ≤ w'.now o.logged
  entries : w'.answers.entries.Sublist w.answers.entries
  maxAge_eq : w'.answers.maxAge = w.answers.maxAge

section Failures

variable {o : Outside σ} {options : Options} {remember : Bool} {depth retries : Nat}
  {name type : String}

theorem remembered_eq {key : String} {w w' : World σ} {texts? : Option (List String)}
    (h : remembered o remember key w = (texts?, w')) :
    w'.state = w.state ∧ w'.answers.entries.Sublist w.answers.entries ∧
      w'.answers.maxAge = w.answers.maxAge := by
  cases remember
  · cases h
    exact ⟨rfl, List.Sublist.refl _, rfl⟩
  · cases h
    exact ⟨rfl, Cache.sublist_get?, Cache.maxAge_get?⟩

theorem answers_eq_of_ask {question : Except Failure Question} {w w' : World σ}
    {result : Except Failure Answer} (h : ask o question w = (result, w')) :
    w'.answers = w.answers := by
  cases question <;> cases h <;> rfl

theorem Put.sublist {w w' : World σ} {result : Except Failure Answer}
    (h : Put o options remember name type w result w') :
    w'.answers.entries.Sublist w.answers.entries := by
  obtain ⟨w₁, hmissed, hasked⟩ := h
  rw [answers_eq_of_ask hasked]
  exact (remembered_eq hmissed).2.1

-- What fails is not remembered.
theorem Queried.sublist {w w' : World σ} {failure : Failure}
    (h : Queried o options remember depth retries name type w (.error failure) w') :
    w'.answers.entries.Sublist w.answers.entries := by
  generalize hresult : Except.error failure = result at h
  induction h with
  | recalled _ | answered _ => cases hresult
  | expired hput | tooDeep hput => exact hput.sublist
  | again hput hagain ih => exact (ih hresult).trans hput.sublist
  | failed hput _ => exact hput.sublist

end Failures

-- Whether the cache remembers nothing but texts that the resolver has given for their names at the
-- times that stand with them.
structure Tracked (o : Outside σ) (maxAge : Int) (w : World (σ × List Exchange)) : Prop where
  maxAge_eq : w.answers.maxAge = maxAge
  given : ∀ e ∈ w.answers.entries, ∃ question answer,
    .resolved question (.ok answer) e.time ∈ w.log ∧ question.type = "TXT" ∧
      e.key = Cache.key question.name "TXT" ∧ e.records = answer.strings ∧
      e.time ≤ w.now o.logged

-- What may happen to the world as time goes by: the log gets longer, the clock goes on, and the
-- cache remembers what the log tells.
structure Later (o : Outside σ) (maxAge : Int) (w : World (σ × List Exchange))
    (own : List Exchange) (w' : World (σ × List Exchange)) : Prop where
  log_eq : w'.log = w.log ++ own
  now_le : w.now o.logged ≤ w'.now o.logged
  tracked : Tracked o maxAge w'

-- Whether texts are those that the resolver gave for a name, less than the greatest age of what is
-- remembered ago, or at this very moment if nothing is ever remembered. The name gets its normal
-- form once more for each question about it that has run out of time.
def Recent (maxAge now : Int) (log own : List Exchange) (name : String) (texts : List String) :
    Prop :=
  ∃ question answer time, .resolved question (.ok answer) time ∈ log ∧ question.type = "TXT" ∧
    question.name = Domain.normalize^[own.countP Exchange.isExpiry + 1] name ∧
    answer.strings = texts ∧ time ≤ now ∧
    (now - time < maxAge ∨
      maxAge ≤ 0 ∧ time = now ∧ .resolved question (.ok answer) time ∈ own)

section Logged

variable {o : Outside σ} {options : Options} {maxAge : Int}
  {w w' w'' : World (σ × List Exchange)} {own own' : List Exchange}

theorem Later.trans (h : Later o maxAge w own w') (h' : Later o maxAge w' own' w'') :
    Later o maxAge w (own ++ own') w'' where
  log_eq := by rw [h'.log_eq, h.log_eq, List.append_assoc]
  now_le := Int.le_trans h.now_le h'.now_le
  tracked := h'.tracked

-- As long as nothing more is remembered, what has been given stays given.
theorem Tracked.later (h : Tracked o maxAge w) (hage : w'.answers.maxAge = w.answers.maxAge)
    (hentries : ∀ e ∈ w'.answers.entries, e ∈ w.answers.entries) (hlog : w'.log = w.log ++ own)
    (hnow : w.now o.logged ≤ w'.now o.logged) : Later o maxAge w own w' := by
  refine ⟨hlog, hnow, hage.trans h.maxAge_eq, fun e he => ?_⟩
  obtain ⟨question, answer, hmem, htype, hkey, hrecords, htime⟩ := h.given e (hentries e he)
  exact ⟨question, answer, hlog ▸ List.mem_append_left own hmem, htype, hkey, hrecords,
    Int.le_trans htime hnow⟩

theorem Tracked.onward (h : Tracked o maxAge w) (honward : Onward o w own w') :
    Later o maxAge w own w' :=
  h.later honward.maxAge_eq (fun _ he => honward.entries.subset he) honward.log_eq honward.now_le

theorem Later.note (h : Later o maxAge w own w') (notices : List Notice) :
    Later o maxAge w own (w'.note notices) :=
  ⟨h.log_eq, h.now_le, h.tracked.maxAge_eq, h.tracked.given⟩

theorem onward_remembered {remember : Bool} {key : String} {texts? : Option (List String)}
    (hsought : remembered o.logged remember key w = (texts?, w')) : Onward o w [] w' := by
  obtain ⟨hstate, hentries, hage⟩ := remembered_eq hsought
  exact ⟨(congrArg Prod.snd hstate).trans (List.append_nil _).symm,
    Int.le_of_eq (congrArg o.logged.now hstate.symm), hentries, hage⟩

-- The log tells of a question that is put, and of nothing if it cannot be put.
theorem Put.onward (hforward : o.Forward) {remember : Bool} {name type : String}
    {result : Except Failure Answer} (hput : Put o.logged options remember name type w result w') :
    (∃ question, options.question name type = .ok question ∧
      Onward o w [.resolved question result (w'.now o.logged)] w') ∨
    (∃ failure, options.question name type = .error failure ∧ result = .error failure ∧
      Onward o w [] w') := by
  obtain ⟨w₁, hmissed, hasked⟩ := hput
  have hsought := onward_remembered hmissed
  cases hquestion : options.question name type with
  | error failure =>
      rw [hquestion] at hasked
      cases hasked
      exact .inr ⟨failure, rfl, rfl, hsought⟩
  | ok question =>
      rw [hquestion] at hasked
      cases hasked
      refine .inl ⟨question, rfl, ?_, ?_, hsought.entries, hsought.maxAge_eq⟩
      · have hlog : w₁.log = w.log := hsought.log_eq.trans (List.append_nil _)
        rw [← hlog]
        rfl
      · exact Int.le_trans hsought.now_le (hforward.resolve question w₁.state.1)

theorem Tracked.recalled (h : Tracked o maxAge w) {name : String} {texts : List String}
    (hfound : Resolver.remembered o.logged true (Cache.key (Domain.normalize name) "TXT") w =
      (some texts, w')) :
    Recent maxAge (w'.now o.logged) w'.log [] name texts := by
  obtain ⟨hget, rfl⟩ := Prod.mk.inj hfound
  obtain ⟨-, e, he, hkey, rfl, hage⟩ := Cache.entry_of_get? (Prod.ext hget rfl)
  obtain ⟨question, answer, hmem, htype, hkey', hrecords, htime⟩ := h.given e he
  exact ⟨question, answer, e.time, hmem, htype, Cache.key_inj.mp (hkey'.symm.trans hkey),
    hrecords.symm, htime, .inl (h.maxAge_eq ▸ hage)⟩

-- The log tells of every question that is put. One that cannot be put does not run out of time.
theorem Tracked.put (hforward : o.Forward) (h : Tracked o maxAge w) {name type : String}
    {result : Except Failure Answer} (hput : Put o.logged options true name type w result w') :
    (∃ question, question.name = name ∧ question.type = type ∧
      Later o maxAge w [.resolved question result (w'.now o.logged)] w') ∨
    (Later o maxAge w [] w' ∧ ∃ failure, result = .error failure ∧
      ∀ seconds, failure ≠ .expired seconds) := by
  obtain ⟨question, hquestion, honward⟩ | ⟨failure, hfailure, hresult, honward⟩ :=
    hput.onward hforward
  · obtain ⟨hname, htype⟩ := question_eq_ok hquestion
    exact .inl ⟨question, hname, htype, h.onward honward⟩
  · exact .inr ⟨h.onward honward, failure, hresult,
      fun seconds heq => question_ne_expired (heq ▸ hfailure)⟩

theorem Tracked.keep (h : Tracked o maxAge w) {question : Question} {answer : Answer}
    (hgiven : .resolved question (.ok answer) (w.now o.logged) ∈ w.log)
    (htype : question.type = "TXT") :
    Later o maxAge w []
      (keep o.logged true (Cache.key question.name "TXT") answer.strings w) where
  log_eq := (List.append_nil _).symm
  now_le := Int.le_refl _
  tracked := {
    maxAge_eq := Cache.maxAge_insert.trans h.maxAge_eq
    given := fun e he => by
      rcases Cache.mem_insert he with rfl | ⟨he, -⟩
      · exact ⟨question, answer, hgiven, htype, rfl, rfl, Int.le_refl _⟩
      · exact h.given e he }

-- An answer to the question that is being put is recent, even if nothing is ever remembered.
theorem recent_of_answered {question : Question} {answer : Answer} {now : Int}
    {log : List Exchange} {name : String} (hmem : .resolved question (.ok answer) now ∈ log)
    (htype : question.type = "TXT") (hname : question.name = Domain.normalize name) :
    Recent maxAge now log [.resolved question (.ok answer) now] name answer.strings := by
  refine ⟨question, answer, now, hmem, htype, hname, rfl, Int.le_refl now, ?_⟩
  rcases Int.lt_or_le 0 maxAge with hpos | hzero
  · left
    rwa [Int.sub_self]
  · exact .inr ⟨hzero, rfl, List.mem_cons_self⟩

theorem Recent.again {now : Int} {log : List Exchange} {name : String} {texts : List String}
    (h : Recent maxAge now log own (Domain.normalize name) texts) {question : Question}
    {seconds : Option Binary64} {time : Int} :
    Recent maxAge now log ([.resolved question (.error (.expired seconds)) time] ++ own) name
      texts := by
  obtain ⟨given, answer, t, hmem, htype, hname, htexts, hpast, hage⟩ := h
  refine ⟨given, answer, t, hmem, htype, ?_, htexts, hpast, hage.imp_right fun h => ?_⟩
  · rw [hname, List.singleton_append, List.countP_cons_of_pos rfl, ← Function.iterate_succ_apply]
  · exact ⟨h.1, h.2.1, List.mem_append_right _ h.2.2⟩

-- What a query gives is recent, and what it leaves behind is tracked.
theorem Queried.later (hforward : o.Forward) {depth retries : Nat} {name type : String}
    {result : Except Failure (List String)}
    (h : Queried o.logged options true depth retries name type w result w') (htype : uppered type = "TXT")
    (htracked : Tracked o maxAge w) :
    ∃ own, Later o maxAge w own w' ∧
      ∀ texts, result = .ok texts → Recent maxAge (w'.now o.logged) w'.log own name texts := by
  induction h with
  | recalled hfound =>
      rw [htype] at hfound
      refine ⟨[], htracked.onward (onward_remembered hfound), fun texts heq => ?_⟩
      cases heq
      exact htracked.recalled hfound
  | answered hput =>
      rw [htype] at hput ⊢
      obtain ⟨question, hname, hquestion, hlater⟩ | ⟨-, failure, hfailure, -⟩ :=
        htracked.put hforward hput
      · rw [← hname]
        have hmem := hlater.log_eq ▸ List.mem_append_right _ List.mem_cons_self
        refine ⟨_, hlater.trans (hlater.tracked.keep hmem hquestion), fun texts heq => ?_⟩
        cases heq
        exact recent_of_answered hmem hquestion hname
      · cases hfailure
  | expired hput | tooDeep hput =>
      obtain ⟨question, -, -, hlater⟩ | ⟨hlater, -⟩ := htracked.put hforward hput
      · exact ⟨_, hlater, nofun⟩
      · exact ⟨_, hlater, nofun⟩
  | again hput hagain ih =>
      obtain ⟨question, -, -, hlater⟩ | ⟨-, failure, hfailure, hlasting⟩ :=
        htracked.put hforward hput
      · obtain ⟨own, hlater', hrecent⟩ := ih (by rw [htype]; decide +kernel) hlater.tracked
        refine ⟨_, hlater.trans hlater', fun texts heq => ?_⟩
        exact (hrecent texts heq).again
      · cases hfailure
        exact absurd rfl (hlasting _)
  | failed hput hlasting =>
      obtain ⟨question, -, -, hlater⟩ | ⟨hlater, -⟩ := htracked.put hforward hput
      · exact ⟨_, hlater, nofun⟩
      · exact ⟨_, hlater, nofun⟩

end Logged

end Resolver

end StrictTransport
