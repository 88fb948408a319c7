import Mathlib.Data.List.Basic
import StrictTransport.Proofs.Resolver.Query

namespace StrictTransport.Resolver

variable {σ : Type}

-- The question as it is put: its name and type get their normal forms.
def Question.normal (q : Question) : Question :=
  { q with name := Domain.normalize q.name, type := uppered q.type }

def Question.key (q : Question) : String :=
  Cache.key q.name q.type

-- The question of an attempt. It is put in its normal form, and each further attempt takes the
-- normal form of what the one before has put.
def attempt (q : Question) : ℕ → Question
  | 0 => q.normal
  | i + 1 => (attempt q i).normal

-- The state of the world after attempts that follow one another.
def stateAfter (o : Outside σ) (q : Question) (x : σ) : ℕ → σ
  | 0 => x
  | i + 1 => (o.resolve (attempt q i) (stateAfter o q x i)).2

-- What the resolver gives to an attempt.
def outcome (o : Outside σ) (q : Question) (x : σ) (i : ℕ) : Except Failure Answer :=
  (o.resolve (attempt q i) (stateAfter o q x i)).1

def attempted (o : Outside σ) (q : Question) (x : σ) (i : ℕ) : Exchange :=
  .resolved (attempt q i) (outcome o q x i) (o.now (stateAfter o q x (i + 1)))

-- Whether a cache is another one but for an entry that is stored, and for others that have to give
-- way.
structure Cache.Gains (c : Cache) (e : Entry) (c' : Cache) : Prop where
  stored : c'.find? e.key = some e
  others : ∀ d ∈ c'.entries, d = e ∨ d ∈ c.entries

-- Whether a cache holds no fresh entry for a query: none that is fresh when one of the attempts up
-- to the last looks for it.
def Unremembered (o : Outside σ) (q : Question) (w : World (σ × List Exchange)) (last : ℕ) : Prop :=
  ∀ i ≤ last, ∀ e ∈ w.answers.entries, e.key = (attempt q i).key →
    w.answers.isFresh (o.now (stateAfter o q w.state.1 i)) e = false

-- How a query ends that puts its question until an attempt is the last.
structure Attempted (o : Outside σ) (q : Question) (w : World (σ × List Exchange)) (last : ℕ)
    (result : Except Failure (List String) × World (σ × List Exchange)) : Prop where
  log_eq : result.2.log = w.log ++ (List.range (last + 1)).map (attempted o q w.state.1)
  result_eq : result.1 = (outcome o q w.state.1 last).map Answer.strings
  gained : ∀ texts, result.1 = .ok texts →
    w.answers.Gains ⟨(attempt q last).key, texts, o.now (stateAfter o q w.state.1 (last + 1))⟩
      result.2.answers

namespace Cache

variable {c c' d : Cache} {e : Entry} {now : Int} {key : String} {records : List String}

theorem gains_insert : c.Gains ⟨key, records, now⟩ (c.insert now key records) :=
  ⟨find?_insert, fun _ hd => (mem_insert hd).imp_right And.left⟩

theorem Gains.of_sublist (h : c.Gains e c') (hentries : c.entries.Sublist d.entries) :
    d.Gains e c' :=
  ⟨h.stored, fun d hd => (h.others d hd).imp_right fun hold => hentries.subset hold⟩

end Cache

section Attempts

variable {o : Outside σ} {options : Options} {q : Question}

theorem attempt_succ (i : ℕ) : attempt q (i + 1) = attempt q.normal i := by
  induction i with
  | zero => simp only [attempt]
  | succ i ih => rw [attempt, ih, attempt]

theorem stateAfter_succ (x : σ) (i : ℕ) :
    stateAfter o q x (i + 1) = stateAfter o q.normal (o.resolve q.normal x).2 i := by
  induction i with
  | zero => simp only [stateAfter, attempt]
  | succ i ih => rw [stateAfter, ih, attempt_succ, stateAfter]

theorem outcome_succ (x : σ) (i : ℕ) :
    outcome o q x (i + 1) = outcome o q.normal (o.resolve q.normal x).2 i := by
  simp only [outcome, stateAfter_succ, attempt_succ]

theorem attempted_succ (x : σ) (i : ℕ) :
    attempted o q x (i + 1) = attempted o q.normal (o.resolve q.normal x).2 i := by
  simp only [attempted, stateAfter_succ x (i + 1), outcome_succ, attempt_succ]

theorem question_normal {name type : String} (h : options.question name type = .ok q) :
    options.question (Domain.normalize name) (uppered type) = .ok q.normal := by
  obtain ⟨rfl, rfl⟩ := question_eq_ok h
  rw [question_eq_map q.name q.type, h]
  rfl

-- What one attempt leaves behind.
structure Tried (o : Outside σ) (q : Question) (w : World (σ × List Exchange))
    (result : Except Failure Answer) (w' : World (σ × List Exchange)) : Prop where
  result_eq : result = outcome o q w.state.1 0
  state_eq : w'.state.1 = (o.resolve q.normal w.state.1).2
  log_eq : w'.log = w.log ++ [attempted o q w.state.1 0]
  entries : w'.answers.entries.Sublist w.answers.entries
  maxAge_eq : w'.answers.maxAge = w.answers.maxAge

theorem Put.tried {name type : String} (hquestion : options.question name type = .ok q)
    {w w' : World (σ × List Exchange)} {result : Except Failure Answer}
    (h : Put o.logged options true (Domain.normalize name) (uppered type) w result w') :
    Tried o q w result w' := by
  obtain ⟨w₁, hmissed, hasked⟩ := h
  rw [question_normal hquestion] at hasked
  obtain ⟨-, rfl⟩ := Prod.mk.inj hmissed
  cases hasked
  exact ⟨rfl, rfl, rfl, Cache.sublist_get?, Cache.maxAge_get?⟩

theorem Tried.last_error {w w' : World (σ × List Exchange)} {failure : Failure}
    (h : Tried o q w (.error failure) w') : Attempted o q w 0 (.error failure, w') where
  log_eq := h.log_eq
  result_eq := by
    rw [← h.result_eq]
    rfl
  gained := nofun

theorem Tried.last_ok {w w' : World (σ × List Exchange)} {answer : Answer}
    (h : Tried o q w (.ok answer) w') :
    Attempted o q w 0
      (.ok answer.strings, keep o.logged true q.normal.key answer.strings w') where
  log_eq := h.log_eq
  result_eq := by
    rw [← h.result_eq]
    rfl
  gained texts heq := by
    obtain rfl := Except.ok.inj heq
    have hnow : w'.now o.logged = o.now (stateAfter o q w.state.1 1) := congrArg o.now h.state_eq
    exact hnow ▸ Cache.gains_insert.of_sublist h.entries

-- The log of a query begins with its first attempt.
theorem Tried.log_again {w w₁ w' : World (σ × List Exchange)} {result : Except Failure Answer}
    {last : ℕ} (h : Tried o q w result w₁)
    (hlog : w'.log = w₁.log ++ (List.range (last + 1)).map (attempted o q.normal w₁.state.1)) :
    w'.log = w.log ++ (List.range (last + 1 + 1)).map (attempted o q w.state.1) := by
  have hshift : attempted o q w.state.1 ∘ Nat.succ =
      attempted o q.normal (o.resolve q.normal w.state.1).2 :=
    funext (attempted_succ w.state.1)
  rw [hlog, h.log_eq, h.state_eq, List.append_assoc, List.range_succ_eq_map (n := last + 1),
    List.map_cons, List.map_map, hshift, List.singleton_append]

theorem Tried.again {w w₁ : World (σ × List Exchange)} {seconds : Option Binary64} {last : ℕ}
    {result : Except Failure (List String) × World (σ × List Exchange)}
    (h : Tried o q w (.error (.expired seconds)) w₁) (h' : Attempted o q.normal w₁ last result) :
    Attempted o q w (last + 1) result := by
  have hstate := h.state_eq
  refine ⟨h.log_again h'.log_eq, ?_, fun texts heq => ?_⟩
  · rw [h'.result_eq, hstate, outcome_succ]
  · have hgained := h'.gained texts heq
    rw [hstate, ← attempt_succ, ← stateAfter_succ] at hgained
    exact hgained.of_sublist h.entries

theorem Tried.unremembered {w w₁ : World (σ × List Exchange)} {result : Except Failure Answer}
    {last : ℕ} (h : Tried o q w result w₁) (hstale : Unremembered o q w (last + 1)) :
    Unremembered o q.normal w₁ last := by
  intro i hi e he hkey
  have hfresh := hstale (i + 1) (Nat.add_le_add_right hi 1) e (h.entries.subset he)
    (hkey.trans (by rw [attempt_succ]))
  rw [stateAfter_succ, ← h.state_eq] at hfresh
  rwa [Cache.isFresh, h.maxAge_eq]

-- If the time does not run out for the first attempt, there is none before the last.
theorem Tried.eq_zero {w w₁ : World (σ × List Exchange)} {result : Except Failure Answer}
    {retries k : ℕ} (h : Tried o q w result w₁)
    (hlasting : ∀ seconds, result ≠ .error (.expired seconds))
    (hexpired : ∀ i < k, i ≤ retries →
      ∃ seconds, outcome o q w.state.1 i = .error (.expired seconds)) :
    k = 0 := by
  by_contra hk
  obtain ⟨seconds, hseconds⟩ := hexpired 0 (Nat.pos_of_ne_zero hk) (Nat.zero_le _)
  exact hlasting seconds (h.result_eq.trans hseconds)

theorem Unremembered.mono {w : World (σ × List Exchange)} {last last' : ℕ}
    (h : Unremembered o q w last) (hle : last' ≤ last) : Unremembered o q w last' :=
  fun i hi => h i (Nat.le_trans hi hle)

theorem Unremembered.not_recalled {w w' : World (σ × List Exchange)} {last : ℕ}
    (h : Unremembered o q w last) {texts : List String} :
    remembered o.logged true q.normal.key w ≠ (some texts, w') := by
  intro hfound
  obtain ⟨hget, -⟩ := Prod.mk.inj hfound
  have hnone := Cache.get?_eq_none (h 0 (Nat.zero_le _))
  exact Option.some_ne_none texts (hget.symm.trans hnone)

-- The attempts of a query follow one another as long as the time runs out and retries are left, if
-- so many calls can stand inside one another.
theorem Queried.attempted {depth retries k : ℕ} {name type : String}
    {w w' : World (σ × List Exchange)} {result : Except Failure (List String)}
    (h : Queried o.logged options true depth retries name type w result w')
    (hdepth : min k retries ≤ depth) (hquestion : options.question name type = .ok q)
    (hretries : options.retries.isNone = false)
    (hexpired : ∀ i < k, i ≤ retries →
      ∃ seconds, outcome o q w.state.1 i = .error (.expired seconds))
    (hnext : k ≤ retries → ∀ seconds, outcome o q w.state.1 k ≠ .error (.expired seconds))
    (hstale : Unremembered o q w (min k retries)) :
    Attempted o q w (min k retries) (result, w') := by
  induction h generalizing q k with
  | recalled hfound =>
      obtain ⟨rfl, rfl⟩ := question_eq_ok hquestion
      exact absurd hfound hstale.not_recalled
  | answered hput =>
      obtain ⟨rfl, rfl⟩ := question_eq_ok hquestion
      have htried := hput.tried hquestion
      obtain rfl := htried.eq_zero (fun seconds heq => by cases heq) hexpired
      rw [Nat.zero_min]
      exact htried.last_ok
  | @expired _ _ _ _ _ seconds hput =>
      have hexpiry : options.expiry seconds = .expired seconds := by
        simp only [Options.expiry, hretries, Bool.false_eq_true, if_false]
      rw [Nat.min_zero, hexpiry]
      exact (hput.tried hquestion).last_error
  | tooDeep hput =>
      have htried := hput.tried hquestion
      have hfirst : k = 0 := by omega
      subst hfirst
      exact absurd htried.result_eq.symm (hnext (Nat.zero_le _) _)
  | again hput hagain ih =>
      have htried := hput.tried hquestion
      cases k with
      | zero => exact absurd htried.result_eq.symm (hnext (Nat.zero_le _) _)
      | succ k =>
          rw [Nat.succ_min_succ] at hdepth hstale ⊢
          refine htried.again (ih (Nat.le_of_succ_le_succ hdepth) (question_normal hquestion)
            (fun i hi hle => ?_) (fun hk => ?_) (htried.unremembered hstale))
          · have hseconds := hexpired (i + 1) (Nat.add_lt_add_right hi 1)
              (Nat.add_le_add_right hle 1)
            rwa [outcome_succ, ← htried.state_eq] at hseconds
          · have hlasting := hnext (Nat.add_le_add_right hk 1)
            rwa [outcome_succ, ← htried.state_eq] at hlasting
  | failed hput hlasting =>
      have htried := hput.tried hquestion
      obtain rfl := htried.eq_zero (fun seconds heq => hlasting seconds (Except.error.inj heq))
        hexpired
      rw [Nat.zero_min]
      exact htried.last_error

-- The attempts that there are if the time runs out for more of them than calls can stand inside one
-- another.
theorem Queried.tooDeep_of_expired {depth retries : ℕ} {name type : String}
    {w w' : World (σ × List Exchange)} {result : Except Failure (List String)}
    (h : Queried o.logged options true depth retries name type w result w')
    (hdepth : depth < retries) (hquestion : options.question name type = .ok q)
    (hexpired : ∀ i ≤ depth, ∃ seconds, outcome o q w.state.1 i = .error (.expired seconds))
    (hstale : Unremembered o q w depth) :
    result = .error .tooDeep ∧
      w'.log = w.log ++ (List.range (depth + 1)).map (Resolver.attempted o q w.state.1) := by
  induction h generalizing q with
  | recalled hfound =>
      obtain ⟨rfl, rfl⟩ := question_eq_ok hquestion
      exact absurd hfound (hstale.mono (Nat.zero_le _)).not_recalled
  | answered hput =>
      obtain ⟨seconds, hseconds⟩ := hexpired 0 (Nat.zero_le _)
      cases (hput.tried hquestion).result_eq.trans hseconds
  | expired => exact absurd hdepth (Nat.not_lt_zero _)
  | tooDeep hput => exact ⟨rfl, (hput.tried hquestion).log_eq⟩
  | again hput hagain ih =>
      have htried := hput.tried hquestion
      obtain ⟨hresult, hlog⟩ := ih (Nat.lt_of_succ_lt_succ hdepth) (question_normal hquestion)
        (fun i hi => by
          have hseconds := hexpired (i + 1) (Nat.add_le_add_right hi 1)
          rwa [outcome_succ, ← htried.state_eq] at hseconds)
        (htried.unremembered hstale)
      exact ⟨hresult, htried.log_again hlog⟩
  | failed hput hlasting =>
      obtain ⟨seconds, hseconds⟩ := hexpired 0 (Nat.zero_le _)
      exact absurd (Except.error.inj ((hput.tried hquestion).result_eq.trans hseconds))
        (hlasting seconds)

theorem lifetime_attempt (q : Question) (i : ℕ) : (attempt q i).lifetime = q.lifetime := by
  induction i with
  | zero => simp only [attempt, Question.normal]
  | succ i ih => simp only [attempt, Question.normal, ih]

theorem query_queried (o : Outside σ) (options : Options) {n : ℕ}
    (hretries : options.retries = some ↑n) (name type : String) (w : World (σ × List Exchange)) :
    Queried o.logged options true (o.depth w.state.1) n name type w
      (query o.logged options true name type w).1 (query o.logged options true name type w).2 := by
  have hcount : (options.retries.getD 0).toNat = n := by
    rw [hretries]
    rfl
  have hqueried := queryFrom_queried o.logged options true (o.depth w.state.1)
    (options.retries.getD 0).toNat name type w
  rw [hcount] at hqueried
  rw [query, hcount]
  exact hqueried

end Attempts

-- If the time runs out for the first attempts of a query and not for the next, that is the last
-- attempt, or else the last one that the retries allow. The query gives what it gives, all attempts
-- have the same time, and the cache gains the texts exactly if the query gives them. Each attempt
-- but the first takes a call inside the one before.
theorem query_retries (o : Outside σ) (options : Options) (n : ℕ)
    (hretries : options.retries = some ↑n) (name type : String) (question : Question)
    (hquestion : options.question name type = .ok question) (w : World (σ × List Exchange)) (k : ℕ)
    (hexpired : ∀ i < k, i ≤ n →
      ∃ seconds, outcome o question w.state.1 i = .error (.expired seconds))
    (hnext : k ≤ n → ∀ seconds, outcome o question w.state.1 k ≠ .error (.expired seconds))
    (hdepth : min k n ≤ o.depth w.state.1) (hstale : Unremembered o question w (min k n)) :
    let last := min k n
    let result := query o.logged options true name type w
    query o options true name type w.plain = World.plainly result ∧
    result.2.log = w.log ++ (List.range (last + 1)).map (attempted o question w.state.1) ∧
    (∀ i, (attempt question i).lifetime = question.lifetime) ∧
    result.1 = (outcome o question w.state.1 last).map Answer.strings ∧
    (∀ texts, result.1 = .ok texts → w.answers.Gains
      ⟨(attempt question last).key, texts, o.now (stateAfter o question w.state.1 (last + 1))⟩
      result.2.answers) ∧
    ∀ failure, result.1 = .error failure →
      result.2.answers.entries.Sublist w.answers.entries := by
  intro last result
  have hknown : options.retries.isNone = false := by
    rw [hretries]
    rfl
  have hqueried : Queried o.logged options true (o.depth w.state.1) n name type w result.1
      result.2 := query_queried o options hretries name type w
  have hattempted := hqueried.attempted hdepth hquestion hknown hexpired hnext hstale
  exact ⟨(plainly_query o options true name type w).symm, hattempted.log_eq,
    lifetime_attempt question, hattempted.result_eq, hattempted.gained,
    fun failure heq => (heq ▸ hqueried).sublist⟩

-- A clock that goes on by a second with each question, and a resolver whose time runs out for the
-- first questions.
def slowWorld (expiries : ℕ) : Outside ℕ where
  now i := 1700000000 + i
  depth _ := 1000
  resolve _ i :=
    (if i < expiries then .error (.expired (some (.ofInt 2)))
      else .ok (.texts ["10 mail.example.com."]), i + 1)
  request _ i := (.error (.transport "no transport"), i)
  close _ i := i

-- The question that is put to it.
def slowQuestion : Question :=
  ⟨"Example.com", "mx", .real (.ofInt 2), none, some (.real (.ofInt 2))⟩

theorem stateAfter_slowWorld (expiries : ℕ) (q : Question) (i : ℕ) :
    stateAfter (slowWorld expiries) q 0 i = i := by
  induction i with
  | zero => rfl
  | succ i ih =>
      rw [stateAfter, ih]
      rfl

theorem outcome_slowWorld (expiries : ℕ) (q : Question) (i : ℕ) :
    outcome (slowWorld expiries) q 0 i =
      if i < expiries then .error (.expired (some (.ofInt 2)))
      else .ok (.texts ["10 mail.example.com."]) := by
  rw [outcome, stateAfter_slowWorld]
  rfl

def slowQuery (options : Options) (expiries : ℕ) :
    Except Failure (List String) × World (ℕ × List Exchange) :=
  query (slowWorld expiries).logged options true "Example.com" "mx" ⟨(0, []), .standard, []⟩

-- Two expiries leave one attempt of three, and three leave none.
theorem slowQuery_ends :
    ((slowQuery .standard 2).2.log.length = 3 ∧
      (slowQuery .standard 2).1 = .ok ["10 mail.example.com"] ∧
      (slowQuery .standard 2).2.answers.find? "example.com_MX" =
        some ⟨"example.com_MX", ["10 mail.example.com"], 1700000003⟩) ∧
    (slowQuery .standard 3).2.log.length = 3 ∧
      (slowQuery .standard 3).1 = .error (.expired (some (.ofInt 2))) ∧
      (slowQuery .standard 3).2.answers.entries = [] := by
  have hends := fun expiries hdepth => query_retries (slowWorld expiries) .standard 2 rfl
    "Example.com" "mx" slowQuestion rfl ⟨(0, []), .standard, []⟩ expiries
    (fun i hi _ => ⟨some (.ofInt 2), by rw [outcome_slowWorld, if_pos hi]⟩)
    (fun _ seconds => by rw [outcome_slowWorld, if_neg (Nat.lt_irrefl _)]; nofun) hdepth nofun
  obtain ⟨-, hlog, -, hresult, hgained, -⟩ := hends 2 (by decide)
  obtain ⟨-, hlog', -, hresult', -, hkept⟩ := hends 3 (by decide)
  have htexts : (slowQuery .standard 2).1 = .ok ["10 mail.example.com"] := by
    rw [slowQuery, hresult, outcome_slowWorld]
    decide +kernel
  have hexpiry : (slowQuery .standard 3).1 = .error (.expired (some (.ofInt 2))) := by
    rw [slowQuery, hresult', outcome_slowWorld]
    rfl
  have hkey : (attempt slowQuestion 2).key = "example.com_MX" := by decide +kernel
  have hstored := (hgained _ htexts).stored
  rw [stateAfter_slowWorld, Nat.min_self, hkey] at hstored
  refine ⟨⟨?_, htexts, ?_⟩, ?_, hexpiry, ?_⟩
  · rw [slowQuery, hlog]
    rfl
  · exact hstored
  · rw [slowQuery, hlog']
    rfl
  · exact List.sublist_nil.mp (hkept _ hexpiry)

-- With 2000 retries, 1500 expiries ask for 1501 attempts, and a query without any expiry asks for
-- one. The first is cut off where no further call can stand inside the others, and a time limit
-- that is too large a number keeps the second from putting its question.
theorem slowQuery_cut :
    ((∀ i < 1500, outcome (slowWorld 1500) slowQuestion 0 i =
        .error (.expired (some (.ofInt 2)))) ∧
      outcome (slowWorld 1500) slowQuestion 0 1500 = .ok (.texts ["10 mail.example.com."]) ∧
      (slowQuery { Options.standard with retries := some 2000 } 1500).2.log.length = 1001 ∧
      (slowQuery { Options.standard with retries := some 2000 } 1500).1 = .error .tooDeep) ∧
    outcome (slowWorld 0) slowQuestion 0 0 = .ok (.texts ["10 mail.example.com."]) ∧
      (slowQuery { Options.standard with timeout := some (.whole ↑(1 <<< 1024 : ℕ)) } 0).2.log.length
        = 0 ∧
      (slowQuery { Options.standard with timeout := some (.whole ↑(1 <<< 1024 : ℕ)) } 0).1 =
        .error .timeLimitTooLarge := by
  have hexpired : ∀ i < 1500, outcome (slowWorld 1500) slowQuestion 0 i =
      .error (.expired (some (.ofInt 2))) := fun i hi => by rw [outcome_slowWorld, if_pos hi]
  have hqueried : Queried (slowWorld 1500).logged { Options.standard with retries := some 2000 } true
      1000 2000 "Example.com" "mx" ⟨(0, []), .standard, []⟩ _ _ :=
    query_queried (slowWorld 1500) _ rfl "Example.com" "mx" _
  obtain ⟨hresult, hlog⟩ := hqueried.tooDeep_of_expired (q := slowQuestion) (by decide) rfl
    (fun i hi => ⟨_, hexpired i (Nat.lt_of_le_of_lt hi (by decide))⟩) nofun
  refine ⟨⟨hexpired, ?_, ?_, hresult⟩, ?_, ?_, ?_⟩
  · rw [outcome_slowWorld]
    rfl
  · rw [slowQuery, hlog, List.length_append, List.length_map, List.length_range]
    rfl
  · rw [outcome_slowWorld]
    rfl
  · decide +kernel
  · decide +kernel

end StrictTransport.Resolver
