import Mathlib.Data.List.Basic
import StrictTransport.Proofs.Resolver.Query

namespace StrictTransport

variable {σ : Type}

-- The answer for a name and type that an exchange brings, with the time when it came.
def Exchange.answerTo? (name type : String) : Exchange → Option (Resolver.Answer × Int)
  | .resolved question (.ok answer) time =>
      if question.name = name ∧ question.type = type then some (answer, time) else none
  | _ => none

namespace Resolver

-- The last answer for a name and type that is told of.
def lastAnswer? (name type : String) (told : List Exchange) : Option (Answer × Int) :=
  told.reverse.findSome? (·.answerTo? name type)

-- The characters of types: those of ASCII but for the one that stands before a type in a key.
def isTypeChar (c : Char) : Bool :=
  c.toNat < 128 && c != '_'

def IsType (type : String) : Prop :=
  type.toList.all isTypeChar = true

-- Whether a cache holds, of all that is told, nothing but the last answers for their names and
-- types.
structure Cache.Coherent (c : Cache) (maxAge : Int) (told : List Exchange) (now : Int) : Prop where
  maxAge_eq : c.maxAge = maxAge
  latest : ∀ e ∈ c.entries, ∃ name type answer, IsType type ∧ e.key = key name type ∧
    lastAnswer? name type told = some (answer, e.time) ∧ e.records = answer.strings ∧ e.time ≤ now

-- A query in a run of queries, and what happens to the world before it.
structure Inquiry (o : Outside σ) where
  before : σ → σ
  forward : ∀ x, o.now x ≤ o.now (before x)
  options : Options
  remember : Bool
  name : String
  type : String
  isType : IsType type

namespace Inquiry

variable {o : Outside σ}

-- The world that an inquiry finds, with an empty log.
def enter (i : Inquiry o) (w : World σ) : World (σ × List Exchange) :=
  ⟨(i.before w.state, []), w.answers, w.notices⟩

def make (i : Inquiry o) (w : World σ) :
    Except Failure (List String) × World (σ × List Exchange) :=
  query o.logged i.options i.remember i.name i.type (i.enter w)

-- What is told after an inquiry: what passes in it is added if it uses the cache.
def step (i : Inquiry o) (reached : World σ × List Exchange) : World σ × List Exchange :=
  let w := (i.make reached.1).2
  (w.plain, if i.remember then reached.2 ++ w.log else reached.2)

end Inquiry

-- The world after a run of inquiries, and what has passed in those that use the cache.
def afterInquiries {o : Outside σ} :
    List (Inquiry o) → World σ × List Exchange → World σ × List Exchange
  | [], reached => reached
  | inquiry :: inquiries, reached => afterInquiries inquiries (inquiry.step reached)

section Types

theorem isTypeChar_upperChar {c d : Char} (h : isTypeChar c = true) (hd : d ∈ Text.upperChar c) :
    isTypeChar d = true := by
  have hscan : ((List.range 128).all fun n => !isTypeChar (Char.ofNat n) ||
      (Text.upperChar (Char.ofNat n)).all isTypeChar) = true := by
    decide +kernel
  have hlt : c.toNat < 128 := of_decide_eq_true (Bool.and_eq_true_iff.mp h).1
  have hc := List.all_eq_true.mp hscan c.toNat (List.mem_range.mpr hlt)
  rw [Char.ofNat_toNat, h, Bool.not_true, Bool.false_or] at hc
  exact List.all_eq_true.mp hc d hd

theorem IsType.uppered {type : String} (h : IsType type) : IsType (uppered type) := by
  refine List.all_eq_true.mpr fun d hd => ?_
  rw [StrictTransport.uppered, Text.onString, String.toList_ofList] at hd
  obtain ⟨c, hc, hd⟩ := List.mem_flatMap.mp hd
  exact isTypeChar_upperChar (List.all_eq_true.mp h c hc) hd

theorem toList_key (name type : String) :
    (Cache.key name type).toList = name.toList ++ '_' :: type.toList := by
  change (name ++ "_" ++ type).toList = _
  simp

theorem IsType.takeWhile_key {type : String} (h : IsType type) (name : String) :
    (Cache.key name type).toList.reverse.takeWhile (· != '_') = type.toList.reverse := by
  rw [toList_key, List.reverse_append, List.reverse_cons, List.append_assoc,
    List.takeWhile_append_of_pos, List.singleton_append, List.takeWhile_cons_of_neg,
    List.append_nil]
  · simp
  · intro c hc
    exact (Bool.and_eq_true_iff.mp (List.all_eq_true.mp h c (List.mem_reverse.mp hc))).2

-- The type in a key is what stands behind the last underscore.
theorem key_eq_iff {name name' type type' : String} (h : IsType type) (h' : IsType type') :
    Cache.key name type = Cache.key name' type' ↔ name = name' ∧ type = type' := by
  refine ⟨fun heq => ?_, fun ⟨hname, htype⟩ => by rw [hname, htype]⟩
  have htype := h.takeWhile_key name
  rw [heq, h'.takeWhile_key] at htype
  obtain rfl := String.toList_inj.mp (List.reverse_inj.mp htype)
  exact ⟨Cache.key_inj.mp heq, rfl⟩

end Types

section Entries

variable {c c' : Cache} {maxAge now now' : Int} {told own : List Exchange}

theorem lastAnswer?_append (name type : String) (told own : List Exchange) :
    lastAnswer? name type (told ++ own) =
      (lastAnswer? name type own).or (lastAnswer? name type told) := by
  rw [lastAnswer?, List.reverse_append, List.findSome?_append]
  rfl

theorem lastAnswer?_singleton (name type : String) (e : Exchange) :
    lastAnswer? name type [e] = e.answerTo? name type := by
  rw [lastAnswer?, List.reverse_singleton, List.findSome?_singleton]

theorem Cache.Coherent.later (h : c.Coherent maxAge told now) (hage : c'.maxAge = c.maxAge)
    (hentries : c'.entries.Sublist c.entries) (hnow : now ≤ now') :
    c'.Coherent maxAge told now' := by
  refine ⟨hage.trans h.maxAge_eq, fun e he => ?_⟩
  obtain ⟨name, type, answer, htype, hkey, hlast, hrecords, htime⟩ :=
    h.latest e (hentries.subset he)
  exact ⟨name, type, answer, htype, hkey, hlast, hrecords, Int.le_trans htime hnow⟩

theorem Cache.Coherent.quiet (h : c.Coherent maxAge told now)
    (hquiet : ∀ name type, lastAnswer? name type own = none) :
    c.Coherent maxAge (told ++ own) now := by
  refine ⟨h.maxAge_eq, fun e he => ?_⟩
  obtain ⟨name, type, answer, htype, hkey, hlast, hrest⟩ := h.latest e he
  refine ⟨name, type, answer, htype, hkey, ?_, hrest⟩
  rw [lastAnswer?_append, hquiet, Option.none_or, hlast]

-- An answer takes the place of the one before it. The keys of other names and types are different,
-- so it is not told about what is left.
theorem Cache.Coherent.insert (h : c.Coherent maxAge told now) {question : Question}
    (htype : IsType question.type) (answer : Answer) :
    (c.insert now (key question.name question.type) answer.strings).Coherent maxAge
      (told ++ [.resolved question (.ok answer) now]) now where
  maxAge_eq := Cache.maxAge_insert.trans h.maxAge_eq
  latest e he := by
    rcases Cache.mem_insert he with rfl | ⟨he, hother⟩
    · refine ⟨question.name, question.type, answer, htype, rfl, ?_, rfl, Int.le_refl _⟩
      rw [lastAnswer?_append, lastAnswer?_singleton, Exchange.answerTo?, if_pos ⟨rfl, rfl⟩,
        Option.some_or]
    · obtain ⟨name, type, old, hold, hkey, hlast, hrecords, htime⟩ := h.latest e he
      have hdiffers : ¬(question.name = name ∧ question.type = type) := by
        rintro ⟨rfl, rfl⟩
        exact hother hkey
      refine ⟨name, type, old, hold, hkey, ?_, hrecords, htime⟩
      rw [lastAnswer?_append, lastAnswer?_singleton, Exchange.answerTo?, if_neg hdiffers,
        Option.none_or, hlast]

theorem Cache.Coherent.recalled (h : c.Coherent maxAge told now) {name type : String}
    (htype : IsType type) {texts : List String}
    (hfound : (c.get? now (key name type)).1 = some texts) :
    ∃ answer time, lastAnswer? name type told = some (answer, time) ∧ texts = answer.strings ∧
      time ≤ now ∧ now - time < maxAge := by
  obtain ⟨-, e, he, hkey, rfl, hage⟩ := Cache.entry_of_get? (Prod.ext hfound rfl)
  obtain ⟨name', type', answer, htype', hkey', hlast, hrecords, htime⟩ := h.latest e he
  obtain ⟨rfl, rfl⟩ := (key_eq_iff htype htype').mp (hkey.symm.trans hkey')
  exact ⟨answer, e.time, hlast, hrecords, htime, h.maxAge_eq ▸ hage⟩

end Entries

section Queries

variable {o : Outside σ} {options : Options} {remember : Bool} {depth retries : Nat}
  {name type : String} {maxAge : Int} {told : List Exchange} {w w' : World (σ × List Exchange)}

theorem state_keep {o : Outside σ} {key : String} {texts : List String} {w : World σ} :
    (keep o remember key texts w).state = w.state := by
  cases remember <;> rfl

theorem Onward.goes {own : List Exchange} (h : Onward o w own w') :
    w.log <+: w'.log ∧ w.now o.logged ≤ w'.now o.logged :=
  ⟨h.log_eq ▸ List.prefix_append _ _, h.now_le⟩

theorem Put.goes (hforward : o.Forward) {result : Except Failure Answer}
    (h : Put o.logged options remember name type w result w') :
    w.log <+: w'.log ∧ w.now o.logged ≤ w'.now o.logged := by
  obtain ⟨question, -, honward⟩ | ⟨failure, -, -, honward⟩ := h.onward hforward
  · exact honward.goes
  · exact honward.goes

-- In a query the log gets longer and the clock goes on, whether anything is remembered or not.
theorem Queried.goes (hforward : o.Forward) {result : Except Failure (List String)}
    (h : Queried o.logged options remember depth retries name type w result w') :
    w.log <+: w'.log ∧ w.now o.logged ≤ w'.now o.logged := by
  induction h with
  | recalled hfound => exact (onward_remembered hfound).goes
  | answered hput =>
      simp only [World.log, World.now, state_keep]
      exact hput.goes hforward
  | expired hput | tooDeep hput => exact hput.goes hforward
  | again hput hagain ih =>
      have hgoes := hput.goes hforward
      exact ⟨hgoes.1.trans ih.1, Int.le_trans hgoes.2 ih.2⟩
  | failed hput _ => exact hput.goes hforward

theorem Cache.Coherent.onward
    (h : w.answers.Coherent maxAge (told ++ w.log) (w.now o.logged)) {own : List Exchange}
    (honward : Onward o w own w') (hquiet : ∀ name type, lastAnswer? name type own = none) :
    w'.answers.Coherent maxAge (told ++ w'.log) (w'.now o.logged) := by
  rw [honward.log_eq, ← List.append_assoc]
  exact (h.later honward.maxAge_eq honward.entries honward.now_le).quiet hquiet

-- A question that fails tells of no answer.
theorem Cache.Coherent.put (hforward : o.Forward)
    (h : w.answers.Coherent maxAge (told ++ w.log) (w.now o.logged)) {failure : Failure}
    (hput : Put o.logged options remember name type w (.error failure) w') :
    w'.answers.Coherent maxAge (told ++ w'.log) (w'.now o.logged) := by
  obtain ⟨question, -, honward⟩ | ⟨failure, -, -, honward⟩ := hput.onward hforward
  · exact h.onward honward fun _ _ => rfl
  · exact h.onward honward fun _ _ => rfl

-- The answer to a question is the last one for its name and type, and it is kept under their key.
theorem Cache.Coherent.answered (hforward : o.Forward) (htype : IsType type)
    (h : w.answers.Coherent maxAge (told ++ w.log) (w.now o.logged)) {answer : Answer}
    (hput : Put o.logged options true name type w (.ok answer) w') :
    let kept := keep o.logged true (Cache.key name type) answer.strings w'
    kept.answers.Coherent maxAge (told ++ kept.log) (kept.now o.logged) := by
  obtain ⟨question, hquestion, honward⟩ | ⟨failure, -, hfailure, -⟩ := hput.onward hforward
  · obtain ⟨rfl, rfl⟩ := question_eq_ok hquestion
    have hlog : told ++ w'.log =
        told ++ w.log ++ [.resolved question (.ok answer) (w'.now o.logged)] := by
      rw [honward.log_eq, List.append_assoc]
    intro kept
    change kept.answers.Coherent maxAge (told ++ w'.log) (w'.now o.logged)
    rw [hlog]
    exact (h.later honward.maxAge_eq honward.entries honward.now_le).insert htype answer
  · cases hfailure

theorem Queried.coherent (hforward : o.Forward) (htype : IsType type)
    {result : Except Failure (List String)}
    (h : Queried o.logged options true depth retries name type w result w')
    (hcoherent : w.answers.Coherent maxAge (told ++ w.log) (w.now o.logged)) :
    w'.answers.Coherent maxAge (told ++ w'.log) (w'.now o.logged) := by
  induction h with
  | recalled hfound => exact hcoherent.onward (onward_remembered hfound) fun _ _ => rfl
  | answered hput => exact hcoherent.answered hforward htype.uppered hput
  | expired hput | tooDeep hput => exact hcoherent.put hforward hput
  | again hput hagain ih => exact ih htype.uppered (hcoherent.put hforward hput)
  | failed hput _ => exact hcoherent.put hforward hput

-- A question that the log does not tell of cannot be put.
theorem Put.unasked (hforward : o.Forward) {result : Except Failure Answer}
    (h : Put o.logged options remember name type w result w') (hlog : w'.log <+: w.log) :
    ∃ failure, result = .error failure ∧ options.question name type = .error failure ∧
      ∀ seconds, failure ≠ .expired seconds := by
  obtain ⟨question, -, honward⟩ | ⟨failure, hquestion, hresult, -⟩ := h.onward hforward
  · have hlength := hlog.length_le
    rw [honward.log_eq, List.length_append, List.length_singleton] at hlength
    omega
  · exact ⟨failure, hresult, hquestion,
      fun seconds heq => question_ne_expired (heq ▸ hquestion)⟩

-- A query that asks nothing gives what is remembered, or its question cannot be put.
theorem Queried.unasked (hforward : o.Forward) {result : Except Failure (List String)}
    (h : Queried o.logged options remember depth retries name type w result w')
    (hlog : w'.log <+: w.log) :
    (∃ texts, result = .ok texts ∧
      remembered o.logged remember (Cache.key (Domain.normalize name) (uppered type)) w =
        (some texts, w')) ∨
    ∃ failure, result = .error failure ∧
      options.question (Domain.normalize name) (uppered type) = .error failure := by
  cases h with
  | recalled hfound => exact .inl ⟨_, rfl, hfound⟩
  | answered hput =>
      rw [World.log, state_keep] at hlog
      obtain ⟨failure, hfailure, -⟩ := hput.unasked hforward hlog
      cases hfailure
  | expired hput | tooDeep hput =>
      obtain ⟨failure, hfailure, -, hlasting⟩ := hput.unasked hforward hlog
      cases hfailure
      exact absurd rfl (hlasting _)
  | again hput hagain =>
      obtain ⟨failure, hfailure, -, hlasting⟩ :=
        hput.unasked hforward ((hagain.goes hforward).1.trans hlog)
      cases hfailure
      exact absurd rfl (hlasting _)
  | failed hput _ =>
      obtain ⟨failure, hfailure, hquestion, -⟩ := hput.unasked hforward hlog
      cases hfailure
      exact .inr ⟨_, rfl, hquestion⟩

end Queries

section Forgetful

variable (o : Outside σ)

theorem ask_withAnswers (question : Except Failure Question) (w : World σ) (answers : Cache) :
    ask o question { w with answers } =
      ((ask o question w).1, { (ask o question w).2 with answers }) := by
  cases question <;> rfl

-- A query that remembers nothing does the same with every cache, and leaves it as it is.
theorem queryFrom_withAnswers (options : Options) (depth retries : Nat) (name type : String)
    (w : World σ) (answers : Cache) :
    queryFrom o options false depth retries name type { w with answers } =
      ((queryFrom o options false depth retries name type w).1,
        { (queryFrom o options false depth retries name type w).2 with answers }) := by
  rw [queryFrom.eq_def, queryFrom.eq_def o options false depth retries name type w]
  simp only [remembered, keep, Bool.false_eq_true, if_false, ask_withAnswers]
  cases ask o (options.question (Domain.normalize name) (uppered type)) w with
  | mk result w₁ =>
      cases result with
      | ok answer => rfl
      | error failure =>
          cases failure with
          | expired seconds =>
              cases retries with
              | zero => rfl
              | succ retries =>
                  cases depth with
                  | zero => rfl
                  | succ depth => exact queryFrom_withAnswers options depth retries _ _ w₁ answers
          | _ => rfl

end Forgetful

section Runs

variable {o : Outside σ} {maxAge : Int}

theorem Inquiry.queried (i : Inquiry o) (w : World σ) :
    Queried o.logged i.options i.remember (o.logged.depth (i.enter w).state)
      (i.options.retries.getD 0).toNat i.name i.type (i.enter w) (i.make w).1 (i.make w).2 :=
  queryFrom_queried o.logged i.options i.remember _ _ i.name i.type (i.enter w)

theorem Inquiry.make_withAnswers (i : Inquiry o) (hremember : i.remember = false) (w : World σ)
    (answers : Cache) :
    i.make { w with answers } = ((i.make w).1, { (i.make w).2 with answers }) := by
  simp only [make, query, hremember]
  exact queryFrom_withAnswers o.logged i.options _ _ i.name i.type (i.enter w) answers

theorem Inquiry.answers_make (i : Inquiry o) (hremember : i.remember = false) (w : World σ) :
    (i.make w).2.answers = w.answers :=
  congrArg (·.2.answers) (i.make_withAnswers hremember w w.answers)

theorem Inquiry.enter_coherent (i : Inquiry o) {reached : World σ × List Exchange}
    (h : reached.1.answers.Coherent maxAge reached.2 (reached.1.now o)) :
    (i.enter reached.1).answers.Coherent maxAge (reached.2 ++ (i.enter reached.1).log)
      ((i.enter reached.1).now o.logged) := by
  change reached.1.answers.Coherent maxAge (reached.2 ++ []) (o.now (i.before reached.1.state))
  rw [List.append_nil]
  exact h.later rfl (List.Sublist.refl _) (i.forward reached.1.state)

-- An inquiry that does not use the cache is not told of, and time goes by in it.
theorem Inquiry.step_coherent (hforward : o.Forward) (i : Inquiry o)
    {reached : World σ × List Exchange}
    (h : reached.1.answers.Coherent maxAge reached.2 (reached.1.now o)) :
    (i.step reached).1.answers.Coherent maxAge (i.step reached).2 ((i.step reached).1.now o) := by
  have hqueried := i.queried reached.1
  cases hremember : i.remember with
  | true =>
      rw [hremember] at hqueried
      simp only [step, hremember, if_true]
      exact hqueried.coherent hforward i.isType (i.enter_coherent h)
  | false =>
      have hsame := i.answers_make hremember reached.1
      have hnow := Int.le_trans (i.forward reached.1.state) (hqueried.goes hforward).2
      simp only [step, hremember, Bool.false_eq_true, if_false]
      exact h.later (congrArg Cache.maxAge hsame) (hsame ▸ List.Sublist.refl _) hnow

theorem coherent_afterInquiries (hforward : o.Forward) (inquiries : List (Inquiry o))
    {reached : World σ × List Exchange}
    (h : reached.1.answers.Coherent maxAge reached.2 (reached.1.now o)) :
    let reached' := afterInquiries inquiries reached
    reached'.1.answers.Coherent maxAge reached'.2 (reached'.1.now o) := by
  induction inquiries generalizing reached with
  | nil => exact h
  | cons inquiry inquiries ih => exact ih (inquiry.step_coherent hforward h)

-- Queries share a cache that is empty at first, and others go on between them that use none. A
-- query through the cache that asks nothing gives the texts of the last answer that came through
-- the cache for its name and type, less than the greatest age ago, unless its question cannot be
-- put. What fails leaves no entry that was not there, and a query without the cache does the same
-- with every cache and leaves it as it is. The log only tells what has passed: a query does the
-- same without it.
theorem query_coherent (hforward : o.Forward) (size maxAge : Int) (state : σ)
    (inquiries : List (Inquiry o)) (inquiry : Inquiry o) :
    let reached := afterInquiries inquiries (⟨state, ⟨size, maxAge, []⟩, []⟩, [])
    let result := inquiry.make reached.1
    query o inquiry.options inquiry.remember inquiry.name inquiry.type
        (inquiry.enter reached.1).plain = World.plainly result ∧
    (inquiry.remember = true → result.2.log = [] →
      (∃ answer time, result.1 = .ok answer.strings ∧
        lastAnswer? (Domain.normalize inquiry.name) (uppered inquiry.type) reached.2 =
          some (answer, time) ∧
        time ≤ result.2.now o.logged ∧ result.2.now o.logged - time < maxAge) ∨
      ∃ failure, result.1 = .error failure ∧
        inquiry.options.question inquiry.name inquiry.type = .error failure) ∧
    (∀ failure, result.1 = .error failure →
      result.2.answers.entries.Sublist reached.1.answers.entries) ∧
    (inquiry.remember = false → ∀ answers,
      inquiry.make { reached.1 with answers } = (result.1, { result.2 with answers })) := by
  intro reached result
  have hreached : reached.1.answers.Coherent maxAge reached.2 (reached.1.now o) :=
    coherent_afterInquiries hforward inquiries ⟨rfl, nofun⟩
  have hqueried : Queried o.logged inquiry.options inquiry.remember _ _ inquiry.name inquiry.type
      (inquiry.enter reached.1) result.1 result.2 := inquiry.queried reached.1
  refine ⟨(plainly_query o _ _ _ _ _).symm, fun hremember hlog => ?_, fun failure heq => ?_,
    fun hremember => inquiry.make_withAnswers hremember reached.1⟩
  · obtain ⟨texts, htexts, hfound⟩ | ⟨failure, hfailure, hquestion⟩ :=
      hqueried.unasked hforward (hlog ▸ List.nil_prefix)
    · rw [hremember] at hfound
      have hsame : result.2.now o.logged = (inquiry.enter reached.1).now o.logged :=
        congrArg o.logged.now (remembered_eq hfound).1
      obtain ⟨answer, time, hlast, rfl, hpast, hage⟩ :=
        (inquiry.enter_coherent hreached).recalled inquiry.isType.uppered (congrArg Prod.fst hfound)
      have htold : reached.2 ++ (inquiry.enter reached.1).log = reached.2 := List.append_nil _
      rw [htold] at hlast
      exact .inl ⟨answer, time, htexts, hlast, hsame ▸ hpast, hsame ▸ hage⟩
    · exact .inr ⟨failure, hfailure, question_eq_error_of hquestion _ _⟩
  · exact (heq ▸ hqueried).sublist

end Runs

-- A clock that goes on by a second with each question, and a resolver whose answers all differ.
def countingWorld : Outside ℕ where
  now i := 1700000000 + i
  depth _ := 1000
  resolve _ i := (.ok (.texts [s!"{i} mail.example.com."]), i + 1)
  request _ i := (.error (.transport "no transport"), i)
  close _ i := i

theorem forward_countingWorld : countingWorld.Forward where
  resolve _ i := Int.add_le_add_left (Int.ofNat_le.mpr (Nat.le_succ i)) _
  request _ _ := Int.le_refl _
  close _ _ := Int.le_refl _

def mailInquiry (remember : Bool) (name : String) : Inquiry countingWorld where
  before i := i
  forward _ := Int.le_refl _
  options := .standard
  remember
  name
  type := "mx"
  isType := by
    unfold IsType
    decide +kernel

-- What is reached after a query through the cache and another one without it.
def mailReached : World ℕ × List Exchange :=
  afterInquiries [mailInquiry true "Example.com", mailInquiry false "example.com"]
    (⟨0, ⟨1, 1800, []⟩, []⟩, [])

def mailRecalled : Except Failure (List String) × World (ℕ × List Exchange) :=
  (mailInquiry true "EXAMPLE.COM.").make mailReached.1

-- The answer of the query without the cache is a later one, and it is not given.
theorem mailRecalled_first :
    mailReached.1.state = 2 ∧ mailRecalled.1 = .ok ["0 mail.example.com"] ∧
      ∃ answer time, mailRecalled.1 = .ok answer.strings ∧
        lastAnswer? "example.com" "MX" mailReached.2 = some (answer, time) ∧
        time ≤ mailRecalled.2.now countingWorld.logged ∧
        mailRecalled.2.now countingWorld.logged - time < 1800 := by
  have htexts : mailRecalled.1 = .ok ["0 mail.example.com"] := by decide +kernel
  have hlog : mailRecalled.2.log = [] := List.isEmpty_iff.mp (by decide +kernel)
  have hname : Domain.normalize "EXAMPLE.COM." = "example.com" := by decide +kernel
  have htype : uppered "mx" = "MX" := by decide +kernel
  obtain ⟨-, hrecalled, -⟩ := query_coherent forward_countingWorld 1 1800 0
    [mailInquiry true "Example.com", mailInquiry false "example.com"]
    (mailInquiry true "EXAMPLE.COM.")
  obtain hlast | ⟨failure, hfailure, -⟩ := hrecalled rfl hlog
  · change ∃ answer time, mailRecalled.1 = .ok answer.strings ∧
      lastAnswer? (Domain.normalize "EXAMPLE.COM.") (uppered "mx") mailReached.2 =
        some (answer, time) ∧ _ at hlast
    rw [hname, htype] at hlast
    exact ⟨by decide +kernel, htexts, hlast⟩
  · cases htexts.symm.trans hfailure

end Resolver

end StrictTransport
