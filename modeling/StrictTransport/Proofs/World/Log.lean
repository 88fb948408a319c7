import StrictTransport.Check

namespace StrictTransport

variable {σ ε α : Type}

-- What passes between the library and the world: a question with what came of it and the time when
-- that came, a request, and the end of a connection.
inductive Exchange where
  | resolved (question : Resolver.Question) (result : Except Resolver.Failure Resolver.Answer)
      (time : Int)
  | requested (request : Https.Request)
  | closed (taken : Nat)

-- Whether a question has run out of time.
def Exchange.isExpiry : Exchange → Bool
  | .resolved _ (.error (.expired _)) _ => true
  | _ => false

-- Whether the clock never runs backwards.
structure Outside.Forward (o : Outside σ) : Prop where
  resolve : ∀ question x, o.now x ≤ o.now (o.resolve question x).2
  request : ∀ request x, o.now x ≤ o.now (o.request request x).2
  close : ∀ taken x, o.now x ≤ o.now (o.close taken x)

-- The same world with a log of what passes, in order.
def Outside.logged (o : Outside σ) : Outside (σ × List Exchange) where
  now x := o.now x.1
  depth x := o.depth x.1
  resolve question x :=
    let (result, state) := o.resolve question x.1
    (result, state, x.2 ++ [.resolved question result (o.now state)])
  request request x :=
    let (result, state) := o.request request x.1
    (result, state, x.2 ++ [.requested request])
  close taken x := (o.close taken x.1, x.2 ++ [.closed taken])

theorem Outside.request_logged (o : Outside σ) (request : Https.Request)
    (x : σ × List Exchange) :
    o.logged.request request x =
      ((o.request request x.1).1, (o.request request x.1).2, x.2 ++ [.requested request]) :=
  rfl

namespace World

def log (w : World (σ × List Exchange)) : List Exchange :=
  w.state.2

-- The world without its log.
def plain (w : World (σ × List Exchange)) : World σ :=
  ⟨w.state.1, w.answers, w.notices⟩

def plainly (r : α × World (σ × List Exchange)) : α × World σ :=
  (r.1, r.2.plain)

end World

open World

variable (o : Outside σ)

namespace Resolver

theorem plainly_remembered (remember : Bool) (key : String) (w : World (σ × List Exchange)) :
    plainly (remembered o.logged remember key w) = remembered o remember key w.plain := by
  cases remember <;> rfl

theorem plainly_ask (question : Except Failure Question) (w : World (σ × List Exchange)) :
    plainly (ask o.logged question w) = ask o question w.plain := by
  cases question <;> rfl

theorem plain_keep (remember : Bool) (key : String) (records : List String)
    (w : World (σ × List Exchange)) :
    (keep o.logged remember key records w).plain = keep o remember key records w.plain := by
  cases remember <;> rfl

theorem plainly_queryFrom (options : Options) (remember : Bool) (depth retries : Nat)
    (name type : String) (w : World (σ × List Exchange)) :
    plainly (queryFrom o.logged options remember depth retries name type w) =
      queryFrom o options remember depth retries name type w.plain := by
  rw [queryFrom.eq_def, queryFrom.eq_def o]
  simp only [← plainly_remembered]
  match remembered o.logged remember (Cache.key (Domain.normalize name) (uppered type)) w with
  | (some records, w₁) => rfl
  | (none, w₁) =>
      simp only [plainly, ← plainly_ask]
      match ask o.logged (options.question (Domain.normalize name) (uppered type)) w₁ with
      | (.ok answer, w₂) => simp only [plain_keep]
      | (.error (.expired seconds), w₂) =>
          cases retries with
          | zero => rfl
          | succ retries =>
              cases depth with
              | zero => rfl
              | succ depth => exact plainly_queryFrom options remember depth retries _ _ w₂
      | (.error .noName, w₂) | (.error .noAnswer, w₂) | (.error .noServers, w₂)
      | (.error .nameTooLong, w₂) | (.error (.timedOut _), w₂) | (.error .noTimeLimit, w₂)
      | (.error .timeLimitTooLarge, w₂) | (.error .noRetryCount, w₂) | (.error .tooDeep, w₂)
      | (.error (.other _), w₂) => rfl

theorem plainly_query (options : Options) (remember : Bool) (name type : String)
    (w : World (σ × List Exchange)) :
    plainly (query o.logged options remember name type w) =
      query o options remember name type w.plain :=
  plainly_queryFrom o options remember _ _ name type w

end Resolver

theorem Record.plainly_search (options : Resolver.Options) (domain : String)
    (w : World (σ × List Exchange)) :
    plainly (search o.logged options domain w) = search o options domain w.plain := by
  simp only [search, ← Resolver.plainly_query]
  match Resolver.query o.logged options true (target (Domain.normalize domain)) "TXT" w with
  | (.ok texts, w₁) => rfl
  | (.error failure, w₁) =>
      simp only [plainly, ← Resolver.plainly_query]
      cases failure.isAbsence <;> rfl

theorem Record.plainly_find (options : Resolver.Options) (domain : String)
    (w : World (σ × List Exchange)) :
    plainly (find o.logged options domain w) = find o options domain w.plain := by
  simp only [find, ← plainly_search]
  match search o.logged options (Domain.normalize domain) w with
  | (.error fault, w₁) => rfl
  | (.ok text, w₁) =>
      simp only [plainly]
      cases parse text <;> rfl

theorem Https.plainly_get (client : Client) (limit : Int) (record? : Option Record)
    (w : World (σ × List Exchange)) :
    plainly (client.get o.logged limit record? w) = client.get o limit record? w.plain := by
  simp only [Client.get]
  cases record?.bind Record.domain with
  | none => rfl
  | some domain =>
      simp only [Outside.request_logged, plain]
      cases o.request ⟨client.url domain, client.timeout, client.trust == .system⟩ w.state.1 with
      | mk result state =>
          cases result with
          | error failure => rfl
          | ok reply =>
              dsimp only
              split <;> rfl

theorem Store.plainly_getOrFetch {fetch : Fetch σ ε} {fetch' : Fetch (σ × List Exchange) ε}
    (hfetch : ∀ record? w, plainly (fetch' record? w) = fetch record? w.plain)
    (record? : Option Record) (s : Store) (w : World (σ × List Exchange)) :
    let result := getOrFetch o.logged fetch' record? s w
    getOrFetch o fetch record? s w.plain = (result.1, result.2.1, result.2.2.plain) := by
  have hnow : w.plain.now o = w.now o.logged := rfl
  simp only [getOrFetch, hnow, ← hfetch]
  cases subject? record? with
  | none => rfl
  | some subject =>
      obtain ⟨name, token⟩ := subject
      dsimp only
      cases s.fresh? name token (w.now o.logged) <;> rfl

namespace Check

theorem plainly_fetcher (client : Https.Client) (limits : Limits) (record? : Option Record)
    (w : World (σ × List Exchange)) :
    plainly (fetcher o.logged client limits record? w) =
      fetcher o client limits record? w.plain := by
  simp only [fetcher, fetchPolicy, ← Https.plainly_get]
  match client.get o.logged limits.bodySize record? w with
  | (.error message, w₁) => rfl
  | (.ok response?, w₁) => rfl

-- A check in a world with a log does what it does in the world without.
theorem getPolicy_plain (setting : Setting) (domain : String) (s : Store)
    (w : World (σ × List Exchange)) :
    let result := getPolicy o.logged setting domain s w
    getPolicy o setting domain s w.plain = (result.1, result.2.1, result.2.2.plain) := by
  simp only [getPolicy, ← Record.plainly_find]
  match Record.find o.logged setting.options (Domain.normalize domain) w with
  | (.error fault, w₁) => cases fault <;> rfl
  | (.ok record, w₁) =>
      have hcall := Store.plainly_getOrFetch o (plainly_fetcher o setting.client setting.limits)
      simp only [plainly, hcall]
      match Store.getOrFetch o.logged (fetcher o.logged setting.client setting.limits) (some record)
        s w₁ with
      | (.error failure, s', w₂) => rfl
      | (.ok given, s', w₂) => rfl

end Check

end StrictTransport
