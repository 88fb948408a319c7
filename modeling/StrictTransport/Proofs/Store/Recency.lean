import StrictTransport.Proofs.Check.Fetch
import StrictTransport.Proofs.Store.Lifetime
import StrictTransport.Proofs.World.Log

namespace StrictTransport

variable {σ : Type} {o : Outside σ}

theorem Https.Client.now_le_get (hforward : o.Forward) (client : Client) (limit : Int)
    (record? : Option Record) (w : World σ) :
    w.now o ≤ (client.get o limit record? w).2.now o := by
  simp only [Client.get]
  cases record?.bind Record.domain with
  | none => exact Int.le_refl _
  | some domain =>
      have hrequest := hforward.request
        ⟨client.url domain, client.timeout, client.trust == .system⟩ w.state
      dsimp only
      cases hanswer : o.request ⟨client.url domain, client.timeout, client.trust == .system⟩
          w.state with
      | mk result state =>
          rw [hanswer] at hrequest
          cases result with
          | error failure => exact hrequest
          | ok reply =>
              dsimp only
              split
              · exact Int.le_trans hrequest (hforward.close _ _)
              · exact Int.le_trans hrequest (hforward.close _ _)

theorem Check.now_le_fetcher (hforward : o.Forward) (client : Https.Client) (limits : Limits)
    (record? : Option Record) (w : World σ) :
    w.now o ≤ (fetcher o client limits record? w).2.now o := by
  have hget := client.now_le_get hforward limits.bodySize record? w
  simp only [fetcher, fetchPolicy]
  cases hresult : client.get o limits.bodySize record? w with
  | mk result w' =>
      rw [hresult] at hget
      cases result with
      | error message => exact hget
      | ok response? => exact hget

namespace Store

theorem Ends.now_le {ε : Type} {fetch : Fetch σ ε} {record? : Option Record} {s s' : Store}
    {w w' : World σ} {outcome : Outcome ε} (h : Ends o fetch record? s w outcome s' w')
    (hfetch : w.now o ≤ (fetch record? w).2.now o) : w.now o ≤ w'.now o := by
  cases h with
  | stored => exact Int.le_refl _
  | _ => exact hfetch

-- What is done with a store: a call that fetches policies from their hosts, or the loading of
-- entries.
inductive Deed where
  | call (client : Https.Client) (limits : Limits) (record? : Option Record)
  | load (registrable : List String → Bool) (limits : Limits) (entries : List (String × String))

-- A deed among others, and what happens in the world before it.
structure Turn (o : Outside σ) where
  before : σ → σ
  forward : ∀ x, o.now x ≤ o.now (before x)
  deed : Deed

def Turn.enter (turn : Turn o) (w : World σ) : World σ :=
  { w with state := turn.before w.state }

-- The store and the world after a turn.
def Turn.take (turn : Turn o) (x : Store × World σ) : Store × World σ :=
  match turn.deed with
  | .call client limits record? =>
    (getOrFetch o (Check.fetcher o client limits) record? x.1 (turn.enter x.2)).2
  | .load registrable limits entries =>
    let (s, _, notices) := x.1.load registrable limits entries
    (s, (turn.enter x.2).note notices)

def afterTurns (turns : List (Turn o)) (x : Store × World σ) : Store × World σ :=
  turns.foldl (fun x turn => turn.take x) x

-- Whether a policy may take the place of another one at a time: it is not older, and it can be
-- applied if the other one can.
structure Succeeds (now : Int) (old new : Policy) : Prop where
  time : old.fetchTime ≤ new.fetchTime
  usable : old.isValid = true → old.isExpired now = false → new.isValid = true

-- Whether what stands in a store is followed in order by what stands in another one.
def InOrder (now : Int) (s s' : Store) : Prop :=
  ∀ name old, s.find? name = some old →
    ∃ new, s'.find? name = some new ∧ Succeeds now old new

-- Whether a store tells no fetch time that is still to come.
def Past (o : Outside σ) (x : Store × World σ) : Prop :=
  ∀ name p, x.1.find? name = some p → p.fetchTime ≤ x.2.now o

-- Whether a turn loads no fetch time that is still to come.
def Turn.Punctual (turn : Turn o) (w : World σ) : Prop :=
  match turn.deed with
  | .call _ _ _ => True
  | .load registrable limits entries => ∀ name p,
      lastLoaded? registrable limits name entries = some p → p.fetchTime ≤ (turn.enter w).now o

def Punctual : List (Turn o) → Store × World σ → Prop
  | [], _ => True
  | turn :: turns, x => turn.Punctual x.2 ∧ Punctual turns (turn.take x)

theorem Succeeds.refl (now : Int) (p : Policy) : Succeeds now p p :=
  ⟨Int.le_refl _, fun hvalid _ => hvalid⟩

theorem Turn.now_le_enter (turn : Turn o) (w : World σ) : w.now o ≤ (turn.enter w).now o :=
  turn.forward w.state

-- A call leaves what stands under a name, or it puts a valid policy there that it has just fetched.
theorem Turn.find?_call {turn : Turn o} {client : Https.Client} {limits : Limits}
    {record? : Option Record} (hdeed : turn.deed = .call client limits record?)
    (x : Store × World σ) (name : String) :
    (turn.take x).1.find? name = x.1.find? name ∨ ∃ p, (turn.take x).1.find? name = some p ∧
      p.isValid = true ∧ p.fetchTime = (turn.take x).2.now o := by
  simp only [Turn.take, hdeed]
  rcases (getOrFetch_ends o (Check.fetcher o client limits) record? x.1
    (turn.enter x.2)).find?_eq name with heq | ⟨_, _, p, -, -, hfetch, hvalid, hfind, hworld⟩
  · exact .inl heq
  · refine .inr ⟨p, hfind, hvalid, ?_⟩
    obtain ⟨response?, rfl⟩ := Check.fetcher_eq_ok hfetch
    rw [hworld]
    rfl

theorem Turn.find?_load {turn : Turn o} {registrable : List String → Bool} {limits : Limits}
    {entries : List (String × String)} (hdeed : turn.deed = .load registrable limits entries)
    (x : Store × World σ) (name : String) :
    (turn.take x).1.find? name =
      (lastLoaded? registrable limits name entries).or (x.1.find? name) := by
  simp only [Turn.take, hdeed]
  exact Store.find?_load registrable limits x.1 entries name

theorem Turn.now_le_take (hforward : o.Forward) (turn : Turn o) (x : Store × World σ) :
    (turn.enter x.2).now o ≤ (turn.take x).2.now o := by
  cases hdeed : turn.deed with
  | call client limits record? =>
      simp only [Turn.take, hdeed]
      exact (getOrFetch_ends o (Check.fetcher o client limits) record? x.1 (turn.enter x.2)).now_le
        (Check.now_le_fetcher hforward client limits record? (turn.enter x.2))
  | load registrable limits entries =>
      simp only [Turn.take, hdeed]
      exact Int.le_refl _

theorem Past.take (hforward : o.Forward) {turn : Turn o} {x : Store × World σ} (h : Past o x)
    (hpunctual : turn.Punctual x.2) : Past o (turn.take x) := by
  intro name p hp
  have hclock := turn.now_le_take hforward x
  have hkept : ∀ old, x.1.find? name = some old → old.fetchTime ≤ (turn.take x).2.now o :=
    fun old hold => Int.le_trans (h name old hold)
      (Int.le_trans (turn.now_le_enter x.2) hclock)
  cases hdeed : turn.deed with
  | call client limits record? =>
      rcases turn.find?_call hdeed x name with heq | ⟨new, hnew, -, htime⟩
      · exact hkept p (heq ▸ hp)
      · obtain rfl := Option.some.inj (hnew.symm.trans hp)
        exact Int.le_of_eq htime
  | load registrable limits entries =>
      rw [turn.find?_load hdeed, Option.or_eq_some_iff] at hp
      rcases hp with hlast | ⟨-, hold⟩
      · simp only [Turn.Punctual, hdeed] at hpunctual
        exact Int.le_trans (hpunctual name p hlast) hclock
      · exact hkept p hold

theorem Past.afterTurns (hforward : o.Forward) {turns : List (Turn o)} {x : Store × World σ}
    (h : Past o x) (hpunctual : Punctual turns x) : Past o (afterTurns turns x) := by
  induction turns generalizing x with
  | nil => exact h
  | cons turn turns ih => exact ih (h.take hforward hpunctual.1) hpunctual.2

theorem Past.inOrder_call (hforward : o.Forward) {turn : Turn o} {client : Https.Client}
    {limits : Limits} {record? : Option Record} (hdeed : turn.deed = .call client limits record?)
    {x : Store × World σ} (h : Past o x) :
    InOrder ((turn.take x).2.now o) x.1 (turn.take x).1 := by
  intro name old hold
  rcases turn.find?_call hdeed x name with heq | ⟨new, hnew, hvalid, htime⟩
  · exact ⟨old, heq.trans hold, .refl _ old⟩
  · refine ⟨new, hnew, ?_, fun _ _ => hvalid⟩
    rw [htime]
    exact Int.le_trans (h name old hold)
      (Int.le_trans (turn.now_le_enter x.2) (turn.now_le_take hforward x))

theorem inOrder_load_iff {turn : Turn o} {registrable : List String → Bool} {limits : Limits}
    {entries : List (String × String)} (hdeed : turn.deed = .load registrable limits entries)
    (now : Int) (x : Store × World σ) :
    InOrder now x.1 (turn.take x).1 ↔ ∀ name old new, x.1.find? name = some old →
      lastLoaded? registrable limits name entries = some new → Succeeds now old new := by
  constructor
  · intro h name old new hold hlast
    obtain ⟨found, hfound, hsucceeds⟩ := h name old hold
    rw [turn.find?_load hdeed, hlast, Option.some_or] at hfound
    exact Option.some.inj hfound ▸ hsucceeds
  · intro h name old hold
    rw [turn.find?_load hdeed]
    cases hlast : lastLoaded? registrable limits name entries with
    | none => exact ⟨old, hold, .refl now old⟩
    | some new => exact ⟨new, rfl, h name old new hold hlast⟩

-- A call replaces what is stored by valid policies only, which it has just fetched. They are not
-- earlier than what was there, if no fetch time has been loaded that was still to come. Loading
-- replaces what is stored by whatever the entries tell, be it older, or of no use.
theorem take_inOrder (hforward : o.Forward) (turns : List (Turn o)) (turn : Turn o) (s : Store)
    (w : World σ) (hpast : Past o (s, w)) :
    let reached := afterTurns turns (s, w)
    let left := turn.take reached
    match turn.deed with
    | .call _ _ _ =>
        (∀ name, left.1.find? name = reached.1.find? name ∨ ∃ p, left.1.find? name = some p ∧
          p.isValid = true ∧ p.fetchTime = left.2.now o) ∧
        (Punctual turns (s, w) → InOrder (left.2.now o) reached.1 left.1)
    | .load registrable limits entries =>
        InOrder (left.2.now o) reached.1 left.1 ↔
          ∀ name old new, reached.1.find? name = some old →
            lastLoaded? registrable limits name entries = some new →
            Succeeds (left.2.now o) old new := by
  intro reached left
  cases hdeed : turn.deed with
  | call client limits record? =>
      refine ⟨turn.find?_call hdeed reached, fun hpunctual => ?_⟩
      exact (hpast.afterTurns hforward hpunctual).inOrder_call hforward hdeed
  | load registrable limits entries => exact inOrder_load_iff hdeed _ reached

-- A world in which every host has a policy.
def servingWorld : Outside Int :=
  { clockWorld with
    request := fun request time =>
      (.ok ⟨request.url, 200, none, [], [Text.Utf8.encode
        "version: STSv1\nmode: enforce\nmx: mail.example.com\nmax_age: 86400\n".toList], none,
        .present 1⟩, time) }

-- A turn on the day after the one before.
def dayTurn (deed : Deed) : Turn servingWorld where
  before time := time + 86400
  forward _ := Int.le_add_of_nonneg_right (by decide)
  deed := deed

def fetchTurn : Turn servingWorld :=
  dayTurn (.call .standard .standard (some ⟨some "example.com", "v=STSv1; id=1;"⟩))

-- The entry tells a policy of the first day.
def loadTurn : Turn servingWorld :=
  dayTurn (.load (fun _ => true) .standard [dayEntry "example.com" "example.com"])

-- The store and the world after a fetch on the second day.
def fetchedOnce : Store × World Int :=
  afterTurns [fetchTurn] (empty, ⟨1700000000, .standard, []⟩)

theorem earlierEntry_replaces :
    InOrder ((fetchTurn.take fetchedOnce).2.now servingWorld) fetchedOnce.1
        (fetchTurn.take fetchedOnce).1 ∧
      ¬InOrder ((loadTurn.take fetchedOnce).2.now servingWorld) fetchedOnce.1
        (loadTurn.take fetchedOnce).1 := by
  have hforward : servingWorld.Forward :=
    ⟨fun _ _ => Int.le_refl _, fun _ _ => Int.le_refl _, fun _ _ => Int.le_refl _⟩
  have hinOrder := fun turn => take_inOrder hforward [fetchTurn] turn empty
    ⟨1700000000, .standard, []⟩ nofun
  refine ⟨(hinOrder fetchTurn).2 ⟨trivial, trivial⟩, fun h => ?_⟩
  have hall := (hinOrder loadTurn).mp h
  have hfetched : (fetchedOnce.1.find? "example.com").map Policy.fetchTime = some 1700086400 := by
    decide +kernel
  have hloaded : (lastLoaded? (fun _ => true) .standard "example.com"
      [dayEntry "example.com" "example.com"]).map Policy.fetchTime = some 1700000000 := by
    decide +kernel
  obtain ⟨old, hold, htime⟩ := Option.map_eq_some_iff.mp hfetched
  obtain ⟨new, hnew, htime'⟩ := Option.map_eq_some_iff.mp hloaded
  have hle := (hall "example.com" old new hold hnew).time
  omega

end Store

end StrictTransport
