import StrictTransport.Store.Fetch

namespace StrictTransport.Store

variable {σ ε : Type}

-- A caller goes through sections, each of which happens at once: it looks at the store, and at the
-- flights, which are the fetches that are under way; it leads a flight of its own for a domain
-- without one, or it waits for the flight that is there. A leader fetches, settles the result,
-- takes its flight off the board, and signals its outcome to those who wait.
inductive Stage (ε : Type) where
  | arriving
  | passing
  -- The stored policy is there to fall back on.
  | fetching (name : String) (flight : Nat) (previous : Option Policy)
  | settling (name : String) (flight : Nat) (previous : Option Policy)
      (result : Except ε (Option Policy))
  | leaving (name : String) (flight : Nat) (outcome : Outcome ε)
  | signalling (flight : Nat) (outcome : Outcome ε)
  | waiting (flight : Nat)
  | done (outcome : Outcome ε)

structure Caller (ε : Type) where
  record : Option Record
  stage : Stage ε

-- What the callers share: the store, the flights under way with their names, the signals given, and
-- the number of flights so far.
structure Board (ε : Type) where
  store : Store
  flights : List (String × Nat)
  signals : List (Nat × Outcome ε)
  started : Nat

def Board.ofStore (s : Store) : Board ε := ⟨s, [], [], 0⟩

namespace Caller

def isFetching (c : Caller ε) : Bool :=
  match c.stage with
  | .passing | .fetching .. => true
  | _ => false

def isWaiting (c : Caller ε) : Bool :=
  match c.stage with
  | .waiting _ => true
  | _ => false

def look (now : Int) (b : Board ε) (c : Caller ε) : Board ε × Stage ε :=
  match subject? c.record with
  | none => (b, .passing)
  | some (name, token) =>
    match b.store.fresh? name token now with
    | some p => (b, .done (.ok ⟨some p.asCached, .stored⟩))
    | none =>
      match b.flights.lookup name with
      | some flight => (b, .waiting flight)
      | none =>
        ({ b with flights := (name, b.started) :: b.flights, started := b.started + 1 },
          .fetching name b.started (b.store.find? name))

-- `result` is what a fetch gives, if that is the next section. A caller that waits for a signal
-- that has not come, and one that is done, stay as they are.
def step (now : Int) (result : Except ε (Option Policy)) (b : Board ε) (c : Caller ε) :
    Board ε × Caller ε × List Notice :=
  match c.stage with
  | .arriving =>
    let (b, stage) := c.look now b
    (b, { c with stage }, [])
  | .passing => (b, { c with stage := .done (bypass result) }, [])
  | .fetching name flight previous =>
    (b, { c with stage := .settling name flight previous result }, [])
  | .settling name flight previous result =>
    let (outcome, store, notices) := conclude b.store name previous now result
    ({ b with store }, { c with stage := .leaving name flight outcome }, notices)
  | .leaving name flight outcome =>
    ({ b with flights := b.flights.filter fun f => f.1 != name },
      { c with stage := .signalling flight outcome }, [])
  | .signalling flight outcome =>
    ({ b with signals := (flight, outcome) :: b.signals }, { c with stage := .done outcome }, [])
  | .waiting flight =>
    match b.signals.lookup flight with
    | some outcome => (b, { c with stage := .done outcome }, [])
    | none => (b, c, [])
  | .done _ => (b, c, [])

def stepIn (o : Outside σ) (fetch : Fetch σ ε) (b : Board ε) (c : Caller ε) (w : World σ) :
    Board ε × Caller ε × World σ :=
  let (result, w) := if c.isFetching then fetch c.record w else (.ok none, w)
  let (b, c, notices) := c.step (w.now o) result b
  (b, c, w.note notices)

def advance (o : Outside σ) (fetch : Fetch σ ε) :
    (sections : Nat) → Board ε → Caller ε → World σ → Board ε × Caller ε × World σ
  | 0, b, c, w => (b, c, w)
  | n + 1, b, c, w =>
    let (b, c, w) := c.stepIn o fetch b w
    advance o fetch n b c w

def sections : Nat := 6

def outcome? (c : Caller ε) : Option (Outcome ε) :=
  match c.stage with
  | .done outcome => some outcome
  | _ => none

end Caller

end StrictTransport.Store
