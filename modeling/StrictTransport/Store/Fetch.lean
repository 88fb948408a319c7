import StrictTransport.Store.Basic
import StrictTransport.World

namespace StrictTransport.Store

variable {σ ε : Type}

def fresh? (s : Store) (name token : String) (now : Int) : Option Policy :=
  (s.find? name).filter fun p => !isStale p token now

-- Where a policy comes from: the store, a fetch whose result was stored, the store after a fetch of
-- no use, a fetch whose result was not stored, or a fetch past the store.
inductive Source where
  | stored
  | fetched
  | kept
  | unusable
  | bypass
  deriving DecidableEq, Repr

structure Given where
  policy : Option Policy
  source : Source
  deriving DecidableEq, Repr

inductive Failure (ε : Type) where
  | fetch (error : ε)
  | nothing
  deriving DecidableEq, Repr

abbrev Outcome (ε : Type) := Except (Failure ε) Given

-- What becomes of a fetched policy for a name, given the one stored before: it is stored if it is
-- valid; if not, the one before counts as long as it holds.
def settle (s : Store) (name : String) (previous : Option Policy) (now : Int) (p : Policy) :
    Given × Store × List Notice :=
  if p.isValid then (⟨some p, .fetched⟩, s.put name p, [])
  else
    match previous.filter fun old => !old.isExpired now with
    | some old => (⟨some old.asCached, .kept⟩, s, [.keptCached name])
    | none => (⟨some p, .unusable⟩, s, [])

def conclude (s : Store) (name : String) (previous : Option Policy) (now : Int) :
    Except ε (Option Policy) → Outcome ε × Store × List Notice
  | .error e => (.error (.fetch e), s, [])
  | .ok none => (.error .nothing, s, [])
  | .ok (some p) =>
    let (given, s, notices) := settle s name previous now p
    (.ok given, s, notices)

def bypass : Except ε (Option Policy) → Outcome ε
  | .ok p => .ok ⟨p, .bypass⟩
  | .error e => .error (.fetch e)

def subject? (record? : Option Record) : Option (String × String) :=
  record?.bind fun record =>
    record.domain.map fun domain => (Domain.normalize domain, record.token)

abbrev Fetch (σ ε : Type) :=
  Option Record → World σ → Except ε (Option Policy) × World σ

-- Without a domain a policy is fetched and not stored.
def getOrFetch (o : Outside σ) (fetch : Fetch σ ε) (record? : Option Record) (s : Store)
    (w : World σ) : Outcome ε × Store × World σ :=
  match subject? record? with
  | none =>
    let (result, w) := fetch record? w
    (bypass result, s, w)
  | some (name, token) =>
    match s.fresh? name token (w.now o) with
    | some p => (.ok ⟨some p.asCached, .stored⟩, s, w)
    | none =>
      let (result, w) := fetch record? w
      let (outcome, s, notices) := conclude s name (s.find? name) (w.now o) result
      (outcome, s, w.note notices)

end StrictTransport.Store
