import StrictTransport.Policy.Build

namespace StrictTransport

-- Policies under the normal forms of their domains, in the order in which the domains came. A
-- domain can have its place in the store before there is a policy.
structure Store where
  entries : List (String × Option Policy)
  deriving DecidableEq, Repr

namespace Store

def empty : Store := ⟨[]⟩

def size (s : Store) : Nat :=
  s.entries.length

def find? (s : Store) (name : String) : Option Policy :=
  (s.entries.lookup name).join

def get? (s : Store) (domain : String) : Option Policy :=
  s.find? (Domain.normalize domain)

-- A name that is there keeps its place.
def set (entries : List (String × Option Policy)) (name : String) (p : Option Policy) :
    List (String × Option Policy) :=
  if entries.any fun e => e.1 == name then
    entries.map fun e => if e.1 == name then (name, p) else e
  else
    entries ++ [(name, p)]

def put (s : Store) (domain : String) (p : Policy) : Store :=
  ⟨set s.entries (Domain.normalize domain) (some p)⟩

def reserve (s : Store) (domain : String) : Store :=
  ⟨set s.entries (Domain.normalize domain) none⟩

-- Whether a stored policy has to be fetched again: it has expired, or it belongs to another
-- generation than the one with this token, or to none.
def isStale (p : Policy) (token : String) (now : Int) : Bool :=
  p.isExpired now || p.record.all fun record => record.token != token

def isStale? (p : Policy) (record? : Option Record) (now : Int) : Option Bool :=
  match record? with
  | some record => some (isStale p record.token now)
  | none => if p.isExpired now || p.record.isNone then some true else none

def policies? (s : Store) : Option (List (String × Policy)) :=
  s.entries.mapM fun (domain, p) => p.map (domain, ·)

-- It takes a policy in every place to tell the extended documents.
def exported? (s : Store) : Option (List (String × String)) :=
  s.policies?.map fun policies =>
    policies.filterMap fun (domain, p) => p.record.map fun _ => (domain, p.extended)

def loadEntry (registrable : List String → Bool) (limits : Limits)
    (state : Store × Nat × List Notice) (entry : String × String) : Store × Nat × List Notice :=
  let (s, loaded, notices) := state
  match Policy.ofExtended registrable limits entry.2 with
  | (.ok p, more) => (s.put entry.1 p.asCached, loaded + 1, notices ++ more)
  | (.error e, more) => (s, loaded, notices ++ more ++ [.discarded entry.1 e.message])

-- Entries that cannot be read are left out, and not counted.
def load (registrable : List String → Bool) (limits : Limits) (s : Store)
    (entries : List (String × String)) : Store × Nat × List Notice :=
  entries.foldl (loadEntry registrable limits) (s, 0, [])

-- Stores the policies of extended documents that come from outside. A text without an encoding
-- breaks the loading off: what has been stored before it stays, and nothing is counted.
def loadTexts (registrable : List String → Bool) (limits : Limits) :
    Store × Nat × List Notice → List (String × List Text.CodePoint) →
      Except Policy.Unread Nat × Store × List Notice
  | (s, loaded, notices), [] => (.ok loaded, s, notices)
  | (s, loaded, notices), (domain, text) :: entries =>
    match Policy.ofText registrable limits text with
    | (.ok p, more) =>
      loadTexts registrable limits (s.put domain p.asCached, loaded + 1, notices ++ more) entries
    | (.error (.corrupted e), more) =>
      loadTexts registrable limits (s, loaded, notices ++ more ++ [.discarded domain e.message])
        entries
    | (.error .unencodable, more) => (.error .unencodable, s, notices ++ more)

end Store

end StrictTransport
