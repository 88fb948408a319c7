namespace StrictTransport.Resolver

structure Entry where
  key : String
  records : List String
  time : Int
  deriving DecidableEq, Repr

-- An expiring dictionary with the behaviour that its library documents: an entry is handed out while
-- it is younger than the greatest age, a search drops it later, and a full dictionary makes room
-- before it stores. A key that is there keeps its place.
structure Cache where
  -- The number of entries at which an entry has to give way to a new one.
  size : Int
  maxAge : Int
  entries : List Entry
  deriving DecidableEq, Repr

namespace Cache

def standard : Cache := ⟨200000, 1800, []⟩

-- A cache has to have room for an entry, and ages are not negative.
def ofLimits? (size maxAge : Int) : Option Cache :=
  if 1 ≤ size ∧ 0 ≤ maxAge then some ⟨size, maxAge, []⟩ else none

def key (name type : String) : String :=
  s!"{name}_{type}"

def isFresh (c : Cache) (now : Int) (e : Entry) : Bool :=
  now - e.time < c.maxAge

def erase (c : Cache) (key : String) : Cache :=
  { c with entries := c.entries.filter fun e => e.key != key }

def find? (c : Cache) (key : String) : Option Entry :=
  c.entries.find? fun e => e.key == key

-- An entry that is too old is dropped by the search for it.
def get? (c : Cache) (now : Int) (key : String) : Option (List String) × Cache :=
  match c.find? key with
  | none => (none, c)
  | some e => if c.isFresh now e then (some e.records, c) else (none, c.erase key)

-- Makes room for a key when the cache is full: a fresh entry under that key gives way, or else the
-- oldest entry does, and with it an entry under that key that is too old.
def makeRoom (c : Cache) (now : Int) (key : String) : Cache :=
  if (c.entries.length : Int) = c.size then
    match c.find? key with
    | none => { c with entries := c.entries.drop 1 }
    | some e =>
      if c.isFresh now e then c.erase key
      else { c with entries := (c.erase key).entries.drop 1 }
  else
    c

def place (entries : List Entry) (e : Entry) : List Entry :=
  if entries.any fun d => d.key == e.key then
    entries.map fun d => if d.key == e.key then e else d
  else
    entries ++ [e]

def insert (c : Cache) (now : Int) (key : String) (records : List String) : Cache :=
  let c := c.makeRoom now key
  { c with entries := place c.entries ⟨key, records, now⟩ }

end Cache

end StrictTransport.Resolver
