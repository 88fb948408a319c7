import StrictTransport.Notice
import StrictTransport.Numeric.Integer
import StrictTransport.Policy.Basic
import StrictTransport.Text.CodePoint

namespace StrictTransport.Policy

open Text

abbrev Pair := String × String

def values (key : String) (pairs : List Pair) : List String :=
  (pairs.filter fun pair => pair.1 == key).map Prod.snd

-- Of several values the last one counts.
def lastValue? (key : String) (pairs : List Pair) : Option String :=
  (values key pairs).getLast?

-- The keys that a document must have, and that it should have once.
def requiredKeys : List String := ["version", "mode", "max_age"]

-- One line feed behind the digits is let through.
def isAge (value : String) : Bool :=
  let digits := Domain.withoutLineEnd value.toList
  1 ≤ digits.length && digits.length ≤ 10 && digits.all isAsciiDigit

def ageOf (value : String) : Int :=
  ofDigits (value.toList.filterMap digitValue?)

def badAges (pairs : List Pair) : List String :=
  (values "max_age" pairs).filter fun value => !isAge value

def clampAge (limits : Limits) (mode : Mode) (age : Int) : Int × List Caution :=
  let (age, above) :=
    if limits.maxAge < age then (limits.maxAge, [.aboveMaxAge age limits.maxAge]) else (age, [])
  match mode with
  | .enforce =>
    if age < limits.minAge then (limits.minAge, above ++ [.belowMinAge age limits.minAge])
    else (age, above)
  | .testing =>
    if age < limits.softMinAge then
      (limits.softMinAge, above ++ [.belowSoftMinAge age limits.softMinAge])
    else (age, above)
  | .none => (age, above)

structure Origin where
  validation : Validation
  certificates : Nat
  body : Bytes

-- What is known of a policy while its pairs are taken one by one. A required key is noted each time
-- it comes.
structure Draft where
  version : Option String
  mode : Mode
  masks : List String
  age : Int
  keys : List String
  problems : List Problem
  cautions : List Caution

namespace Draft

def blank : Draft := ⟨none, .none, [], 0, [], [], []⟩

def noteKey (key : String) (d : Draft) : Draft :=
  if key ∈ requiredKeys then
    { d with
      keys := d.keys ++ [key]
      cautions := d.cautions ++ if key ∈ d.keys then [.duplicateKey key] else [] }
  else d

def takeMode (word : String) (d : Draft) : Draft :=
  match Mode.read? word with
  | some mode => { d with mode }
  | none => { d with mode := .none, cautions := d.cautions ++ [.badMode word] }

def takeAge (limits : Limits) (value : String) (d : Draft) : Draft :=
  if isAge value then { d with age := ageOf value }
  else { d with age := limits.minAge, problems := d.problems ++ [.badAge value] }

-- A later value takes the place of an earlier one, the hosts apart.
def take (limits : Limits) (d : Draft) (pair : Pair) : Draft :=
  let d := d.noteKey pair.1
  if pair.1 = "version" then { d with version := some pair.2 }
  else if pair.1 = "mode" then d.takeMode pair.2
  else if pair.1 = "mx" then { d with masks := d.masks ++ [pair.2] }
  else if pair.1 = "max_age" then d.takeAge limits pair.2
  else d

-- Missing keys are told behind the other problems. A mode of none has no least age.
def finish (limits : Limits) (origin : Origin) (fetchTime : Int) (record : Option Record)
    (d : Draft) : Policy :=
  let missing := requiredKeys.filter (· ∉ d.keys)
  let (age, ageCautions) := clampAge limits d.mode d.age
  {
    version := d.version
    mode := d.mode
    masks := d.masks
    maxAge := age
    fetchTime
    record
    certificates := origin.certificates
    body := origin.body
    validation := origin.validation ++
      ⟨d.problems ++ missing.map .missingKey, d.cautions ++ ageCautions⟩
    cached := false
  }

end Draft

def assemble (limits : Limits) (origin : Origin) (fetchTime : Int) (record : Option Record)
    (pairs : List Pair) : Policy :=
  (pairs.foldl (Draft.take limits) .blank).finish limits origin fetchTime record

def ageNotices (pairs : List Pair) : List Notice :=
  (badAges pairs).map .malformedAge

def fetchTimes (pairs : List Pair) : List Int :=
  (values "fetch_time" pairs).filterMap fun value => (Integer.read value).toOption

def toldFetchTime (pairs : List Pair) : Int :=
  (fetchTimes pairs).getLast?.getD 0

def fetchTimeNotices (pairs : List Pair) : List Notice :=
  ((values "fetch_time" pairs).filter fun value => (Integer.read value).toOption.isNone).map
    fun _ => .unreadableFetchTime

def toldDomain? (registrable : List String → Bool) (pairs : List Pair) : Option String :=
  (((values "domain" pairs).filter (Domain.isValid registrable)).getLast?).map Domain.normalize

def toldToken? (pairs : List Pair) : Option String :=
  (((values "record_id" pairs).map trimmed).filter (· != "")).getLast?

-- What an extended document tells, when that does not make a record.
structure Corrupted where
  version : Option String
  domain : Option String
  token : Option String
  fetchTime : Int
  deriving DecidableEq, Repr

def Corrupted.message (_ : Corrupted) : String :=
  "Record missing version, domain, record_id and/or fetch_time"

def toldRecord (registrable : List String → Bool) (pairs : List Pair) : Except Corrupted Record :=
  let version := lastValue? "version" pairs
  let domain := toldDomain? registrable pairs
  let token := toldToken? pairs
  let fetchTime := toldFetchTime pairs
  match version, domain, token with
  | some v, some d, some t =>
    if fetchTime ≤ 0 then .error ⟨version, domain, token, fetchTime⟩
    else .ok ⟨some d, s!"v={v}; id={t};"⟩
  | _, _, _ => .error ⟨version, domain, token, fetchTime⟩

-- Without a fetch time it is taken from the pairs, and so is the record if that is missing too.
def build (registrable : List String → Bool) (limits : Limits) (origin : Origin)
    (fetchTime? : Option Int) (record : Option Record) (pairs : List Pair) :
    Except Corrupted Policy × List Notice :=
  match fetchTime? with
  | some t => (.ok (assemble limits origin t record pairs), ageNotices pairs)
  | none =>
    let notices := ageNotices pairs ++ fetchTimeNotices pairs
    let t := toldFetchTime pairs
    match record with
    | some record => (.ok (assemble limits origin t (some record) pairs), notices)
    | none =>
      match toldRecord registrable pairs with
      | .ok record => (.ok (assemble limits origin t (some record) pairs), notices)
      | .error e => (.error e, notices)

def ofExtended (registrable : List String → Bool) (limits : Limits) (text : String) :
    Except Corrupted Policy × List Notice :=
  let body := Utf8.encode text.toList
  let (pairs, validation) := Document.parse limits body
  build registrable limits ⟨validation, 0, body⟩ none none pairs

-- Why a text is not read as an extended document: it has no encoding, or it tells no record.
inductive Unread where
  | unencodable
  | corrupted (e : Corrupted)
  deriving DecidableEq, Repr

-- The policy of an extended document that comes from outside.
def ofText (registrable : List String → Bool) (limits : Limits) (text : List CodePoint) :
    Except Unread Policy × List Notice :=
  match string? text with
  | none => (.error .unencodable, [])
  | some text =>
    let (result, notices) := ofExtended registrable limits text
    (result.mapError .corrupted, notices)

end StrictTransport.Policy
