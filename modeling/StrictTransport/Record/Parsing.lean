import StrictTransport.Record.Basic

namespace StrictTransport.Record

open Text

-- A tag with its value, and the number of characters from its first to its last.
structure Tag where
  name : List Char
  value : List Char
  size : Nat
  deriving DecidableEq, Repr

def equalsSize? (cs : List Char) : Option Nat :=
  let before := (cs.takeWhile isWsp).length
  match cs.drop before with
  | '=' :: rest => some (before + 1 + (rest.takeWhile isWsp).length)
  | _ => none

def tagAt? (cs : List Char) : Option Tag :=
  let name := (cs.take 3).takeWhile isAsciiLetter
  if name.length = 1 ∨ name.length = 2 then
    match equalsSize? (cs.drop name.length) with
    | none => none
    | some n =>
      let value := (cs.drop (name.length + n)).takeWhile fun c => isAsciiLetter c || isAsciiDigit c
      if value.isEmpty then none else some ⟨name, value, name.length + n + value.length⟩
  else
    none

def dropVersion? (cs : List Char) : Option (List Char) :=
  match dropLetters? ['v'] cs with
  | none => none
  | some rest =>
    match equalsSize? rest with
    | none => none
    | some n =>
      match dropLetters? ['S', 'T', 'S', 'v', '1'] (rest.drop n) with
      | none => none
      | some rest =>
        match rest.dropWhile isWsp with
        | ';' :: rest => some rest
        | _ => none

inductive Expectation where
  | version
  | tag
  | delimiter
  deriving DecidableEq, Repr

-- Where a text departs from the grammar: what was waited for, whether white space was skipped just
-- before, and how many characters remain.
structure Departure where
  expected : Expectation
  skipped : Bool
  remaining : Nat
  deriving DecidableEq, Repr

-- A list of elements with a delimiter between each two and perhaps one at the end, as grammar
-- libraries document it: white space is skipped before every element and every delimiter, each takes
-- as much of the text as it can, and the list ends where the text does. The next `size` characters
-- belong to the element before.
def walk (expected : Expectation) (skipped : Bool) : (size : Nat) → List Char → Option Departure
  | _, [] => none
  | size + 1, _ :: rest => walk expected skipped size rest
  | 0, c :: rest =>
    if isBlank c then walk expected true 0 rest
    else if expected = .tag then
      match tagAt? (c :: rest) with
      | some tag => walk .delimiter false (tag.size - 1) rest
      | none => some ⟨expected, skipped, rest.length + 1⟩
    else if c == ';' then walk .tag false (rest.takeWhile isWsp).length rest
    else some ⟨expected, skipped, rest.length + 1⟩

-- The white space behind the version does not count as skipped.
def departure? (cs : List Char) : Option Departure :=
  let start := cs.dropWhile isBlank
  match dropVersion? start with
  | none => some ⟨.version, false, start.length⟩
  | some rest => walk .tag false 0 (rest.dropWhile isBlank)

-- The tags anywhere in a text, after its next `size` characters, which belong to the tag before.
-- They do not overlap, and each begins as early as it can.
def tagsAfter : (size : Nat) → List Char → List Tag
  | _, [] => []
  | size + 1, _ :: rest => tagsAfter size rest
  | 0, c :: rest =>
    match tagAt? (c :: rest) with
    | some tag => tag :: tagsAfter (tag.size - 1) rest
    | none => tagsAfter 0 rest

inductive Fault where
  | senderPolicy
  | departure (expected : List String) (position : Nat) (text : List Char)
  | unknownTag (name : String)
  | repeatedTag (name : String)
  | noId
  deriving DecidableEq, Repr

-- Where a text departs from the grammar it is shown with `marker` at that place.
def Fault.message (marker : String) : Fault → String
  | senderPolicy =>
    "Found a SPF record where a MTA-STS record should be; most likely, the _mta-sts subdomain " ++
      "record does not actually exist, and the request for TXT records was redirected to the " ++
      "base domain"
  | departure expected position text =>
    let before := String.ofList (text.take position)
    let after := String.ofList (text.drop position)
    let alternatives := " or ".intercalate expected
    s!"Error: Expected {alternatives} at position {position} " ++
      s!"(marked with {marker}) in: {before}{marker}{after}"
  | unknownTag name => s!"{name} is not a valid MTA-STS record tag."
  | repeatedTag name => s!"Duplicate {name} tags are not permitted"
  | noId => "The MTA-STS record is missing an id tag."

def defaultMarker : String := "➞"

-- The elements that could stand where a text departs from the grammar, in alphabetical order. The
-- text could also end there if nothing was skipped after the last element.
def Departure.expectations (d : Departure) : List String :=
  let mayEnd := if d.skipped then [] else ["end_of_statement"]
  match d.expected with
  | .version => ["version_tag"]
  | .tag => mayEnd ++ ["tag_value"]
  | .delimiter => "Regex" :: mayEnd

structure Parsed where
  tags : List (String × String)
  warnings : List String
  deriving DecidableEq, Repr

def addTag (tags : List (String × String)) (tag : Tag) : Except Fault (List (String × String)) :=
  let name := String.ofList (trim (lower tag.name))
  if name ≠ "v" ∧ name ≠ "id" then .error (.unknownTag name)
  else if tags.any (·.1 == name) then .error (.repeatedTag name)
  else .ok (tags ++ [(name, String.ofList (trim tag.value))])

def idLimit : Nat := 32

-- The quotation marks around a record are not part of it.
def parse (record : String) : Except Fault Parsed :=
  let text := unquote record.toList
  if ['v', '=', 's', 'p', 'f', '1'].isPrefixOf (lower text) then .error .senderPolicy
  else
    match departure? text with
    | some d => .error (.departure d.expectations (text.length - d.remaining) text)
    | none => do
      let tags ← (tagsAfter 0 text).foldlM addTag []
      match tags.lookup "id" with
      | none => .error .noId
      | some id =>
        .ok ⟨tags, if idLimit < id.length then
          ["The id tag value should not exceed 32 characters."] else []⟩

end StrictTransport.Record
