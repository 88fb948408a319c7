import StrictTransport.Domain.Name

namespace StrictTransport

structure Record where
  domain : Option String
  id : String
  deriving DecidableEq, Repr

namespace Record

open Text

def isTokenChar (c : Char) : Bool :=
  c != ';' && !isBlank c

def idValue? (cs : List Char) : Option (List Char) :=
  match dropLetters? ['i', 'd'] (cs.dropWhile isWsp) with
  | none => none
  | some rest =>
    match rest.dropWhile isWsp with
    | '=' :: rest =>
      let value := (rest.dropWhile isWsp).takeWhile isTokenChar
      if value.isEmpty then none else some value
    | _ => none

def laterIdValue? : List Char → Option (List Char)
  | [] => none
  | c :: rest =>
    match if c == ';' then idValue? rest else none with
    | some value => some value
    | none => laterIdValue? rest

def unquote (cs : List Char) : List Char :=
  trimWhile (· == '"') cs

-- What tells the generations of a policy apart: the value of the first id tag, or the whole text if
-- it has none.
def tokenChars (id : List Char) : List Char :=
  let text := unquote (trim id)
  match idValue? text with
  | some value => value
  | none => (laterIdValue? text).getD text

def token (record : Record) : String :=
  onString tokenChars record.id

def sameGeneration (a : Record) (b? : Option Record) : Bool :=
  match b? with
  | none => false
  | some b =>
    match a.domain, b.domain with
    | some da, some db => Domain.normalize da == Domain.normalize db && a.token == b.token
    | _, _ => false

end Record

end StrictTransport
