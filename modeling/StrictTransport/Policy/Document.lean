import StrictTransport.Policy.Validation
import StrictTransport.Text.Blank
import StrictTransport.Text.Split
import StrictTransport.Text.Utf8

namespace StrictTransport.Document

open Text

def lf : UInt8 := 10

def cr : UInt8 := 13

def colon : UInt8 := 58

def isWspByte (b : UInt8) : Bool :=
  b == 32 || b == 9

def isBlankByte (b : UInt8) : Bool :=
  isAsciiBlank b.toNat

def isAlphanumeric (b : UInt8) : Bool :=
  (48 ≤ b && b ≤ 57) || (65 ≤ b && b ≤ 90) || (97 ≤ b && b ≤ 122)

def isKeyByte (b : UInt8) : Bool :=
  isAlphanumeric b || b == 95 || b == 46 || b == 45

-- The lines of a body. They end in CR LF, or in LF if the body has no CR LF at all.
def lines (body : Bytes) : List Bytes :=
  if hasPair cr lf body then splitOnPair cr lf body else splitOn lf body

def keyLimit : Nat := 32

def isKey (key : Bytes) : Bool :=
  key.head?.any isAlphanumeric && key.length ≤ keyLimit

def withoutLineFeed (line : Bytes) : Bytes :=
  if line.getLast? == some lf then line.dropLast else line

-- The value that the bytes behind a colon hold: they begin, after blanks, with a visible byte and
-- have no LF before their last byte.
def value? (bytes : Bytes) : Option Bytes :=
  let value := withoutLineFeed (bytes.dropWhile isWspByte)
  if value.head?.any (fun b => !isBlankByte b) && !value.contains lf then
    some (dropEndWhile isWspByte value)
  else
    none

def pair? (line : Bytes) : Option (Bytes × Bytes) :=
  let rest := line.dropWhile isWspByte
  let key := rest.takeWhile isKeyByte
  if !isKey key then none
  else
    match (rest.drop key.length).dropWhile isWspByte with
    | b :: rest => if b == colon then (value? rest).map fun value => (key, value) else none
    | [] => none

def text (bytes : Bytes) : String :=
  String.ofList (Utf8.decodeLossy bytes)

def keyText (key : Bytes) : String :=
  String.ofList (key.map fun b => (Char.ofNat b.toNat).toLower)

inductive Reading where
  | nothing
  | pair (key value : String)
  | problem (p : Problem)
  deriving DecidableEq, Repr

def readLine (limits : Limits) (number : Nat) (line : Bytes) : Reading :=
  if line.all isBlankByte then .nothing
  else if limits.lineLength < line.length then .problem (.longLine number limits.lineLength)
  else
    match pair? line with
    | some (key, value) => .pair (keyText key) (text value)
    | none => .problem (.badLine number (text line))

def readings (limits : Limits) (body : Bytes) : List Reading :=
  ((lines body).zipIdx 1).map fun (line, number) => readLine limits number line

def Reading.pair? : Reading → Option (String × String)
  | .pair key value => some (key, value)
  | _ => none

def Reading.problem? : Reading → Option Problem
  | .problem p => some p
  | _ => none

-- Every line is read for itself; one that is neither blank nor a pair is a problem of its own and
-- leaves the other lines alone.
def parse (limits : Limits) (body : Bytes) : List (String × String) × Validation :=
  let all := readings limits body
  (all.filterMap Reading.pair?, ⟨all.filterMap Reading.problem?, []⟩)

end StrictTransport.Document
