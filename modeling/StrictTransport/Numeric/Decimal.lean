import StrictTransport.Numeric.Binary64
import StrictTransport.Numeric.Integer

namespace StrictTransport.Decimal

open Text
open Integer (takeSign)

structure Fault where
  text : String
  deriving DecidableEq, Repr

def Fault.message (fault : Fault) : String :=
  "could not convert string to float: " ++ quoted fault.text

def wellGrouped (cs : List Char) : Bool :=
  let neighbours := (' ' :: cs).zip (cs.zip (cs.drop 1 ++ [' ']))
  neighbours.all fun (before, c, after) =>
    c != '_' || ((digitValue? before).isSome && (digitValue? after).isSome)

def takeDigits (cs : List Char) : List Nat × List Char :=
  let isDigit := fun c => (digitValue? c).isSome
  ((cs.takeWhile isDigit).filterMap digitValue?, cs.dropWhile isDigit)

def exponent? : List Char → Option Int
  | [] => some 0
  | mark :: rest =>
    if mark == 'e' || mark == 'E' then
      let (negative, rest) := takeSign rest
      match takeDigits rest with
      | ([], _) => none
      | (digits, []) => some (if negative then -(ofDigits digits : Int) else ofDigits digits)
      | _ => none
    else
      none

def unsigned? (negative : Bool) (cs : List Char) : Option Binary64 :=
  let (whole, rest) := takeDigits cs
  let (fraction, rest) := match rest with
    | '.' :: rest => takeDigits rest
    | _ => ([], rest)
  if whole.isEmpty && fraction.isEmpty then none
  else (exponent? rest).map fun e =>
    .ofDecimal negative (ofDigits (whole ++ fraction)) (e - fraction.length)

def named? (negative : Bool) (cs : List Char) : Option Binary64 :=
  let name := String.ofList (cs.map Char.toLower)
  if name == "inf" || name == "infinity" then some (.infinite negative)
  else if name == "nan" then some .nan
  else none

-- Blanks around, a sign, digits of any script with single underscores between them, a point, an
-- exponent; or the name of a value that is not finite.
def read (text : String) : Except Fault Binary64 :=
  let cs := trimWhile isNumberBlank text.toList
  let (negative, bare) := takeSign cs
  let value? := match named? negative bare with
    | some x => some x
    | none =>
      if wellGrouped cs then unsigned? negative (bare.filter (· != '_')) else none
  match value? with
  | some x => .ok x
  | none => .error ⟨text⟩

end StrictTransport.Decimal
