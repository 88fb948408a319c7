import StrictTransport.Text.Digit
import StrictTransport.Text.Quoted
import StrictTransport.Text.Split

namespace StrictTransport.Integer

open Text

def digitLimit : Nat := 4300

inductive Fault where
  | malformed (text : String)
  | tooLong (digits : Nat)
  deriving DecidableEq, Repr

-- A text in a message about a number is quoted and cut to 200 characters.
def Fault.message : Fault → String
  | malformed text =>
    "invalid literal for int() with base 10: " ++ String.ofList ((quoted text).toList.take 200)
  | tooLong digits =>
    s!"Exceeds the limit ({digitLimit} digits) for integer string conversion: value has {digits} " ++
      "digits; use sys.set_int_max_str_digits() to increase the limit"

def takeSign : List Char → Bool × List Char
  | '-' :: rest => (true, rest)
  | '+' :: rest => (false, rest)
  | cs => (false, cs)

def wellGrouped (run : List Char) : Bool :=
  run.head?.any (· != '_') && run.getLast?.any (· != '_') && !hasPair '_' '_' run

-- Of two faults the first in this order counts: underscores in the wrong places, too many digits,
-- anything but blanks after the digits.
def read (text : String) : Except Fault Int :=
  let (negative, cs) := takeSign (text.toList.dropWhile isNumberBlank)
  let inRun := fun c => (digitValue? c).isSome || c == '_'
  let run := cs.takeWhile inRun
  let digits := run.filterMap digitValue?
  if !wellGrouped run then
    .error (.malformed text)
  else if digitLimit < digits.length then
    .error (.tooLong digits.length)
  else if !(cs.dropWhile inRun).all isNumberBlank then
    .error (.malformed text)
  else
    .ok (if negative then -(ofDigits digits : Int) else ofDigits digits)

end StrictTransport.Integer
