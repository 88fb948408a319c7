import StrictTransport.Text.Blank
import StrictTransport.Text.Table.Digit

namespace StrictTransport.Text

def digitValue? (c : Char) : Option Nat :=
  (Table.zeros.find? fun first => first ≤ c.toNat && c.toNat < first + 10).map fun first =>
    c.toNat - first

-- White space around a number; the separators among the ASCII controls do not count.
def isNumberBlank (c : Char) : Bool :=
  isBlank c && !(0x1C ≤ c.toNat && c.toNat ≤ 0x1F)

def ofDigits (digits : List Nat) : Nat :=
  digits.foldl (fun n d => 10 * n + d) 0

def paddedDigits (width n : Nat) : List Char :=
  let digits := Nat.toDigits 10 n
  List.replicate (width - digits.length) '0' ++ digits

end StrictTransport.Text
