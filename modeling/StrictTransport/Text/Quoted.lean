import StrictTransport.Text.Table.Range
import StrictTransport.Text.Table.Unprintable

namespace StrictTransport.Text.Quoted

def isPrintable (c : Char) : Bool :=
  !Table.inRanges c.toNat Table.unprintable

def hex (width n : Nat) : List Char :=
  let digits := Nat.toDigits 16 n
  List.replicate (width - digits.length) '0' ++ digits

def mark (cs : List Char) : Char :=
  if cs.contains '\'' && !cs.contains '"' then '"' else '\''

def escape (quote c : Char) : List Char :=
  if c == quote || c == '\\' then ['\\', c]
  else if c == '\n' then ['\\', 'n']
  else if c == '\r' then ['\\', 'r']
  else if c == '\t' then ['\\', 't']
  else if isPrintable c then [c]
  else if c.toNat < 0x100 then '\\' :: 'x' :: hex 2 c.toNat
  else if c.toNat < 0x10000 then '\\' :: 'u' :: hex 4 c.toNat
  else '\\' :: 'U' :: hex 8 c.toNat

-- Between single quotes, or between double quotes if the text has single quotes only, with an
-- escape for every character that does not print.
def quote (cs : List Char) : List Char :=
  mark cs :: (cs.flatMap (escape (mark cs)) ++ [mark cs])

end StrictTransport.Text.Quoted

namespace StrictTransport

def quoted (s : String) : String :=
  String.ofList (Text.Quoted.quote s.toList)

def quotedList (texts : List String) : String :=
  "[" ++ ", ".intercalate (texts.map quoted) ++ "]"

end StrictTransport
