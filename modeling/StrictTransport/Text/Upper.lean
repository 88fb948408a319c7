import StrictTransport.Text.Table.Uppercase

namespace StrictTransport.Text

def upperChar (c : Char) : List Char :=
  match Table.uppercaseSequences.lookup c.toNat with
  | some sequence => sequence.map Char.ofNat
  | none => [Char.ofNat (Table.mapRuns c.toNat Table.uppercase)]

def upper (cs : List Char) : List Char :=
  cs.flatMap upperChar

end StrictTransport.Text
