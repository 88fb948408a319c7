import StrictTransport.Numeric.Binary64
import StrictTransport.Text.Quoted

namespace StrictTransport

-- The members of an object keep their order.
inductive Json where
  | null
  | bool (b : Bool)
  | int (n : Int)
  | real (x : Binary64)
  | str (s : String)
  | arr (items : List Json)
  | obj (members : List (String × Json))
  deriving Inhabited

namespace Json

def ofString? (s : Option String) : Json :=
  s.elim null str

def strings (l : List String) : Json :=
  arr (l.map str)

-- Sets a member: an old one keeps its place, a new one comes last.
def setMember (members : List (String × Json)) (key : String) (value : Json) :
    List (String × Json) :=
  if members.any (·.1 == key) then
    members.map fun member => if member.1 == key then (key, value) else member
  else
    members ++ [(key, value)]

-- Only the marks, the backslash and the controls of ASCII are escaped.
def escape (c : Char) : List Char :=
  if c == '"' || c == '\\' then ['\\', c]
  else if c == '\n' then ['\\', 'n']
  else if c == '\r' then ['\\', 'r']
  else if c == '\t' then ['\\', 't']
  else if c == '\x0c' then ['\\', 'f']
  else if c == '\x08' then ['\\', 'b']
  else if c.toNat < 0x20 then '\\' :: 'u' :: Text.Quoted.hex 4 c.toNat
  else [c]

def quote (s : String) : String :=
  String.ofList ('"' :: (s.toList.flatMap escape ++ ['"']))

def realText : Binary64 → String
  | .infinite negative => if negative then "-Infinity" else "Infinity"
  | .nan => "NaN"
  | x => x.render

-- How the members of arrays and objects are set: all on one line, or each on a line of its own,
-- indented by so many blanks per level.
inductive Layout where
  | line
  | indented (width : Nat)

def Layout.break : Layout → Nat → String
  | line, _ => ""
  | indented width, depth => String.ofList ('\n' :: List.replicate (width * depth) ' ')

def Layout.comma : Layout → String
  | line => ", "
  | indented _ => ","

mutual

def write (layout : Layout) (depth : Nat) (out : String) : Json → String
  | null => out ++ "null"
  | bool b => out ++ (if b then "true" else "false")
  | int n => out ++ toString n
  | real x => out ++ realText x
  | str s => out ++ quote s
  | arr [] => out ++ "[]"
  | arr (item :: items) =>
    let out := write layout (depth + 1) (out ++ "[" ++ layout.break (depth + 1)) item
    writeItems layout (depth + 1) out items ++ layout.break depth ++ "]"
  | obj [] => out ++ "\x7b\x7d"
  | obj ((key, value) :: members) =>
    let out := write layout (depth + 1)
      (out ++ "\x7b" ++ layout.break (depth + 1) ++ quote key ++ ": ") value
    writeMembers layout (depth + 1) out members ++ layout.break depth ++ "\x7d"

def writeItems (layout : Layout) (depth : Nat) (out : String) : List Json → String
  | [] => out
  | item :: items =>
    writeItems layout depth
      (write layout depth (out ++ layout.comma ++ layout.break depth) item) items

def writeMembers (layout : Layout) (depth : Nat) (out : String) : List (String × Json) → String
  | [] => out
  | (key, value) :: members =>
    writeMembers layout depth
      (write layout depth (out ++ layout.comma ++ layout.break depth ++ quote key ++ ": ") value)
      members

end

def render (layout : Layout) (value : Json) : String :=
  write layout 0 "" value

end Json

def Json.pretty (value : Json) : String :=
  value.render (.indented 2)

end StrictTransport
