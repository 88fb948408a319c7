import StrictTransport.Text.Table.CaseContext
import StrictTransport.Text.Table.Lowercase
import StrictTransport.Text.Table.Range

namespace StrictTransport.Text

def lowerChar (c : Char) : Char :=
  Char.ofNat (Table.mapRuns c.toNat Table.lowercase)

def isCaseIgnorable (c : Char) : Bool :=
  Table.inRanges c.toNat Table.caseIgnorable

def isCased (c : Char) : Bool :=
  Table.inRanges c.toNat Table.cased

-- Whether the first character that is not passed over is a letter with case.
def startsCased (cs : List Char) : Bool :=
  ((cs.dropWhile isCaseIgnorable).head?.map isCased).getD false

-- A dotted capital i keeps its dot as a mark of its own, and a sigma at the end of a word takes its
-- final form.
def lowerIn (afterLetter : Bool) (c : Char) (rest : List Char) : List Char :=
  if c == '\u03A3' then
    if afterLetter && !startsCased rest then ['\u03C2'] else ['\u03C3']
  else if c == '\u0130' then
    ['i', '\u0307']
  else
    [lowerChar c]

def lowerFrom (afterLetter : Bool) (done : List Char) : List Char → List Char
  | [] => done.reverse
  | c :: rest =>
    lowerFrom (if isCaseIgnorable c then afterLetter else isCased c)
      ((lowerIn afterLetter c rest).reverse ++ done) rest

def lower (cs : List Char) : List Char :=
  lowerFrom false [] cs

end StrictTransport.Text
