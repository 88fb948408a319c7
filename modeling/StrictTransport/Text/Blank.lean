namespace StrictTransport.Text

-- White space of every script, with the separators that ASCII keeps among its controls.
def isBlank (c : Char) : Bool :=
  let n := c.toNat
  (0x09 ≤ n && n ≤ 0x0D) || (0x1C ≤ n && n ≤ 0x20) || n == 0x85 || n == 0xA0 || n == 0x1680 ||
    (0x2000 ≤ n && n ≤ 0x200A) || n == 0x2028 || n == 0x2029 || n == 0x202F || n == 0x205F ||
    n == 0x3000

-- The white space of ASCII alone: the blank and the controls from tab to carriage return.
def isAsciiBlank (n : Nat) : Bool :=
  (0x09 ≤ n && n ≤ 0x0D) || n == 0x20

-- The blanks that may stand inside one line of a record or of a document.
def isWsp (c : Char) : Bool :=
  c == ' ' || c == '\t'

variable {α : Type}

def dropEndWhile (p : α → Bool) (l : List α) : List α :=
  (l.reverse.dropWhile p).reverse

def trimWhile (p : α → Bool) (l : List α) : List α :=
  dropEndWhile p (l.dropWhile p)

def trim (cs : List Char) : List Char :=
  trimWhile isBlank cs

end StrictTransport.Text
