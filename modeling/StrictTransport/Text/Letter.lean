import StrictTransport.Text.Lower

namespace StrictTransport.Text

-- Lower-case characters that are variants of another one, each before that one.
def letterVariants : List (Nat × Nat) :=
  [
    (0x131, 0x69), (0x17F, 0x73), (0xB5, 0x3BC), (0x345, 0x3B9), (0x1FBE, 0x3B9), (0x1FD3, 0x390),
    (0x1FE3, 0x3B0), (0x3D0, 0x3B2), (0x3F5, 0x3B5), (0x3D1, 0x3B8), (0x3F0, 0x3BA), (0x3D6, 0x3C0),
    (0x3F1, 0x3C1), (0x3C2, 0x3C3), (0x3D5, 0x3C6), (0x1C80, 0x432), (0x1C81, 0x434),
    (0x1C82, 0x43E), (0x1C83, 0x441), (0x1C84, 0x442), (0x1C85, 0x442), (0x1C86, 0x44A),
    (0x1C87, 0x463), (0x1C88, 0xA64B), (0x1E9B, 0x1E61), (0xFB05, 0xFB06)
  ]

-- Characters are the same letter if they have one lower case, or if their lower cases stand for one
-- letter in different places of a word or in different hands.
def letter (c : Char) : Char :=
  let low := Table.mapRuns c.toNat Table.lowercase
  Char.ofNat ((letterVariants.lookup low).getD low)

def sameLetter (a b : Char) : Bool :=
  letter a == letter b

def isAsciiLetter (c : Char) : Bool :=
  'a' ≤ letter c && letter c ≤ 'z'

def isAsciiDigit (c : Char) : Bool :=
  '0' ≤ c && c ≤ '9'

def dropLetters? : (expected text : List Char) → Option (List Char)
  | [], text => some text
  | _ :: _, [] => none
  | e :: es, c :: cs => if sameLetter e c then dropLetters? es cs else none

end StrictTransport.Text
