import StrictTransport.Text.Basic
import StrictTransport.Text.Canonical
import StrictTransport.Text.Letter
import StrictTransport.Text.Split

namespace StrictTransport.Domain

open Text

-- Characters that take no room and are left out of names.
def isZeroWidth (c : Char) : Bool :=
  (0x200B ≤ c.toNat && c.toNat ≤ 0x200D) || c.toNat == 0xFEFF

-- The form in which names are compared. What is taken away or lowered after the composition can
-- leave a text that is no longer composed.
def normalizeChars (cs : List Char) : List Char :=
  let visible := (Canonical.normalize cs).filter fun c => !isZeroWidth c
  lower (dropEndWhile (· == '.') (trim visible))

def normalize (name : String) : String :=
  onString normalizeChars name

def labels (name : String) : List (List Char) :=
  splitOn '.' name.toList

-- Characters of labels: the letters of ASCII in any case and variant, its digits, the hyphen.
def isLabelChar (c : Char) : Bool :=
  isAsciiLetter c || isAsciiDigit c || c == '-'

def withoutLineEnd (cs : List Char) : List Char :=
  if cs.getLast? == some '\n' then cs.dropLast else cs

-- One line feed behind a label is let through.
def isLabel (label : List Char) : Bool :=
  let body := withoutLineEnd label
  1 ≤ body.length && body.length ≤ 63 && body.all isLabelChar &&
    body.head? != some '-' && body.getLast? != some '-'

-- The public suffixes are known to `registrable`, which is asked about the labels of a name.
def isValid (registrable : List String → Bool) (name : String) : Bool :=
  let name := normalize name
  let parts := labels name
  1 ≤ name.length && name.length ≤ 253 && 2 ≤ parts.length && parts.all isLabel &&
    registrable (parts.map String.ofList)

end StrictTransport.Domain
