import StrictTransport.Text.Table.CombiningClass
import StrictTransport.Text.Table.Decomposition

namespace StrictTransport.Text.Canonical

def combiningClass (c : Char) : Nat :=
  Table.classIn c.toNat Table.combiningClasses

namespace Hangul

def leadBase : Nat := 0x1100
def vowelBase : Nat := 0x1161
def tailBase : Nat := 0x11A7
def syllableBase : Nat := 0xAC00
def leadCount : Nat := 19
def vowelCount : Nat := 21
def tailCount : Nat := 28

def decompose? (n : Nat) : Option (List Nat) :=
  if syllableBase ≤ n && n < syllableBase + leadCount * vowelCount * tailCount then
    let i := n - syllableBase
    let tail := i % tailCount
    some ([leadBase + i / (vowelCount * tailCount), vowelBase + i / tailCount % vowelCount] ++
      if tail = 0 then [] else [tailBase + tail])
  else
    none

def compose? (a b : Nat) : Option Nat :=
  if leadBase ≤ a && a < leadBase + leadCount && vowelBase ≤ b && b < vowelBase + vowelCount then
    some (syllableBase + ((a - leadBase) * vowelCount + (b - vowelBase)) * tailCount)
  else if syllableBase ≤ a && a < syllableBase + leadCount * vowelCount * tailCount &&
      (a - syllableBase) % tailCount == 0 && tailBase < b && b < tailBase + tailCount then
    some (a + (b - tailBase))
  else
    none

end Hangul

def parts? (n : Nat) : Option (List Nat) :=
  match Hangul.decompose? n with
  | some letters => some letters
  | none =>
    match (Table.composites ++ Table.fragments).lookup n with
    | some (a, b) => some [a, b]
    | none =>
      match (Table.singletons ++ Table.ideographs ++ Table.supplementaryIdeographs).lookup n with
      | some a => some [a]
      | none => none

def decomposeTo : (depth : Nat) → Nat → List Nat
  | 0, n => [n]
  | depth + 1, n =>
    match parts? n with
    | some parts => parts.flatMap (decomposeTo depth)
    | none => [n]

-- No character needs more than four steps.
def decompose (c : Char) : List Char :=
  (decomposeTo 4 c.toNat).map Char.ofNat

-- Puts a character behind a text, given last character first, where its combining class belongs: a
-- mark goes before the marks of higher class at the end.
def insertMark (c : Char) : List Char → List Char
  | [] => [c]
  | d :: rest =>
    if combiningClass c ≠ 0 && combiningClass c < combiningClass d then d :: insertMark c rest
    else c :: d :: rest

def order (cs : List Char) : List Char :=
  (cs.foldl (fun done c => insertMark c done) []).reverse

def compose? (a b : Char) : Option Char :=
  match Hangul.compose? a.toNat b.toNat with
  | some n => some (Char.ofNat n)
  | none =>
    (Table.composites.find? fun (_, first, second) => first == a.toNat && second == b.toNat).map
      fun (n, _) => Char.ofNat n

-- A text being composed: what is finished and the marks that stay, both last first, with the
-- starter between them that may still grow.
structure Composing where
  done : List Char
  starter : Option Char
  marks : List Char

namespace Composing

def flush (s : Composing) : List Char :=
  s.marks ++ s.starter.toList ++ s.done

-- Whether a character of class `k` is cut off from the starter by the marks between them.
def blocks (s : Composing) (k : Nat) : Bool :=
  match s.marks with
  | [] => false
  | mark :: _ => k ≤ combiningClass mark

def push (s : Composing) (c : Char) : Composing :=
  match s.starter.bind fun starter =>
      if s.blocks (combiningClass c) then none else compose? starter c with
  | some composed => { s with starter := some composed }
  | none =>
    if combiningClass c = 0 then ⟨s.flush, some c, []⟩ else { s with marks := c :: s.marks }

end Composing

def compose (cs : List Char) : List Char :=
  (cs.foldl Composing.push ⟨[], none, []⟩).flush.reverse

-- Every character is taken apart, the marks behind each starter are put in order, and what belongs
-- together is put together again. Below U+0300 there are no marks, so a text without later
-- characters is in that form already.
def normalize (cs : List Char) : List Char :=
  if cs.all fun c => c.toNat < 0x300 then cs else compose (order (cs.flatMap decompose))

end StrictTransport.Text.Canonical
