import Mathlib.Computability.Language
import StrictTransport.Policy.Basic
import StrictTransport.Proofs.Policy.Mask
import StrictTransport.Proofs.Text.Blank

namespace StrictTransport

open Text

-- A mask can be written as a pattern: a point stands there for any character but the line feed,
-- and a star repeats what stands before it.
namespace Pattern

open Text Computability

-- A backslash is put before these characters, so that they stand for themselves.
def quotedChars : List Char :=
  ['(', ')', '[', ']', '\x7b', '\x7d', '?', '*', '+', '-', '|', '^', '$', '\\', '.', '&', '~', '#',
    ' ', '\t', '\n', '\r', '\x0b', '\x0c']

def quoteChar (c : Char) : List Char :=
  if quotedChars.contains c then ['\\', c] else [c]

def quote (text : List Char) : List Char :=
  text.flatMap quoteChar

-- A point and a star for each quoted star, found from the left.
def openStars : List Char → List Char
  | '\\' :: '*' :: rest => '.' :: '*' :: openStars rest
  | c :: rest => c :: openStars rest
  | [] => []

def ofMask (mask : List Char) : List Char :=
  openStars (quote mask)

inductive Atom where
  | any
  | char (c : Char)

inductive Symbol where
  | atom (a : Atom)
  | star

-- The characters that have a meaning of their own where no backslash stands before them.
def operators : List Char :=
  ['\\', '[', '\x7b', '(', ')', '+', '?', '^', '$', '|']

-- The symbols of a pattern, if it has no others than points, stars and characters.
def symbols? : List Char → Option (List Symbol)
  | [] => some []
  | '\\' :: c :: rest =>
    if c.isAlphanum then none else (symbols? rest).map (.atom (.char c) :: ·)
  | c :: rest =>
    if operators.contains c then none
    else
      let symbol := if c = '.' then .atom .any else if c = '*' then .star else .atom (.char c)
      (symbols? rest).map (symbol :: ·)

structure Piece where
  atom : Atom
  repeated : Bool

-- There has to be something that a star repeats.
def pieces? : List Symbol → Option (List Piece)
  | [] => some []
  | .star :: _ => none
  | .atom a :: .star :: rest => (pieces? rest).map (⟨a, true⟩ :: ·)
  | .atom a :: rest => (pieces? rest).map (⟨a, false⟩ :: ·)

def Atom.admits : Atom → Char → Prop
  | .any, c => c ≠ '\n'
  | .char m, c => sameLetter m c = true

def Atom.language (a : Atom) : Language Char :=
  {text | ∃ c, text = [c] ∧ a.admits c}

def Piece.language (p : Piece) : Language Char :=
  if p.repeated then p.atom.language∗ else p.atom.language

-- The whole text is one of those that the pattern describes.
def Matches (pattern text : List Char) : Prop :=
  ∃ pieces, (symbols? pattern).bind pieces? = some pieces ∧
    text ∈ (pieces.map Piece.language).prod

section OfMask

-- How a character of a mask is written.
def spelled (m : Char) : List Char :=
  if m = '*' then ['.', '*'] else quoteChar m

theorem quote_cons (m : Char) (mask : List Char) :
    quote (m :: mask) = quoteChar m ++ quote mask :=
  List.flatMap_cons

theorem head?_quote_ne (mask : List Char) : (quote mask).head? ≠ some '*' := by
  cases mask with
  | nil => nofun
  | cons m mask =>
      rw [quote_cons, quoteChar]
      split
      · simp
      · rename_i hquoted
        rintro hhead
        obtain rfl := Option.some.inj hhead
        exact hquoted (by decide)

theorem openStars_cons {c : Char} {rest : List Char} (h : c ≠ '\\' ∨ rest.head? ≠ some '*') :
    openStars (c :: rest) = c :: openStars rest := by
  rw [openStars]
  rintro rest rfl rfl
  exact h.elim (absurd rfl) (absurd rfl)

-- A star is found behind its own backslash, never behind one that stands for itself.
theorem ofMask_eq (mask : List Char) : ofMask mask = mask.flatMap spelled := by
  rw [ofMask]
  induction mask with
  | nil => rfl
  | cons m mask ih =>
      rw [quote_cons, List.flatMap_cons, spelled, ← ih]
      by_cases hstar : m = '*'
      · subst hstar
        rfl
      · rw [if_neg hstar, quoteChar]
        split
        · have hinner : openStars (m :: quote mask) = m :: openStars (quote mask) :=
            openStars_cons (.inr (head?_quote_ne mask))
          change openStars ('\\' :: m :: quote mask) = '\\' :: m :: openStars (quote mask)
          rw [openStars_cons (.inr (by simpa using hstar)), hinner]
        · rename_i hplain
          refine openStars_cons (.inl ?_)
          rintro rfl
          exact hplain (by decide)

example : ofMask ['\\', '*', 'a', '.'] = ['\\', '\\', '.', '*', 'a', '\\', '.'] := by decide

def symbolsOf (m : Char) : List Symbol :=
  if m = '*' then [.atom .any, .star] else [.atom (.char m)]

def pieceOf (m : Char) : Piece :=
  if m = '*' then ⟨.any, true⟩ else ⟨.char m, false⟩

theorem symbols?_spelled_append (m : Char) (rest : List Char) :
    symbols? (spelled m ++ rest) = (symbols? rest).map (symbolsOf m ++ ·) := by
  have hquoted : ∀ c ∈ quotedChars, c.isAlphanum = false := by simp [quotedChars]
  have hoperators : ∀ c ∈ operators, c ∈ quotedChars := by simp [operators, quotedChars]
  rw [spelled, symbolsOf]
  by_cases hstar : m = '*'
  · subst hstar
    cases h : symbols? rest <;> simp [symbols?, operators, h]
  · rw [if_neg hstar, if_neg hstar, quoteChar]
    split
    · rename_i hmem
      rw [List.contains_iff_mem] at hmem
      simp [symbols?, hquoted m hmem]
    · rename_i hmem
      rw [List.contains_iff_mem] at hmem
      have hplain : m ∉ operators := fun h => hmem (hoperators m h)
      have hpoint : m ≠ '.' := fun h => hmem (h ▸ by decide)
      have hslash : m ≠ '\\' := fun h => hmem (h ▸ by decide)
      rw [List.singleton_append, symbols?]
      · simp [hplain, hpoint, hstar]
      · exact fun _ _ h => absurd h hslash

theorem symbols?_ofMask (mask : List Char) :
    symbols? (ofMask mask) = some (mask.flatMap symbolsOf) := by
  rw [ofMask_eq]
  induction mask with
  | nil => rfl
  | cons m mask ih =>
      rw [List.flatMap_cons, symbols?_spelled_append, ih]
      rfl

theorem head?_symbols_ne (mask : List Char) : (mask.flatMap symbolsOf).head? ≠ some .star := by
  cases mask with
  | nil => nofun
  | cons m mask =>
      rw [List.flatMap_cons, symbolsOf]
      split <;> simp

theorem pieces?_symbols (mask : List Char) :
    pieces? (mask.flatMap symbolsOf) = some (mask.map pieceOf) := by
  induction mask with
  | nil => rfl
  | cons m mask ih =>
      rw [List.flatMap_cons, List.map_cons, symbolsOf, pieceOf]
      split
      · simp [pieces?, ih]
      · rw [List.singleton_append, pieces?, ih]
        · rfl
        · rintro rest hrest
          exact head?_symbols_ne mask (by rw [hrest]; rfl)

theorem mem_kstar_any {segment : List Char} :
    segment ∈ Atom.any.language∗ ↔ '\n' ∉ segment := by
  rw [Language.mem_kstar]
  constructor
  · rintro ⟨parts, rfl, hparts⟩ hlf
    obtain ⟨part, hpart, hmem⟩ := List.mem_flatten.mp hlf
    obtain ⟨c, rfl, hc⟩ := hparts part hpart
    exact hc (List.mem_singleton.mp hmem).symm
  · intro hlf
    refine ⟨segment.map fun c => [c], (List.flatMap_singleton' segment).symm, fun part hpart => ?_⟩
    obtain ⟨c, hc, rfl⟩ := List.mem_map.mp hpart
    exact ⟨c, rfl, fun h => hlf (h ▸ hc)⟩

theorem mem_language_pieceOf {m : Char} {segment : List Char} :
    segment ∈ (pieceOf m).language ↔ Mask.Takes m segment := by
  by_cases hstar : m = '*'
  · subst hstar
    exact mem_kstar_any.trans Mask.takes_star.symm
  · rw [pieceOf, if_neg hstar, Mask.takes_of_ne hstar]
    exact Iff.rfl

theorem mem_prod_iff (mask host : List Char) :
    host ∈ ((mask.map pieceOf).map Piece.language).prod ↔ Mask.Fits mask host := by
  induction mask generalizing host with
  | nil => exact (Language.mem_one host).trans Mask.fits_nil.symm
  | cons m mask ih =>
      rw [List.map_cons, List.map_cons, List.prod_cons, Language.mem_mul, Mask.fits_cons]
      simp only [ih, mem_language_pieceOf]
      constructor
      · rintro ⟨front, hfront, back, hback, rfl⟩
        exact ⟨front, back, rfl, hfront, hback⟩
      · rintro ⟨front, back, rfl, hfront, hback⟩
        exact ⟨front, hfront, back, hback, rfl⟩

theorem matches_ofMask_iff (mask host : List Char) :
    Matches (ofMask mask) host ↔ Mask.Fits mask host := by
  rw [Matches, symbols?_ofMask, Option.bind_some, pieces?_symbols]
  simp only [Option.some.injEq, exists_eq_left']
  exact mem_prod_iff mask host

end OfMask

end Pattern

-- Mail may go where a mask fits the host name without the dots at its end, and a mask fits what its
-- pattern describes: of its characters only the star does not stand for itself.
theorem Policy.allows_iff_fits (p : Policy) (host : String) :
    ∃ name dots, host.toList = name ++ dots ∧ (∀ c ∈ dots, c = '.') ∧ name.getLast? ≠ some '.' ∧
      (p.allows host = true ↔ p.mode = .testing ∨ ∃ mask ∈ p.masks, Mask.Fits mask.toList name) ∧
      ∀ mask, Pattern.Matches (Pattern.ofMask mask) name ↔ Mask.Fits mask name := by
  obtain ⟨⟨dots, hhost, hdots⟩, hlast⟩ := withoutFinalDots_eq_iff.mp (Eq.refl (withoutFinalDots host))
  refine ⟨_, dots, hhost, fun c hc => beq_iff_eq.mp (hdots c hc), fun hdot => ?_, ?_,
    fun mask => Pattern.matches_ofMask_iff mask _⟩
  · exact absurd (hlast '.' hdot) (by decide)
  · rw [allows, Bool.or_eq_true, beq_iff_eq, List.any_eq_true]
    simp only [Mask.covers_iff]

end StrictTransport
