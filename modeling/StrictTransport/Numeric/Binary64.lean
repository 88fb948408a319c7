import StrictTransport.Text.Digit

namespace StrictTransport

-- Exact values; a finite one is a whole number times a power of two. All rounding is to the nearest
-- value, and from half-way to the even one.
inductive Binary64 where
  | finite (negative : Bool) (significand : Nat) (exponent : Int)
  | infinite (negative : Bool)
  | nan
  deriving DecidableEq, Repr

namespace Binary64

open Text

def roundDiv (num den : Nat) : Nat :=
  let q := num / den
  let r := 2 * (num % den)
  if r < den || (r == den && q % 2 == 0) then q else q + 1

def scale (base num den : Nat) (e : Int) : Nat × Nat :=
  if 0 ≤ e then (num * base.pow e.toNat, den) else (num, den * base.pow (-e).toNat)

-- The exponent of the greatest power of two that is not above the ratio.
def floorLog2 (num den : Nat) : Int :=
  let k : Int := (Nat.log2 num : Int) - Nat.log2 den
  let (n, d) := scale 2 num den (-k)
  if d ≤ n then k else k - 1

-- The exponent of the smallest positive value, and of the gap between the smallest values.
def leastExponent : Int := -1074

def greatestExponent : Int := 971

def ofRatio (negative : Bool) (num den : Nat) : Binary64 :=
  if num = 0 then finite negative 0 leastExponent
  else
    let e := max (floorLog2 num den - 52) leastExponent
    let (n, d) := scale 2 num den (-e)
    let m := roundDiv n d
    let (m, e) := if m = Nat.pow 2 53 then (Nat.pow 2 52, e + 1) else (m, e)
    if greatestExponent < e then infinite negative else finite negative m e

def ofInt (n : Int) : Binary64 :=
  ofRatio (n < 0) n.natAbs 1

-- `digits` with the decimal point moved `e` places to the right. What lies far outside the finite
-- values is not computed in full.
def ofDecimal (negative : Bool) (digits : Nat) (e : Int) : Binary64 :=
  let places : Int := (Nat.toDigits 10 digits).length
  if digits = 0 || places + e < -400 then finite negative 0 leastExponent
  else if 400 < places + e then infinite negative
  else
    let (n, d) := scale 10 digits 1 e
    ofRatio negative n d

def ratio? : Binary64 → Option (Bool × Nat × Nat)
  | finite negative m e => some (negative, scale 2 m 1 e)
  | _ => none

def roundTenth (x : Binary64) : Binary64 :=
  match x.ratio? with
  | some (negative, num, den) => ofRatio negative (roundDiv (10 * num) den) 10
  | none => x

def special : Binary64 → String
  | infinite negative => if negative then "-inf" else "inf"
  | _ => "nan"

def fixed (places : Nat) (x : Binary64) : String :=
  match x.ratio? with
  | some (negative, num, den) =>
    let n := roundDiv (num * Nat.pow 10 places) den
    let whole := Nat.toDigits 10 (n / Nat.pow 10 places)
    let digits := whole ++ '.' :: paddedDigits places (n % Nat.pow 10 places)
    String.ofList (if negative then '-' :: digits else digits)
  | none => x.special

-- The exponent of the greatest power of ten that is not above a positive ratio. It is found by
-- counting from `low` upwards through at most `fuel` powers.
def floorLog10 (num den : Nat) : (fuel : Nat) → (low : Int) → Int
  | 0, low => low
  | fuel + 1, low =>
    let (n, d) := scale 10 num den (-(low + 1))
    if d ≤ n then floorLog10 num den fuel (low + 1) else low

-- The reals that round to a finite value, in quarters of the gap above it: the value, the lower and
-- the upper end. Below a power of two the gap is half as wide.
def quarters (m : Nat) (e : Int) : Nat × Nat × Nat :=
  (4 * m, if m = Nat.pow 2 52 && leastExponent < e then 4 * m - 1 else 4 * m - 2, 4 * m + 2)

-- The decimal of at most `count` digits nearest to a positive value, if it rounds to that value:
-- digits and exponent. `top` is the exponent of the value's first digit.
def nearest? (m : Nat) (e top : Int) (count : Nat) : Option (Nat × Int) :=
  let grid : Int := top + 1 - count
  let (mid, low, high) := quarters m e
  -- the value, its ends and a step of the grid in one unit
  let (unit, step) := if 0 ≤ grid then (1, Nat.pow 10 grid.toNat)
    else (Nat.pow 10 (-grid).toNat, 1)
  let (unit, step) := if 0 ≤ e then (unit * Nat.pow 2 e.toNat, 4 * step)
    else (unit, 4 * step * Nat.pow 2 (-e).toNat)
  let n := roundDiv (mid * unit) step
  let inside := fun n : Nat =>
    let x := n * step
    if m % 2 == 0 then low * unit ≤ x && x ≤ high * unit else low * unit < x && x < high * unit
  let other := if n * step ≤ mid * unit then n + 1 else n - 1
  if inside n then some (n, grid) else if inside other then some (other, grid) else none

def shortest (m : Nat) (e : Int) : Nat × Int :=
  let (num, den) := scale 2 m 1 e
  -- the decimal exponent is 0.30103 of the binary one, give or take a little
  let top := floorLog10 num den 5 (floorLog2 num den * 30103 / 100000 - 1)
  ((List.range 17).findSome? fun i => nearest? m e top (i + 1)).getD (m, 0)

-- A decimal in positional notation: `digits`, of which `point` stand before the point.
def positional (digits : List Char) (point : Int) : List Char :=
  if point ≤ 0 then '0' :: '.' :: (List.replicate (-point).toNat '0' ++ digits)
  else
    let k := point.toNat
    if digits.length ≤ k then digits ++ List.replicate (k - digits.length) '0' ++ ['.', '0']
    else digits.take k ++ '.' :: digits.drop k

def scientific (digits : List Char) (exponent : Int) : List Char :=
  let tail := match digits.drop 1 with
    | [] => []
    | more => '.' :: more
  digits.take 1 ++ tail ++ ['e', if exponent < 0 then '-' else '+'] ++
    paddedDigits 2 exponent.natAbs

-- The fewest digits that read back as the value; positional from 10⁻⁴ up to below 10¹⁶.
def render : Binary64 → String
  | finite negative m e =>
    let text :=
      if m = 0 then ['0', '.', '0']
      else
        let (n, last) := shortest m e
        let all := Nat.toDigits 10 n
        let digits := dropEndWhile (· == '0') all
        let point : Int := all.length + last
        if -4 < point && point ≤ 16 then positional digits point
        else scientific digits (point - 1)
    String.ofList (if negative then '-' :: text else text)
  | x => x.special

end Binary64

end StrictTransport
