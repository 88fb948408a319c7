import StrictTransport.Numeric.Binary64

namespace StrictTransport

inductive Seconds where
  | whole (n : Int)
  | real (x : Binary64)
  deriving DecidableEq, Repr

namespace Seconds

-- A whole number can be too large for a floating-point number.
def toReal? : Seconds → Option Binary64
  | whole n =>
    match Binary64.ofInt n with
    | .infinite _ => none
    | x => some x
  | real x => some x

end Seconds

end StrictTransport
