import StrictTransport.Text.Basic

namespace StrictTransport

inductive Mode where
  | none
  | testing
  | enforce
  deriving DecidableEq, Repr

namespace Mode

def name : Mode → String
  | none => "none"
  | testing => "testing"
  | enforce => "enforce"

def read? (text : String) : Option Mode :=
  let text := lowered (trimmed text)
  if text == "none" then some none
  else if text == "testing" then some testing
  else if text == "enforce" then some enforce
  else Option.none

end Mode

end StrictTransport
