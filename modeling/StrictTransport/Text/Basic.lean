import StrictTransport.Text.Blank
import StrictTransport.Text.Lower
import StrictTransport.Text.Upper

namespace StrictTransport

def Text.onString (f : List Char → List Char) (s : String) : String :=
  String.ofList (f s.toList)

def trimmed (s : String) : String :=
  Text.onString Text.trim s

def lowered (s : String) : String :=
  Text.onString Text.lower s

def uppered (s : String) : String :=
  Text.onString Text.upper s

def withoutFinalDots (s : String) : String :=
  Text.onString (Text.dropEndWhile (· == '.')) s

end StrictTransport
