namespace StrictTransport.Text

-- What a text from outside is made of: characters, and halves of surrogate pairs that stand alone.
-- No encoding has a form for such a half.
inductive CodePoint where
  | scalar (c : Char)
  | surrogate (half : Fin 0x800)
  deriving DecidableEq, Repr

def CodePoint.char? : CodePoint → Option Char
  | scalar c => some c
  | surrogate _ => none

def codePoints (s : String) : List CodePoint :=
  s.toList.map .scalar

-- The string that a text is, if it is made of characters alone.
def string? (text : List CodePoint) : Option String :=
  (text.mapM CodePoint.char?).map String.ofList

end StrictTransport.Text
