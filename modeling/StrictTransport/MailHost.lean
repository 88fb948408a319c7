import StrictTransport.Numeric.Integer
import StrictTransport.Resolver.Query

namespace StrictTransport

structure MailHost where
  preference : Int
  name : String
  deriving DecidableEq, Repr

namespace MailHost

open Text

variable {σ : Type}

inductive Fault where
  | noDomain
  | resolver (failure : Resolver.Failure)
  | badPreference (fault : Integer.Fault)
  | noName
  | unreportable
  deriving DecidableEq, Repr

def Fault.message : Fault → String
  | noDomain => "The domain does not exist."
  | resolver failure => failure.message
  | badPreference fault => fault.message
  | noName => "list index out of range"
  | unreportable => "'timeout'"

-- A preference, a blank and a name.
def read (text : String) : Except Fault MailHost :=
  let fields := words text.toList
  match Integer.read (String.ofList (fields.headD [])) with
  | .error fault => .error (.badPreference fault)
  | .ok preference =>
    match fields.drop 1 with
    | [] => .error .noName
    | name :: _ =>
      .ok ⟨preference, lowered (trimmed (withoutFinalDots (String.ofList name)))⟩

def le (a b : MailHost) : Bool :=
  a.preference < b.preference || (a.preference == b.preference && a.name ≤ b.name)

-- The one record of a domain that takes no mail.
def nullRecord : String := "0 "

def ofTexts (texts : List String) : Except Fault (List MailHost) :=
  if texts = [nullRecord] then .ok []
  else (texts.mapM read).map fun hosts => hosts.mergeSort le

def search (o : Outside σ) (options : Resolver.Options) (domain : String) (w : World σ) :
    Except Fault (List MailHost) × World σ :=
  match Resolver.query o options true domain "MX" w with
  | (.ok texts, w) => (ofTexts texts, w)
  | (.error .noAnswer, w) => (.ok [], w)
  | (.error .noName, w) => (.error .noDomain, w)
  | (.error failure, w) => (.error (failure.reported?.elim .unreportable .resolver), w)

end MailHost

end StrictTransport
