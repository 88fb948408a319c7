import StrictTransport.Numeric.Binary64
import StrictTransport.Text.Basic
import StrictTransport.Text.Utf8

namespace StrictTransport.Resolver

-- An error that a resolver is not expected to raise: its text, and whether it can be reported. The
-- end of the time for one server cannot, if it does not tell how much time that was.
structure Mishap where
  message : String
  reportable : Bool := true
  deriving DecidableEq, Repr

instance : Coe String Mishap :=
  ⟨fun message => { message }⟩

inductive Failure where
  | noName
  | noAnswer
  | noServers
  | nameTooLong
  -- The time for the whole answer ran out; how much time, is not always known.
  | expired (seconds : Option Binary64)
  | timedOut (seconds : Binary64)
  | noTimeLimit
  | timeLimitTooLarge
  -- The time ran out, and how often to ask again is not known.
  | noRetryCount
  -- Asking again would nest too many calls.
  | tooDeep
  | other (mishap : Mishap)
  deriving DecidableEq, Repr

namespace Failure

def message : Failure → String
  | noName => "The DNS query name does not exist."
  | noAnswer => "The DNS response does not contain an answer to the question."
  | noServers => "All nameservers failed to answer the query."
  | nameTooLong => "The DNS query name is too long after DNAME substitution."
  | expired (some seconds) =>
    s!"The resolution lifetime expired after {seconds.fixed 3} seconds: "
  | expired none => "The resolution lifetime expired."
  | timedOut seconds => s!"The DNS operation timed out after {seconds.fixed 3} seconds"
  | noTimeLimit => "float() argument must be a string or a real number, not 'list'"
  | timeLimitTooLarge => "int too large to convert to float"
  | tooDeep => "maximum recursion depth exceeded"
  | noRetryCount => "'>' not supported between instances of 'int' and 'list'"
  | other mishap => mishap.message

def isAbsence : Failure → Bool
  | noName | noAnswer => true
  | _ => false

-- The failure as it is reported, with times to one decimal place. An expiry of unknown time cannot
-- be reported, and some mishaps cannot.
def reported? : Failure → Option Failure
  | expired (some seconds) => some (expired (some seconds.roundTenth))
  | expired none => none
  | timedOut seconds => some (timedOut seconds.roundTenth)
  | other mishap => if mishap.reportable then some (other mishap) else none
  | f => some f

end Failure

inductive Answer where
  | chunked (records : List (List Bytes))
  | texts (records : List String)
  deriving DecidableEq, Repr

def chunkText (chunks : List Bytes) : String :=
  match Text.Utf8.decode? chunks.flatten with
  | some cs => String.ofList cs
  | none => "Undecodable characters"

-- The texts of the records of an answer. A record without chunks has none, and the dots at the end
-- of other records are left out.
def Answer.strings : Answer → List String
  | chunked records => (records.filter fun chunks => !chunks.isEmpty).map chunkText
  | texts records => records.map withoutFinalDots

end StrictTransport.Resolver
