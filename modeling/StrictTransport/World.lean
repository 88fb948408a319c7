import StrictTransport.Https.Response
import StrictTransport.Notice
import StrictTransport.Numeric.Seconds
import StrictTransport.Resolver.Answer
import StrictTransport.Resolver.Cache

namespace StrictTransport

-- A resolver that is set up for the question gets servers, if they are given, and time limits.
structure Resolver.Question where
  name : String
  type : String
  lifetime : Seconds
  servers : Option (List String)
  limits : Option Seconds
  deriving DecidableEq, Repr

namespace Https

structure Request where
  url : String
  timeout : Seconds
  verify : Bool
  deriving DecidableEq, Repr

-- Only a crash is not made a response.
inductive Failure where
  | tls (message : String)
  | timeout (message : String)
  | transport (message : String)
  | crash (message : String)
  deriving DecidableEq, Repr

-- A response as it arrives: the body in chunks, after which reading may fail.
structure Reply where
  url : String
  status : Int
  reason : Option String
  headers : List (String × String)
  chunks : List Bytes
  failure : Option Failure
  certificates : Chain
  deriving DecidableEq, Repr

end Https

-- A connection is closed after so many chunks have been taken.
structure Outside (σ : Type) where
  -- The clock. It is read off a state, so time passes while something is asked of the world and at
  -- no other moment: what a resolver has answered is remembered at the time of its answer.
  now : σ → Int
  -- How many calls can stand inside one another below the one that is made.
  depth : σ → Nat
  resolve : Resolver.Question → σ → Except Resolver.Failure Resolver.Answer × σ
  request : Https.Request → σ → Except Https.Failure Https.Reply × σ
  close : Nat → σ → σ

structure World (σ : Type) where
  state : σ
  answers : Resolver.Cache
  notices : List Notice

namespace World

variable {σ : Type}

def note (w : World σ) (notices : List Notice) : World σ :=
  { w with notices := w.notices ++ notices }

def now (o : Outside σ) (w : World σ) : Int :=
  o.now w.state

end World

end StrictTransport
