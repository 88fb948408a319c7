import StrictTransport.Notice
import StrictTransport.Text.Basic
import StrictTransport.Text.Quoted
import StrictTransport.Text.Utf8

namespace StrictTransport.Https

-- The certificates that a host presented, or why they cannot be read. A socket or a certificate
-- that is at fault breaks the chain; any other fault is a crash.
inductive Chain where
  | present (count : Nat)
  | broken (reason : String)
  | crash (message : String)
  deriving DecidableEq, Repr

def Chain.count : Chain → Nat × List Notice
  | .present n => (n, [])
  | .broken reason | .crash reason => (0, [.chainUnavailable reason])

-- A request that failed has a response too: its code is 0, and it tells the error.
structure Response where
  code : Int
  message : String
  headers : List (String × String)
  body : Option Bytes
  handshake : Bool
  certificates : Chain
  truncated : Bool
  error : Option String
  deriving DecidableEq, Repr

namespace Response

def failed (error : String) : Response :=
  ⟨0, "", [], some [], false, .present 0, false, some error⟩

def isSuccessful (r : Response) : Bool :=
  200 ≤ r.code && r.code < 300

-- The case of names does not matter, and a later header replaces an earlier one.
def header? (r : Response) (name : String) : Option String :=
  (r.headers.reverse.find? fun header => lowered header.1 == lowered name).map Prod.snd

def bytes (r : Response) : Bytes :=
  r.body.getD []

def describe (r : Response) : String :=
  let handshake := if r.handshake then "True" else "False"
  let error := r.error.elim "None" quoted
  s!"HttpsResponse(code={r.code}, message={quoted r.message}, handshake={handshake}, error={error})"

end Response

-- A negative number counts from the end.
def cut (limit : Int) (bytes : Bytes) : Bytes :=
  if 0 ≤ limit then bytes.take limit.toNat else bytes.take (bytes.length - limit.natAbs)

end StrictTransport.Https
