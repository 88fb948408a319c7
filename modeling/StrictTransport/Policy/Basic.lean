import StrictTransport.Json
import StrictTransport.Policy.Document
import StrictTransport.Policy.Mask
import StrictTransport.Policy.Mode
import StrictTransport.Record.Basic

namespace StrictTransport

structure Policy where
  version : Option String
  mode : Mode
  masks : List String
  maxAge : Int
  fetchTime : Int
  record : Option Record
  certificates : Nat
  body : Bytes
  validation : Validation
  cached : Bool
  deriving DecidableEq, Repr

namespace Policy

def text (p : Policy) : String :=
  Document.text p.body

-- Whether a policy can be applied: nothing is wrong with it, and it asks for something, of some
-- hosts, for some time.
def isValid (p : Policy) : Bool :=
  p.validation.ok && p.mode != .none && 0 < p.maxAge && !p.masks.isEmpty

def isExpired (p : Policy) (now : Int) : Bool :=
  p.fetchTime + p.maxAge ≤ now

-- A policy that is tested lets mail go anywhere.
def allows (p : Policy) (host : String) : Bool :=
  p.mode == .testing ||
    p.masks.any fun mask => Mask.covers mask.toList (withoutFinalDots host).toList

def asCached (p : Policy) : Policy :=
  { p with cached := true }

def line (key value : String) : String :=
  s!"{key}: {value}\r\n"

-- The policy's pairs, and those that tell its fetch time and record.
def extended (p : Policy) : String :=
  let version := p.version.elim "" (line "version")
  let masks := String.join (p.masks.map (line "mx"))
  let identity := match p.record with
    | some record => line "domain" (record.domain.getD "None") ++ line "record_id" record.token
    | none => ""
  version ++ line "mode" p.mode.name ++ masks ++ line "max_age" (toString p.maxAge) ++
    line "fetch_time" (toString p.fetchTime) ++ identity

def members (p : Policy) (now : Int) : List (String × Json) :=
  [
    ("valid", .bool p.isValid), ("version", .ofString? p.version), ("mode", .str p.mode.name),
    ("mx", .strings p.masks), ("max_age", .int p.maxAge), ("fetch_time", .int p.fetchTime),
    ("expired", .bool (p.isExpired now)), ("cached", .bool p.cached),
    ("errors", .strings p.validation.errors), ("warnings", .strings p.validation.warnings)
  ] ++ match p.record with
    | some record => [("domain", .ofString? record.domain), ("id", .str record.token)]
    | none => []

def toJson (p : Policy) (now : Int) : Json :=
  .obj (p.members now)

end Policy

end StrictTransport
