import StrictTransport.Https.Client
import StrictTransport.Numeric.Decimal
import StrictTransport.Numeric.Integer
import StrictTransport.Policy.Validation

namespace StrictTransport

def version : String := "1.0.0"

def userAgent (system release : String) : String :=
  s!"Mozilla/5.0 (({system} {release})) mtasts/{version}"

structure Settings where
  cacheSize : Int
  cacheMaxAge : Int
  answerCacheSize : Int
  answerCacheMaxAge : Int
  timeout : Binary64
  limits : Limits
  deriving DecidableEq, Repr

namespace Settings

inductive Fault where
  | integer (fault : Integer.Fault)
  | decimal (fault : Decimal.Fault)
  deriving DecidableEq, Repr

def Fault.message : Fault → String
  | integer fault => fault.message
  | decimal fault => fault.message

def integer (env : List (String × String)) (name : String) (usual : Int) : Except Fault Int :=
  match env.lookup name with
  | none => .ok usual
  | some text => (Integer.read text).mapError .integer

def decimal (env : List (String × String)) (name : String) (usual : Binary64) :
    Except Fault Binary64 :=
  match env.lookup name with
  | none => .ok usual
  | some text => (Decimal.read text).mapError .decimal

-- The answer cache follows the cache in what it is not told. Of several faults the first counts.
def read (env : List (String × String)) : Except Fault Settings := do
  let usual := Limits.standard
  let cacheSize ← integer env "CACHE_MAX_LEN" 200000
  let cacheMaxAge ← integer env "CACHE_MAX_AGE_SECONDS" 1800
  let answerCacheSize ← integer env "DNS_CACHE_MAX_LEN" cacheSize
  let answerCacheMaxAge ← integer env "DNS_CACHE_MAX_AGE_SECONDS" cacheMaxAge
  let timeout ← decimal env "MTASTS_HTTP_TIMEOUT" Https.Client.defaultTimeout
  let minAge ← integer env "MTASTS_POLICY_MIN_AGE" usual.minAge
  let softMinAge ← integer env "MTASTS_POLICY_SOFT_MIN_AGE" usual.softMinAge
  let maxAge ← integer env "MTASTS_POLICY_MAX_AGE" usual.maxAge
  let lineLength ← integer env "MTASTS_MAX_LINE_LENGTH" usual.lineLength
  let bodySize ← integer env "MTASTS_MAX_BODY_SIZE" usual.bodySize
  return {
    cacheSize, cacheMaxAge, answerCacheSize, answerCacheMaxAge, timeout
    limits := ⟨minAge, softMinAge, maxAge, lineLength, bodySize⟩
  }

end Settings

end StrictTransport
