import StrictTransport.Domain.Name
import StrictTransport.World

namespace StrictTransport.Resolver

variable {σ : Type}

structure Options where
  servers : Option (List String)
  timeout : Option Seconds
  retries : Option Int
  -- Whether the resolver is set up already and left as it is.
  prepared : Bool
  deriving DecidableEq, Repr

def Options.standard : Options := ⟨none, some (.real (.ofInt 2)), some 2, false⟩

-- A resolver that is set up for the question is told the time as a floating-point number.
def Options.question (options : Options) (name type : String) : Except Failure Question :=
  match options.timeout with
  | none => .error .noTimeLimit
  | some timeout =>
    if options.prepared then .ok ⟨name, type, timeout, none, none⟩
    else
      match timeout.toReal? with
      | none => .error .timeLimitTooLarge
      | some time => .ok ⟨name, type, .real time, options.servers, some (.real time)⟩

def Options.expiry (options : Options) (seconds : Option Binary64) : Failure :=
  if options.retries.isNone then .noRetryCount else .expired seconds

-- Without `remember` nothing is remembered.
def remembered (o : Outside σ) (remember : Bool) (key : String) (w : World σ) :
    Option (List String) × World σ :=
  if remember then
    let (records, answers) := w.answers.get? (w.now o) key
    (records, { w with answers })
  else
    (none, w)

def keep (o : Outside σ) (remember : Bool) (key : String) (records : List String) (w : World σ) :
    World σ :=
  if remember then { w with answers := w.answers.insert (w.now o) key records } else w

def ask (o : Outside σ) (question : Except Failure Question) (w : World σ) :
    Except Failure Answer × World σ :=
  match question with
  | .error failure => (.error failure, w)
  | .ok question =>
    let (result, state) := o.resolve question w.state
    (result, { w with state })

-- As long as `retries` are left, the question is asked again when its time has run out, each time
-- in a call inside the one before.
def queryFrom (o : Outside σ) (options : Options) (remember : Bool) :
    (depth retries : Nat) → (name type : String) → World σ →
      Except Failure (List String) × World σ
  | depth, retries, name, type, w =>
    let name := Domain.normalize name
    let type := uppered type
    let key := Cache.key name type
    match remembered o remember key w with
    | (some records, w) => (.ok records, w)
    | (none, w) =>
      match ask o (options.question name type) w with
      | (.ok answer, w) => (.ok answer.strings, keep o remember key answer.strings w)
      | (.error (.expired seconds), w) =>
        match depth, retries with
        | _, 0 => (.error (options.expiry seconds), w)
        | 0, _ + 1 => (.error .tooDeep, w)
        | depth + 1, retries + 1 => queryFrom o options remember depth retries name type w
      | (.error failure, w) => (.error failure, w)

def query (o : Outside σ) (options : Options) (remember : Bool) (name type : String)
    (w : World σ) : Except Failure (List String) × World σ :=
  queryFrom o options remember (o.depth w.state) (options.retries.getD 0).toNat name type w

end StrictTransport.Resolver
