import StrictTransport.Text.Quoted

namespace StrictTransport

structure Limits where
  -- The least age of a policy that is enforced, and the age of one whose age is unreadable.
  minAge : Int
  softMinAge : Int
  maxAge : Int
  lineLength : Int
  bodySize : Int
  deriving DecidableEq, Repr

def Limits.standard : Limits := ⟨86400, 3600, 31557600, 1000, 65536⟩

def mediaType : String := "text/plain"

inductive Problem where
  | noResponse
  | requestFailed (reason : String)
  | badStatus (code : Int) (message : String)
  | notTls
  | longLine (number : Nat) (limit : Int)
  | badLine (number : Nat) (text : String)
  | badAge (value : String)
  | missingKey (key : String)
  | other (text : String)
  deriving DecidableEq, Repr

-- A whole number of more than `Integer.digitLimit` digits has no text. None is told: ages have up to
-- ten digits, lines and bodies have fewer bytes, and limits are read from texts.
def Problem.text : Problem → String
  | noResponse => "No policy response"
  | requestFailed reason => s!"Policy request failed: {reason}"
  | badStatus code message => s!"Policy request returned HTTP {code} {message}"
  | notTls => "Policy was not retrieved over a TLS connection"
  | longLine number limit => s!"Line {number}: Longer than {limit} bytes"
  | badLine number text => s!"Line {number}: Not a key: value pair: {text}"
  | badAge value => s!"Invalid max_age: {value}"
  | missingKey key => s!"Missing required key: {key}"
  | other text => text

inductive Caution where
  | noContentType
  | contentType (found : String)
  | truncated (limit : Int)
  | duplicateKey (key : String)
  | badMode (value : String)
  | aboveMaxAge (age limit : Int)
  | belowMinAge (age limit : Int)
  | belowSoftMinAge (age limit : Int)
  | other (text : String)
  deriving DecidableEq, Repr

def Caution.text : Caution → String
  | noContentType => s!"The Content-Type header is missing. It should be set to {mediaType}"
  | contentType found => s!"Content-Type header should be {mediaType} not {found}"
  | truncated limit => s!"Policy body truncated to {limit} bytes"
  | duplicateKey key => s!"Duplicate key: {key}"
  | badMode value => s!"Invalid mode: {value}"
  | aboveMaxAge age limit => s!"Max age more than config max: {age} > {limit}"
  | belowMinAge age limit => s!"Max age less than config min: {age} < {limit}"
  | belowSoftMinAge age limit => s!"Max age less than config soft min: {age} < {limit}"
  | other text => text

-- A problem makes a policy unusable, a caution does not.
structure Validation where
  problems : List Problem
  cautions : List Caution
  deriving DecidableEq, Repr

namespace Validation

def empty : Validation := ⟨[], []⟩

def append (a b : Validation) : Validation :=
  ⟨a.problems ++ b.problems, a.cautions ++ b.cautions⟩

instance : Append Validation := ⟨append⟩

def errors (v : Validation) : List String :=
  v.problems.map Problem.text

def warnings (v : Validation) : List String :=
  v.cautions.map Caution.text

def ok (v : Validation) : Bool :=
  v.problems.isEmpty

def describe (v : Validation) : String :=
  s!"PolicyValidation(errors={quotedList v.errors}, warnings={quotedList v.warnings})"

end Validation

end StrictTransport
