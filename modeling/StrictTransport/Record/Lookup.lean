import StrictTransport.Record.Parsing
import StrictTransport.Resolver.Query

namespace StrictTransport.Record

variable {σ : Type}

-- Only failures of the resolver that do not tell how much time ran out cannot be reported.
inductive SearchFault where
  | noDomain
  | noRecord
  | resolver (failure : Resolver.Failure)
  | wrongPlace (target domain : String)
  | several
  | malformed (fault : Fault)
  | unreportable
  deriving DecidableEq, Repr

namespace SearchFault

def message : SearchFault → String
  | noDomain => "The domain does not exist."
  | noRecord => "An MTA-STS DNS record does not exist."
  | resolver failure => failure.message
  | wrongPlace target domain => s!"The MTA-STS record must be located at {target}, not {domain}."
  | several => "Multiple MTA-STS records are not permitted."
  | malformed fault => fault.message defaultMarker
  | unreportable => "'timeout'"

def ofFailure (failure : Resolver.Failure) : SearchFault :=
  failure.reported?.elim unreportable resolver

end SearchFault

def announces (text : String) : Bool :=
  "v=STSv1".toList.isPrefixOf text.toList

def target (domain : String) : String :=
  s!"_mta-sts.{domain}"

def select (texts : List String) : Except SearchFault String :=
  match texts.filter announces with
  | [] => .error .noRecord
  | [text] => .ok text
  | _ => .error .several

def absence (domain : String) : Except Resolver.Failure (List String) → SearchFault
  | .ok texts => if texts.any announces then .wrongPlace (target domain) domain else .noRecord
  | .error .noAnswer => .noRecord
  | .error .noName => .noDomain
  | .error failure => .ofFailure failure

-- A record stands under a name of its own below the domain. If there is nothing at all, one at the
-- domain itself is a mistake worth telling.
def search (o : Outside σ) (options : Resolver.Options) (domain : String) (w : World σ) :
    Except SearchFault String × World σ :=
  let domain := Domain.normalize domain
  match Resolver.query o options true (target domain) "TXT" w with
  | (.ok texts, w) => (select texts, w)
  | (.error failure, w) =>
    if failure.isAbsence then
      let (atDomain, w) := Resolver.query o options true domain "TXT" w
      (.error (absence domain atDomain), w)
    else
      (.error (.ofFailure failure), w)

def find (o : Outside σ) (options : Resolver.Options) (domain : String) (w : World σ) :
    Except SearchFault Record × World σ :=
  let domain := Domain.normalize domain
  match search o options domain w with
  | (.error fault, w) => (.error fault, w)
  | (.ok text, w) =>
    match parse text with
    | .error fault => (.error (.malformed fault), w)
    | .ok parsed =>
      (.ok ⟨some domain, text⟩, w.note (parsed.warnings.map (.recordWarning domain)))

end StrictTransport.Record
