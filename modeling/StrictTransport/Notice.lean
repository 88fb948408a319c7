namespace StrictTransport

inductive Level where
  | warning
  | error
  deriving DecidableEq, Repr

def Level.name : Level → String
  | warning => "WARNING"
  | error => "ERROR"

-- Something that the person who runs the library should know.
inductive Notice where
  | malformedAge (value : String)
  | unreadableFetchTime
  | chainUnavailable (reason : String)
  | recordWarning (domain warning : String)
  | keptCached (domain : String)
  | discarded (domain reason : String)
  | outputName (path : String)
  deriving DecidableEq, Repr

namespace Notice

def level : Notice → Level
  | malformedAge _ | unreadableFetchTime | chainUnavailable _ | outputName _ => .error
  | recordWarning .. | keptCached _ | discarded .. => .warning

def text : Notice → String
  | malformedAge value =>
    s!"max_age: '{value}' is in wrong format. Default policy min age is being used"
  | unreadableFetchTime => "Policy fetch_time invalid"
  | chainUnavailable reason => s!"Handshake certificate chain not found: {reason}"
  | recordWarning domain warning => s!"{domain}: {warning}"
  | keptCached domain => s!"Fetched policy for {domain} is invalid; using the cached policy"
  | discarded domain reason => s!"Discarding cached policy for {domain}: {reason}"
  | outputName path => s!"Output path {path} must end in .json"

end Notice

end StrictTransport
