import StrictTransport.Check
import StrictTransport.CommandLine.Arguments
import StrictTransport.Settings

namespace StrictTransport.CommandLine

open Text

variable {σ : Type}

inductive Entry where
  | absent
  | directory
  | file (bytes : Bytes)
  deriving DecidableEq, Repr

inductive FileFault where
  | isDirectory
  -- What the path takes for a directory is a file.
  | notDirectory
  | missing
  | nameTooLong
  -- No file can have such a name.
  | badName
  | notText
  deriving DecidableEq, Repr

structure Files (σ : Type) where
  entry : String → σ → Entry
  write : String → String → σ → Except FileFault Unit × σ

inductive Break where
  | file (fault : FileFault)
  | check (fault : Check.Fault)

structure Ending where
  result : Except Break Nat
  printed : String

-- Characters at the end of a line of a list of domains that do not belong to the domain.
def isLineEnd (c : Char) : Bool :=
  c == '.' || c == '\r' || c == '\n'

def domainOfLine (line : List Char) : String :=
  String.ofList ((lower (trim (dropEndWhile isLineEnd line))).takeWhile (· != ','))

def linesOf (cs : List Char) : List (List Char) :=
  splitOn '\n' (join ['\n'] (splitOn '\r' (join ['\n'] (splitOnPair '\r' '\n' cs))))

-- Each domain once, in order. What has no dot is no domain.
def domainsOfList (cs : List Char) : List String :=
  let all := ((linesOf cs).map domainOfLine).filter fun domain => domain.contains '.'
  (all.mergeSort (· ≤ ·)).eraseReps

def domainsOfWords (files : Files σ) (words : List String) (state : σ) :
    Except FileFault (List String) :=
  match words with
  | [path] =>
    match files.entry path state with
    | .absent => .ok words
    | .directory => .error .isDirectory
    | .file bytes =>
      match Utf8.decode? bytes with
      | none => .error .notText
      | some cs => .ok (domainsOfList cs)
  | _ => .ok words

-- Without a time limit no record is found, so that it does not matter what a host gets.
def Arguments.setting (arguments : Arguments) : Check.Setting :=
  let trust := if arguments.insecure then Https.Trust.permissive else .system
  let timeout := arguments.timeout.getD Https.Client.defaultTimeout
  ⟨⟨trust, .real timeout, none⟩, Limits.standard,
    ⟨arguments.nameservers, arguments.timeout.map .real, arguments.retries, false⟩⟩

def checkAll (o : Outside σ) (arguments : Arguments) :
    (reports : List Check.Report) → List String → Store → World σ →
      Except Check.Fault (List Check.Report) × World σ
  | reports, [], _, w => (.ok reports.reverse, w)
  | reports, domain :: rest, s, w =>
    match Check.run o arguments.setting (arguments.mx.getD []) arguments.checkMx domain s w with
    | (.error fault, _, w) => (.error fault, w)
    | (.ok report, s, w) => checkAll o arguments (report :: reports) rest s w

-- A single report stands for itself.
def resultOf (reports : List Check.Report) : Json :=
  match reports with
  | [report] => report.toJson
  | _ => .arr (reports.map Check.Report.toJson)

def isOutputPath (path : String) : Bool :=
  ".json".toList.isSuffixOf (lowered path).toList

-- Paths that are not for results are passed over.
def writeAll (files : Files σ) (text : String) : List String → World σ →
    Except FileFault Unit × World σ
  | [], w => (.ok (), w)
  | path :: rest, w =>
    if isOutputPath path then
      match files.write path text w.state with
      | (.error fault, state) => (.error fault, { w with state })
      | (.ok (), state) => writeAll files text rest { w with state }
    else
      writeAll files text rest (w.note [.outputName path])

def runCheck (o : Outside σ) (files : Files σ) (arguments : Arguments) (w : World σ) :
    Ending × World σ :=
  match domainsOfWords files arguments.domains w.state with
  | .error fault => (⟨.error (.file fault), ""⟩, w)
  | .ok domains =>
    match checkAll o arguments [] domains Store.empty w with
    | (.error fault, w) => (⟨.error (.check fault), ""⟩, w)
    | (.ok reports, w) =>
      let text := (resultOf reports).pretty
      match arguments.output with
      | none => (⟨.ok 0, text ++ "\n"⟩, w)
      | some paths =>
        match writeAll files text paths w with
        | (.error fault, w) => (⟨.error (.file fault), ""⟩, w)
        | (.ok (), w) => (⟨.ok 0, ""⟩, w)

def usage : String :=
  "usage: strict-transport [-h] [--mx MX [MX ...]] [--check-mx] [-o OUTPUT [OUTPUT ...]]\n" ++
    "              [-n NAMESERVER [NAMESERVER ...]] [-t TIMEOUT]\n" ++
    "              [--timeout-retries TIMEOUT_RETRIES] [--insecure] [-v] [--debug]\n" ++
    "              domain [domain ...]\n"

-- A command line that cannot be used ends with exit code 2.
def run (o : Outside σ) (files : Files σ) (words : List String) (w : World σ) :
    Ending × World σ :=
  match parse words with
  | .error _ => (⟨.ok 2, ""⟩, w)
  | .ok .help => (⟨.ok 0, usage⟩, w)
  | .ok .version => (⟨.ok 0, version ++ "\n"⟩, w)
  | .ok (.check arguments) => runCheck o files arguments w

end StrictTransport.CommandLine
