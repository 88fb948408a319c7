import StrictTransport.Https.Client
import StrictTransport.MailHost
import StrictTransport.Policy.Retrieval
import StrictTransport.Record.Lookup
import StrictTransport.Store.Fetch

namespace StrictTransport.Check

variable {σ : Type}

structure Setting where
  client : Https.Client
  limits : Limits
  options : Resolver.Options

inductive Fault where
  | record (fault : Record.SearchFault)
  | hosts (fault : MailHost.Fault)
  | fetch (failure : Store.Failure String)

-- Past the store. The error is the message of a crash.
def fetchPolicy (o : Outside σ) (client : Https.Client) (limits : Limits)
    (record? : Option Record) (w : World σ) : Except String Policy × World σ :=
  match client.get o limits.bodySize record? w with
  | (.error message, w) => (.error message, w)
  | (.ok response?, w) =>
    let (p, notices) := Policy.ofResponse limits (w.now o) response? record?
    (.ok p, w.note notices)

def fetcher (o : Outside σ) (client : Https.Client) (limits : Limits) :
    Store.Fetch σ String :=
  fun record? w =>
    let (result, w) := fetchPolicy o client limits record? w
    (result.map some, w)

def getPolicy (o : Outside σ) (setting : Setting) (domain : String) (s : Store) (w : World σ) :
    Except Fault (Option Policy) × Store × World σ :=
  match Record.find o setting.options (Domain.normalize domain) w with
  | (.error .unreportable, w) => (.error (.record .unreportable), s, w)
  | (.error _, w) => (.ok none, s, w)
  | (.ok record, w) =>
    match Store.getOrFetch o (fetcher o setting.client setting.limits) (some record) s w with
    | (.error failure, s, w) => (.error (.fetch failure), s, w)
    | (.ok given, s, w) => (.ok given.policy, s, w)

-- What a check finds: no record, or a policy as it stands at a time, why the hosts of the domain
-- are not known, and for each host whether mail may go to it.
inductive Report where
  | absent (domain : String)
  | found (policy : Policy) (now : Int) (fault : Option MailHost.Fault)
      (hosts : List (String × Bool))

-- Told behind the warnings of the policy itself.
def withWarning (p : Policy) (fault : Option MailHost.Fault) : Json :=
  .strings (p.validation.warnings ++
    fault.toList.map fun fault => s!"Unable to check MX hosts: {fault.message}")

-- A host that is named twice is told once.
def Report.toJson : Report → Json
  | absent domain =>
    .obj [
      ("domain", .str domain), ("valid", .bool false),
      ("error", .str "An MTA-STS DNS record does not exist.")
    ]
  | found p now fault hosts =>
    let members := Json.setMember (p.members now) "warnings" (withWarning p fault)
    .obj (if hosts.isEmpty then members
      else members ++ [("mx_matches", .obj (hosts.foldl
        (fun told (host, allowed) => Json.setMember told host (.bool allowed)) []))])

def hostNames (o : Outside σ) (options : Resolver.Options) (wanted : Bool) (domain : String)
    (w : World σ) : Except MailHost.Fault (List String) × World σ :=
  if wanted then
    let (hosts, w) := MailHost.search o options domain w
    (hosts.map fun hosts => hosts.map MailHost.name, w)
  else
    (.ok [], w)

def run (o : Outside σ) (setting : Setting) (hosts : List String) (checkHosts : Bool)
    (domain : String) (s : Store) (w : World σ) : Except Fault Report × Store × World σ :=
  let domain := Domain.normalize domain
  match getPolicy o setting domain s w with
  | (.error fault, s, w) => (.error fault, s, w)
  | (.ok none, s, w) => (.ok (.absent domain), s, w)
  | (.ok (some p), s, w) =>
    let report := fun fault names =>
      Report.found p (w.now o) fault (names.map fun host => (host, p.allows host))
    match hostNames o setting.options checkHosts domain w with
    | (.error .unreportable, w) => (.error (.hosts .unreportable), s, w)
    | (.error fault, w) => (.ok (report (some fault) hosts), s, w)
    | (.ok names, w) => (.ok (report none (hosts ++ names)), s, w)

end StrictTransport.Check
