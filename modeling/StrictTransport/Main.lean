import Std.Time.DateTime.Timestamp
import StrictTransport.CommandLine.Run

namespace StrictTransport.CommandLine

-- What the program sees of its machine: the time, the file under the first word of the command line
-- that can name one, and what it is going to write.
structure Machine where
  now : Int
  path : String
  entry : Entry
  written : List (String × String)

-- There is neither a resolver nor a transport: every question fails as if no server had answered, and
-- every request as if no host could be reached.
def Machine.outside : Outside Machine where
  now := Machine.now
  depth _ := 1000
  resolve _ m := (.error .noServers, m)
  request _ m := (.error (.transport "no transport"), m)
  close _ m := m

def Machine.files : Files Machine where
  entry path m := if path == m.path then m.entry else .absent
  write path text m := (.ok (), { m with written := m.written ++ [(path, text)] })

def listPath (words : List String) : String :=
  match parse words with
  | .ok (.check arguments) => arguments.domains.headD ""
  | _ => ""

def lookAt (path : String) : IO Entry := do
  if path.isEmpty then return .absent
  match ← (IO.FS.readBinFile path).toBaseIO with
  | .ok bytes => return .file bytes.toList
  | .error (.noFileOrDirectory ..) => return .absent
  | .error _ => return .directory

def Break.message : Break → String
  | .file .isDirectory => "Is a directory"
  | .file .notDirectory => "Not a directory"
  | .file .missing => "No such file or directory"
  | .file .nameTooLong => "File name too long"
  | .file .badName => "embedded null byte"
  | .file .notText => "The file is not text"
  | .check (.record fault) => fault.message
  | .check (.hosts fault) => fault.message
  | .check (.fetch (.fetch message)) => message
  | .check (.fetch .nothing) => "No policy"

def execute (words : List String) : IO UInt32 := do
  let now := (← Std.Time.Timestamp.now).toSecondsSinceUnixEpoch.val
  let path := listPath words
  let entry ← lookAt path
  let world : World Machine := ⟨⟨now, path, entry, []⟩, Resolver.Cache.standard, []⟩
  let (ending, world) := run Machine.outside Machine.files words world
  for notice in world.notices do
    IO.eprintln s!"{notice.level.name}: {notice.text}"
  for (path, text) in world.state.written do
    IO.FS.writeFile path text
  IO.print ending.printed
  match ending.result with
  | .ok code => return code.toUInt32
  | .error fault =>
    IO.eprintln fault.message
    return 1

end StrictTransport.CommandLine

def main (words : List String) : IO UInt32 :=
  StrictTransport.CommandLine.execute words
