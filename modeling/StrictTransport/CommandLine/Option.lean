import StrictTransport.Text.Digit
import StrictTransport.Domain.Name

namespace StrictTransport.CommandLine

open Text

inductive Flag where
  | help
  | mx
  | checkMx
  | output
  | nameserver
  | timeout
  | retries
  | insecure
  | version
  | debug
  deriving DecidableEq, Repr

inductive Arity where
  | none
  | one
  | many
  deriving DecidableEq, Repr

def Flag.arity : Flag → Arity
  | mx | output | nameserver => .many
  | timeout | retries => .one
  | help | checkMx | insecure | version | debug => .none

def spellings : List (String × Flag) :=
  [
    ("-h", .help), ("--help", .help), ("--mx", .mx), ("--check-mx", .checkMx), ("-o", .output),
    ("--output", .output), ("-n", .nameserver), ("--nameserver", .nameserver), ("-t", .timeout),
    ("--timeout", .timeout), ("--timeout-retries", .retries), ("--insecure", .insecure),
    ("-v", .version), ("--version", .version), ("--debug", .debug)
  ]

def spelled? (text : List Char) : Option Flag :=
  spellings.lookup (String.ofList text)

inductive Fault where
  | ambiguous (word : String)
  | surplusWords
  | surplusValue (flag : Flag)
  | missingValue (flag : Flag)
  | badNumber (flag : Flag)
  | noDomain
  deriving DecidableEq, Repr

-- What stands in the word of an option beside the option: nothing, a value behind a long option, or
-- what follows a short one: a value, or the letters of more options.
inductive Tie where
  | untied
  | value (text : List Char)
  | letters (text : List Char)
  deriving DecidableEq, Repr

inductive Word where
  | plain (text : String)
  | option (flag : Flag) (tie : Tie)
  | unknown (text : String)
  | separator
  deriving DecidableEq, Repr

-- Whether a text is a negative number: a hyphen and digits, with or without a point.
def isNegativeNumber (text : List Char) : Bool :=
  match Domain.withoutLineEnd text with
  | '-' :: rest =>
    let isDigit := fun c => (digitValue? c).isSome
    let digits := rest.dropWhile isDigit
    match digits with
    | [] => !rest.isEmpty
    | '.' :: fraction => !fraction.isEmpty && fraction.all isDigit
    | _ => false
  | _ => false

def splitEquals (text : List Char) : List Char × Option (List Char) :=
  match text.dropWhile (· != '=') with
  | _ :: value => (text.takeWhile (· != '='), some value)
  | [] => (text, none)

def isLong (text : List Char) : Bool :=
  ['-', '-'].isPrefixOf text

def tie (name : List Char) : Option (List Char) → Tie
  | none => .untied
  | some value => if isLong name then .value value else .letters value

-- The options that a word with hyphens can stand for, when it is no spelling of one: a long one may
-- be cut short, and the value of a short one may follow it at once.
def candidates (text : List Char) : List Word :=
  if isLong text then
    let (name, value) := splitEquals text
    (spellings.filter fun s => name.isPrefixOf s.1.toList).map fun s => .option s.2 (tie name value)
  else
    match spelled? (text.take 2) with
    | some flag => [.option flag (.letters (text.drop 2))]
    | none => []

def Word.read (word : String) : Except Fault Word :=
  let text := word.toList
  match text with
  | '-' :: _ :: _ =>
    match spelled? text, splitEquals text with
    | some flag, _ => .ok (.option flag .untied)
    | none, (name, value) =>
      match if value.isNone then none else spelled? name with
      | some flag => .ok (.option flag (tie name value))
      | none =>
        match candidates text with
        | [] =>
          .ok (if isNegativeNumber text || text.contains ' ' then .plain word else .unknown word)
        | [found] => .ok found
        | _ => .error (.ambiguous word)
  | _ => .ok (.plain word)

-- Behind a separator nothing is an option.
def readWords : List String → Except Fault (List Word)
  | [] => .ok []
  | word :: rest =>
    if word == "--" then .ok (.separator :: rest.map .plain)
    else
      match Word.read word with
      | .error fault => .error fault
      | .ok w => (readWords rest).map (w :: ·)

end StrictTransport.CommandLine
