import StrictTransport.CommandLine.Option
import StrictTransport.Numeric.Decimal
import StrictTransport.Numeric.Integer

namespace StrictTransport.CommandLine

open Text

-- What a command line asks for, when it asks for a check. The time limit and the number of retries
-- are missing if their options were given without a text.
structure Arguments where
  domains : List String
  mx : Option (List String)
  checkMx : Bool
  output : Option (List String)
  nameservers : Option (List String)
  timeout : Option Binary64
  retries : Option Int
  insecure : Bool
  deriving DecidableEq, Repr

def Arguments.standard : Arguments :=
  ⟨[], none, false, none, none, some (.ofInt 2), some 2, false⟩

inductive Request where
  | help
  | version
  | check (arguments : Arguments)
  deriving DecidableEq, Repr

abbrev Setting := Flag × List String

def leadingTexts : List Word → List String
  | .plain text :: rest => text :: leadingTexts rest
  | _ => []

-- Takes what belongs to an option from the words behind it, and says how many words that are.
def takeBehind (flag : Flag) (rest : List Word) : Except Fault (Setting × Nat) :=
  match flag.arity, leadingTexts rest with
  | .none, _ => .ok ((flag, []), 0)
  | _, [] => .error (.missingValue flag)
  | .one, text :: _ => .ok ((flag, [text]), 1)
  | .many, texts => .ok ((flag, texts), texts.length)

-- A separator in the place of a value is no text at all.
def takeValue (flag : Flag) (value : List Char) : Except Fault (List Setting × Nat) :=
  if flag.arity = .none then .error (.surplusValue flag)
  else if value = ['-', '-'] then .ok ([(flag, [])], 0)
  else .ok ([(flag, [String.ofList value])], 0)

-- Takes what belongs to the options that are written together in one short word: `flag`, and those
-- whose letters follow it. The first that takes words takes the rest of the word, if there is any.
def takeLetters (flag : Flag) (rest : List Word) : List Char → Except Fault (List Setting × Nat)
  | [] => (takeBehind flag rest).map fun (s, n) => ([s], n)
  | c :: more =>
    if flag.arity ≠ .none then takeValue flag (c :: more)
    else
      match spelled? ['-', c] with
      | none => .error (.surplusValue flag)
      | some next => (takeLetters next rest more).map fun (settings, n) => ((flag, []) :: settings, n)

def takeOption (flag : Flag) (tie : Tie) (rest : List Word) :
    Except Fault (List Setting × Nat) :=
  match tie with
  | .untied => (takeBehind flag rest).map fun (s, n) => ([s], n)
  | .value text => takeValue flag text
  | .letters [] => takeValue flag []
  | .letters text => takeLetters flag rest text

-- Asking for help or for the version ends the reading.
def apply (arguments : Arguments) (setting : Setting) : Except Fault (Arguments ⊕ Request) :=
  let (flag, texts) := setting
  match flag with
  | .help => .ok (.inr .help)
  | .version => .ok (.inr .version)
  | .mx => .ok (.inl { arguments with mx := some texts })
  | .checkMx => .ok (.inl { arguments with checkMx := true })
  | .output => .ok (.inl { arguments with output := some texts })
  | .nameserver => .ok (.inl { arguments with nameservers := some texts })
  | .timeout =>
    match texts.head?.mapM Decimal.read with
    | .ok timeout => .ok (.inl { arguments with timeout })
    | .error _ => .error (.badNumber flag)
  | .retries =>
    match texts.head?.mapM Integer.read with
    | .ok retries => .ok (.inl { arguments with retries })
    | .error _ => .error (.badNumber flag)
  | .insecure => .ok (.inl { arguments with insecure := true })
  | .debug => .ok (.inl arguments)

def applyAll (arguments : Arguments) : List Setting → Except Fault (Arguments ⊕ Request)
  | [] => .ok (.inl arguments)
  | setting :: rest =>
    match apply arguments setting with
    | .ok (.inl arguments) => applyAll arguments rest
    | other => other

def Word.text? : Word → Option String
  | .plain text => some text
  | _ => none

def Word.isLoose : Word → Bool
  | .plain _ | .separator => true
  | .option .. | .unknown _ => false

-- How far the reading has come: what is asked for, whether the domains have been named, and whether
-- there are words that belong nowhere.
structure Progress where
  arguments : Arguments
  named : Bool
  surplus : Bool

def Progress.takeRun (p : Progress) (words : List Word) : Progress :=
  let texts := words.filterMap Word.text?
  if p.named then { p with surplus := true }
  else { p with arguments := { p.arguments with domains := texts }, named := !texts.isEmpty }

-- What the words that are left ask for, after the next `taken`, which belong to the words before
-- them.
def consume (p : Progress) : (taken : Nat) → List Word → Except Fault (Progress ⊕ Request)
  | _, [] => .ok (.inl p)
  | n + 1, _ :: rest => consume p n rest
  | 0, .option flag tie :: rest =>
    match takeOption flag tie rest with
    | .error fault => .error fault
    | .ok (settings, n) =>
      match applyAll p.arguments settings with
      | .error fault => .error fault
      | .ok (.inr request) => .ok (.inr request)
      | .ok (.inl arguments) => consume { p with arguments } n rest
  | 0, .unknown _ :: rest => consume { p with surplus := true } 0 rest
  | 0, word :: rest =>
    let others := rest.takeWhile Word.isLoose
    consume (p.takeRun (word :: others)) others.length rest

-- Words are taken from left to right: an option takes the words that belong to it, and the first
-- run of other words names the domains.
def parse (words : List String) : Except Fault Request :=
  match readWords words with
  | .error fault => .error fault
  | .ok words =>
    match consume ⟨Arguments.standard, false, false⟩ 0 words with
    | .error fault => .error fault
    | .ok (.inr request) => .ok request
    | .ok (.inl p) =>
      if !p.named then .error .noDomain
      else if p.surplus then .error .surplusWords
      else .ok (.check p.arguments)

end StrictTransport.CommandLine
