import ParserTables.Automaton.Compile
import ParserTables.Emit.Target
import ParserTables.Files.Access

/-! The command line: one report in, one source out.

`Request.parse?` reads the arguments and `Invocation.run` does what they ask for. The
source is complete before the first file is touched, so a report that yields none leaves
all files alone. -/
namespace ParserTables

/-- What to do with one report. -/
structure Invocation where
  input : Text
  /-- Where the source goes, unless it is printed. -/
  output : Option Text
  target : Target
  strictness : Strictness
deriving DecidableEq

/-! ### Arguments -/

/-- What is asked of the program. -/
inductive Request where
  | run (i : Invocation)
  | help
  | version
deriving DecidableEq

namespace Request

/-- What takes a value. -/
inductive Slot where
  | input
  | output
  | target
deriving DecidableEq

/-- The arguments read so far. Each may be given once. -/
structure Given where
  input : Option Text := none
  output : Option Text := none
  target : Option Target := none
  legacy : Bool := false
deriving DecidableEq

namespace Given

/-- Give a value. A path has to have characters. -/
def set? (g : Given) (slot : Slot) (value : Text) : Option Given :=
  match slot with
  | .input => if g.input.isSome || value.isEmpty then none else some { g with input := some value }
  | .output =>
    if g.output.isSome || value.isEmpty then none else some { g with output := some value }
  | .target =>
    if g.target.isSome then none
    else if value = "cpp".toList then some { g with target := some .cpp }
    else if value = "rust".toList then some { g with target := some .rust }
    else none

def setLegacy? (g : Given) : Option Given :=
  if g.legacy then none else some { g with legacy := true }

/-- What is asked for when there are no more arguments: the input must have been given. -/
def request? (g : Given) : Option Request :=
  g.input.map fun input => .run
    { input, output := g.output, target := g.target.getD .cpp,
      strictness := if g.legacy then .legacy else .strict }

end Given

/-- What a single argument is. -/
inductive Argument where
  /-- All that follows are values. -/
  | divider
  | value (v : Text)
  /-- An option, whose value may be the next argument. -/
  | option (slot : Slot) (value : Option Text)
  | legacy
  | help
  | version
  | unknown
deriving DecidableEq

namespace Argument

/-- An argument of two dashes and a name, and perhaps an equals sign and a value. -/
def long (name : Text) (value : Option Text) : Argument :=
  if name = "lang".toList then .option .target value
  else if name = "output".toList then .option .output value
  else if value.isSome then .unknown
  else if name = "legacy".toList then .legacy
  else if name = "help".toList then .help
  else if name = "version".toList then .version
  else .unknown

/-- An argument of a dash, a letter and more. An equals sign before a value is not part of
it. -/
def short (letter : Char) (more : Text) : Argument :=
  if letter = 'o' then
    match more with
    | [] => .option .output none
    | '=' :: v => .option .output (some v)
    | v => .option .output (some v)
  else if letter = 'h' then .help
  else if letter = 'V' then .version
  else .unknown

/-- A single dash is a value. -/
def ofText : Text → Argument
  | ['-', '-'] => .divider
  | '-' :: '-' :: rest =>
    match rest.dropWhile (· != '=') with
    | [] => long rest none
    | _ :: v => long (rest.takeWhile (· != '=')) (some v)
  | '-' :: letter :: more => short letter more
  | v => .value v

end Argument

/-- Read the arguments that follow those that gave `g`, of which the last one may be an
option that waits for its value. -/
def parseFrom? (g : Given) (waiting : Option Slot) : List Text → Option Request
  | [] => if waiting.isSome then none else g.request?
  | arg :: rest =>
    match Argument.ofText arg, waiting with
    | .value v, some slot => (g.set? slot v).bind (parseFrom? · none rest)
    | .value v, none => (g.set? .input v).bind (parseFrom? · none rest)
    | _, some _ => none
    | .option slot (some v), none => (g.set? slot v).bind (parseFrom? · none rest)
    | .option slot none, none => parseFrom? g (some slot) rest
    | .legacy, none => g.setLegacy?.bind (parseFrom? · none rest)
    | .divider, none => (rest.foldlM (Given.set? · .input ·) g).bind Given.request?
    | .help, none => some .help
    | .version, none => some .version
    | .unknown, none => none

/-- What the arguments ask for, if they make sense. -/
def parse? (args : List Text) : Option Request := parseFrom? {} none args

end Request

/-! ### The run -/

/-- How a run ends: the exit code and what it prints. -/
structure Outcome where
  code : Nat
  output : Text
  errors : Text
deriving DecidableEq

namespace Outcome

/-- A text in which every line but the first starts with `margin`. -/
def hang (margin t : Text) : Text := t.flatMap fun c => if c = '\n' then '\n' :: margin else [c]

/-- The causes of a failure. A single one has no number. -/
def causeList : List Text → List Text
  | [cause] => ["    ".toList ++ hang "    ".toList cause]
  | causes => causes.zipIdx.map fun (cause, i) =>
    Text.padLeft 5 (Text.ofNat i) ++ ": ".toList ++ hang "       ".toList cause

/-- A failed run: what it warned of, what it was about and why it failed. -/
def failure (warnings : List Text) (about : Text) (causes : List Text) : Outcome where
  code := 1
  output := []
  errors := Text.unlines
    (warnings ++ ["Error: ".toList ++ about, [], "Caused by:".toList] ++ causeList causes)

end Outcome

namespace Invocation

def warning (d : Diagnostic) : Text := "[warning] ".toList ++ d.text

/-- The path that the old content of an output file goes to. -/
def backup (path : Text) : Text := path ++ ".bak".toList

variable [Text.IdentifierPart]

/-- The source for the text of a report, with what it warns of; or what it warned of and
why there is none. -/
def source (i : Invocation) (report : Text) : Except (List Text × List Text) (Text × List Text) :=
  match Automaton.compile i.strictness report with
  | .error e => .error ([], e.causes)
  | .ok a =>
    let warnings := a.diagnostics.map warning
    match a.emit i.target with
    | .error e => .error (warnings, e.causes)
    | .ok text => .ok (text, warnings)

variable {m : Type → Type} [Monad m]

/-- Put a source into a file, whose old content is kept beside it. -/
def deliver (fs : FileAccess m) (path source : Text) : m (Except (List Text) Unit) := do
  if ← fs.present path then
    if let .error e ← fs.copy path (backup path) then
      return .error
        ["failed to backup the output file to ".toList ++ backup path, e.message]
  match ← fs.write path source with
  | .ok () => return .ok ()
  | .error e =>
    return .error ["failed to write generated tables to ".toList ++ path, e.message]

def run (fs : FileAccess m) (i : Invocation) : m Outcome := do
  let fail (warnings causes : List Text) : Outcome :=
    .failure warnings ("errored during processing ".toList ++ i.input) causes
  match ← fs.read i.input with
  | .error e => return fail [] ["IO error: ".toList ++ e.message]
  | .ok report =>
    match i.source report with
    | .error (warnings, causes) => return fail warnings causes
    | .ok (source, warnings) =>
      match i.output with
      | none => return ⟨0, source, Text.unlines warnings⟩
      | some path =>
        match ← deliver fs path source with
        | .ok () => return ⟨0, [], Text.unlines warnings⟩
        | .error causes => return fail warnings causes

end Invocation

/-- How the arguments are written, and what they mean. -/
def usage : Text := Text.unlines
  ["Usage: bisontab [OPTIONS] <INPUT>".toList,
    [],
    "Arguments:".toList,
    "  <INPUT>  The path of the report written by `bison -v`".toList,
    [],
    "Options:".toList,
    ("      --lang <LANG>      The language of the generated tables [default: cpp] " ++
      "[possible values: cpp, rust]").toList,
    ("      --legacy           Keep the actions bison discarded and let the last entry " ++
      "for a lookahead win").toList,
    "  -o, --output <OUTPUT>  Specify the path of the generated file. Defaults to stdout".toList,
    "  -h, --help             Print help".toList,
    "  -V, --version          Print version".toList]

/-- The program's name and version. -/
def version : Text := "bisontab 0.0.0-dev\n".toList

variable [Text.IdentifierPart] {m : Type → Type} [Monad m]

/-- Do what the arguments ask for. -/
def runCommand (fs : FileAccess m) (args : List Text) : m Outcome :=
  match Request.parse? args with
  | none => return ⟨2, [], usage⟩
  | some .help => return ⟨0, usage, []⟩
  | some .version => return ⟨0, version, []⟩
  | some (.run i) => i.run fs

end ParserTables
