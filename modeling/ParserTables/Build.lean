import ParserTables.Automaton.Compile
import ParserTables.Emit.Target
import ParserTables.Files.Access
import ParserTables.Files.Path

/-! Building the tables of every report below a directory.

A report is a file with the extension `output`. Its source goes to the same place below a
second directory, with the extension `rs`. The first report that cannot be built
ends the build. -/
namespace ParserTables

/-- Where reports are looked for, where their sources go, and how they are taken. -/
structure Build where
  root : Text
  out : Text
  strictness : Strictness
deriving DecidableEq

/-- The lines a build prints, and why it failed if it did: the most general statement
first. -/
structure BuildOutcome where
  lines : List Text
  failure : Option (List Text)
deriving DecidableEq

namespace Build

/-! ### Settings from the environment -/

/-- A setting that has to be in the environment. -/
def required (name : Text) : Option Text → Except Text Text
  | some value => .ok value
  | none => .error ("The environment variable `".toList ++ name ++ "' is not set".toList)

/-- A strict build of a directory into the one that the environment names. -/
def ofDirectory (root : Text) (outDir : Option Text) : Except Text Build := do
  return { root, out := ← required "OUT_DIR".toList outDir, strictness := .strict }

/-- A strict build of the package that the environment names. -/
def ofPackage (manifestDir outDir : Option Text) : Except Text Build := do
  ofDirectory (← required "CARGO_MANIFEST_DIR".toList manifestDir) outDir

/-! ### The build -/

/-- The extension of reports. -/
def reportExtension : Text := "output".toList

/-- The path of a file that is at `path` as seen from the root. -/
def inputPath (b : Build) (path : Text) : Text :=
  if path.isEmpty then b.root else Path.join b.root path

/-- The path of the source for the report that is at `path` as seen from the root. -/
def outputPath (b : Build) (path : Text) : Text :=
  Path.withExtension (Path.join b.out path) "rs".toList

def isReport (b : Build) (path : Text) : Bool :=
  Path.extension? (b.inputPath path) = some reportExtension

variable [Text.IdentifierPart] {m : Type → Type} [Monad m]

/-- Build one report. -/
def report (fs : DirectoryAccess m) (b : Build) (path : Text) : m BuildOutcome := do
  let input := b.inputPath path
  let output := b.outputPath path
  if let some directory := Path.parent? output then
    if let .error e ← fs.makeDirectories directory then
      return ⟨[], some [e.message]⟩
  let heading := "cargo:rerun-if-changed=".toList ++ input
  let failedToCompile (causes : List Text) : BuildOutcome :=
    ⟨[heading], some (("failed to compile ".toList ++ input) :: causes)⟩
  match ← fs.read input with
  | .error e => return failedToCompile ["IO error: ".toList ++ e.message]
  | .ok source =>
    match Automaton.compile b.strictness source with
    | .error e => return failedToCompile e.causes
    | .ok a =>
      let warning (d : Diagnostic) : Text :=
        "cargo:warning=".toList ++ input ++ ": ".toList ++ d.text
      let lines := heading :: a.diagnostics.map warning
      match a.emit .rust with
      | .error e => return ⟨lines, some e.causes⟩
      | .ok text =>
        match ← fs.write output text with
        | .error e =>
          return ⟨lines,
            some ["failed to write generated tables to ".toList ++ output, e.message]⟩
        | .ok () => return ⟨lines, none⟩

/-- Build reports in order, up to the first that fails. -/
def reports (fs : DirectoryAccess m) (b : Build) : List Text → m BuildOutcome
  | [] => return ⟨[], none⟩
  | path :: rest => do
    let first ← b.report fs path
    match first.failure with
    | some _ => return first
    | none =>
      let others ← b.reports fs rest
      return { others with lines := first.lines ++ others.lines }

/-- Build every report below the root that the walk comes by. Where the walk fails, the build
does too, after the reports before. -/
def process (fs : DirectoryAccess m) (b : Build) : m BuildOutcome := do
  let walk ← fs.below b.root
  let built ← b.reports fs (walk.paths.filter b.isReport)
  match built.failure, walk.failure with
  | none, some (path, e) =>
    return { built with
      failure := some ["from WalkDir entry".toList,
        "IO error for operation on ".toList ++ path ++ ": ".toList ++ e.message, e.message] }
  | _, _ => return built

end Build
end ParserTables
