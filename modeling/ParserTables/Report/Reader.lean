import ParserTables.Automaton.Basic
import ParserTables.Report.Error
import ParserTables.Report.Line
import ParserTables.Table.Builder

/-! Reading a report line by line.

A report is read in five stretches: what comes before its first section, the grammar,
the two listings and the states. Only the header of the next section ends a stretch; a
header out of its place is content like any other line. `Reader.feed` takes one line and
`read` takes them all. A line that is rejected leaves an error and a reader that can go
on. -/
namespace ParserTables

/-- Where in a report a reader stands, with what it has to remember there. -/
inductive Stretch where
  /-- Before the grammar. -/
  | preamble
  /-- Among the rules, after one that produces `left`. -/
  | grammar (left : Option Text)
  /-- Among the terminals, whose names stand in `column`. -/
  | terminals (column : Option Nat)
  /-- Among the nonterminals, whose names stand in `column`. -/
  | nonterminals (column : Option Nat)
  /-- Among the states. -/
  | states (builder : Builder)

/-- What has been read of a report. -/
structure Reader where
  strictness : Strictness
  stretch : Stretch
  symbols : SymbolTable
  rules : RuleSet
  /-- The oddities so far, the last one first. -/
  oddities : List Diagnostic

namespace Reader

def start (strictness : Strictness) : Reader where
  strictness := strictness
  stretch := .preamble
  symbols := .empty
  rules := .empty
  oddities := []

/-- The reader after a line, and why the line was rejected if it was. -/
abbrev Fed := Reader × Option ReadError

def accept (r : Reader) : Fed := (r, none)

def reject (r : Reader) (e : ReadError) : Fed := (r, some e)

/-- Note that a line is odd. -/
def diagnose (r : Reader) (line : Nat) (message : Text) : Reader :=
  { r with oddities := ⟨line, message⟩ :: r.oddities }

/-! ### The grammar -/

/-- Add a rule. A rule whose number is not its position is odd: rules are found by
position in the emitted tables. -/
def addRule (r : Reader) (line : Nat) (rule : Rule) : Fed :=
  match r.rules.insert rule with
  | (rules, some refused) => { r with rules }.reject (.duplicateRule line refused.number)
  | (rules, none) =>
    let count := r.rules.size
    let r := { r with rules }
    if rule.number = count then r.accept
    else
      (r.diagnose line ("rule ".toList ++ Text.ofNat rule.number ++ " follows ".toList ++
        Text.ofNat count ++
        " rules; reductions will index the wrong rule record".toList)).accept

def grammarLine (r : Reader) (previous : Option Text) (number : Nat) (line : Text) : Fed :=
  match Line.rule? line with
  | none => (r.diagnose number ("unrecognized grammar line: ".toList ++ Text.trim line)).accept
  | some parsed =>
    match parsed.left.or previous with
    | none => r.reject (.orphanAlternative number)
    | some left =>
      { r with stretch := .grammar (some left) }.addRule number
        ⟨parsed.number, left, Symbol.ofRight parsed.right⟩

/-! ### The listings -/

/-- The bytes of blank before the first character of a line. -/
def indentation (line : Text) : Nat := Text.byteLength (line.takeWhile Text.isBlank)

/-- The name listed by a line, unless the line is indented deeper than the first one of
its listing: such a line holds details of the name above it. -/
def listedName? (column : Option Nat) (line : Text) : Option Text :=
  if column.any (· < indentation line) then none else some (Line.symbolName line)

/-- The column of the names after one more line. -/
def columnAfter (column : Option Nat) (line : Text) : Nat := column.getD (indentation line)

/-- The error terminal has no column in the tables and is not declared. -/
def terminalLine (r : Reader) (column : Option Nat) (line : Text) : Reader :=
  let r := { r with stretch := .terminals (some (columnAfter column line)) }
  match listedName? column line with
  | none => r
  | some name =>
    if name = Symbol.errorName then r
    else { r with symbols := (r.symbols.declare .terminal name).1 }

def nonterminalLine (r : Reader) (column : Option Nat) (line : Text) : Reader :=
  let r := { r with stretch := .nonterminals (some (columnAfter column line)) }
  match listedName? column line with
  | none => r
  | some name => { r with symbols := (r.symbols.declare .nonterminal name).1 }

/-! ### The states -/

/-- Open the block of a state. States come in order. -/
def beginState (r : Reader) (b : Builder) (line found : Nat) : Fed :=
  if found = b.nextState then { r with stretch := .states b.beginState }.accept
  else { r with stretch := .states b }.reject (.stateOutOfOrder line b.nextState found)

/-- The reader after an entry for `name` was given to the builder, which may have refused it. -/
def recorded (r : Reader) (line state : Nat) (name : Text)
    (entry : Builder × Option EntryError) : Fed :=
  let r := { r with stretch := .states entry.1 }
  match entry.2 with
  | none => r.accept
  | some .duplicate => r.reject (.conflictingActions line state name)
  | some .outOfRange => r.reject (.columnOutOfRange line name)

def stateLine (r : Reader) (b : Builder) (number : Nat) (line : Text) : Fed :=
  let state := b.nextState - 1
  match Line.state line with
  | .item => r.accept
  | .note => r.accept
  | .unrecognized =>
    (r.diagnose number ("unrecognized state line: ".toList ++ Text.trim line)).accept
  | .goto symbol target =>
    match r.symbols.nonterminals.id? symbol with
    | none => r.reject (.unknownNonterminal number symbol)
    | some id => r.recorded number state symbol (b.goto id target)
  | .action token action discarded =>
    if token = Symbol.defaultName then
      r.recorded number state token (b.fallback action discarded)
    else
      match r.symbols.terminals.id? token with
      | none => r.reject (.unknownTerminal number token)
      | some id => r.recorded number state token (b.action id action discarded)

/-! ### The whole report -/

/-- Read one more line, whose number is given. -/
def feed (r : Reader) (number : Nat) (line : Text) : Fed :=
  if Text.blank line then r.accept
  else
    match r.stretch, Line.header? line with
    | .preamble, some .grammar => { r with stretch := .grammar none }.accept
    | .preamble, _ => r.accept
    | .grammar _, some .terminals => { r with stretch := .terminals none }.accept
    | .grammar left, _ => r.grammarLine left number line
    | .terminals _, some .nonterminals => { r with stretch := .nonterminals none }.accept
    | .terminals column, _ => (r.terminalLine column line).accept
    | .nonterminals _, some (.state found) =>
      r.beginState (.empty r.strictness r.symbols.terminals.size r.symbols.nonterminals.size)
        number found
    | .nonterminals column, _ => (r.nonterminalLine column line).accept
    | .states b, some (.state found) => r.beginState b number found
    | .states b, _ => r.stateLine b number line

/-- The automaton that has been read. -/
def finish (r : Reader) : Except ReadError Automaton :=
  match r.stretch with
  | .preamble => .error (.missingSection .grammar)
  | .grammar _ => .error (.missingSection .terminals)
  | .terminals _ => .error (.missingSection .nonterminals)
  | .nonterminals _ => .error (.missingSection .state)
  | .states b =>
    .ok { symbols := r.symbols, rules := r.rules, table := b.finish,
          diagnostics := r.oddities.reverse }

/-- Read lines, of which the first has the given number, up to the first that is rejected. -/
def feedAll (r : Reader) (number : Nat) : List Text → Except ReadError Reader
  | [] => .ok r
  | line :: rest =>
    match r.feed number line with
    | (r, none) => r.feedAll (number + 1) rest
    | (_, some e) => .error e

end Reader

/-- Read a report. -/
def Automaton.read (strictness : Strictness) (source : Text) : Except ReadError Automaton := do
  let r ← (Reader.start strictness).feedAll 1 (Text.lines source)
  r.finish

end ParserTables
