import ParserTables.Symbol.Token
import ParserTables.Table.Action
import ParserTables.Text.Decimal

/-! The lines of a report, each read on its own.

A report has four sections, and a line means different things in each. There is one
function for each meaning; which of them a line is given to depends on the section it
stands in, and is no matter of this file. -/
namespace ParserTables.Line
open Text

/-! ### Headers -/

/-- A line that opens a section. -/
inductive Header where
  | grammar
  | terminals
  | nonterminals
  | state (number : Nat)
deriving DecidableEq

/-- The header that a line is. A header starts its line. -/
def header? (line : Text) : Option Header :=
  let line := trimEnd line
  if line = "Grammar".toList then some .grammar
  else if (after? "Terminals, ".toList line).isSome then some .terminals
  else if (after? "Nonterminals, ".toList line).isSome then some .nonterminals
  else
    ((after? "state ".toList line).or (after? "State ".toList line)).bind fun number =>
      (number? number).map .state

/-! ### Rules -/

/-- A line of the grammar section: a rule, or one more right-hand side for the
nonterminal of the rule before it. -/
structure RuleLine where
  number : Nat
  /-- The nonterminal produced, unless it is that of the rule before. -/
  left : Option Text
  right : Text
deriving DecidableEq

/-- The rule that a line is: a number, then a name and a colon, or a bar. -/
def rule? (line : Text) : Option RuleLine :=
  (leadingNumber? (trim line)).bind fun (number, rest) =>
    match trimStart rest with
    | '|' :: right => some { number, left := none, right := trim right }
    | rest =>
      let left := trim (rest.takeWhile (· != ':'))
      match rest.dropWhile (· != ':') with
      | [] => none
      | _ :: right =>
        if left.isEmpty || left.any isBlank then none
        else some { number, left := some left, right := trim right }

/-! ### Symbol listings -/

/-- The symbol that a line of a listing names. Its value, type and uses follow in
parentheses or angle brackets, and those inside a quoted name are part of the name. -/
def symbolName (line : Text) : Text :=
  let line := trim line
  let (quoted, rest) := (Token.quoted? line).getD ([], line)
  trimEnd (quoted ++ upTo " <".toList (upTo " (".toList rest))

/-! ### States -/

/-- What a line of a state block says to do. -/
inductive Phrase where
  | action (action : Action)
  | goto (target : Nat)
deriving DecidableEq

/-- The phrase that a text is. What follows the number of a rule is a remark. -/
def phrase? (t : Text) : Option Phrase :=
  match after? "shift, and go to state ".toList t with
  | some target => (number? target).map fun target => .action (.shift target)
  | none =>
  match after? "reduce using rule ".toList t with
  | some rule => (leadingNumber? rule).map fun (rule, _) => .action (.reduce rule)
  | none =>
  match after? "go to state ".toList t with
  | some target => (number? target).map .goto
  | none =>
    if t = "accept".toList then some (.action .accept)
    else if t = "error".toList || (after? "error (".toList t).isSome then some (.action .error)
    else none

/-- A text without the brackets around it, and whether there were any. The closing one may
be missing. -/
def unbracket (t : Text) : Text × Bool :=
  match t with
  | '[' :: inner => (trim (if inner.getLast? = some ']' then inner.dropLast else inner), true)
  | t => (t, false)

/-- A line of a state block. -/
inductive StateLine where
  /-- A rule with a mark for how far it has been read. -/
  | item
  /-- A remark on a conflict. -/
  | note
  /-- What to do on a token. A discarded action stands in brackets: it lost a conflict. -/
  | action (token : Text) (action : Action) (discarded : Bool)
  /-- Where to go after producing a symbol. -/
  | goto (symbol : Text) (target : Nat)
  | unrecognized
deriving DecidableEq

/-- What a line of a state block is. -/
def state (line : Text) : StateLine :=
  let line := trim line
  if (leadingNumber? line).isSome then .item
  else if (after? "Conflict between ".toList line).isSome then .note
  else
    let (token, rest) := Token.first line
    let rest := trim rest
    if token.isEmpty || rest.isEmpty then .unrecognized
    else
      let (said, discarded) := unbracket rest
      match phrase? said with
      | some (.action action) => .action token action discarded
      | some (.goto target) => if discarded then .unrecognized else .goto token target
      | none => .unrecognized

end ParserTables.Line
