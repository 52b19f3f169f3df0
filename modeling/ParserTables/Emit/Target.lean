import ParserTables.Emit.Cpp
import ParserTables.Emit.Rust

/-! The languages that tables are emitted in. -/
namespace ParserTables

inductive Target where
  | cpp
  | rust
deriving DecidableEq

variable [Text.IdentifierPart]

/-- The text of a plan in a language. -/
def Target.text : Target → Plan → Text
  | .cpp, p => Cpp.text p
  | .rust, p => Rust.text p

/-- Why a plan cannot be written in a language. -/
def Target.obstacle? : Target → Plan → Option EmitError
  | .cpp, p => Cpp.obstacle? p
  | .rust, _ => none

/-- The source that carries the tables of an automaton. -/
def Automaton.emit (target : Target) (a : Automaton) : Except EmitError Text := do
  let p ← Plan.ofAutomaton a
  match target.obstacle? p with
  | some e => throw e
  | none => return target.text p

end ParserTables
