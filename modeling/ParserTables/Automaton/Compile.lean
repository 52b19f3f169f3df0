import ParserTables.Report.Reader

/-! From the text of a report to a consistent automaton. -/
namespace ParserTables

/-- Why there is no automaton. -/
inductive CompileError where
  /-- The report cannot be read. -/
  | malformed (cause : ReadError)
  /-- The report refers to something that is not there. -/
  | inconsistent (cause : TableError)
deriving DecidableEq

/-- What went wrong, the most general statement first. -/
def CompileError.causes : CompileError → List Text
  | .malformed cause => ["malformed report".toList, cause.message]
  | .inconsistent cause => ["inconsistent automaton".toList, cause.message]

/-- The automaton that a report describes. Its references are checked unless the report is
taken at face value. -/
def Automaton.compile (strictness : Strictness) (source : Text) : Except CompileError Automaton :=
  match Automaton.read strictness source with
  | .error e => .error (.malformed e)
  | .ok a =>
    match strictness, a.violation? with
    | .strict, some e => .error (.inconsistent e)
    | _, _ => .ok a

end ParserTables
