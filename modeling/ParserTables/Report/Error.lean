import ParserTables.Text.Decimal

/-! Why a report cannot be read. -/
namespace ParserTables

/-- The sections of a report, by the header that opens them. -/
inductive SectionName where
  | grammar
  | terminals
  | nonterminals
  | state
deriving DecidableEq

def SectionName.text : SectionName → Text
  | .grammar => "Grammar".toList
  | .terminals => "Terminals".toList
  | .nonterminals => "Nonterminals".toList
  | .state => "state".toList

inductive ReadError where
  /-- The report ends before this section. -/
  | missingSection (name : SectionName)
  | stateOutOfOrder (line expected found : Nat)
  | duplicateRule (line rule : Nat)
  /-- A further right-hand side, with no rule before it. -/
  | orphanAlternative (line : Nat)
  | unknownTerminal (line : Nat) (name : Text)
  | unknownNonterminal (line : Nat) (name : Text)
  | conflictingActions (line state : Nat) (token : Text)
  /-- The rows have no column for a symbol. -/
  | columnOutOfRange (line : Nat) (name : Text)
deriving DecidableEq

def ReadError.message : ReadError → Text
  | .missingSection name => "missing `".toList ++ name.text ++ "' section".toList
  | .stateOutOfOrder line expected found =>
    place line ++ "expected state ".toList ++ Text.ofNat expected ++ ", found state ".toList ++
      Text.ofNat found
  | .duplicateRule line rule => place line ++ "rule ".toList ++ Text.ofNat rule ++
      " is defined twice".toList
  | .orphanAlternative line => place line ++ "alternative without a preceding rule".toList
  | .unknownTerminal line name => place line ++ "unknown terminal `".toList ++ name ++ ['\'']
  | .unknownNonterminal line name => place line ++ "unknown nonterminal `".toList ++ name ++ ['\'']
  | .conflictingActions line state token =>
    place line ++ "conflicting actions on `".toList ++ token ++ "' in state ".toList ++
      Text.ofNat state
  | .columnOutOfRange line name => place line ++ "no column for `".toList ++ name ++ ['\'']
where
  place (line : Nat) : Text := "line ".toList ++ Text.ofNat line ++ ": ".toList

end ParserTables
