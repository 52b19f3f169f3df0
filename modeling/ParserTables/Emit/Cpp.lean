import ParserTables.Emit.Plan
import ParserTables.Emit.StringLiteral
import ParserTables.Emit.Wrapped

/-! The tables as a C++ header. -/
namespace ParserTables.Cpp

/-- The longest line of a list, in bytes. -/
def width : Nat := 60

/-- A list of items, each line of it indented. -/
def listing (items : List Text) : Text :=
  "    ".toList ++ Wrapped.text "    ".toList width items

/-- The identifiers of a kind of symbol, with their number at the end. -/
def enumeration (name count : Text) (identifiers : List Text) : List Text :=
  ["enum ".toList ++ name, "\x7b".toList] ++
    (if identifiers.isEmpty then [] else [listing identifiers ++ ",".toList]) ++
    ["    ".toList ++ count, "\x7d;".toList]

/-- The names of a kind of symbol, in rows long enough for the longest. -/
def nameTable (name count : Text) (names : List Text) : List Text :=
  ["static const char ".toList ++ name ++ "[".toList ++ count ++ "][1+".toList ++
      Text.ofNat (Text.longest names) ++ "] =".toList,
    "\x7b".toList, listing (names.map StringLiteral.cpp), "\x7d;".toList]

/-- The cells of a state. Action cells stand in columns. -/
def row (r : PackedRow) : Text :=
  "  \x7b \x7b ".toList ++
    Text.join ",".toList (r.actions.map fun cell => Text.padLeft 3 (Text.ofInt cell)) ++
    "\x7d, \x7b ".toList ++ Text.join ",".toList (r.gotos.map Text.ofInt) ++
    "\x7d \x7d,".toList

/-- The rows of all states, of which every fifth has its number above it. -/
def rows (rs : List PackedRow) : List Text :=
  rs.zipIdx.flatMap fun (r, state) =>
    (if state % 5 = 0 then ["  // state ".toList ++ Text.ofNat state] else []) ++ [row r]

/-- The width of the identifiers in the records of the rules: that of the longest
identifier of a nonterminal. -/
def field (p : Plan) : Nat := Text.longest p.nonterminals

/-- The widest that a field can be. -/
def widestField : Nat := 65535

/-- Why the records of the rules cannot be written. -/
def obstacle? (p : Plan) : Option EmitError :=
  if p.rules.isEmpty || field p ≤ widestField then none else some (.fieldTooWide (field p))

variable [Text.IdentifierPart]

/-- The record of a rule, its identifier in a field of its own. -/
def record (field : Nat) (r : Rule) : Text :=
  "  \x7b".toList ++ Text.padLeft 3 (Text.ofNat r.arity) ++ ", ".toList ++
    Text.padRight field (Plan.produced r) ++ "\x7d, /* ".toList ++
    StringLiteral.comment r.text ++ " */".toList

def descriptor (r : Rule) : Text :=
  "typedef Reduce<".toList ++ Plan.descriptorText r ++ " > BisonRule".toList ++
    Text.ofNat r.number ++ ";".toList

def lines (p : Plan) : List Text :=
  ["/* This file was generated by bisontab. Do not edit. */".toList] ++
    enumeration "Terminals".toList "NUM_TERMINALS".toList p.terminals ++
    enumeration "NonTerminals".toList "NUM_NONTERMINALS".toList p.nonterminals ++
    nameTable "TerminalNames".toList "NUM_TERMINALS".toList p.symbols.terminals.toList ++
    nameTable "NonTerminalNames".toList "NUM_NONTERMINALS".toList
      p.symbols.nonterminals.toList ++
    ["static const struct BisonState".toList,
      "\x7b".toList,
      "    signed char Actions[NUM_TERMINALS], Goto[NUM_NONTERMINALS];".toList,
      "\x7d States[] =".toList,
      "\x7b".toList] ++
    rows p.rows ++
    ["\x7d;".toList,
      "/* One record per rule in ascending rule number; a reduce cell -R selects".toList,
      "   record R when the numbers have no gaps. */".toList,
      "static const struct BisonReduce".toList,
      "\x7b".toList,
      "  int          n_reduce:8;".toList,
      "  NonTerminals produced_nonterminal:8;".toList,
      "\x7d BisonGrammar[] =".toList,
      "\x7b".toList] ++
    p.rules.map (record (field p)) ++
    ["\x7d;".toList, "#ifdef BISON_RULE_PATTERNS".toList] ++
    p.rules.map descriptor ++
    ["#endif".toList]

def text (p : Plan) : Text := Text.unlines (lines p)

end ParserTables.Cpp
