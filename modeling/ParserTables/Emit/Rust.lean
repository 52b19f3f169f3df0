import ParserTables.Emit.Plan
import ParserTables.Emit.StringLiteral
import ParserTables.Emit.Wrapped

/-! The tables as a Rust module. -/
namespace ParserTables.Rust

/-- The longest line of a list, in bytes. -/
def width : Nat := 80

/-- The identifiers of a kind of symbol. A type with no values has no layout to fix. -/
def enumeration (name : Text) (identifiers : List Text) : List Text :=
  ["#[allow(non_camel_case_types)]".toList,
    "#[derive(Debug, Copy, Clone, PartialEq, Eq, Hash)]".toList] ++
    (if identifiers.isEmpty then [] else ["#[repr(u8)]".toList]) ++
    ["pub enum ".toList ++ name ++ " \x7b".toList] ++
    identifiers.map (fun id => "    ".toList ++ id ++ ",".toList) ++
    ["\x7d".toList]

/-- How many symbols of a kind there are. -/
def count (name : Text) (identifiers : List Text) : Text :=
  "pub const ".toList ++ name ++ ": usize = ".toList ++ Text.ofNat identifiers.length ++
    ";".toList

/-- The names of a kind of symbol. -/
def nameTable (name count : Text) (names : List Text) : List Text :=
  ["pub static ".toList ++ name ++ ": [&str; ".toList ++ count ++ "] = [".toList,
    "    ".toList ++ Wrapped.text "    ".toList width (names.map StringLiteral.rust),
    "];".toList]

/-- A list of cells. -/
def cells (cs : List Int) : Text :=
  "[".toList ++ Text.join ", ".toList (cs.map Text.ofInt) ++ "]".toList

/-- The cells of a state. -/
def row (r : PackedRow) : Text :=
  "    BisonState \x7b actions: ".toList ++ cells r.actions ++ ", gotos: ".toList ++
    cells r.gotos ++ " \x7d,".toList

/-- The rows of all states, of which every fifth has its number above it. -/
def rows (rs : List PackedRow) : List Text :=
  rs.zipIdx.flatMap fun (r, state) =>
    (if state % 5 = 0 then ["    // state ".toList ++ Text.ofNat state] else []) ++ [row r]

variable [Text.IdentifierPart]

/-- The record of a rule, with the rule above it. -/
def record (r : Rule) : List Text :=
  ["    // ".toList ++ r.text,
    "    BisonReduce \x7b n_reduce: ".toList ++ Text.ofNat r.arity ++
      ", produced_nonterminal: Nonterminal::".toList ++ Plan.produced r ++ " \x7d,".toList]

def descriptor (r : Rule) : Text :=
  "    ".toList ++ StringLiteral.rust (Plan.descriptorText r) ++ ",".toList

def lines (p : Plan) : List Text :=
  ["// This file was generated by bisontab. Do not edit.".toList, []] ++
    enumeration "Terminal".toList p.terminals ++
    [count "NUM_TERMINALS".toList p.terminals, []] ++
    enumeration "Nonterminal".toList p.nonterminals ++
    [count "NUM_NONTERMINALS".toList p.nonterminals, []] ++
    nameTable "TERMINAL_NAMES".toList "NUM_TERMINALS".toList p.symbols.terminals.toList ++
    nameTable "NONTERMINAL_NAMES".toList "NUM_NONTERMINALS".toList
      p.symbols.nonterminals.toList ++
    [[],
      "/// Action and goto cells of a single state.".toList,
      "///".toList,
      "/// An action is `+K` to shift to state `K`, `-R` to reduce by rule `R`,".toList,
      "/// `127` to accept and `0` to reject the lookahead.".toList,
      "#[derive(Debug)]".toList,
      "pub struct BisonState \x7b".toList,
      "    pub actions: [i8; NUM_TERMINALS],".toList,
      "    pub gotos: [i8; NUM_NONTERMINALS],".toList,
      "\x7d".toList,
      [],
      "pub static STATES: [BisonState; ".toList ++ Text.ofNat p.rows.length ++
        "] = [".toList] ++
    rows p.rows ++
    ["];".toList,
      [],
      "/// Arity and produced nonterminal of a rule.".toList,
      "///".toList,
      "/// `GRAMMAR` and `RULE_PATTERNS` hold one entry per rule in ascending rule".toList,
      "/// number; a reduce cell `-R` selects entry `R` when the numbers have no gaps.".toList,
      "#[derive(Debug)]".toList,
      "pub struct BisonReduce \x7b".toList,
      "    pub n_reduce: u8,".toList,
      "    pub produced_nonterminal: Nonterminal,".toList,
      "\x7d".toList,
      [],
      "pub static GRAMMAR: [BisonReduce; ".toList ++ Text.ofNat p.rules.length ++
        "] = [".toList] ++
    p.rules.flatMap record ++
    ["];".toList,
      [],
      "pub static RULE_PATTERNS: [&str; ".toList ++ Text.ofNat p.rules.length ++
        "] = [".toList] ++
    p.rules.map descriptor ++
    ["];".toList]

def text (p : Plan) : Text := Text.unlines (lines p)

end ParserTables.Rust
