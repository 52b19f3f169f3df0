import ParserTables.Text.Decimal
import ParserTables.Text.Glyph

/-! String literals and comments of the emitted sources.

A C++ literal escapes the quote and the backslash only, and `readCpp?_cpp` says that it
is read back to its last character and no further. A Rust literal escapes
whatever cannot be shown as itself. `comment` keeps a text from ending the comment
it stands in. -/
namespace ParserTables.StringLiteral

/-! ### C++ -/

/-- How a character is written in a C++ literal. -/
def cppEscape (c : Char) : Text :=
  if c = '"' then ['\\', '"'] else if c = '\\' then ['\\', '\\'] else [c]

def cpp (t : Text) : Text := '"' :: t.flatMap cppEscape ++ ['"']

/-- The text of a C++ literal whose opening quote has been read, and what follows its
closing quote. -/
def readCppBody? : Text → Option (Text × Text)
  | [] => none
  | '"' :: rest => some ([], rest)
  | '\\' :: '"' :: rest => (readCppBody? rest).map fun (t, after) => ('"' :: t, after)
  | '\\' :: '\\' :: rest => (readCppBody? rest).map fun (t, after) => ('\\' :: t, after)
  | '\\' :: _ => none
  | c :: rest => (readCppBody? rest).map fun (t, after) => (c :: t, after)

/-- The text of the C++ literal at the start of a text, and what follows the literal. -/
def readCpp? : Text → Option (Text × Text)
  | '"' :: rest => readCppBody? rest
  | _ => none

theorem readCppBody?_flatMap_append (t after : Text) :
    readCppBody? (t.flatMap cppEscape ++ '"' :: after) = some (t, after) := by
  induction t with
  | nil => rfl
  | cons c t ih =>
    rw [List.flatMap_cons, List.append_assoc]
    by_cases hq : c = '"'
    · simp [hq, cppEscape, readCppBody?, ih]
    · by_cases hb : c = '\\'
      · simp [hb, cppEscape, readCppBody?, ih]
      · simp [hq, hb, cppEscape, readCppBody?, ih]

/-- A C++ literal is read back as its text, whatever follows it. -/
theorem readCpp?_cpp (t after : Text) : readCpp? (cpp t ++ after) = some (t, after) := by
  simpa [cpp, readCpp?] using readCppBody?_flatMap_append t after

/-! ### Rust -/

/-- How a character is written in a Rust literal. -/
def rustEscape (c : Char) : Text :=
  if c = '\x00' then ['\\', '0']
  else if c = '\t' then ['\\', 't']
  else if c = '\n' then ['\\', 'n']
  else if c = '\r' then ['\\', 'r']
  else if c = '"' then ['\\', '"']
  else if c = '\\' then ['\\', '\\']
  else if Text.hasGlyph c then [c]
  else "\\u\x7b".toList ++ Text.ofNatHex c.toNat ++ "\x7d".toList

def rust (t : Text) : Text := '"' :: t.flatMap rustEscape ++ ['"']

/-! ### Comments -/

/-- A text that may stand in a block comment: nothing in it ends the comment. -/
def comment : Text → Text
  | [] => []
  | '*' :: '/' :: rest => '*' :: '\\' :: '/' :: comment rest
  | c :: rest => c :: comment rest

end ParserTables.StringLiteral
