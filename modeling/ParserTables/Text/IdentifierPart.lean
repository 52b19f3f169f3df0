import ParserTables.Text.Basic

/-! The characters that may stand inside an identifier.

Of the ASCII characters these are the letters, the digits and the underscore. Which others there are
is for a table of the Unicode standard to say, and with the standard it grows. Whatever an identifier
is made for therefore takes the choice as it is given (`IdentifierPart`). -/
namespace ParserTables.Text

/-- Is this an ASCII letter or digit, or the underscore? -/
def isWordPart (c : Char) : Bool := c.isAlphanum || c == '_'

/-- A choice of the characters that may stand inside an identifier. -/
class IdentifierPart where
  continues : Char → Bool
  continues_ascii (c : Char) : c.toNat < 0x80 → continues c = isWordPart c

variable [IdentifierPart]

/-- May this character stand inside an identifier? -/
def continuesIdentifier (c : Char) : Bool := IdentifierPart.continues c

theorem continuesIdentifier_ascii {c : Char} (h : c.toNat < 0x80) :
    continuesIdentifier c = isWordPart c :=
  IdentifierPart.continues_ascii c h

/-- What starts with another ASCII character does not go on with an identifier. -/
theorem not_continues_cons {c : Char} (hascii : c.toNat < 0x80) (h : isWordPart c = false)
    (rest : Text) : (c :: rest).head?.any continuesIdentifier = false := by
  rw [List.head?_cons, Option.any_some, continuesIdentifier_ascii hascii, h]

end ParserTables.Text
