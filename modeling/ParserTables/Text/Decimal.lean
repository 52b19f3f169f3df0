import ParserTables.Text.Basic

/-! Numbers in texts.

Numbers of a report are written in decimal and fit into sixteen bits; a longer one is
no number at all. -/
namespace ParserTables.Text

/-- One more than the largest number a report can name. -/
def numberLimit : Nat := 65536

/-- A number in decimal digits. -/
def ofNat (n : Nat) : Text := Nat.toDigits 10 n

/-- A number in decimal digits, after a sign if it is negative. -/
def ofInt : Int → Text
  | .ofNat n => ofNat n
  | .negSucc n => '-' :: ofNat (n + 1)

/-- A number in hexadecimal digits. -/
def ofNatHex (n : Nat) : Text := Nat.toDigits 16 n

/-- The value of a run of digits, if there is one and it is small enough. -/
def valueOf? (digits : Text) : Option Nat :=
  let n := Nat.ofDigitChars 10 digits 0
  if digits.isEmpty || numberLimit ≤ n then none else some n

/-- The number that a text is, blanks around it aside. -/
def number? (t : Text) : Option Nat :=
  let t := trim t
  if t.all Char.isDigit then valueOf? t else none

/-- The number at the start of a text, up to the end or a blank, and what follows it. -/
def leadingNumber? (t : Text) : Option (Nat × Text) :=
  let digits := t.takeWhile Char.isDigit
  let rest := t.dropWhile Char.isDigit
  if rest.head?.all isBlank then (valueOf? digits).map fun n => (n, rest) else none

end ParserTables.Text
