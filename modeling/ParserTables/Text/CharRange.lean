import ParserTables.Text.Basic

/-! Sets of characters given by ranges of code points. -/
namespace ParserTables.Text

/-- A set of characters: the first and last code point of each of its ranges. -/
abbrev CharRanges := Array (Nat × Nat)

def CharRanges.contains (ranges : CharRanges) (c : Char) : Bool :=
  ranges.any fun (first, last) => first ≤ c.toNat && c.toNat ≤ last

/-- A set of characters: the first and last code point of each of its runs, and the
distance between neighbours in it. -/
abbrev CharRuns := Array (Nat × Nat × Nat)

def CharRuns.contains (runs : CharRuns) (c : Char) : Bool :=
  runs.any fun (first, last, step) =>
    first ≤ c.toNat && c.toNat ≤ last && (c.toNat - first) % step == 0

end ParserTables.Text
