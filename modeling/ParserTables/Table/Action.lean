import ParserTables.Text.Decimal

/-! Parser actions and the cells they are packed into.

A cell is a number from -128 to 127 (`toCell?_bounds`). A cell other than 0 gives back
the action it was packed from (`ofCell_of_toCell?`). The cell 0 stands for an error and
holds two more actions, a shift to state 0 and a reduction by rule 0. -/
namespace ParserTables

/-- What a parser does in a state on a lookahead. -/
inductive Action where
  /-- Take the lookahead and go to a state. -/
  | shift (target : Nat)
  /-- Reduce by a rule. -/
  | reduce (rule : Nat)
  | accept
  /-- Reject the lookahead. -/
  | error
deriving DecidableEq

namespace Action

def text : Action → Text
  | .shift target => "shift(".toList ++ Text.ofNat target ++ ")".toList
  | .reduce rule => "reduce(".toList ++ Text.ofNat rule ++ ")".toList
  | .accept => "accept".toList
  | .error => "error".toList

/-- The cell of `accept`, the largest there is: no shift may use it. -/
def acceptCell : Int := 127

/-- The largest rule number a cell can hold, as its negative. -/
def lastRule : Nat := 128

/-- The cell of an action, if it fits into one: `+K` to shift to state `K`, `-R` to reduce
by rule `R`. -/
def toCell? : Action → Option Int
  | .shift target => if (target : Int) < acceptCell then some target else none
  | .reduce rule => if rule ≤ lastRule then some (-(rule : Int)) else none
  | .accept => some acceptCell
  | .error => some 0

/-- The action that a cell stands for. -/
def ofCell (cell : Int) : Action :=
  if cell = acceptCell then .accept
  else if cell = 0 then .error
  else if 0 < cell then .shift cell.toNat
  else .reduce (-cell).toNat

theorem toCell?_shift {target : Nat} {cell : Int} :
    (shift target).toCell? = some cell ↔ cell = target ∧ target < 127 := by
  show (if (target : Int) < 127 then some (target : Int) else none) = some cell ↔ _
  split <;> simp <;> omega

theorem toCell?_reduce {rule : Nat} {cell : Int} :
    (reduce rule).toCell? = some cell ↔ cell = -(rule : Int) ∧ rule ≤ 128 := by
  show (if rule ≤ 128 then some (-(rule : Int)) else none) = some cell ↔ _
  split <;> simp <;> omega

/-- A cell fits into a signed byte. -/
theorem toCell?_bounds {a : Action} {cell : Int} (h : a.toCell? = some cell) :
    -128 ≤ cell ∧ cell ≤ 127 := by
  cases a with
  | shift target => rw [toCell?_shift] at h; omega
  | reduce rule => rw [toCell?_reduce] at h; omega
  | accept => rw [← Option.some.inj h]; decide
  | error => rw [← Option.some.inj h]; decide

/-- A cell other than 0 gives back its action. -/
theorem ofCell_of_toCell? {a : Action} {cell : Int} (h : a.toCell? = some cell)
    (h0 : cell ≠ 0) : ofCell cell = a := by
  unfold ofCell acceptCell
  cases a with
  | shift target =>
    obtain ⟨rfl, hlt⟩ := toCell?_shift.1 h
    rw [if_neg (by omega), if_neg h0, if_pos (by omega), Int.toNat_natCast]
  | reduce rule =>
    obtain ⟨rfl, -⟩ := toCell?_reduce.1 h
    rw [if_neg (by omega), if_neg h0, if_neg (by omega), Int.neg_neg, Int.toNat_natCast]
  | accept => exact if_pos (Option.some.inj h).symm
  | error => exact absurd (Option.some.inj h).symm h0

end Action
end ParserTables
