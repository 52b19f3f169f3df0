import Mathlib.Data.List.Forall2
import ParserTables.Table.Packed

/-! The cells of a packed table, entry by entry.

A table that packs has for each of its entries a cell, at the same place
(`rel_cell?`, `rel_gotoCell?`). What a cell is read as is settled by the entry
alone: `Action.ofCell_of_toCell?_eq_ite` says that it is the entry itself, except that a shift to
state 0 and a reduction by rule 0 are read as errors. -/
namespace ParserTables

/-! ### Single cells -/

/-- Every cell gives back its action but those of the two actions that are packed like an
error. -/
theorem Action.ofCell_of_toCell?_eq_ite {a : Action} {cell : Int} (h : a.toCell? = some cell) :
    Action.ofCell cell = if a = .shift 0 ∨ a = .reduce 0 then .error else a := by
  by_cases h0 : cell = 0
  · subst h0
    cases a with
    | shift target =>
      obtain ⟨hk, -⟩ := toCell?_shift.1 h
      obtain rfl : target = 0 := by omega
      rfl
    | reduce rule =>
      obtain ⟨hr, -⟩ := toCell?_reduce.1 h
      obtain rfl : rule = 0 := by omega
      rfl
    | accept => exact absurd h (by decide)
    | error => rfl
  · rw [Action.ofCell_of_toCell? h h0, if_neg]
    rintro (rfl | rfl)
    · exact h0 (toCell?_shift.1 h).1
    · exact h0 (toCell?_reduce.1 h).1

/-- The cell of a goto. -/
def gotoCell? : Option Nat → Option Int
  | none => some 0
  | some target => (Action.shift target).toCell?

/-- The state that a goto cell names; the cell 0 stands for none. -/
def targetOf (cell : Int) : Option Nat := if cell = 0 then none else some cell.toNat

/-- Every goto cell gives back its goto but that of a goto to state 0. -/
theorem targetOf_of_gotoCell? {goto : Option Nat} {cell : Int} (h : gotoCell? goto = some cell)
    (h0 : goto ≠ some 0) : targetOf cell = goto := by
  cases goto with
  | none => exact Option.some.inj h ▸ rfl
  | some target =>
    rw [gotoCell?, Action.toCell?_shift] at h
    obtain ⟨rfl, -⟩ := h
    have hne : target ≠ 0 := fun ht => h0 (congrArg some ht)
    rw [targetOf, if_neg (by omega), Int.toNat_natCast]

/-! ### Entries -/

/-- What a table does in a state on a terminal, if it has such an entry. -/
def Table.action? (t : Table) (state terminal : Nat) : Option Action :=
  t.rows[state]?.bind (·.actions[terminal]?)

/-- Where a table goes from a state after a nonterminal, if it has such an entry. -/
def Table.goto? (t : Table) (state nonterminal : Nat) : Option (Option Nat) :=
  t.rows[state]?.bind (·.gotos[nonterminal]?)

namespace PackedRow

/-- The cell of a packed table for a state and a terminal. -/
def cell? (rows : List PackedRow) (state terminal : Nat) : Option Int :=
  rows[state]?.bind (·.actions[terminal]?)

/-- The goto cell of a packed table for a state and a nonterminal. -/
def gotoCell? (rows : List PackedRow) (state nonterminal : Nat) : Option Int :=
  rows[state]?.bind (·.gotos[nonterminal]?)

end PackedRow

/-! ### Packing -/

/-- The steps of a computation that ends well end well. -/
theorem exists_of_bind_eq_ok {α β ε : Type} {x : Except ε α} {f : α → Except ε β} {b : β}
    (h : (x >>= f) = .ok b) : ∃ a, x = .ok a ∧ f a = .ok b := by
  cases x with
  | error e => exact absurd h nofun
  | ok a => exact ⟨a, rfl, h⟩

/-- A list all of whose elements have a result has the results, in order. -/
theorem forall₂_of_mapM_ok {α β ε : Type} {f : α → Except ε β} {l : List α} {l' : List β}
    (h : l.mapM f = .ok l') : List.Forall₂ (fun a b => f a = .ok b) l l' := by
  induction l generalizing l' with
  | nil =>
    obtain rfl := Except.ok.inj h
    exact .nil
  | cons a l ih =>
    rw [List.mapM_cons] at h
    obtain ⟨b, ha, h⟩ := exists_of_bind_eq_ok h
    obtain ⟨bs, hl, h⟩ := exists_of_bind_eq_ok h
    obtain rfl := Except.ok.inj h
    exact .cons ha (ih hl)

/-- Elements at one place of two lists that are related element by element. -/
theorem rel_getElem? {α β : Type} {R : α → β → Prop} {l : List α} {l' : List β}
    (h : List.Forall₂ R l l') (i : Nat) : Option.Rel R l[i]? l'[i]? := by
  induction h generalizing i with
  | nil => exact .none
  | cons hab _ ih =>
    cases i with
    | zero => exact .some hab
    | succ i => exact ih i

namespace Row

theorem packAction_eq_ok_iff {state : Nat} {a : Action} {cell : Int} :
    packAction state a = .ok cell ↔ a.toCell? = some cell := by
  rw [packAction]
  split <;> simp_all

theorem packGoto_eq_ok_iff {state : Nat} {goto : Option Nat} {cell : Int} :
    packGoto state goto = .ok cell ↔ ParserTables.gotoCell? goto = some cell := by
  cases goto with
  | none => simp [packGoto, ParserTables.gotoCell?]
  | some target => rw [packGoto, ParserTables.gotoCell?, packAction_eq_ok_iff]

/-- A packed row has a cell for each entry of the row. -/
structure Packs (row : Row) (packed : PackedRow) : Prop where
  actions : List.Forall₂ (fun a cell => Action.toCell? a = some cell) row.actions.toList
    packed.actions
  gotos : List.Forall₂ (fun goto cell => ParserTables.gotoCell? goto = some cell)
    row.gotos.toList packed.gotos

theorem packs_of_pack {state : Nat} {row : Row} {packed : PackedRow}
    (h : row.pack state = .ok packed) : row.Packs packed := by
  rw [pack] at h
  obtain ⟨actions, ha, h⟩ := exists_of_bind_eq_ok h
  obtain ⟨gotos, hg, h⟩ := exists_of_bind_eq_ok h
  obtain rfl := Except.ok.inj h
  exact ⟨(forall₂_of_mapM_ok ha).imp fun _ _ => packAction_eq_ok_iff.1,
    (forall₂_of_mapM_ok hg).imp fun _ _ => packGoto_eq_ok_iff.1⟩

end Row

section Packed
variable {t : Table} {rows : List PackedRow} (h : t.pack = .ok rows)
include h

/-- A packed table has a packed row for each row. -/
theorem packs_rows (state : Nat) : Option.Rel Row.Packs t.rows[state]? rows[state]? := by
  have hrel := rel_getElem? (forall₂_of_mapM_ok h) state
  have hstate : t.states[state]? = t.rows[state]?.map fun row => (idOf state, row) := by
    simp [Table.states, Function.comp_def]
  rw [hstate] at hrel
  cases hrow : t.rows[state]? with
  | none =>
    rw [hrow] at hrel
    generalize rows[state]? = packed at hrel ⊢
    cases hrel
    exact .none
  | some row =>
    rw [hrow] at hrel
    generalize rows[state]? = packed at hrel ⊢
    cases hrel with
    | some hpack => exact .some (Row.packs_of_pack hpack)

/-- **Every action has its cell**, at the same place. -/
theorem rel_cell? (state terminal : Nat) :
    Option.Rel (fun a cell => Action.toCell? a = some cell) (t.action? state terminal)
      (PackedRow.cell? rows state terminal) := by
  have hrow := packs_rows h state
  rw [Table.action?, PackedRow.cell?]
  generalize t.rows[state]? = row at hrow ⊢
  generalize rows[state]? = packed at hrow ⊢
  cases hrow with
  | none => exact .none
  | some hp => simpa using rel_getElem? hp.actions terminal

/-- **Every goto has its cell**, at the same place. -/
theorem rel_gotoCell? (state nonterminal : Nat) :
    Option.Rel (fun goto cell => gotoCell? goto = some cell) (t.goto? state nonterminal)
      (PackedRow.gotoCell? rows state nonterminal) := by
  have hrow := packs_rows h state
  rw [Table.goto?, PackedRow.gotoCell?]
  generalize t.rows[state]? = row at hrow ⊢
  generalize rows[state]? = packed at hrow ⊢
  cases hrow with
  | none => exact .none
  | some hp => simpa using rel_getElem? hp.gotos nonterminal

end Packed
end ParserTables
