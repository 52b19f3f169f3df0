import ParserTables.Proofs.Report.Shape
import ParserTables.Proofs.Table.Cells
import ParserTables.Proofs.Table.Consistency

/-! The tables of accepted reports, and what their cells stand for.

An accepted report has an entry for each of its states and symbols, and what the entry
refers to is there (`exists_action?`, `exists_goto?`, `exists_left`). If its table packs, every
cell is read as the action it was packed from, but for shifts to state 0 and reductions
by rule 0: `ofCell_pack`. Both are accepted (`shift_to_start_accepted`). What the cells refer to
is there as well: `cells_resolve`. -/
namespace ParserTables

/-! ### Entries and their cells -/

/-- A negative cell names a rule that is declared, a positive one a state that is there, unless
it is the cell of accepting. -/
theorem Action.Resolves.cell {declared : Nat → Bool} {states : Nat} {action : Action} {cell : Int}
    (h : action.Resolves declared states) (hc : action.toCell? = some cell) :
    (cell < 0 → declared (-cell).toNat = true) ∧
    (0 < cell → cell < acceptCell → cell < states) ∧
    (cell = acceptCell → action = .accept) := by
  unfold acceptCell
  cases action with
  | shift target =>
    obtain ⟨rfl, hlt⟩ := toCell?_shift.1 hc
    exact ⟨fun _ => by omega, fun _ _ => Int.ofNat_lt.2 h, fun _ => by omega⟩
  | reduce rule =>
    obtain ⟨rfl, -⟩ := toCell?_reduce.1 hc
    refine ⟨fun _ => ?_, fun _ => by omega, fun _ => by omega⟩
    rw [Int.neg_neg, Int.toNat_natCast]
    exact h
  | accept =>
    have hcell : 127 = cell := Option.some.inj hc
    exact ⟨fun _ => by omega, fun _ _ => by omega, fun _ => rfl⟩
  | error =>
    have hcell : 0 = cell := Option.some.inj hc
    exact ⟨fun _ => by omega, fun _ => by omega, fun _ => by omega⟩

/-- A goto cell names a state that is there; state 0 is. -/
theorem gotoCell?_bounds {states : Nat} (hpos : 0 < states) {goto : Option Nat} {cell : Int}
    (h : ∀ target, goto = some target → target < states) (hc : gotoCell? goto = some cell) :
    0 ≤ cell ∧ cell < states := by
  cases goto with
  | none =>
    have hcell : 0 = cell := Option.some.inj hc
    omega
  | some target =>
    rw [gotoCell?, Action.toCell?_shift] at hc
    obtain ⟨rfl, -⟩ := hc
    exact ⟨Int.natCast_nonneg target, Int.ofNat_lt.2 (h target rfl)⟩

namespace Automaton.Consistent
variable {a : Automaton} (h : a.Consistent)
include h

theorem resolves {s t : Nat} {action : Action} (ha : a.table.action? s t = some action) :
    action.Resolves a.rules.contains a.table.size := by
  obtain ⟨row, hrow, hentry⟩ := Option.bind_eq_some_iff.1 ha
  exact (h.rows row (Array.mem_of_getElem? hrow)).actions action (Array.mem_of_getElem? hentry)

theorem target_lt {s n target : Nat} (hg : a.table.goto? s n = some (some target)) :
    target < a.table.size := by
  obtain ⟨row, hrow, hentry⟩ := Option.bind_eq_some_iff.1 hg
  exact (h.rows row (Array.mem_of_getElem? hrow)).gotos target (Array.mem_of_getElem? hentry)

end Automaton.Consistent

/-! ### Accepted reports -/

section Accepted
variable {source : Text} {a : Automaton} (h : Automaton.compile .strict source = .ok a)
include h

theorem fits_of_compile : a.Fits := Automaton.fits_of_read (Automaton.compile_strict_iff.1 h).1

theorem consistent_of_compile : a.Consistent :=
  Automaton.violation?_eq_none_iff.1 (Automaton.compile_strict_iff.1 h).2

theorem size_pos_of_compile : 0 < a.table.size :=
  Automaton.size_pos_of_read (Automaton.compile_strict_iff.1 h).1

/-- Every state has an action on every terminal, and what it refers to is there. -/
theorem exists_action? {s t : Nat} (hs : s < a.table.size) (ht : t < a.symbols.terminals.size) :
    ∃ action, a.table.action? s t = some action ∧
      action.Resolves a.rules.contains a.table.size := by
  have hmem : a.table.rows[s] ∈ a.table.rows := Array.getElem_mem hs
  have hlt : t < a.table.rows[s].actions.size := by rwa [(fits_of_compile h _ hmem).1]
  have haction : a.table.action? s t = some a.table.rows[s].actions[t] := by
    rw [Table.action?, Array.getElem?_eq_getElem hs, Option.bind_some,
      Array.getElem?_eq_getElem hlt]
  exact ⟨_, haction, (consistent_of_compile h).resolves haction⟩

/-- Every state has a goto for every nonterminal, and it leads to a state if anywhere. -/
theorem exists_goto? {s n : Nat} (hs : s < a.table.size) (hn : n < a.symbols.nonterminals.size) :
    ∃ goto, a.table.goto? s n = some goto ∧
      ∀ target, goto = some target → target < a.table.size := by
  have hmem : a.table.rows[s] ∈ a.table.rows := Array.getElem_mem hs
  have hlt : n < a.table.rows[s].gotos.size := by rwa [(fits_of_compile h _ hmem).2]
  have hgoto : a.table.goto? s n = some a.table.rows[s].gotos[n] := by
    rw [Table.goto?, Array.getElem?_eq_getElem hs, Option.bind_some, Array.getElem?_eq_getElem hlt]
  exact ⟨_, hgoto, fun target ht => (consistent_of_compile h).target_lt (ht ▸ hgoto)⟩

/-- Every rule produces a nonterminal that has a column. -/
theorem exists_left {n : Nat} {r : Rule} (hr : a.rules.get? n = some r) :
    ∃ id, a.symbols.nonterminals.id? r.left = some id ∧ id < a.symbols.nonterminals.size := by
  obtain ⟨hmem, -⟩ := RuleSet.mem_toList_of_get? hr
  have hleft := (consistent_of_compile h).lefts r hmem
  cases hp : a.symbols.nonterminals.position? r.left with
  | none => exact absurd hleft (Listing.position?_eq_none_iff.1 hp)
  | some p =>
    have hid : a.symbols.nonterminals.id? r.left = some (idOf p) := by rw [Listing.id?, hp]; rfl
    exact ⟨idOf p, hid, Listing.lt_size_of_id? hid⟩

/-- Every state has a cell for every terminal, packed from the action there. -/
theorem exists_cell {rows : List PackedRow} (hp : a.table.pack = .ok rows) {s t : Nat}
    (hs : s < a.table.size) (ht : t < a.symbols.terminals.size) :
    ∃ action cell, a.table.action? s t = some action ∧
      action.Resolves a.rules.contains a.table.size ∧ PackedRow.cell? rows s t = some cell ∧
      action.toCell? = some cell := by
  obtain ⟨action, haction, hres⟩ := exists_action? h hs ht
  have hrel := rel_cell? hp s t
  rw [haction] at hrel
  generalize hcell : PackedRow.cell? rows s t = packed at hrel
  cases hrel with
  | @some _ cell hc => exact ⟨action, cell, haction, hres, rfl, hc⟩

/-- **What the cells of an accepted report stand for.** For each state and terminal there
is a cell, and it is read as the action of the table, except that a shift to state 0 and a
reduction by rule 0 are read as errors. -/
theorem ofCell_pack {rows : List PackedRow} (hp : a.table.pack = .ok rows) {s t : Nat}
    (hs : s < a.table.size) (ht : t < a.symbols.terminals.size) :
    ∃ action cell, a.table.action? s t = some action ∧ PackedRow.cell? rows s t = some cell ∧
      Action.ofCell cell =
        if action = .shift 0 ∨ action = .reduce 0 then .error else action := by
  obtain ⟨action, cell, haction, -, hcell, hc⟩ := exists_cell h hp hs ht
  exact ⟨action, cell, haction, hcell, Action.ofCell_of_toCell?_eq_ite hc⟩

/-- **What the cells of an accepted report refer to is there.** A negative action cell names a
rule that is declared; a positive one names a state, unless it is 127: then the action is to accept.
A goto cell names a state, and the left side of every rule is listed. -/
theorem cells_resolve {rows : List PackedRow} (hp : a.table.pack = .ok rows) :
    (∀ s t cell, PackedRow.cell? rows s t = some cell →
      (cell < 0 → a.rules.contains (-cell).toNat = true) ∧
      (0 < cell → cell < 127 → cell < a.table.size) ∧
      (cell = 127 → a.table.action? s t = some .accept)) ∧
    (∀ s n cell, PackedRow.gotoCell? rows s n = some cell → 0 ≤ cell ∧ cell < a.table.size) ∧
    ∀ r ∈ a.rules.toList, r.left ∈ a.symbols.nonterminals.toList := by
  have hcons := consistent_of_compile h
  refine ⟨fun s t cell hcell => ?_, fun s n cell hcell => ?_, hcons.lefts⟩
  · have hrel := rel_cell? hp s t
    rw [hcell] at hrel
    generalize haction : a.table.action? s t = entry at hrel
    cases hrel with
    | @some action _ hc =>
      obtain ⟨hrule, hstate, haccept⟩ := (hcons.resolves haction).cell hc
      exact ⟨hrule, hstate, fun h127 => congrArg some (haccept h127)⟩
  · have hrel := rel_gotoCell? hp s n
    rw [hcell] at hrel
    generalize hgoto : a.table.goto? s n = entry at hrel
    cases hrel with
    | @some goto _ hc =>
      exact gotoCell?_bounds (size_pos_of_compile h)
        (fun target ht => hcons.target_lt (ht ▸ hgoto)) hc

end Accepted

/-! ### Reports -/

/-- A report of sums, with six states. -/
def sumReport : Text := Text.unlines <| List.map String.toList
  ["Grammar", "", "    0 $accept: expr $end", "    1 expr: expr PLUS NUM", "    2     | NUM", "",
    "Terminals, with rules where they appear", "", "$end (0) 0", "PLUS (258) 1", "NUM (259) 1 2", "",
    "Nonterminals, with rules where they appear", "", "$accept (4)", "expr (5)", "",
    "state 0", "    NUM  shift, and go to state 1", "    expr  go to state 2",
    "state 1", "    $default  reduce using rule 2 (expr)",
    "state 2", "    $end  shift, and go to state 3", "    PLUS  shift, and go to state 4",
    "state 3", "    $default  accept",
    "state 4", "    NUM  shift, and go to state 5",
    "state 5", "    $default  reduce using rule 1 (expr)"]

theorem ofCell_pack_sumReport : ∃ a rows, Automaton.compile .strict sumReport = .ok a ∧
    a.table.pack = .ok rows ∧ 5 < a.table.size ∧ 1 < a.symbols.terminals.size ∧
    a.table.action? 5 1 = some (.reduce 1) ∧
    ∃ action cell, a.table.action? 5 1 = some action ∧ PackedRow.cell? rows 5 1 = some cell ∧
      Action.ofCell cell =
        if action = .shift 0 ∨ action = .reduce 0 then .error else action := by
  obtain ⟨a, ha, hcheck⟩ := exists_ok_of_any (x := Automaton.compile .strict sumReport)
    (p := fun a => a.table.pack.toOption.isSome && decide (5 < a.table.size ∧
      1 < a.symbols.terminals.size ∧ a.table.action? 5 1 = some (.reduce 1)))
    (by decide +kernel)
  obtain ⟨hpack, hs, ht, haction⟩ := by simpa using hcheck
  cases hp : a.table.pack with
  | error e => exact absurd hpack (by simp [hp, Except.toOption])
  | ok rows => exact ⟨a, rows, ha, hp, hs, ht, haction, ofCell_pack ha hp hs ht⟩

theorem cells_resolve_sumReport : ∃ a rows, Automaton.compile .strict sumReport = .ok a ∧
    a.table.pack = .ok rows ∧ PackedRow.cell? rows 3 0 = some 127 ∧
    PackedRow.cell? rows 5 1 = some (-1) ∧ PackedRow.gotoCell? rows 0 1 = some 2 ∧
    a.table.action? 3 0 = some .accept ∧ a.rules.contains 1 = true ∧ 2 < a.table.size := by
  obtain ⟨a, ha, hcheck⟩ := exists_ok_of_any (x := Automaton.compile .strict sumReport)
    (p := fun a => a.table.pack.toOption.any fun rows => PackedRow.cell? rows 3 0 = some 127 ∧
      PackedRow.cell? rows 5 1 = some (-1) ∧ PackedRow.gotoCell? rows 0 1 = some 2)
    (by decide +kernel)
  obtain ⟨rows, hp, hcells⟩ := exists_ok_of_any hcheck
  obtain ⟨haccept, hreduce, hgoto⟩ := of_decide_eq_true hcells
  obtain ⟨hactions, hgotos, -⟩ := cells_resolve ha hp
  refine ⟨a, rows, ha, hp, haccept, hreduce, hgoto, (hactions 3 0 127 haccept).2.2 rfl,
    (hactions 5 1 (-1) hreduce).1 (by decide), ?_⟩
  exact_mod_cast (hgotos 0 1 2 hgoto).2

/-- A report with a shift to its first state. -/
def loopReport : Text := Text.unlines <| List.map String.toList
  ["Grammar", "    0 s: A", "Terminals, with rules where they appear", "A (258) 0",
    "Nonterminals, with rules where they appear", "s (3)", "state 0",
    "    A  shift, and go to state 0"]

/-- A shift to the first state is accepted and packed, and its cell is read as an error. -/
theorem shift_to_start_accepted : ∃ a rows, Automaton.compile .strict loopReport = .ok a ∧
    a.table.pack = .ok rows ∧ a.table.action? 0 0 = some (.shift 0) ∧
    PackedRow.cell? rows 0 0 = some 0 ∧ Action.ofCell 0 = .error := by
  obtain ⟨a, ha, hcheck⟩ := exists_ok_of_any (x := Automaton.compile .strict loopReport)
    (p := fun a => decide (a.table.action? 0 0 = some (.shift 0)) &&
      a.table.pack.toOption.any fun rows => decide (PackedRow.cell? rows 0 0 = some 0))
    (by decide +kernel)
  obtain ⟨haction, hpack⟩ := Bool.and_eq_true_iff.1 hcheck
  obtain ⟨rows, hp, hcell⟩ := exists_ok_of_any hpack
  exact ⟨a, rows, ha, hp, of_decide_eq_true haction, of_decide_eq_true hcell, by decide⟩

end ParserTables
