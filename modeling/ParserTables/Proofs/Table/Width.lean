import ParserTables.Proofs.Report.Shape
import ParserTables.Proofs.Table.Cells
import ParserTables.Proofs.Table.Consistency

/-! Tables whose rows have a column for each symbol.

Such a table can be shown (`Automaton.Fits.isSome_tableText?`): the column of every listed
symbol is there, also where there are more symbols than ids and the ids start again. Packing
keeps the widths (`fits_of_pack`). -/
namespace ParserTables

/-- A packed row with a cell for each symbol. -/
def PackedRow.Fits (terminals nonterminals : Nat) (row : PackedRow) : Prop :=
  row.actions.length = terminals ∧ row.gotos.length = nonterminals

theorem fits_of_pack {t : Table} {rows : List PackedRow} (h : t.pack = .ok rows)
    {terminals nonterminals : Nat} (hf : ∀ row ∈ t.rows, row.Fits terminals nonterminals) :
    ∀ row ∈ rows, row.Fits terminals nonterminals := by
  intro packed hpacked
  obtain ⟨state, hstate⟩ := List.mem_iff_getElem?.1 hpacked
  have hrel := packs_rows h state
  rw [hstate] at hrel
  generalize hrow : t.rows[state]? = entry at hrel
  cases hrel with
  | @some row _ hpacks =>
    have hfit := hf row (Array.mem_of_getElem? hrow)
    exact ⟨by rw [← hpacks.actions.length_eq, Array.length_toList, hfit.1],
      by rw [← hpacks.gotos.length_eq, Array.length_toList, hfit.2]⟩

/-! ### Texts -/

theorem isSome_bind {α β : Type} {x : Option α} {f : α → Option β} (hx : x.isSome = true)
    (hf : ∀ a, (f a).isSome = true) : (x >>= f).isSome = true := by
  obtain ⟨a, rfl⟩ := Option.isSome_iff_exists.1 hx
  exact hf a

theorem isSome_mapM {α β : Type} {f : α → Option β} {l : List α}
    (h : ∀ a ∈ l, (f a).isSome = true) : (l.mapM f).isSome = true := by
  induction l with
  | nil => rfl
  | cons a l ih =>
    rw [List.mapM_cons]
    exact isSome_bind (h a (List.mem_cons_self ..)) fun b =>
      isSome_bind (ih fun a ha => h a (List.mem_cons_of_mem _ ha)) fun bs => rfl

/-- The column of every listed name is there, whatever its id wraps to. -/
theorem isSome_column {α : Type} {l : Listing} {columns : Array α} (hsize : columns.size = l.size)
    {name : Text} {position : Nat} (h : (name, position) ∈ l.toList.zipIdx) :
    columns[idOf position]?.isSome = true := by
  have hlt : position < l.size := by
    have := (List.mem_zipIdx h).2.1
    rwa [Nat.zero_add, Listing.length_toList] at this
  have hid : idOf position < columns.size := hsize ▸ Nat.lt_of_le_of_lt (idOf_le position) hlt
  rw [Array.getElem?_eq_getElem hid]
  rfl

/-- A row that fits its symbols can be shown. -/
theorem Row.Fits.isSome_lines? {symbols : SymbolTable} {row : Row}
    (h : row.Fits symbols.terminals.size symbols.nonterminals.size) (state : Nat) :
    (row.lines? symbols state).isSome = true := by
  rw [lines?]
  refine isSome_bind (isSome_mapM ?_) fun actions => isSome_bind (isSome_mapM ?_) fun gotos => rfl
  · rintro ⟨name, position⟩ hmem
    rw [Option.isSome_map, isSome_column h.1 hmem]
  · rintro ⟨name, position⟩ hmem
    rw [Option.isSome_map, isSome_column h.2 hmem]

/-- **A table that fits its symbols can be shown.** -/
theorem Automaton.Fits.isSome_tableText? {a : Automaton} (h : a.Fits) :
    a.tableText?.isSome = true := by
  rw [tableText?, Table.text?]
  refine isSome_bind (isSome_mapM ?_) fun blocks => rfl
  rintro ⟨state, row⟩ hmem
  exact (h row (Table.mem_rows_of_mem_states hmem)).isSome_lines? state

end ParserTables
