import ParserTables.Proofs.Report.Feed

/-! The shape of the rows that a report is read into.

The widths of the rows are set when the first state is opened. `Builder.Fits` says that all
rows of a builder, the open one included, have them. Every effect of a line keeps it
(`Builder.Step.fits`), a reader keeps it over any line, rejected ones included
(`Reader.feed_fits`), and so the rows of a report that is read have a column for each
symbol it lists (`Automaton.fits_of_read`). There is at least one row: a row is open
after every accepted line among the states (`Reader.feed_begun`). -/
namespace ParserTables

/-! ### Builders -/

/-- A row with a column for each symbol. -/
def Row.Fits (terminals nonterminals : Nat) (row : Row) : Prop :=
  row.actions.size = terminals ∧ row.gotos.size = nonterminals

/-- An open row with a column for each symbol. -/
def Block.Fits (terminals nonterminals : Nat) (block : Block) : Prop :=
  block.actions.size = terminals ∧ block.gotos.size = nonterminals

theorem Block.fits_empty (terminals nonterminals : Nat) :
    (Block.empty terminals nonterminals).Fits terminals nonterminals := by
  simp [Block.Fits, Block.empty]

theorem Block.Fits.close {t n : Nat} {block : Block} (h : block.Fits t n) :
    block.close.Fits t n :=
  ⟨block.size_actions_close.trans h.1, h.2⟩

section Entries
variable {t n : Nat} {block : Block} (h : block.Fits t n)
include h

theorem Block.Fits.recordAction (s : Strictness) (terminal : Nat) (entry : Action)
    (discarded : Bool) : (block.recordAction s terminal entry discarded).1.Fits t n := by
  unfold Block.recordAction
  split
  · exact h
  · split
    · exact h
    · split
      · exact ⟨(Block.size_actions_enter entry).trans h.1, h.2⟩
      · exact h

theorem Block.Fits.recordFallback (s : Strictness) (entry : Action) (discarded : Bool) :
    (block.recordFallback s entry discarded).1.Fits t n := by
  unfold Block.recordFallback
  split
  · exact h
  · split <;> exact h

theorem Block.Fits.recordGoto (nonterminal target : Nat) :
    (block.recordGoto nonterminal target).1.Fits t n := by
  unfold Block.recordGoto
  split
  · exact ⟨h.1, by simpa using h.2⟩
  · exact h

end Entries

/-- A builder for `t` terminals and `n` nonterminals all rows of which have these widths. -/
structure Builder.Fits (t n : Nat) (b : Builder) : Prop where
  terminals : b.terminals = t
  nonterminals : b.nonterminals = n
  rows : ∀ row ∈ b.rows, row.Fits t n
  block : ∀ block ∈ b.block, block.Fits t n

namespace Builder
variable {t n : Nat} {b b' : Builder}

theorem fits_empty (s : Strictness) (t n : Nat) : (Builder.empty s t n).Fits t n :=
  ⟨rfl, rfl, by simp [empty], by simp [empty]⟩

theorem Fits.closed (h : b.Fits t n) : ∀ row ∈ b.closed, row.Fits t n := by
  intro row hrow
  rw [Builder.closed] at hrow
  split at hrow
  · exact h.rows row hrow
  · rename_i block hblock
    rcases Array.mem_push.1 hrow with hrow | rfl
    · exact h.rows row hrow
    · exact (h.block block hblock).close

theorem Fits.beginState (h : b.Fits t n) : b.beginState.Fits t n := by
  refine ⟨h.terminals, h.nonterminals, h.closed, ?_⟩
  intro block hblock
  obtain rfl := Option.some.inj hblock
  rw [h.terminals, h.nonterminals]
  exact Block.fits_empty t n

/-- Another open row with the same widths. -/
theorem Fits.withBlock (h : b.Fits t n) {block : Block} (hb : block.Fits t n) :
    { b with block := some block }.Fits t n :=
  ⟨h.terminals, h.nonterminals, h.rows, fun _ he => Option.some.inj he ▸ hb⟩

/-- An entry that keeps the widths of the open row keeps those of the builder. -/
theorem Fits.record (h : b.Fits t n) {entry : Block → Block × Option EntryError}
    (hentry : ∀ block : Block, block.Fits t n → (entry block).1.Fits t n) :
    (b.record entry).1.Fits t n := by
  rw [Builder.record]
  split
  · exact h
  · rename_i block hblock
    exact h.withBlock (hentry block (h.block block hblock))

/-- No effect of a line changes the width of a row. -/
theorem Step.fits (hs : b.Step b') (h : b.Fits t n) : b'.Fits t n := by
  cases hs with
  | stay => exact h
  | beginState => exact h.beginState
  | action terminal entry discarded => exact h.record fun _ hb => hb.recordAction ..
  | fallback entry discarded => exact h.record fun _ hb => hb.recordFallback ..
  | goto nonterminal target => exact h.record fun _ hb => hb.recordGoto ..

end Builder

/-! ### Readers -/

/-- Among the states, all rows have a column for each symbol that was listed. -/
def Reader.Fits (r : Reader) : Prop :=
  ∀ b, r.stretch = .states b → b.Fits r.symbols.terminals.size r.symbols.nonterminals.size

namespace Reader

theorem fits_start (s : Strictness) : (start s).Fits := fun _ h => nomatch h

/-- A stretch before the states has no rows. -/
theorem fits_of_ne {r : Reader} (h : ∀ b, r.stretch ≠ .states b) : r.Fits :=
  fun b hb => absurd hb (h b)

/-- A reader among the states fits if its builder does, with the symbols it had. -/
theorem Among.fits {r r' : Reader} {b b' : Builder} (h : Among r b' r')
    (hb : b.Fits r.symbols.terminals.size r.symbols.nonterminals.size) (hstep : b.Step b') :
    r'.Fits := by
  intro b'' hb''
  obtain rfl := Stretch.states.inj (h.stretch.symm.trans hb'')
  rw [h.symbols]
  exact hstep.fits hb

/-- After a line the reader stands before the states, or it has just come to them, or it
stood among them already. -/
theorem feed_cases (r : Reader) (n : Nat) (line : Text) :
    (∀ b, (r.feed n line).1.stretch ≠ .states b) ∨
    (∃ found, r.feed n line = r.beginState
      (.empty r.strictness r.symbols.terminals.size r.symbols.nonterminals.size) n found) ∨
    ∃ b b', r.stretch = .states b ∧ b.Step b' ∧ Among r b' (r.feed n line).1 := by
  have htakes := r.takes_feed n line
  generalize r.feed n line = fed at htakes ⊢
  cases htakes with
  | blank _ =>
    cases hs : r.stretch with
    | states b => exact .inr (.inr ⟨b, b, rfl, .stay, hs, rfl, rfl⟩)
    | _ => exact .inl fun b => by simp [accept, hs]
  | preamble hs _ => exact .inl fun b => by simp [accept, hs]
  | enterGrammar _ _ => exact .inl fun b => by simp [accept]
  | rule hs _ =>
    obtain ⟨left', rules, oddities, hline⟩ := grammarLine_eq hs n line
    exact .inl fun b => by simp [hline]
  | enterTerminals _ _ => exact .inl fun b => by simp [accept]
  | @terminal column _ _ =>
    obtain ⟨terminals, hline⟩ := terminalLine_eq r column line
    exact .inl fun b => by simp [accept, hline]
  | enterNonterminals _ _ => exact .inl fun b => by simp [accept]
  | @nonterminal column _ _ =>
    obtain ⟨nonterminals, hline⟩ := nonterminalLine_eq r column line
    exact .inl fun b => by simp [accept, hline]
  | enterStates _ _ => exact .inr (.inl ⟨_, rfl⟩)
  | @beginState b found hs _ =>
    obtain ⟨b', hstep⟩ := beginState_step r b n found
    exact .inr (.inr ⟨b, b', hs, hstep⟩)
  | @entry b hs _ =>
    obtain ⟨b', hstep⟩ := stateLine_step hs n line
    exact .inr (.inr ⟨b, b', hs, hstep⟩)

/-- **No line spoils the shape of the rows**, be it accepted or rejected. -/
theorem feed_fits {r : Reader} (h : r.Fits) (n : Nat) (line : Text) : (r.feed n line).1.Fits := by
  rcases feed_cases r n line with hne | ⟨found, hbegin⟩ | ⟨b, b', hs, hstep, ha⟩
  · exact fits_of_ne hne
  · obtain ⟨b', hstep, ha⟩ := beginState_step r
      (.empty r.strictness r.symbols.terminals.size r.symbols.nonterminals.size) n found
    rw [hbegin]
    exact ha.fits (Builder.fits_empty ..) hstep
  · exact ha.fits (h b hs) hstep

end Reader

/-! ### Open rows -/

/-- An entry neither opens a row nor closes one. -/
theorem Builder.isSome_block_record (b : Builder) (entry : Block → Block × Option EntryError) :
    (b.record entry).1.block.isSome = b.block.isSome := by
  rw [record]
  cases h : b.block with
  | none => exact congrArg Option.isSome h
  | some block => rfl

/-- No effect of a line closes a row without opening the next one. -/
theorem Builder.Step.isSome_block {b b' : Builder} (hs : b.Step b') (h : b.block.isSome = true) :
    b'.block.isSome = true := by
  cases hs with
  | stay => exact h
  | beginState => rfl
  | action terminal entry discarded => exact (b.isSome_block_record _).trans h
  | fallback entry discarded => exact (b.isSome_block_record _).trans h
  | goto nonterminal target => exact (b.isSome_block_record _).trans h

namespace Reader

/-- Among the states, a row is open. -/
def Begun (r : Reader) : Prop := ∀ b, r.stretch = .states b → b.block.isSome = true

theorem beginState_stretch {r : Reader} {b : Builder} {n found : Nat}
    (h : (r.beginState b n found).2 = none) :
    (r.beginState b n found).1.stretch = .states b.beginState := by
  rw [beginState] at h ⊢
  split at h
  · rename_i hf
    rw [if_pos hf]
    rfl
  · exact absurd h (by simp [reject])

/-- A row is open after every accepted line among the states. -/
theorem feed_begun {r : Reader} (h : r.Begun) (n : Nat) (line : Text)
    (hok : (r.feed n line).2 = none) : (r.feed n line).1.Begun := by
  intro b'' hb''
  rcases feed_cases r n line with hne | ⟨found, hbegin⟩ | ⟨b, b', hs, hstep, ha⟩
  · exact absurd hb'' (hne b'')
  · rw [hbegin] at hok hb''
    obtain rfl := Stretch.states.inj ((beginState_stretch hok).symm.trans hb'')
    rfl
  · obtain rfl := Stretch.states.inj (ha.stretch.symm.trans hb'')
    exact hstep.isSome_block (h b hs)

end Reader

/-! ### Reports that are read -/

/-- All rows of an automaton have a column for each of its symbols. -/
def Automaton.Fits (a : Automaton) : Prop :=
  ∀ row ∈ a.table.rows, row.Fits a.symbols.terminals.size a.symbols.nonterminals.size

/-- **The rows of a report that is read** have a column for each symbol it lists. -/
theorem Automaton.fits_of_read {s : Strictness} {source : Text} {a : Automaton}
    (h : Automaton.read s source = .ok a) : a.Fits := by
  obtain ⟨r, b, hrun, hs, rfl⟩ := exists_of_read h
  have hfit := Reader.feedAll_preserves (P := Reader.Fits)
    (fun r n line h _ => Reader.feed_fits h n line) hrun (Reader.fits_start s)
  exact (hfit b hs).closed

/-- A report that is read has a state. -/
theorem Automaton.size_pos_of_read {s : Strictness} {source : Text} {a : Automaton}
    (h : Automaton.read s source = .ok a) : 0 < a.table.size := by
  obtain ⟨r, b, hrun, hs, rfl⟩ := exists_of_read h
  have hbegun := Reader.feedAll_preserves (P := Reader.Begun)
    (fun r n line h hok => Reader.feed_begun h n line hok) hrun (fun _ hb => nomatch hb)
  obtain ⟨block, hblock⟩ := Option.isSome_iff_exists.1 (hbegun b hs)
  simp [Table.size, Builder.finish, Builder.closed, hblock]

end ParserTables
