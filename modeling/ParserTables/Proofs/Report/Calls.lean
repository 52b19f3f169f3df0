import ParserTables.Proofs.Report.Shape

/-! The calls that the lines of a state make to a builder.

A line of a state block asks for one thing at most: `Reader.told` says for what, from the line and
the listed symbols alone, and `stateLine_eq` that the reader does just that. A call works on
the open row (`Builder.call_eq`) and leaves the finished ones and the strictness alone. A call that
is refused leaves the open row alone as well (`Builder.call_refused`), and no call misses a column
of a row as wide as the listings (`Builder.call_ne_outOfRange`). -/
namespace ParserTables

/-! ### Calls -/

/-- What a builder can be asked to record in the open row. -/
inductive Call where
  | action (terminal : Nat) (entry : Action) (discarded : Bool)
  | fallback (entry : Action) (discarded : Bool)
  | goto (nonterminal target : Nat)

/-- The column of a call is one of so many. -/
def Call.Within (terminals nonterminals : Nat) : Call → Prop
  | .action terminal _ _ => terminal < terminals
  | .fallback _ _ => True
  | .goto nonterminal _ => nonterminal < nonterminals

namespace Block

/-- A row after a call, and why the call was refused if it was. -/
def call (strictness : Strictness) (block : Block) : Call → Block × Option EntryError
  | .action terminal entry discarded => block.recordAction strictness terminal entry discarded
  | .fallback entry discarded => block.recordFallback strictness entry discarded
  | .goto nonterminal target => block.recordGoto nonterminal target

variable {s : Strictness} {block : Block}

/-- What an action does to the slot of its terminal. -/
theorem call_action {t : Nat} {slot : Option Action} (hslot : block.slot? t = some slot)
    (entry : Action) (discarded : Bool) : block.call s (.action t entry discarded) =
      if s.drops discarded then (block, none)
      else if s.refuses slot.isSome then (block, some .duplicate)
      else (block.enter t entry, none) := by
  have hmarked := marked_of_slot? hslot
  rw [call, recordAction, hmarked, if_pos (lt_size_of_slot? hslot)]
  congr 1
  by_cases hrefuses : s.refuses slot.isSome = true
  · -- only a terminal that is marked already is refused
    have htaken : slot.isSome = true := (Bool.and_eq_true_iff.1 hrefuses).2
    rw [if_pos hrefuses, if_pos hrefuses, mark_of_marked (hmarked.trans htaken)]
  · rw [if_neg hrefuses, if_neg hrefuses]

/-- **A call that is refused** leaves the row as it was: what it would have marked was marked
before. -/
theorem call_refused {c : Call} {e : EntryError} (h : (block.call s c).2 = some e) :
    (block.call s c).1 = block := by
  cases c with
  | action t entry discarded =>
    by_cases ht : t < block.actions.size
    · obtain ⟨slot, hslot⟩ := exists_slot? ht
      rw [call_action hslot] at h ⊢
      split at h
      · cases h
      · split at h
        · rw [if_neg ‹_›, if_pos ‹_›]
        · cases h
    · have hmark := mark_of_size_le (Nat.le_of_not_lt ht)
      rw [call, recordAction, hmark, if_neg ht]
      split
      · rfl
      · split <;> rfl
  | fallback entry discarded =>
    rw [call, recordFallback] at h ⊢
    split at h
    · cases h
    · split at h
      · rw [if_neg ‹_›, if_pos ‹_›]
      · cases h
  | goto nonterminal target =>
    rw [call, recordGoto] at h ⊢
    split at h
    · cases h
    · rw [if_neg ‹_›]

/-- Every column that a call names is a column of a row that fits. -/
theorem call_ne_outOfRange {t n : Nat} (hf : block.Fits t n) {c : Call} (hc : c.Within t n)
    (s : Strictness) : (block.call s c).2 ≠ some .outOfRange := by
  cases c with
  | action terminal entry discarded =>
    obtain ⟨slot, hslot⟩ := exists_slot? (b := block) (t := terminal) (hf.1.symm ▸ hc)
    rw [call_action hslot]
    split
    · exact (Option.some_ne_none _).symm
    · split
      · intro h
        cases h
      · exact (Option.some_ne_none _).symm
  | fallback entry discarded =>
    rw [call, recordFallback]
    split
    · exact (Option.some_ne_none _).symm
    · split
      · intro h
        cases h
      · exact (Option.some_ne_none _).symm
  | goto nonterminal target =>
    rw [call, recordGoto, if_pos (show nonterminal < block.gotos.size from hf.2.symm ▸ hc)]
    exact (Option.some_ne_none _).symm

end Block

namespace Builder

def call (b : Builder) : Call → Builder × Option EntryError
  | .action terminal entry discarded => b.action terminal entry discarded
  | .fallback entry discarded => b.fallback entry discarded
  | .goto nonterminal target => b.goto nonterminal target

theorem step_call (b : Builder) (c : Call) : b.Step (b.call c).1 := by
  cases c with
  | action terminal entry discarded => exact .action ..
  | fallback entry discarded => exact .fallback ..
  | goto nonterminal target => exact .goto ..

/-- A call is recorded in the open row. -/
theorem call_eq_record (b : Builder) (c : Call) :
    b.call c = b.record fun block => block.call b.strictness c := by
  cases c <;> rfl

/-- Outside of any block nothing is recorded. -/
theorem call_of_none {b : Builder} (h : b.block = none) (c : Call) : b.call c = (b, none) := by
  rw [call_eq_record, record, h]

/-- A call changes the open row and nothing else. -/
theorem call_eq {b : Builder} {block : Block} (h : b.block = some block) (c : Call) :
    b.call c = ({ b with block := some (block.call b.strictness c).1 },
      (block.call b.strictness c).2) := by
  rw [call_eq_record, record, h]

/-- **A call that is refused** leaves the builder as it was. -/
theorem call_refused {b : Builder} {c : Call} {e : EntryError} (h : (b.call c).2 = some e) :
    (b.call c).1 = b := by
  cases hb : b.block with
  | none => rw [call_of_none hb]
  | some block =>
    rw [call_eq hb] at h ⊢
    rw [Block.call_refused h, ← hb]

theorem call_ne_outOfRange {t n : Nat} {b : Builder} (hf : b.Fits t n) {c : Call}
    (hc : c.Within t n) : (b.call c).2 ≠ some .outOfRange := by
  cases hb : b.block with
  | none =>
    rw [call_of_none hb]
    exact (Option.some_ne_none _).symm
  | some block =>
    rw [call_eq hb]
    exact Block.call_ne_outOfRange (hf.block block hb) hc b.strictness

end Builder

/-! ### Lines of a state -/

namespace Reader

/-- What the reader may be told to do. -/
inductive Told where
  | nothing
  /-- The line is not understood. -/
  | odd
  /-- The line names a terminal that is not listed. -/
  | unknownTerminal (name : Text)
  /-- The line names a nonterminal that is not listed. -/
  | unknownNonterminal (name : Text)
  /-- The line says something about a symbol. -/
  | call (name : Text) (c : Call)

/-- What a line of a state tells the reader to do. -/
def told (symbols : SymbolTable) (line : Text) : Told :=
  match Line.state line with
  | .item => .nothing
  | .note => .nothing
  | .unrecognized => .odd
  | .goto symbol target =>
    match symbols.nonterminals.id? symbol with
    | none => .unknownNonterminal symbol
    | some id => .call symbol (.goto id target)
  | .action token action discarded =>
    if token = Symbol.defaultName then .call token (.fallback action discarded)
    else
      match symbols.terminals.id? token with
      | none => .unknownTerminal token
      | some id => .call token (.action id action discarded)

/-- What the reader does when told, by a line whose number is given. -/
def obey (r : Reader) (b : Builder) (number : Nat) (line : Text) : Told → Fed
  | .nothing => r.accept
  | .odd => (r.diagnose number ("unrecognized state line: ".toList ++ Text.trim line)).accept
  | .unknownTerminal name => r.reject (.unknownTerminal number name)
  | .unknownNonterminal name => r.reject (.unknownNonterminal number name)
  | .call name c => r.recorded number (b.nextState - 1) name (b.call c)

/-- **A line of a state** is read as one call at most. -/
theorem stateLine_eq (r : Reader) (b : Builder) (number : Nat) (line : Text) :
    r.stateLine b number line = r.obey b number line (told r.symbols line) := by
  rw [stateLine, told]
  cases Line.state line with
  | item => rfl
  | note => rfl
  | unrecognized => rfl
  | goto symbol target =>
    dsimp only
    cases r.symbols.nonterminals.id? symbol <;> rfl
  | action token action discarded =>
    dsimp only
    by_cases hdefault : token = Symbol.defaultName
    · rw [if_pos hdefault, if_pos hdefault]
      rfl
    · rw [if_neg hdefault, if_neg hdefault]
      cases r.symbols.terminals.id? token <;> rfl

/-- What a line that asks for a call says, and what it names. -/
theorem state_of_told {symbols : SymbolTable} {line name : Text} {c : Call}
    (h : told symbols line = .call name c) :
    match c with
    | .action id entry discarded =>
      Line.state line = .action name entry discarded ∧ symbols.terminals.id? name = some id
    | .fallback entry discarded => Line.state line = .action Symbol.defaultName entry discarded
    | .goto id target =>
      Line.state line = .goto name target ∧ symbols.nonterminals.id? name = some id := by
  rw [told] at h
  split at h <;> try contradiction
  · rename_i symbol target hstate
    split at h <;> try contradiction
    rename_i id hid
    obtain ⟨rfl, rfl⟩ := Told.call.inj h
    exact ⟨hstate, hid⟩
  · rename_i token entry discarded hstate
    split at h
    · rename_i hdefault
      obtain ⟨-, rfl⟩ := Told.call.inj h
      exact hdefault ▸ hstate
    · split at h <;> try contradiction
      rename_i id hid
      obtain ⟨rfl, rfl⟩ := Told.call.inj h
      exact ⟨hstate, hid⟩

/-- A line names columns of the listed symbols only. -/
theorem told_within {symbols : SymbolTable} {line name : Text} {c : Call}
    (h : told symbols line = .call name c) :
    c.Within symbols.terminals.size symbols.nonterminals.size := by
  have hsaid := state_of_told h
  cases c with
  | action id entry discarded => exact Listing.lt_size_of_id? hsaid.2
  | fallback entry discarded => trivial
  | goto id target => exact Listing.lt_size_of_id? hsaid.2

end Reader
end ParserTables
