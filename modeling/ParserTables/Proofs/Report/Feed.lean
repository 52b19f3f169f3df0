import Mathlib.Data.List.Forall2
import ParserTables.Automaton.Compile

/-! What one line does to a reader.

A blank line does nothing (`feed_blank`). What any other line does depends on the stretch
the reader stands in, with one equation for each stretch; `takes_feed` has all the cases.
`grammarLine_eq`, `terminalLine_eq` and `nonterminalLine_eq` say what a line before the states
changes at most. Among the states a line has one of five effects on the builder, `Builder.Step`,
and none on the symbols and rules (`feed_states_step`). `Reads` says that lines take a reader to
another one, wherever in a report they stand; blank lines between them make no difference
(`Reads.of_filter`). `compile_strict_iff` says when a report is accepted. -/
namespace ParserTables

/-! ### Effects on a builder -/

/-- What one line among the states does to the builder; its entry may be refused. -/
inductive Builder.Step (b : Builder) : Builder → Prop where
  | stay : Step b b
  | beginState : Step b b.beginState
  | action (terminal : Nat) (entry : Action) (discarded : Bool) :
      Step b (b.action terminal entry discarded).1
  | fallback (entry : Action) (discarded : Bool) : Step b (b.fallback entry discarded).1
  | goto (nonterminal target : Nat) : Step b (b.goto nonterminal target).1

namespace Reader

/-! ### One line -/

theorem feed_blank (r : Reader) (n : Nat) {line : Text} (h : Text.blank line = true) :
    r.feed n line = (r, none) := by
  rw [feed, if_pos h]
  rfl

section Stretches
variable {r : Reader} {line : Text} (n : Nat) (hb : Text.blank line = false)
include hb

theorem feed_preamble (hs : r.stretch = .preamble) :
    r.feed n line = match Line.header? line with
      | some .grammar => { r with stretch := .grammar none }.accept
      | _ => r.accept := by
  rw [feed, if_neg (by simp [hb]), hs]
  rcases Line.header? line with _ | _ | _ | _ | _ <;> rfl

theorem feed_grammar {left : Option Text} (hs : r.stretch = .grammar left) :
    r.feed n line = match Line.header? line with
      | some .terminals => { r with stretch := .terminals none }.accept
      | _ => r.grammarLine left n line := by
  rw [feed, if_neg (by simp [hb]), hs]
  rcases Line.header? line with _ | _ | _ | _ | _ <;> rfl

theorem feed_terminals {column : Option Nat} (hs : r.stretch = .terminals column) :
    r.feed n line = match Line.header? line with
      | some .nonterminals => { r with stretch := .nonterminals none }.accept
      | _ => (r.terminalLine column line).accept := by
  rw [feed, if_neg (by simp [hb]), hs]
  rcases Line.header? line with _ | _ | _ | _ | _ <;> rfl

theorem feed_nonterminals {column : Option Nat} (hs : r.stretch = .nonterminals column) :
    r.feed n line = match Line.header? line with
      | some (.state found) =>
        r.beginState (.empty r.strictness r.symbols.terminals.size r.symbols.nonterminals.size)
          n found
      | _ => (r.nonterminalLine column line).accept := by
  rw [feed, if_neg (by simp [hb]), hs]
  rcases Line.header? line with _ | _ | _ | _ | _ <;> rfl

theorem feed_states {b : Builder} (hs : r.stretch = .states b) :
    r.feed n line = match Line.header? line with
      | some (.state found) => r.beginState b n found
      | _ => r.stateLine b n line := by
  rw [feed, if_neg (by simp [hb]), hs]
  rcases Line.header? line with _ | _ | _ | _ | _ <;> rfl

end Stretches

/-- The ways in which a line is read, with what comes of it. -/
inductive Takes (r : Reader) (n : Nat) (line : Text) : Fed → Prop where
  | blank : Text.blank line = true → Takes r n line r.accept
  | preamble : r.stretch = .preamble → Line.header? line ≠ some .grammar → Takes r n line r.accept
  | enterGrammar : r.stretch = .preamble → Line.header? line = some .grammar →
      Takes r n line { r with stretch := .grammar none }.accept
  | rule {left : Option Text} : r.stretch = .grammar left → Line.header? line ≠ some .terminals →
      Takes r n line (r.grammarLine left n line)
  | enterTerminals {left : Option Text} : r.stretch = .grammar left →
      Line.header? line = some .terminals →
      Takes r n line { r with stretch := .terminals none }.accept
  | terminal {column : Option Nat} : r.stretch = .terminals column →
      Line.header? line ≠ some .nonterminals → Takes r n line (r.terminalLine column line).accept
  | enterNonterminals {column : Option Nat} : r.stretch = .terminals column →
      Line.header? line = some .nonterminals →
      Takes r n line { r with stretch := .nonterminals none }.accept
  | nonterminal {column : Option Nat} : r.stretch = .nonterminals column →
      (∀ found, Line.header? line ≠ some (.state found)) →
      Takes r n line (r.nonterminalLine column line).accept
  | enterStates {column : Option Nat} {found : Nat} : r.stretch = .nonterminals column →
      Line.header? line = some (.state found) →
      Takes r n line (r.beginState
        (.empty r.strictness r.symbols.terminals.size r.symbols.nonterminals.size) n found)
  | beginState {b : Builder} {found : Nat} : r.stretch = .states b →
      Line.header? line = some (.state found) → Takes r n line (r.beginState b n found)
  | entry {b : Builder} : r.stretch = .states b →
      (∀ found, Line.header? line ≠ some (.state found)) → Takes r n line (r.stateLine b n line)

/-- Every line is read in one of these ways. -/
theorem takes_feed (r : Reader) (n : Nat) (line : Text) : Takes r n line (r.feed n line) := by
  cases hb : Text.blank line with
  | true =>
    rw [feed_blank r n hb]
    exact .blank hb
  | false =>
    cases hs : r.stretch with
    | preamble =>
      rw [feed_preamble n hb hs]
      split
      · exact .enterGrammar hs ‹_›
      · exact .preamble hs ‹_›
    | grammar left =>
      rw [feed_grammar n hb hs]
      split
      · exact .enterTerminals hs ‹_›
      · exact .rule hs ‹_›
    | terminals column =>
      rw [feed_terminals n hb hs]
      split
      · exact .enterNonterminals hs ‹_›
      · exact .terminal hs ‹_›
    | nonterminals column =>
      rw [feed_nonterminals n hb hs]
      split
      · exact .enterStates hs ‹_›
      · exact .nonterminal hs ‹_›
    | states b =>
      rw [feed_states n hb hs]
      split
      · exact .beginState hs ‹_›
      · exact .entry hs ‹_›

/-! ### A line before the states -/

/-- A line among the rules may add one, and something may be odd about it. -/
theorem grammarLine_eq {r : Reader} {left : Option Text} (hs : r.stretch = .grammar left) (n : Nat)
    (line : Text) : ∃ left' rules oddities, (r.grammarLine left n line).1 =
      { r with stretch := .grammar left', rules := rules, oddities := oddities } := by
  unfold grammarLine
  split
  · exact ⟨left, r.rules, _, by rw [← hs]; rfl⟩
  · split
    · exact ⟨left, r.rules, r.oddities, by rw [← hs]; rfl⟩
    · rename_i left' _
      unfold addRule
      split
      · exact ⟨some left', _, r.oddities, rfl⟩
      · dsimp only
        split
        · exact ⟨some left', _, r.oddities, rfl⟩
        · exact ⟨some left', _, _, rfl⟩

/-- A line among the terminals may declare one, and fixes the column of their names. -/
theorem terminalLine_eq (r : Reader) (column : Option Nat) (line : Text) :
    ∃ terminals, r.terminalLine column line =
      { r with stretch := .terminals (some (columnAfter column line))
               symbols := { r.symbols with terminals := terminals } } := by
  unfold terminalLine
  split
  · exact ⟨r.symbols.terminals, rfl⟩
  · dsimp only
    split
    · exact ⟨r.symbols.terminals, rfl⟩
    · exact ⟨_, rfl⟩

/-- A line among the nonterminals may declare one, and fixes the column of their names. -/
theorem nonterminalLine_eq (r : Reader) (column : Option Nat) (line : Text) :
    ∃ nonterminals, r.nonterminalLine column line =
      { r with stretch := .nonterminals (some (columnAfter column line))
               symbols := { r.symbols with nonterminals := nonterminals } } := by
  unfold nonterminalLine
  split
  · exact ⟨r.symbols.nonterminals, rfl⟩
  · exact ⟨_, rfl⟩

/-! ### A line among the states -/

/-- The reader stands among the states, with builder `b`, and its symbols and rules are
those of `r`. -/
structure Among (r : Reader) (b : Builder) (r' : Reader) : Prop where
  stretch : r'.stretch = .states b
  symbols : r'.symbols = r.symbols
  rules : r'.rules = r.rules

theorem beginState_step (r : Reader) (b : Builder) (n found : Nat) :
    ∃ b', b.Step b' ∧ Among r b' (r.beginState b n found).1 := by
  rw [beginState]
  split
  · exact ⟨b.beginState, .beginState, rfl, rfl, rfl⟩
  · exact ⟨b, .stay, rfl, rfl, rfl⟩

section Recorded
variable (r : Reader) (n state : Nat) (name : Text) {entry : Builder × Option EntryError}

/-- The reader goes on with the builder that it is given back, be the entry refused or not. -/
theorem recorded_fst (entry : Builder × Option EntryError) :
    (r.recorded n state name entry).1 = { r with stretch := .states entry.1 } := by
  match entry with
  | (b, none) => rfl
  | (b, some .duplicate) => rfl
  | (b, some .outOfRange) => rfl

theorem recorded_among (entry : Builder × Option EntryError) :
    Among r entry.1 (r.recorded n state name entry).1 := by
  rw [recorded_fst]
  exact ⟨rfl, rfl, rfl⟩

theorem recorded_accepted (h : entry.2 = none) :
    r.recorded n state name entry = { r with stretch := .states entry.1 }.accept := by
  rw [recorded, h]

theorem recorded_duplicate (h : entry.2 = some .duplicate) :
    r.recorded n state name entry =
      { r with stretch := .states entry.1 }.reject (.conflictingActions n state name) := by
  rw [recorded, h]

end Recorded

theorem stateLine_step {r : Reader} {b : Builder} (hs : r.stretch = .states b) (n : Nat)
    (line : Text) : ∃ b', b.Step b' ∧ Among r b' (r.stateLine b n line).1 := by
  have stay : ∀ r' : Reader, r'.stretch = r.stretch → r'.symbols = r.symbols →
      r'.rules = r.rules → ∃ b', b.Step b' ∧ Among r b' r' :=
    fun r' h₁ h₂ h₃ => ⟨b, .stay, h₁.trans hs, h₂, h₃⟩
  rw [stateLine]
  split
  · exact stay _ rfl rfl rfl
  · exact stay _ rfl rfl rfl
  · exact stay _ rfl rfl rfl
  · split
    · exact stay _ rfl rfl rfl
    · exact ⟨_, .goto .., recorded_among ..⟩
  · split
    · exact ⟨_, .fallback .., recorded_among ..⟩
    · split
      · exact stay _ rfl rfl rfl
      · exact ⟨_, .action .., recorded_among ..⟩

/-- **A line among the states**, accepted or not, has one effect on the builder and none
on the symbols and rules. -/
theorem feed_states_step {r : Reader} {b : Builder} (hs : r.stretch = .states b) (n : Nat)
    (line : Text) : ∃ b', b.Step b' ∧ Among r b' (r.feed n line).1 := by
  cases hb : Text.blank line with
  | true =>
    rw [feed_blank r n hb]
    exact ⟨b, .stay, hs, rfl, rfl⟩
  | false =>
    rw [feed_states n hb hs]
    split
    · exact beginState_step r b n _
    · exact stateLine_step hs n line

/-! ### Many lines -/

theorem feedAll_cons_ok {r r' : Reader} {n : Nat} {line : Text} {rest : List Text}
    (h : r.feedAll n (line :: rest) = .ok r') :
    (r.feed n line).2 = none ∧ (r.feed n line).1.feedAll (n + 1) rest = .ok r' := by
  rw [feedAll] at h
  split at h
  · rename_i next hnext
    rw [hnext]
    exact ⟨rfl, h⟩
  · exact absurd h (by simp)

/-- What every accepted line preserves, among the lines of a run, holds after the run. -/
theorem feedAll_preserves_of_mem {P : Reader → Prop} {r r' : Reader} {n : Nat} {lines : List Text}
    (step : ∀ (r : Reader) (n : Nat) (line : Text), line ∈ lines → P r →
      (r.feed n line).2 = none → P (r.feed n line).1)
    (h : r.feedAll n lines = .ok r') (hr : P r) : P r' := by
  induction lines generalizing r n with
  | nil => exact Except.ok.inj h ▸ hr
  | cons line rest ih =>
    obtain ⟨hok, hrest⟩ := feedAll_cons_ok h
    exact ih (fun r n line hmem => step r n line (List.mem_cons_of_mem _ hmem)) hrest
      (step r n line (List.mem_cons_self ..) hr hok)

/-- What every accepted line preserves holds after a run of accepted lines. -/
theorem feedAll_preserves {P : Reader → Prop}
    (step : ∀ (r : Reader) (n : Nat) (line : Text), P r → (r.feed n line).2 = none →
      P (r.feed n line).1)
    {r r' : Reader} {n : Nat} {lines : List Text} (h : r.feedAll n lines = .ok r') (hr : P r) :
    P r' :=
  feedAll_preserves_of_mem (fun r n line _ => step r n line) h hr

/-! ### Runs -/

/-- Lines that take a reader to another one, whatever their numbers are. -/
inductive Reads : Reader → List Text → Reader → Prop where
  | done (r : Reader) : Reads r [] r
  | line {r r₁ r₂ : Reader} {line : Text} {rest : List Text} :
      (∀ n, r.feed n line = (r₁, none)) → Reads r₁ rest r₂ → Reads r (line :: rest) r₂

namespace Reads

theorem append {r r₁ r₂ : Reader} {a b : List Text} (ha : Reads r a r₁) (hb : Reads r₁ b r₂) :
    Reads r (a ++ b) r₂ := by
  induction ha with
  | done => exact hb
  | line hfeed _ ih => exact .line hfeed (ih hb)

theorem feedAll {r r' : Reader} {lines : List Text} (h : Reads r lines r') (n : Nat) :
    r.feedAll n lines = .ok r' := by
  induction h generalizing n with
  | done => rfl
  | line hfeed _ ih =>
    rw [Reader.feedAll, hfeed n]
    exact ih (n + 1)

/-- Blank lines may stand anywhere. -/
theorem of_filter {r r' : Reader} {lines : List Text}
    (h : Reads r (lines.filter fun line => !Text.blank line) r') : Reads r lines r' := by
  induction lines generalizing r with
  | nil => exact h
  | cons line rest ih =>
    cases hb : Text.blank line with
    | true =>
      rw [List.filter_cons_of_neg (by simp [hb])] at h
      exact .line (fun n => feed_blank r n hb) (ih h)
    | false =>
      rw [List.filter_cons_of_pos (by simp [hb])] at h
      cases h with
      | line hfeed hrest => exact .line hfeed (ih hrest)

/-- **A run of lines of one kind.** What holds of a reader after the lines for some items of
a list is carried on by the line for the next one. -/
theorem of_forall₂ {α : Type} {Line : α → Text → Prop} {Holds : List α → Reader → Prop}
    {items : List α} (step : ∀ (done : List α) (x : α) (line : Text) (r : Reader),
      done ++ [x] <+: items → Line x line → Holds done r →
      ∃ r', (∀ n, r.feed n line = (r', none)) ∧ Holds (done ++ [x]) r')
    {lines : List Text} (h : List.Forall₂ Line items lines) {r : Reader} (hr : Holds [] r) :
    ∃ r', Reads r lines r' ∧ Holds items r' := by
  suffices go : ∀ (rest done : List α) (lines : List Text) (r : Reader),
      done ++ rest = items → List.Forall₂ Line rest lines → Holds done r →
      ∃ r', Reads r lines r' ∧ Holds items r' from
    go items [] lines r rfl h hr
  intro rest
  induction rest with
  | nil =>
    intro done lines r hall hlines hr
    cases hlines
    rw [List.append_nil] at hall
    exact ⟨r, .done r, hall ▸ hr⟩
  | cons x rest ih =>
    intro done lines r hall hlines hr
    cases hlines with
    | cons hx hrest =>
      have hall' : (done ++ [x]) ++ rest = items := by simpa using hall
      obtain ⟨r₁, hfeed, hr₁⟩ := step done x _ r ⟨rest, hall'⟩ hx hr
      obtain ⟨r₂, hreads, hr₂⟩ := ih _ _ r₁ hall' hrest hr₁
      exact ⟨r₂, .line hfeed hreads, hr₂⟩

end Reads
end Reader

/-! ### Whole reports -/

/-- A computation that ends well, with a result that passes a test. -/
theorem exists_ok_of_any {α ε : Type} {x : Except ε α} {p : α → Bool}
    (h : x.toOption.any p = true) : ∃ a, x = .ok a ∧ p a = true := by
  cases x with
  | error e => exact absurd h (by simp [Except.toOption])
  | ok a => exact ⟨a, rfl, h⟩

/-- A report that is read was read to its end, among the states. -/
theorem Automaton.exists_of_read {s : Strictness} {source : Text} {a : Automaton}
    (h : Automaton.read s source = .ok a) :
    ∃ r b, (Reader.start s).feedAll 1 (Text.lines source) = .ok r ∧ r.stretch = .states b ∧
      a = { symbols := r.symbols, rules := r.rules, table := b.finish,
            diagnostics := r.oddities.reverse } := by
  cases hr : (Reader.start s).feedAll 1 (Text.lines source) with
  | error e => simp [Automaton.read, hr, bind, Except.bind] at h
  | ok r =>
    have hf : r.finish = .ok a := by simpa [Automaton.read, hr, bind, Except.bind] using h
    unfold Reader.finish at hf
    split at hf <;> try contradiction
    rename_i b hs
    exact ⟨r, b, rfl, hs, (Except.ok.inj hf).symm⟩

/-- An accepted report can be read. -/
theorem Automaton.read_of_compile {s : Strictness} {source : Text} {a : Automaton}
    (h : Automaton.compile s source = .ok a) : Automaton.read s source = .ok a := by
  rw [Automaton.compile] at h
  split at h
  · exact absurd h nofun
  · rename_i a' hread
    split at h
    · exact absurd h nofun
    · rw [hread, Except.ok.inj h]

/-- A report is accepted if it can be read and is consistent. -/
theorem Automaton.compile_strict_iff {source : Text} {a : Automaton} :
    Automaton.compile .strict source = .ok a ↔
      Automaton.read .strict source = .ok a ∧ a.violation? = none := by
  rw [Automaton.compile]
  cases hr : Automaton.read .strict source with
  | error e => simp
  | ok a' =>
    constructor
    · intro h
      dsimp only at h
      split at h
      · exact absurd h (by simp)
      · rename_i hv
        obtain rfl := Except.ok.inj h
        exact ⟨rfl, Option.eq_none_iff_forall_ne_some.2 fun e he => hv e rfl he⟩
    · rintro ⟨h, hv⟩
      obtain rfl := Except.ok.inj h
      dsimp only
      rw [hv]

end ParserTables
