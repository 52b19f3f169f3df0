import ParserTables.Proofs.Report.Outline

/-! One report read twice, strictly and as legacy.

Up to the states the strictness is never looked at (`Reader.feed_under`). Among them two readers go
along (`Reader.Along`): they have read the same symbols, rules and states, and their open rows
differ at most where a discarded entry was listed. A line keeps them so unless the strict one
rejects a second entry (`Reader.Along.feed_header`, `Reader.Along.feed_line`), and so do all the
lines of a report (`Reader.agree_feedAll`). `Automaton.read_legacy` says what that means for the
whole report. -/
namespace ParserTables

/-! ### Outcomes -/

/-- How the second of two readings ends, where the first one may also stop at a second entry for
the same slot. -/
inductive Agree {α β : Type} (P : α → β → Prop) : Except ReadError α → Except ReadError β → Prop
    where
  | ok {a : α} {b : β} : P a b → Agree P (.ok a) (.ok b)
  | error (e : ReadError) : Agree P (.error e) (.error e)
  | conflict (line state : Nat) (token : Text) (other : Except ReadError β) :
      Agree P (.error (.conflictingActions line state token)) other

namespace Agree
variable {α β γ δ : Type} {P : α → β → Prop} {Q : γ → δ → Prop}
  {x : Except ReadError α} {y : Except ReadError β}

theorem mono {P' : α → β → Prop} (h : Agree P x y) (hp : ∀ a b, P a b → P' a b) :
    Agree P' x y := by
  cases h with
  | ok hab => exact .ok (hp _ _ hab)
  | error e => exact .error e
  | conflict line state token => exact .conflict line state token _

theorem bind (h : Agree P x y) {f : α → Except ReadError γ} {g : β → Except ReadError δ}
    (hfg : ∀ a b, P a b → Agree Q (f a) (g b)) : Agree Q (x >>= f) (y >>= g) := by
  cases h with
  | ok hab => exact hfg _ _ hab
  | error e => exact .error e
  | conflict line state token => exact .conflict line state token _

end Agree

/-! ### Rows -/

/-- The lines list a discarded action on a token. -/
def Report.Discards (lines : List Text) (token : Text) : Prop :=
  ∃ line ∈ lines, ∃ entry, Line.state line = .action token entry true

theorem Report.Discards.mono {lines lines' : List Text} {token : Text}
    (h : Report.Discards lines token) (hsub : lines ⊆ lines') : Report.Discards lines' token := by
  obtain ⟨line, hline, hstate⟩ := h
  exact ⟨line, hsub hline, hstate⟩

/-- Two rows read from the same lines differ at most where the lines list a discarded action: on
a terminal, if it is on that terminal or on all others. -/
structure Row.Alike (symbols : SymbolTable) (lines : List Text) (row row' : Row) : Prop where
  size : row'.actions.size = row.actions.size
  gotos : row'.gotos = row.gotos
  fallback : row'.fallback ≠ row.fallback → Report.Discards lines Symbol.defaultName
  actions : ∀ t, row'.actions[t]? ≠ row.actions[t]? →
    (∃ token, symbols.terminals.id? token = some t ∧ Report.Discards lines token) ∨
      Report.Discards lines Symbol.defaultName

/-- Two open rows likewise, where an action on all others stands by itself. -/
structure Block.Alike (symbols : SymbolTable) (lines : List Text) (block block' : Block) : Prop
    where
  size : block'.actions.size = block.actions.size
  gotos : block'.gotos = block.gotos
  fallback : block'.fallback ≠ block.fallback → Report.Discards lines Symbol.defaultName
  actions : ∀ t, block'.slot? t ≠ block.slot? t →
    ∃ token, symbols.terminals.id? token = some t ∧ Report.Discards lines token

namespace Block
variable {symbols : SymbolTable} {lines : List Text} {block block' : Block}

theorem Alike.refl : block.Alike symbols lines block :=
  ⟨rfl, rfl, fun h => absurd rfl h, fun _ h => absurd rfl h⟩

theorem Alike.mono {lines' : List Text} (h : block.Alike symbols lines block')
    (hsub : lines ⊆ lines') : block.Alike symbols lines' block' where
  size := h.size
  gotos := h.gotos
  fallback hne := (h.fallback hne).mono hsub
  actions t hne := by
    obtain ⟨token, hid, hdiscards⟩ := h.actions t hne
    exact ⟨token, hid, hdiscards.mono hsub⟩

/-- An action can differ in a closed row because it did in the open one, or because the action on
all others did. -/
theorem Alike.close (h : block.Alike symbols lines block') :
    block.close.Alike symbols lines block'.close where
  size := by rw [size_actions_close, size_actions_close, h.size]
  gotos := h.gotos
  fallback := h.fallback
  actions t hne := by
    by_cases hfallback : block'.fallback = block.fallback
    · refine .inl (h.actions t fun heq => hne ?_)
      rw [getElem?_close, getElem?_close, heq, rest, rest, hfallback]
    · exact .inr (h.fallback hfallback)

/-! ### One call -/

theorem call_legacy_action {t : Nat} (ht : t < block.actions.size) (entry : Action)
    (discarded : Bool) :
    block.call .legacy (.action t entry discarded) = (block.enter t entry, none) := by
  obtain ⟨slot, hslot⟩ := exists_slot? ht
  rw [call_action hslot]
  rfl

theorem call_legacy_fallback (entry : Action) (discarded : Bool) :
    block.call .legacy (.fallback entry discarded) = ({ block with fallback := some entry }, none) :=
  rfl

theorem call_strict_discarded_action (t : Nat) (entry : Action) :
    block.call .strict (.action t entry true) = (block, none) :=
  rfl

theorem call_strict_discarded_fallback (entry : Action) :
    block.call .strict (.fallback entry true) = (block, none) :=
  rfl

/-- Strictly, an action that counts is recorded where there is none. -/
theorem call_strict_action {t : Nat} {slot : Option Action} (hslot : block.slot? t = some slot)
    (entry : Action) : block.call .strict (.action t entry false) =
      if slot.isSome then (block, some .duplicate) else (block.enter t entry, none) := by
  rw [call_action hslot, if_neg (by simp [Strictness.drops])]
  simp [Strictness.refuses]

theorem call_strict_fallback (entry : Action) : block.call .strict (.fallback entry false) =
    if block.fallback.isSome then (block, some .duplicate)
    else ({ block with fallback := some entry }, none) := by
  rw [call, recordFallback, if_neg (by simp [Strictness.drops])]
  simp [Strictness.refuses]

/-- **One call on both rows.** What the strict row takes, the other one takes too, and they differ
at most where the line lists a discarded action besides. -/
theorem Alike.call (h : block.Alike symbols lines block')
    (hf : block.Fits symbols.terminals.size symbols.nonterminals.size) {line name : Text} {c : Call}
    (htold : Reader.told symbols line = .call name c) (hok : (block.call .strict c).2 = none) :
    (block'.call .legacy c).2 = none ∧
      (block.call .strict c).1.Alike symbols (line :: lines) (block'.call .legacy c).1 := by
  have hmore := h.mono (List.subset_cons_self line lines)
  have hsaid := Reader.state_of_told htold
  cases c with
  | action t entry discarded =>
    have ht : t < block.actions.size := hf.1.symm ▸ Reader.told_within htold
    have ht' : t < block'.actions.size := h.size.symm ▸ ht
    rw [call_legacy_action ht']
    cases discarded with
    | true =>
      -- only the legacy row records the entry, and the line is the reason it may differ
      rw [call_strict_discarded_action]
      refine ⟨rfl, { hmore with size := (size_actions_enter _).trans h.size, actions := ?_ }⟩
      intro u hne
      by_cases hu : t = u
      · exact ⟨name, hu ▸ hsaid.2, line, List.mem_cons_self .., entry, hsaid.1⟩
      · exact hmore.actions u (slot?_enter_ne hu entry ▸ hne)
    | false =>
      -- whatever the legacy row held before, both hold the entry now
      obtain ⟨slot, hslot⟩ := exists_slot? ht
      rw [call_strict_action hslot] at hok ⊢
      split at hok
      · cases hok
      · rw [if_neg ‹_›]
        have hsize : (block'.enter t entry).actions.size = (block.enter t entry).actions.size := by
          rw [size_actions_enter, size_actions_enter, h.size]
        refine ⟨rfl, { hmore with size := hsize, actions := fun u hne => ?_ }⟩
        by_cases hu : t = u
        · subst hu
          exact absurd (by rw [slot?_enter_self ht', slot?_enter_self ht]) hne
        · rw [slot?_enter_ne hu, slot?_enter_ne hu] at hne
          exact hmore.actions u hne
  | fallback entry discarded =>
    rw [call_legacy_fallback]
    cases discarded with
    | true =>
      rw [call_strict_discarded_fallback]
      exact ⟨rfl, { hmore with fallback := fun _ => ⟨line, List.mem_cons_self .., entry, hsaid⟩ }⟩
    | false =>
      rw [call_strict_fallback] at hok ⊢
      split at hok
      · cases hok
      · rw [if_neg ‹_›]
        exact ⟨rfl, { hmore with fallback := fun hne => absurd rfl hne }⟩
  | goto t target =>
    rw [Block.call, Block.recordGoto] at hok ⊢
    rw [Block.call, Block.recordGoto, h.gotos]
    split at hok
    · rename_i ht
      rw [if_pos ht, if_pos ht]
      exact ⟨rfl, { hmore with gotos := rfl }⟩
    · cases hok

end Block

/-! ### Tables -/

/-- Two tables read from the same blocks, row by row. -/
structure Table.Alike (symbols : SymbolTable) (blocks : List (List Text)) (t t' : Table) : Prop
    where
  size : t.size = blocks.length
  size' : t'.size = blocks.length
  rows : ∀ (s : Nat) lines row row', blocks[s]? = some lines → t.rows[s]? = some row →
    t'.rows[s]? = some row' → row.Alike symbols lines row'

/-- A row has its block and its counterpart. -/
theorem Table.Alike.exists_rows {symbols : SymbolTable} {blocks : List (List Text)} {t t' : Table}
    (h : t.Alike symbols blocks t') {s : Nat} {row : Row} (hrow : t.rows[s]? = some row) :
    ∃ row' lines, t'.rows[s]? = some row' ∧ blocks[s]? = some lines := by
  have hs : s < blocks.length := h.size ▸ (Array.getElem?_eq_some_iff.1 hrow).1
  have hs' : s < t'.rows.size := Nat.lt_of_lt_of_eq hs h.size'.symm
  exact ⟨_, _, Array.getElem?_eq_getElem hs', List.getElem?_eq_getElem hs⟩

theorem Table.Alike.push {symbols : SymbolTable} {blocks : List (List Text)}
    {rows rows' : Array Row} (h : Table.Alike symbols blocks ⟨rows⟩ ⟨rows'⟩) {lines : List Text}
    {row row' : Row} (hrow : row.Alike symbols lines row') :
    Table.Alike symbols (blocks ++ [lines]) ⟨rows.push row⟩ ⟨rows'.push row'⟩ := by
  have hsize : rows.size = blocks.length := h.size
  have hsize' : rows'.size = blocks.length := h.size'
  refine ⟨by simp [Table.size, hsize], by simp [Table.size, hsize'], fun s lines₁ row₁ row₁' => ?_⟩
  dsimp only
  rw [Array.getElem?_push, Array.getElem?_push, hsize, hsize']
  by_cases hs : s = blocks.length
  · rw [if_pos hs, if_pos hs, hs, List.getElem?_concat_length]
    rintro ⟨⟩ ⟨⟩ ⟨⟩
    exact hrow
  · rw [if_neg hs, if_neg hs]
    intro hlines hr hr'
    have hlt : s < blocks.length := hsize ▸ (Array.getElem?_eq_some_iff.1 hr).1
    rw [List.getElem?_append_left hlt] at hlines
    exact h.rows s lines₁ row₁ row₁' hlines hr hr'

/-- Two automata read from the same blocks: only their tables may differ. -/
structure Automaton.Alike (blocks : List (List Text)) (a a' : Automaton) : Prop where
  symbols : a'.symbols = a.symbols
  rules : a'.rules = a.rules
  diagnostics : a'.diagnostics = a.diagnostics
  table : a.table.Alike a.symbols blocks a'.table

/-! ### Builders -/

/-- Two builders that have read the same blocks, and some lines of another one, the last line
first. -/
structure Builder.Along (symbols : SymbolTable) (done : List (List Text)) (current : List Text)
    (b b' : Builder) : Prop where
  strict : b.strictness = .strict
  legacy : b'.strictness = .legacy
  terminals : b'.terminals = b.terminals
  nonterminals : b'.nonterminals = b.nonterminals
  rows : Table.Alike symbols done ⟨b.rows⟩ ⟨b'.rows⟩
  block : ∃ block block', b.block = some block ∧ b'.block = some block' ∧
    block.Alike symbols current block'

namespace Builder.Along
variable {symbols : SymbolTable} {done : List (List Text)} {current : List Text} {b b' : Builder}

theorem nextState_eq (h : b.Along symbols done current b') : b'.nextState = b.nextState := by
  obtain ⟨block, block', hblock, hblock', -⟩ := h.block
  have hsize : b'.rows.size = b.rows.size := h.rows.size'.trans h.rows.size.symm
  rw [nextState, nextState, hblock, hblock', hsize]
  rfl

/-- Both tables, with the block that is open as the last one. -/
theorem closed (h : b.Along symbols done current b') :
    Table.Alike symbols (done ++ [current.reverse]) b.finish b'.finish := by
  obtain ⟨block, block', hblock, hblock', halike⟩ := h.block
  have hrow := (halike.mono fun _ => List.mem_reverse.2).close
  have htable := h.rows.push hrow
  simpa only [finish, Builder.closed, hblock, hblock'] using htable

theorem beginState (h : b.Along symbols done current b') :
    b.beginState.Along symbols (done ++ [current.reverse]) [] b'.beginState where
  strict := h.strict
  legacy := h.legacy
  terminals := h.terminals
  nonterminals := h.nonterminals
  rows := h.closed
  block := by
    refine ⟨_, _, rfl, rfl, ?_⟩
    rw [h.terminals, h.nonterminals]
    exact .refl

/-- The first block. -/
theorem first (symbols : SymbolTable) (t n : Nat) :
    (empty .strict t n).beginState.Along symbols [] [] (empty .legacy t n).beginState where
  strict := rfl
  legacy := rfl
  terminals := rfl
  nonterminals := rfl
  rows := ⟨rfl, rfl, fun _ _ _ _ h => absurd h nofun⟩
  block := ⟨_, _, rfl, rfl, .refl⟩

theorem mono (h : b.Along symbols done current b') {more : List Text} (hsub : current ⊆ more) :
    b.Along symbols done more b' := by
  obtain ⟨block, block', hblock, hblock', halike⟩ := h.block
  exact { h with block := ⟨block, block', hblock, hblock', halike.mono hsub⟩ }

theorem call (h : b.Along symbols done current b')
    (hf : b.Fits symbols.terminals.size symbols.nonterminals.size) {line name : Text} {c : Call}
    (htold : Reader.told symbols line = .call name c) (hok : (b.call c).2 = none) :
    (b'.call c).2 = none ∧ (b.call c).1.Along symbols done (line :: current) (b'.call c).1 := by
  obtain ⟨block, block', hblock, hblock', halike⟩ := h.block
  rw [call_eq hblock, h.strict] at hok ⊢
  rw [call_eq hblock', h.legacy]
  obtain ⟨hok', halike'⟩ := halike.call (hf.block block hblock) htold hok
  exact ⟨hok', { h with strict := rfl, legacy := rfl, block := ⟨_, _, rfl, rfl, halike'⟩ }⟩

end Builder.Along

namespace Reader
open Report

/-! ### Lines of the states -/

/-- The reader after a line that is accepted, or why it is not. -/
def outcome : Fed → Except ReadError Reader
  | (r, none) => .ok r
  | (_, some e) => .error e

theorem feedAll_cons (r : Reader) (n : Nat) (line : Text) (rest : List Text) :
    r.feedAll n (line :: rest) = outcome (r.feed n line) >>= fun r => r.feedAll (n + 1) rest := by
  rw [feedAll]
  rcases r.feed n line with ⟨r, _ | e⟩ <;> rfl

/-- Two readers that have come to the same line of the states. -/
structure Along (done : List (List Text)) (current : List Text) (r q : Reader) : Prop where
  symbols : q.symbols = r.symbols
  rules : q.rules = r.rules
  oddities : q.oddities = r.oddities
  builders : ∃ b b', r.stretch = .states b ∧ q.stretch = .states b' ∧
    b.Along r.symbols done current b'
  fits : r.Fits

theorem agree_beginState {done : List (List Text)} {r q : Reader} {b b' : Builder}
    (hsymbols : q.symbols = r.symbols) (hrules : q.rules = r.rules)
    (hoddities : q.oddities = r.oddities)
    (hb : b.beginState.Along r.symbols done [] b'.beginState) (hnext : b'.nextState = b.nextState)
    (hf : b.Fits r.symbols.terminals.size r.symbols.nonterminals.size) (n found : Nat) :
    Agree (Along done []) (outcome (r.beginState b n found))
      (outcome (q.beginState b' n found)) := by
  rw [beginState, beginState, hnext]
  split
  · refine .ok ⟨hsymbols, hrules, hoddities, ⟨_, _, rfl, rfl, hb⟩, fun b hs => ?_⟩
    exact Stretch.states.inj hs ▸ hf.beginState
  · exact .error _

namespace Along
variable {done : List (List Text)} {current : List Text} {r q : Reader}

/-- Readers that differ from two such readers in their builders only. -/
theorem withBuilders (h : Along done current r q) {done' : List (List Text)} {current' : List Text}
    {b b' : Builder} (hb : b.Along r.symbols done' current' b')
    (hf : b.Fits r.symbols.terminals.size r.symbols.nonterminals.size) :
    Along done' current' { r with stretch := .states b } { q with stretch := .states b' } where
  symbols := h.symbols
  rules := h.rules
  oddities := h.oddities
  builders := ⟨b, b', rfl, rfl, hb⟩
  fits _ hs := Stretch.states.inj hs ▸ hf

theorem diagnose (h : Along done current r q) (n : Nat) (message : Text) :
    Along done current (r.diagnose n message) (q.diagnose n message) where
  symbols := h.symbols
  rules := h.rules
  oddities := by simp only [Reader.diagnose, h.oddities]
  builders := h.builders
  fits := h.fits

theorem mono (h : Along done current r q) {more : List Text} (hsub : current ⊆ more) :
    Along done more r q := by
  obtain ⟨b, b', hr, hq, hb⟩ := h.builders
  exact { h with builders := ⟨b, b', hr, hq, hb.mono hsub⟩ }

/-- The header of a state closes a block of both. -/
theorem feed_header (h : Along done current r q) (n : Nat) {line : Text}
    (ho : opens .state line = true) :
    Agree (Along (done ++ [current.reverse]) []) (outcome (r.feed n line))
      (outcome (q.feed n line)) := by
  obtain ⟨b, b', hr, hq, hb⟩ := h.builders
  obtain ⟨found, hheader⟩ := opens_state_iff.1 ho
  have hblank := not_blank_of_opens ho
  rw [feed_states n hblank hr, feed_states n hblank hq, hheader]
  exact agree_beginState h.symbols h.rules h.oddities hb.beginState hb.nextState_eq (h.fits b hr) n
    found

/-- Any other line is one more line of the block. -/
theorem feed_line (h : Along done current r q) (n : Nat) {line : Text}
    (ho : opens .state line = false) :
    Agree (Along done (line :: current)) (outcome (r.feed n line)) (outcome (q.feed n line)) := by
  have hmore := h.mono (List.subset_cons_self line current)
  cases hblank : Text.blank line with
  | true =>
    rw [feed_blank r n hblank, feed_blank q n hblank]
    exact .ok hmore
  | false =>
    obtain ⟨b, b', hr, hq, hb⟩ := h.builders
    rw [feed_states_line hr n hblank ho, feed_states_line hq n hblank ho, h.symbols]
    cases htold : told r.symbols line with
    | nothing => exact .ok hmore
    | odd => exact .ok (hmore.diagnose n _)
    | unknownTerminal name => exact .error _
    | unknownNonterminal name => exact .error _
    | call name c =>
      have hf := h.fits b hr
      rw [obey, obey]
      cases hcall : (b.call c).2 with
      | none =>
        obtain ⟨hcall', hafter⟩ := hb.call hf htold hcall
        rw [recorded_accepted _ _ _ _ hcall, recorded_accepted _ _ _ _ hcall']
        exact .ok (h.withBuilders hafter ((b.step_call c).fits hf))
      | some e =>
        cases e with
        | duplicate =>
          rw [recorded_duplicate _ _ _ _ hcall]
          exact .conflict _ _ _ _
        | outOfRange => exact absurd hcall (Builder.call_ne_outOfRange hf (told_within htold))

/-- All the lines that are left, cut at the headers. -/
theorem feedAll (h : Along done current r q) (n : Nat) (lines : List Text) :
    Agree (fun r' q' => ∃ done' current', Along done' current' r' q' ∧
        done' ++ [current'.reverse] =
          done ++ List.splitOnPPrepend (opens .state) lines current)
      (r.feedAll n lines) (q.feedAll n lines) := by
  -- the open block is kept with its last line first, as the splitting keeps it
  induction lines generalizing done current r q n with
  | nil => exact .ok ⟨done, current, h, rfl⟩
  | cons line rest ih =>
    rw [feedAll_cons, feedAll_cons]
    cases ho : opens .state line with
    | true =>
      refine (h.feed_header n ho).bind fun r' q' h' => (ih h' (n + 1)).mono fun r'' q'' => ?_
      rintro ⟨done', current', h'', heq⟩
      refine ⟨done', current', h'', heq.trans ?_⟩
      simp [List.splitOnPPrepend_cons_eq_if, ho]
    | false =>
      refine (h.feed_line n ho).bind fun r' q' h' => (ih h' (n + 1)).mono fun r'' q'' => ?_
      rintro ⟨done', current', h'', heq⟩
      refine ⟨done', current', h'', heq.trans ?_⟩
      simp [List.splitOnPPrepend_cons_eq_if, ho]

end Along

/-! ### Before the states -/

/-- The reader, were its strictness another one. -/
def under (s : Strictness) (r : Reader) : Reader := { r with strictness := s }

theorem addRule_under (s : Strictness) (r : Reader) (n : Nat) (rule : Rule) :
    (r.under s).addRule n rule = (r.addRule n rule).map (under s) id := by
  rw [addRule, addRule]
  dsimp only [under]
  rcases r.rules.insert rule with ⟨rules, _ | refused⟩
  · dsimp only
    split <;> rfl
  · rfl

theorem grammarLine_under (s : Strictness) (r : Reader) (left : Option Text) (n : Nat)
    (line : Text) :
    (r.under s).grammarLine left n line = (r.grammarLine left n line).map (under s) id := by
  rw [grammarLine, grammarLine]
  cases Line.rule? line with
  | none => rfl
  | some parsed =>
    dsimp only
    cases parsed.left.or left with
    | none => rfl
    | some left => exact addRule_under s { r with stretch := .grammar (some left) } n _

theorem terminalLine_under (s : Strictness) (r : Reader) (column : Option Nat) (line : Text) :
    (r.under s).terminalLine column line = (r.terminalLine column line).under s := by
  rw [terminalLine, terminalLine]
  cases listedName? column line with
  | none => rfl
  | some name =>
    dsimp only
    split <;> rfl

theorem nonterminalLine_under (s : Strictness) (r : Reader) (column : Option Nat) (line : Text) :
    (r.under s).nonterminalLine column line = (r.nonterminalLine column line).under s := by
  rw [nonterminalLine, nonterminalLine]
  cases listedName? column line <;> rfl

/-- **The strictness is not looked at** by a line that does not open the states. -/
theorem feed_under (s : Strictness) {r : Reader} {n : Nat} {line : Text} {name : SectionName}
    (h : (r.feed n line).1.stretch.awaits = some name) :
    (r.under s).feed n line = (r.feed n line).map (under s) id := by
  cases hb : Text.blank line with
  | true => rw [feed_blank _ n hb, feed_blank _ n hb]; rfl
  | false =>
    have hawaits := awaits_feed r n line
    rw [h] at hawaits
    cases hs : r.stretch with
    | preamble =>
      rw [feed_preamble n hb hs, feed_preamble (r := r.under s) n hb hs]
      split <;> rfl
    | grammar left =>
      rw [feed_grammar n hb hs, feed_grammar (r := r.under s) n hb hs]
      split
      · rfl
      · exact grammarLine_under ..
    | terminals column =>
      rw [feed_terminals n hb hs, feed_terminals (r := r.under s) n hb hs]
      split
      · rfl
      · rw [terminalLine_under]
        rfl
    | nonterminals column =>
      rw [feed_nonterminals n hb hs, feed_nonterminals (r := r.under s) n hb hs]
      split
      · rename_i found hheader
        rw [hs] at hawaits
        simp [Stretch.awaits, opens_state_iff.2 ⟨found, hheader⟩, SectionName.next] at hawaits
      · rw [nonterminalLine_under]
        rfl
    | states b =>
      rw [hs] at hawaits
      exact absurd hawaits (by simp [Stretch.awaits])

/-- The first header of a state opens a block of both. -/
theorem agree_feed_first {r : Reader} {column : Option Nat} (hs : r.stretch = .nonterminals column)
    (n : Nat) {line : Text} (ho : opens .state line = true) :
    Agree (Along [] []) (outcome ((r.under .strict).feed n line))
      (outcome ((r.under .legacy).feed n line)) := by
  obtain ⟨found, hheader⟩ := opens_state_iff.1 ho
  have hb := not_blank_of_opens ho
  rw [feed_nonterminals n hb (r := r.under .strict) hs,
    feed_nonterminals n hb (r := r.under .legacy) hs, hheader]
  have hfirst := Builder.Along.first r.symbols r.symbols.terminals.size r.symbols.nonterminals.size
  exact agree_beginState (r := r.under .strict) (q := r.under .legacy) rfl rfl rfl hfirst rfl
    (Builder.fits_empty ..) n found

/-- **Two readings of the same lines**, from before the states. -/
theorem agree_feedAll {r : Reader} {name : SectionName} (h : r.stretch.awaits = some name) (n : Nat)
    (lines : List Text) :
    Agree (fun r' q' =>
        (∃ (before : Reader) (name' : SectionName), before.stretch.awaits = some name' ∧
          r' = before.under .strict ∧ q' = before.under .legacy) ∨
        ∃ done current, Along done current r' q' ∧
          done ++ [current.reverse] = (ahead (some name) lines).splitOnP (opens .state))
      ((r.under .strict).feedAll n lines) ((r.under .legacy).feedAll n lines) := by
  induction lines generalizing r name n with
  | nil => exact .ok (.inl ⟨r, name, h, rfl, rfl⟩)
  | cons line rest ih =>
    have hahead := ahead_feed h n line rest
    rw [h] at hahead
    rw [feedAll_cons, feedAll_cons, hahead]
    cases hafter : (r.feed n line).1.stretch.awaits with
    | some name' =>
      rw [feed_under .strict hafter, feed_under .legacy hafter]
      rcases hfeed : r.feed n line with ⟨r', _ | e⟩
      · rw [hfeed] at hafter
        exact ih hafter (n + 1)
      · exact .error e
    | none =>
      obtain ⟨⟨column, hs⟩, ho⟩ := opens_of_awaits_feed h hafter
      refine (agree_feed_first hs n ho).bind fun r' q' h' => (h'.feedAll (n + 1) rest).mono ?_
      exact fun r'' q'' hex => .inr hex

end Reader

/-! ### The whole report -/

namespace Automaton
open Report

theorem read_eq (s : Strictness) (source : Text) :
    read s source = (Reader.start s).feedAll 1 (Text.lines source) >>= Reader.finish := rfl

theorem agree_read (source : Text) :
    Agree (Alike (blocks (Text.lines source))) (read .strict source) (read .legacy source) := by
  rw [read_eq, read_eq]
  refine (Reader.agree_feedAll (r := .start .strict) rfl 1 (Text.lines source)).bind ?_
  rintro r q (⟨before, name, hname, rfl, rfl⟩ | ⟨done, current, h, hblocks⟩)
  · rw [Reader.finish_of_awaits (r := before.under .strict) hname,
      Reader.finish_of_awaits (r := before.under .legacy) hname]
    exact .error _
  · obtain ⟨b, b', hr, hq, hb⟩ := h.builders
    rw [Reader.finish_of_states hr, Reader.finish_of_states hq]
    refine .ok ⟨h.symbols, h.rules, congrArg List.reverse h.oddities, ?_⟩
    have hclosed := hb.closed
    rw [hblocks] at hclosed
    exact hclosed

/-- **Strict and legacy reading** differ by second entries, which only the strict one rejects, and
by discarded ones, which only the legacy one counts. Where strict reading stops at anything but a
second entry, legacy reading stops at the same. Where it reads an automaton, so does legacy reading,
and the two differ in an action or a default only where the block of its state lists a discarded
action: on that terminal or on all others. -/
theorem read_legacy (source : Text) :
    (∀ e, read .strict source = .error e →
      (∀ line state token, e ≠ .conflictingActions line state token) →
      read .legacy source = .error e) ∧
    ∀ a, read .strict source = .ok a → ∃ a', read .legacy source = .ok a' ∧
      a'.symbols = a.symbols ∧ a'.rules = a.rules ∧ a'.diagnostics = a.diagnostics ∧
      a'.table.size = a.table.size ∧
      ∀ (s : Nat) (row : Row), a.table.rows[s]? = some row →
        ∃ row' lines, a'.table.rows[s]? = some row' ∧
        (blocks (Text.lines source))[s]? = some lines ∧ row.Alike a.symbols lines row' := by
  have hagree := agree_read source
  generalize read .legacy source = other at hagree
  constructor
  · intro e he hne
    rw [he] at hagree
    cases hagree with
    | error e => rfl
    | conflict line state token => exact absurd rfl (hne line state token)
  · intro a ha
    rw [ha] at hagree
    cases hagree with
    | @ok _ a' halike =>
      have htable := halike.table
      refine ⟨a', rfl, halike.symbols, halike.rules, halike.diagnostics,
        htable.size'.trans htable.size.symm, fun s row hrow => ?_⟩
      obtain ⟨row', lines, hrow', hlines⟩ := htable.exists_rows hrow
      exact ⟨row', lines, hrow', hlines, htable.rows s lines row row' hlines hrow hrow'⟩

/-- A report in the first state of which a reduction lost a conflict to a shift. -/
def discardReport : Text := Text.unlines <| List.map String.toList
  ["Grammar", "    0 s: A A", "    1  | %empty", "Terminals, with rules where they appear",
    "A (258) 0", "B (259)", "Nonterminals, with rules where they appear", "s (3)", "state 0",
    "    A  shift, and go to state 1", "    A  [reduce using rule 1 (s)]",
    "    $default  reduce using rule 1 (s)", "state 1", "    $default  accept"]

/-- A report that lists an action on a terminal it has not listed. -/
def strayReport : Text := Text.unlines <| List.map String.toList
  ["Grammar", "    0 s: A", "Terminals, with rules where they appear", "A (258) 0",
    "Nonterminals, with rules where they appear", "s (3)", "state 0", "    C  accept"]

theorem read_legacy_discardReport :
    read .strict strayReport = .error (.unknownTerminal 8 "C".toList) ∧
    read .legacy strayReport = .error (.unknownTerminal 8 "C".toList) ∧
    ∃ a a' row row', read .strict discardReport = .ok a ∧ read .legacy discardReport = .ok a' ∧
      a'.symbols = a.symbols ∧ a'.table.size = a.table.size ∧
      a.table.rows[0]? = some row ∧ a'.table.rows[0]? = some row' ∧
      row.actions[0]? = some (.shift 1) ∧ row'.actions[0]? = some (.reduce 1) ∧
      row'.gotos = row.gotos := by
  have hstray : read .strict strayReport = .error (.unknownTerminal 8 "C".toList) := by
    have hcheck : (match read .strict strayReport with
        | .ok _ => false
        | .error e => decide (e = .unknownTerminal 8 "C".toList)) = true := by decide +kernel
    split at hcheck
    · exact absurd hcheck nofun
    · rename_i e he
      rw [he, of_decide_eq_true hcheck]
  refine ⟨hstray, (read_legacy strayReport).1 _ hstray nofun, ?_⟩
  obtain ⟨a, ha, hcheck⟩ := exists_ok_of_any (x := read .strict discardReport)
    (p := fun a => a.table.rows[0]?.any fun row => row.actions[0]? = some (Action.shift 1))
    (by decide +kernel)
  obtain ⟨a', ha', hcheck'⟩ := exists_ok_of_any (x := read .legacy discardReport)
    (p := fun a => a.table.rows[0]?.any fun row => row.actions[0]? = some (Action.reduce 1))
    (by decide +kernel)
  obtain ⟨row, hrow, hshift⟩ := (Option.any_eq_true ..).1 hcheck
  obtain ⟨row', hrow', hreduce⟩ := (Option.any_eq_true ..).1 hcheck'
  obtain ⟨_, hread, hsymbols, -, -, hsize, hrows⟩ := (read_legacy discardReport).2 a ha
  obtain rfl := Except.ok.inj (ha'.symm.trans hread)
  obtain ⟨_, lines, hsame, -, halike⟩ := hrows 0 row hrow
  obtain rfl := Option.some.inj (hrow'.symm.trans hsame)
  exact ⟨a, a', row, row', ha, ha', hsymbols, hsize, hrow, hrow', of_decide_eq_true hshift,
    of_decide_eq_true hreduce, halike.gotos⟩

end Automaton
end ParserTables
