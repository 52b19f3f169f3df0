import ParserTables.Proofs.Report.Place
import ParserTables.Proofs.Table.Kept

/-! What the rows of a report are made of.

The lines of a block ask for calls (`Report.calls`). Among the states, a header opens a row and any
other line that is accepted adds its call to the open one (`Reader.HasBuilt.feed_header`,
`Reader.HasBuilt.feed_line`). So a report that is read has a row for each of its blocks, made by
what the lines of the block ask for (`Automaton.rows_of_read`). -/
namespace ParserTables

/-! ### The calls of a block -/

namespace Reader

/-- The call that the reader is told to make. -/
def Told.call? : Told → Option Call
  | .nothing => none
  | .odd => none
  | .unknownTerminal _ => none
  | .unknownNonterminal _ => none
  | .call _ c => some c

theorem Told.call?_eq_some_iff {t : Told} {c : Call} :
    t.call? = some c ↔ ∃ name, t = .call name c := by
  cases t <;> simp [call?]

/-- A blank line asks for nothing. -/
theorem call?_told_blank {line : Text} (h : Text.blank line = true) (symbols : SymbolTable) :
    (told symbols line).call? = none := by
  have hstate : Line.state line = .unrecognized := by
    rw [Line.state, Text.trim_blank h]
    rfl
  rw [told, hstate]
  rfl

end Reader

namespace Report

/-- The calls that the lines of a block ask for. -/
def calls (symbols : SymbolTable) (block : List Text) : List Call :=
  block.filterMap fun line => (Reader.told symbols line).call?

theorem calls_concat (symbols : SymbolTable) (block : List Text) (line : Text) :
    calls symbols (block ++ [line]) =
      calls symbols block ++ (Reader.told symbols line).call?.toList :=
  filterMap_concat ..

theorem mem_calls_iff {symbols : SymbolTable} {block : List Text} {c : Call} :
    c ∈ calls symbols block ↔ ∃ line ∈ block, ∃ name, Reader.told symbols line = .call name c := by
  simp only [calls, List.mem_filterMap, Reader.Told.call?_eq_some_iff]

end Report

/-! ### Readers among the states -/

namespace Reader
open Report

/-- The reader stands among the states, and its rows were made by what some blocks ask for. -/
def HasBuilt (s : Strictness) (blocks : List (List Text)) (r : Reader) : Prop :=
  ∃ b, r.stretch = .states b ∧ Builder.Built s r.symbols.terminals.size
    r.symbols.nonterminals.size (blocks.map (calls r.symbols)) b

variable {s : Strictness} {blocks : List (List Text)} {r r' : Reader} {n : Nat} {line : Text}

/-- The header of a state that is accepted opens a block. -/
theorem hasBuilt_beginState {b : Builder} {found : Nat}
    (hb : Builder.Built s r.symbols.terminals.size r.symbols.nonterminals.size
      (blocks.map (calls r.symbols)) b) (hok : (r.beginState b n found).2 = none) :
    HasBuilt s (blocks ++ [[]]) (r.beginState b n found).1 := by
  unfold beginState at hok ⊢
  split
  · refine ⟨b.beginState, rfl, ?_⟩
    rw [List.map_append]
    exact hb.beginState
  · rw [if_neg ‹_›] at hok
    cases hok

theorem HasBuilt.feed_header (h : HasBuilt s blocks r) (ho : opens .state line = true)
    (hok : (r.feed n line).2 = none) : HasBuilt s (blocks ++ [[]]) (r.feed n line).1 := by
  obtain ⟨b, hr, hb⟩ := h
  obtain ⟨found, hheader⟩ := opens_state_iff.1 ho
  rw [feed_states n (not_blank_of_opens ho) hr, hheader] at hok ⊢
  exact hasBuilt_beginState hb hok

/-- What the reader is told and accepts changes its builder by the call, if there is one. -/
theorem obey_among {b : Builder} (hs : r.stretch = .states b) {t : Told}
    (hok : (r.obey b n line t).2 = none) :
    Among r (t.call?.elim b fun c => b.perform (.record c)) (r.obey b n line t).1 := by
  cases t with
  | nothing => exact ⟨hs, rfl, rfl⟩
  | odd => exact ⟨hs, rfl, rfl⟩
  | unknownTerminal name => cases hok
  | unknownNonterminal name => cases hok
  | call name c =>
    exact recorded_among ..

/-- **Any other line** that is accepted adds what it asks for to the block that is open. -/
theorem HasBuilt.feed_line {block : List Text} (h : HasBuilt s (blocks ++ [block]) r)
    (ho : opens .state line = false) (hok : (r.feed n line).2 = none) :
    HasBuilt s (blocks ++ [block ++ [line]]) (r.feed n line).1 := by
  obtain ⟨b, hr, hb⟩ := h
  have hcalls : (blocks ++ [block ++ [line]]).map (calls r.symbols) =
      blocks.map (calls r.symbols) ++
        [calls r.symbols block ++ (told r.symbols line).call?.toList] := by
    rw [List.map_append, List.map_singleton, calls_concat]
  rw [List.map_append, List.map_singleton] at hb
  cases hblank : Text.blank line with
  | true =>
    rw [call?_told_blank hblank, Option.toList_none, List.append_nil] at hcalls
    rw [feed_blank r n hblank]
    exact ⟨b, hr, hcalls ▸ hb⟩
  | false =>
    rw [feed_states_line hr n hblank ho] at hok ⊢
    have hamong := obey_among hr hok
    refine ⟨_, hamong.stretch, ?_⟩
    rw [hamong.symbols, hcalls]
    cases hasked : (told r.symbols line).call? with
    | none =>
      rw [Option.toList_none, List.append_nil]
      exact hb
    | some c =>
      obtain ⟨name, htold⟩ := Told.call?_eq_some_iff.1 hasked
      exact hb.record (told_within htold)

/-- All the lines that are left, cut at the headers. -/
theorem HasBuilt.feedAll {block lines : List Text} (h : HasBuilt s (blocks ++ [block.reverse]) r)
    (hrun : r.feedAll n lines = .ok r') :
    HasBuilt s (blocks ++ List.splitOnPPrepend (opens .state) lines block) r' := by
  -- the open block is kept with its last line first, as the splitting keeps it
  induction lines generalizing blocks block r n with
  | nil =>
    obtain rfl := Except.ok.inj hrun
    exact h
  | cons line rest ih =>
    obtain ⟨hok, hrest⟩ := feedAll_cons_ok hrun
    rw [List.splitOnPPrepend_cons_eq_if]
    cases ho : opens .state line with
    | true =>
      have hheader : HasBuilt s (blocks ++ [block.reverse] ++ [[].reverse]) (r.feed n line).1 :=
        h.feed_header ho hok
      simpa using ih hheader hrest
    | false =>
      have hline := h.feed_line ho hok
      rw [← List.reverse_cons] at hline
      simpa using ih hline hrest

/-- **The states of a report**, read from before them. -/
theorem hasBuilt_of_feedAll {name : SectionName} (h : r.stretch.awaits = some name)
    {lines : List Text} (hrun : r.feedAll n lines = .ok r') (hend : r'.stretch.awaits = none) :
    HasBuilt r.strictness ((ahead (some name) lines).splitOnP (opens .state)) r' := by
  induction lines generalizing r name n with
  | nil =>
    obtain rfl := Except.ok.inj hrun
    exact absurd (h.symm.trans hend) nofun
  | cons line rest ih =>
    obtain ⟨hok, hrest⟩ := feedAll_cons_ok hrun
    have hahead := ahead_feed h n line rest
    rw [h] at hahead
    rw [hahead]
    cases hafter : (r.feed n line).1.stretch.awaits with
    | some name' =>
      rw [← strictness_feed r n line]
      exact ih hafter hrest
    | none =>
      -- the line is the first header of a state
      obtain ⟨⟨column, hs⟩, ho⟩ := opens_of_awaits_feed h hafter
      obtain ⟨found, hheader⟩ := opens_state_iff.1 ho
      have hfirst : HasBuilt r.strictness ([] ++ [[].reverse]) (r.feed n line).1 := by
        rw [feed_nonterminals n (not_blank_of_opens ho) hs, hheader] at hok ⊢
        exact hasBuilt_beginState .empty hok
      exact hfirst.feedAll hrest

end Reader

/-- **The rows of a report** are made by what the lines of its blocks ask for. -/
theorem Automaton.rows_of_read {s : Strictness} {source : Text} {a : Automaton}
    (h : read s source = .ok a) : a.table.rows =
      ((Report.blocks (Text.lines source)).map fun block =>
        Row.ofCalls s a.symbols.terminals.size a.symbols.nonterminals.size
          (Report.calls a.symbols block)).toArray := by
  obtain ⟨r, b, hrun, hs, rfl⟩ := exists_of_read h
  obtain ⟨b', hs', hbuilt⟩ :=
    Reader.hasBuilt_of_feedAll (r := .start s) rfl hrun (by rw [hs]; rfl)
  obtain rfl := Stretch.states.inj (hs.symm.trans hs')
  show b.closed = _
  rw [hbuilt.closed, List.map_map]
  rfl

end ParserTables
