import ParserTables.Proofs.Report.Outline
import ParserTables.Proofs.Table.Width

/-! Reading on after rejected lines.

A reader can go on after a line it rejects. `feedEach` reads numbered lines that way, and
`opened` lists the numbers of the states that were opened. Whatever the lines are, the listings do
not change any more among the states (`feedEach_among`), no column is ever missing
(`inRange_feed`), and there is a row for each state that was opened, in order
(`opened_eq`). `feedEach_shape` puts this together. -/
namespace ParserTables

/-! ### Counting rows -/

namespace Builder

/-- The number of rows, the open one included. -/
def count (b : Builder) : Nat := b.rows.size + if b.block.isSome then 1 else 0

theorem nextState_eq (b : Builder) : b.nextState = idOf b.count := rfl

theorem size_closed (b : Builder) : b.closed.size = b.count := by
  rw [closed, count]
  cases b.block with
  | none => rfl
  | some block => exact Array.size_push ..

theorem count_beginState (b : Builder) : b.beginState.count = b.count + 1 := by
  rw [← b.size_closed]
  rfl

theorem count_call (b : Builder) (c : Call) : (b.call c).1.count = b.count := by
  cases hb : b.block with
  | none => rw [call_of_none hb]
  | some block =>
    rw [call_eq hb, count, count, hb]
    rfl

end Builder

namespace Reader
open Report

/-! ### Runs with rejected lines -/

/-- The reader after numbered lines, any of which may be rejected. -/
def feedEach (r : Reader) : List (Nat × Text) → Reader
  | [] => r
  | (n, line) :: rest => (r.feed n line).1.feedEach rest

theorem feedEach_append (r : Reader) (a b : List (Nat × Text)) :
    r.feedEach (a ++ b) = (r.feedEach a).feedEach b := by
  induction a generalizing r with
  | nil => rfl
  | cons line rest ih => exact ih _

/-- What every line preserves, accepted or not, holds after any lines. -/
theorem feedEach_preserves {P : Reader → Prop}
    (step : ∀ (r : Reader) (n : Nat) (line : Text), P r → P (r.feed n line).1) {r : Reader}
    (h : P r) (lines : List (Nat × Text)) : P (r.feedEach lines) := by
  induction lines generalizing r with
  | nil => exact h
  | cons line rest ih => exact ih (step r line.1 line.2 h)

/-- Among the states nothing is declared any more. -/
theorem feedEach_among {r : Reader} {b : Builder} (hs : r.stretch = .states b)
    (lines : List (Nat × Text)) : ∃ b', Among r b' (r.feedEach lines) := by
  refine feedEach_preserves (P := fun r' => ∃ b', Among r b' r') ?_ ⟨b, hs, rfl, rfl⟩ lines
  rintro r' n line ⟨b', h⟩
  obtain ⟨b'', -, h'⟩ := feed_states_step h.stretch n line
  exact ⟨b'', h'.stretch, h'.symbols.trans h.symbols, h'.rules.trans h.rules⟩

/-! ### Columns -/

/-- A line was not rejected for want of a column. -/
def InRange (fed : Fed) : Prop := ∀ line name, fed.2 ≠ some (.columnOutOfRange line name)

theorem inRange_accept (r : Reader) : InRange r.accept := by
  simp [InRange, accept]

theorem inRange_reject (r : Reader) {e : ReadError}
    (h : ∀ line name, e ≠ .columnOutOfRange line name) : InRange (r.reject e) := by
  simpa [InRange, reject] using h

theorem inRange_addRule (r : Reader) (n : Nat) (rule : Rule) : InRange (r.addRule n rule) := by
  rw [addRule]
  split
  · exact inRange_reject _ (by simp)
  · dsimp only
    split <;> exact inRange_accept _

theorem inRange_grammarLine (r : Reader) (left : Option Text) (n : Nat) (line : Text) :
    InRange (r.grammarLine left n line) := by
  rw [grammarLine]
  split
  · exact inRange_accept _
  · split
    · exact inRange_reject _ (by simp)
    · exact inRange_addRule _ _ _

theorem inRange_beginState (r : Reader) (b : Builder) (n found : Nat) :
    InRange (r.beginState b n found) := by
  rw [beginState]
  split
  · exact inRange_accept _
  · exact inRange_reject _ (by simp)

theorem inRange_stateLine {r : Reader} {b : Builder}
    (hf : b.Fits r.symbols.terminals.size r.symbols.nonterminals.size) (n : Nat) (line : Text) :
    InRange (r.stateLine b n line) := by
  rw [stateLine_eq]
  cases htold : told r.symbols line with
  | nothing => exact inRange_accept _
  | odd => exact inRange_accept _
  | unknownTerminal name => exact inRange_reject _ (by simp)
  | unknownNonterminal name => exact inRange_reject _ (by simp)
  | call symbol c =>
    rw [obey]
    rcases hcall : b.call c with ⟨b', _ | _ | _⟩
    · exact inRange_accept _
    · exact inRange_reject _ (by simp)
    · exact absurd (congrArg Prod.snd hcall) (Builder.call_ne_outOfRange hf (told_within htold))

/-- **No column is ever missing.** -/
theorem inRange_feed {r : Reader} (h : r.Fits) (n : Nat) (line : Text) :
    InRange (r.feed n line) := by
  have htakes := r.takes_feed n line
  generalize r.feed n line = fed at htakes ⊢
  cases htakes with
  | blank _ => exact inRange_accept _
  | preamble _ _ => exact inRange_accept _
  | enterGrammar _ _ => exact inRange_accept _
  | rule _ _ => exact inRange_grammarLine _ _ _ _
  | enterTerminals _ _ => exact inRange_accept _
  | terminal _ _ => exact inRange_accept _
  | enterNonterminals _ _ => exact inRange_accept _
  | nonterminal _ _ => exact inRange_accept _
  | enterStates _ _ => exact inRange_beginState _ _ _ _
  | beginState _ _ => exact inRange_beginState _ _ _ _
  | entry hs _ => exact inRange_stateLine (h _ hs) n line

/-! ### Opened states -/

/-- The number of rows that a reader has come to. -/
def count (r : Reader) : Nat :=
  match r.stretch with
  | .states b => b.count
  | _ => 0

theorem count_of_states {r : Reader} {b : Builder} (h : r.stretch = .states b) :
    r.count = b.count := by
  rw [count, h]

theorem count_of_awaits {r : Reader} {name : SectionName} (h : r.stretch.awaits = some name) :
    r.count = 0 := by
  rw [count]
  split
  · rename_i b hs
    exact absurd (hs ▸ h) nofun
  · rfl

/-- The number on a line by which it opens a state: the line is a state header, it is accepted,
and it leaves the reader among the states. -/
def opened? (r : Reader) (n : Nat) (line : Text) : Option Nat :=
  match Line.header? line with
  | some (.state found) =>
    if (r.feed n line).2 = none ∧ (r.feed n line).1.stretch.awaits = none then some found else none
  | _ => none

theorem opened?_eq_none {r : Reader} {n : Nat} {line : Text}
    (h : ¬ ∃ found, Line.header? line = some (.state found)) : r.opened? n line = none := by
  rw [opened?]
  split
  · rename_i found hheader
    exact absurd ⟨found, hheader⟩ h
  · rfl

/-- The numbers on the state headers that were accepted among some lines, in order. -/
def opened (r : Reader) : List (Nat × Text) → List Nat
  | [] => []
  | (n, line) :: rest => (r.opened? n line).toList ++ (r.feed n line).1.opened rest

/-- What opening a state does, or failing to: the number of an opened state is the id of its
row, and every opened state gets a row. -/
def Counts (r : Reader) (r' : Reader) : Option Nat → Prop
  | some found => found = idOf r.count ∧ r'.count = r.count + 1
  | none => r'.count = r.count

theorem counts_beginState {r : Reader} {b : Builder} {n found : Nat} {line : Text}
    (hfeed : r.feed n line = r.beginState b n found)
    (hheader : Line.header? line = some (.state found)) (hcount : r.count = b.count) :
    r.Counts (r.feed n line).1 (r.opened? n line) := by
  simp only [opened?, hheader, hfeed, beginState]
  by_cases hfound : found = b.nextState
  · rw [if_pos hfound, if_pos ⟨rfl, rfl⟩]
    exact ⟨by rw [hfound, b.nextState_eq, hcount], by rw [hcount, ← b.count_beginState]; rfl⟩
  · rw [if_neg hfound, if_neg (by simp [reject])]
    exact hcount.symm

theorem count_stateLine {r : Reader} {b : Builder} (hs : r.stretch = .states b) (n : Nat)
    (line : Text) : (r.stateLine b n line).1.count = r.count := by
  rw [stateLine_eq]
  cases told r.symbols line with
  | nothing => rfl
  | odd => rfl
  | unknownTerminal name => rfl
  | unknownNonterminal name => rfl
  | call symbol c =>
    rw [obey, count_of_states (recorded_among ..).stretch, b.count_call, count_of_states hs]

/-- A line that leaves the reader before the states makes no row. -/
theorem count_feed_of_awaits {r : Reader} {n : Nat} {line : Text} {name : SectionName}
    (h : (r.feed n line).1.stretch.awaits = some name) : (r.feed n line).1.count = r.count := by
  have hawaits := awaits_feed r n line
  rw [h] at hawaits
  obtain ⟨name', hname', -⟩ := Option.bind_eq_some_iff.1 hawaits.symm
  rw [count_of_awaits h, count_of_awaits hname']

/-- A line that is no state header makes no row. -/
theorem count_feed {r : Reader} {n : Nat} {line : Text}
    (h : ¬ ∃ found, Line.header? line = some (.state found)) :
    (r.feed n line).1.count = r.count := by
  cases hawaits : r.stretch.awaits with
  | some name =>
    cases ho : opens name line with
    | false => exact count_feed_of_awaits (awaits_feed_of_not_opens hawaits ho n)
    | true =>
      have hafter := awaits_feed_of_opens hawaits ho n
      cases name with
      | grammar => exact count_feed_of_awaits hafter
      | terminals => exact count_feed_of_awaits hafter
      | nonterminals => exact count_feed_of_awaits hafter
      | state => exact absurd (opens_state_iff.1 ho) h
  | none =>
    obtain ⟨b, hs⟩ := Stretch.awaits_eq_none_iff.1 hawaits
    cases hb : Text.blank line with
    | true => rw [feed_blank r n hb]
    | false =>
      rw [feed_states n hb hs]
      split
      · rename_i found hheader
        exact absurd ⟨found, hheader⟩ h
      · exact count_stateLine hs n line

/-- **Every state that is opened gets the next row**, and no other line makes a row. -/
theorem counts_feed (r : Reader) (n : Nat) (line : Text) :
    r.Counts (r.feed n line).1 (r.opened? n line) := by
  by_cases hstate : ∃ found, Line.header? line = some (.state found)
  · obtain ⟨found, hheader⟩ := hstate
    have hb := not_blank_of_opens (opens_state_iff.2 ⟨found, hheader⟩)
    -- before the nonterminals, a state header is content like any other line
    have early : ∀ {name : SectionName}, r.stretch.awaits = some name →
        opens name line = false → r.Counts (r.feed n line).1 (r.opened? n line) := by
      intro name hname ho
      have hafter := awaits_feed_of_not_opens hname ho n
      have hnone : r.opened? n line = none := by
        simp only [opened?, hheader, hafter]
        exact if_neg fun h => nomatch h.2
      rw [hnone]
      exact count_feed_of_awaits hafter
    cases hs : r.stretch with
    | preamble => exact early (congrArg Stretch.awaits hs) (opens_eq hheader .grammar)
    | grammar left => exact early (congrArg Stretch.awaits hs) (opens_eq hheader .terminals)
    | terminals column => exact early (congrArg Stretch.awaits hs) (opens_eq hheader .nonterminals)
    | nonterminals column =>
      have hfeed := feed_nonterminals n hb hs
      rw [hheader] at hfeed
      exact counts_beginState hfeed hheader (count_of_awaits (congrArg Stretch.awaits hs))
    | states b =>
      exact counts_beginState (by rw [feed_states n hb hs, hheader]) hheader (count_of_states hs)
  · rw [opened?_eq_none hstate]
    exact count_feed hstate

/-- **The opened states have the numbers of their rows**, and nothing else has a row. -/
theorem opened_eq (r : Reader) (lines : List (Nat × Text)) :
    r.opened lines = (List.range' r.count (r.opened lines).length).map idOf ∧
      (r.feedEach lines).count = r.count + (r.opened lines).length := by
  induction lines generalizing r with
  | nil => exact ⟨rfl, rfl⟩
  | cons line rest ih =>
    obtain ⟨n, line⟩ := line
    obtain ⟨hopened, hcount⟩ := ih (r.feed n line).1
    have hstep := counts_feed r n line
    rw [opened, feedEach, hcount]
    cases hfound : r.opened? n line with
    | none =>
      rw [hfound] at hstep
      have hstep : (r.feed n line).1.count = r.count := hstep
      rw [hstep] at hopened ⊢
      exact ⟨hopened, rfl⟩
    | some found =>
      rw [hfound] at hstep
      obtain ⟨rfl, hstep⟩ := hstep
      rw [hstep] at hopened ⊢
      refine ⟨?_, by simp; omega⟩
      rw [Option.toList_some, List.singleton_append, List.length_cons, List.range'_succ,
        List.map_cons, ← hopened]

/-! ### The shape of what is read -/

/-- What is finished has the rows of the reader, in their widths. -/
theorem fits_of_finish {r : Reader} (h : r.Fits) {a : Automaton} (hfinish : r.finish = .ok a) :
    a.Fits ∧ a.table.size = r.count := by
  cases hawaits : r.stretch.awaits with
  | some name => exact absurd (finish_of_awaits hawaits ▸ hfinish) nofun
  | none =>
    obtain ⟨b, hs⟩ := Stretch.awaits_eq_none_iff.1 hawaits
    obtain rfl := Except.ok.inj ((finish_of_states hs).symm.trans hfinish)
    exact ⟨(h b hs).closed, b.size_closed.trans (count_of_states hs).symm⟩

/-- **What holds whatever a reader is fed**, rejected lines included. Among the states nothing is
declared any more. All rows, the open one included, have a column for each symbol, and so no line
is rejected for want of one. The state headers that are accepted bear the ids of their rows. What
is read in the end has these widths too, in its rows and in its cells; it can be shown; and it has
a row for each of those headers and no other. -/
theorem feedEach_shape (s : Strictness) (fed : List (Nat × Text)) :
    (∀ more b, ((start s).feedEach fed).stretch = .states b →
      ((start s).feedEach (fed ++ more)).symbols = ((start s).feedEach fed).symbols) ∧
    ((start s).feedEach fed).Fits ∧
    (∀ n line, InRange (((start s).feedEach fed).feed n line)) ∧
    (start s).opened fed = (List.range ((start s).opened fed).length).map idOf ∧
    ∀ a, ((start s).feedEach fed).finish = .ok a →
      a.Fits ∧ a.tableText?.isSome = true ∧
      (∀ rows, a.table.pack = .ok rows →
        ∀ row ∈ rows, row.Fits a.symbols.terminals.size a.symbols.nonterminals.size) ∧
      a.table.size = ((start s).opened fed).length := by
  have hfits : ((start s).feedEach fed).Fits :=
    feedEach_preserves (P := Reader.Fits) (fun _ n line h => feed_fits h n line) (fits_start s) fed
  obtain ⟨hopened, hcount⟩ := opened_eq (start s) fed
  refine ⟨fun more b hs => ?_, hfits, inRange_feed hfits, ?_, fun a hfinish => ?_⟩
  · obtain ⟨b', ha⟩ := feedEach_among hs more
    rw [feedEach_append]
    exact ha.symbols
  · rw [List.range_eq_range']
    exact hopened
  · obtain ⟨hrows, hsize⟩ := fits_of_finish hfits hfinish
    refine ⟨hrows, hrows.isSome_tableText?, fun rows hp => fits_of_pack hp hrows, ?_⟩
    rw [hsize, hcount]
    exact Nat.zero_add _

/-- Lines of a report, with one of each kind that is rejected. -/
def brokenReport : List (Nat × Text) :=
  [(1, "state 3"), (2, "Grammar"), (3, "    | A"), (4, "    0 | A"), (5, "    0 s: A"),
    (6, "    0 t: A"), (7, "Terminals, with rules where they appear"), (8, "A (258) 0"),
    (9, "Nonterminals, with rules where they appear"), (10, "s (3)"), (11, "state 5"),
    (12, "    B  accept"), (13, "    A  accept"), (14, "state 0"), (15, "    A  accept"),
    (16, "    A  error"), (17, "    t  go to state 1"), (18, "state 0"), (19, "state 1")].map
    fun (n, line) => (n, line.toList)

/-- Seven of its lines are rejected, and two states are opened. -/
theorem feedEach_shape_brokenReport : ∃ a b,
    ((start .strict).feedEach brokenReport).finish = .ok a ∧
    ((start .strict).feedEach brokenReport).stretch = .states b ∧
    ((start .strict).feedEach (brokenReport ++ [(20, "B (259)".toList)])).symbols =
      ((start .strict).feedEach brokenReport).symbols ∧
    a.Fits ∧ a.table.size = 2 ∧ (start .strict).opened brokenReport = [0, 1] := by
  obtain ⟨b, hs⟩ := Stretch.awaits_eq_none_iff.1
    (show ((start .strict).feedEach brokenReport).stretch.awaits = none by decide +kernel)
  have hopened : (start .strict).opened brokenReport = [0, 1] := by decide +kernel
  obtain ⟨hsymbols, -, -, -, hread⟩ := feedEach_shape .strict brokenReport
  obtain ⟨hfits, -, -, hsize⟩ := hread _ (finish_of_states hs)
  refine ⟨_, b, finish_of_states hs, hs, hsymbols _ b hs, hfits, ?_, hopened⟩
  rw [hsize, hopened]
  rfl

end Reader
end ParserTables
