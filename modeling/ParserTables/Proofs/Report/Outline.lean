import ParserTables.Proofs.Report.Calls
import ParserTables.Proofs.Text.Ends

/-! The sections of a report, and which of them a reader has come to.

The header of a section counts only after those of the sections before it. `Report.stateLines`
says so of the lines of a report alone; a reader waits for one header at a time
(`Stretch.awaits`), every line takes it to the next one or leaves it waiting
(`Reader.awaits_feed`), and what is ahead of it when it gets to the states are those lines
(`Reader.ahead_feed`). `Report.blocks` cuts them at the headers of the states. -/
namespace ParserTables

/-- The section that a header opens. -/
def Line.Header.sectionName : Line.Header → SectionName
  | .grammar => .grammar
  | .terminals => .terminals
  | .nonterminals => .nonterminals
  | .state _ => .state

/-- The section after this one. The states are the last. -/
def SectionName.next : SectionName → Option SectionName
  | .grammar => some .terminals
  | .terminals => some .nonterminals
  | .nonterminals => some .state
  | .state => none

/-! ### The lines of a report -/

namespace Report

/-- Is this line a header of the section? -/
def opens (name : SectionName) (line : Text) : Bool :=
  (Line.header? line).any fun header => header.sectionName = name

/-- The lines after the first header of a section. -/
def after (name : SectionName) (lines : List Text) : List Text :=
  (lines.dropWhile fun line => !opens name line).tail

/-- What comes after the first state header, if the headers from the one awaited on are
still to come. -/
def ahead : Option SectionName → List Text → List Text
  | some .grammar, lines =>
    after .state (after .nonterminals (after .terminals (after .grammar lines)))
  | some .terminals, lines => after .state (after .nonterminals (after .terminals lines))
  | some .nonterminals, lines => after .state (after .nonterminals lines)
  | some .state, lines => after .state lines
  | none, lines => lines

/-- The lines after the first state header that follows the headers of the other three
sections in their order. -/
def stateLines (lines : List Text) : List Text := ahead (some .grammar) lines

/-- The lines of each state: what stands between two state headers, and after the last. -/
def blocks (lines : List Text) : List (List Text) := (stateLines lines).splitOnP (opens .state)

theorem after_cons (name : SectionName) (line : Text) (rest : List Text) :
    after name (line :: rest) = if opens name line then rest else after name rest := by
  rw [after, List.dropWhile_cons]
  cases opens name line <;> rfl

theorem ahead_cons (name : SectionName) (line : Text) (rest : List Text) :
    ahead (some name) (line :: rest) =
      ahead (if opens name line then name.next else some name) rest := by
  cases hopens : opens name line <;> cases name <;>
    simp [ahead, SectionName.next, after_cons, hopens]

theorem header?_blank {line : Text} (h : Text.blank line = true) : Line.header? line = none := by
  rw [Line.header?, Text.trimEnd_blank h]
  decide

theorem not_opens_blank {line : Text} (h : Text.blank line = true) (name : SectionName) :
    opens name line = false := by
  rw [opens, header?_blank h]
  rfl

theorem not_blank_of_opens {line : Text} {name : SectionName} (h : opens name line = true) :
    Text.blank line = false := by
  cases hb : Text.blank line with
  | true => exact absurd ((not_opens_blank hb name).symm.trans h) nofun
  | false => rfl

theorem opens_eq {line : Text} {header : Option Line.Header} (h : Line.header? line = header)
    (name : SectionName) :
    opens name line = header.any fun header => header.sectionName = name := by
  rw [opens, h]

/-- A line that opens the states has the number of a state on it. -/
theorem opens_state_iff {line : Text} :
    opens .state line = true ↔ ∃ found, Line.header? line = some (.state found) := by
  rw [opens]
  cases Line.header? line with
  | none => simp
  | some header => cases header <;> simp [Line.Header.sectionName]

end Report

/-! ### Where a reader stands -/

/-- The section whose header ends a stretch. -/
def Stretch.awaits : Stretch → Option SectionName
  | .preamble => some .grammar
  | .grammar _ => some .terminals
  | .terminals _ => some .nonterminals
  | .nonterminals _ => some .state
  | .states _ => none

theorem Stretch.awaits_eq_none_iff {s : Stretch} : s.awaits = none ↔ ∃ b, s = .states b := by
  cases s <;> simp [awaits]

namespace Reader
open Report

/-- A section that is not opened is missing, the first one if there are several. -/
theorem finish_of_awaits {r : Reader} {name : SectionName} (h : r.stretch.awaits = some name) :
    r.finish = .error (.missingSection name) := by
  rw [finish]
  cases hs : r.stretch with
  | states b => exact absurd (hs ▸ h) nofun
  | preamble => exact Option.some.inj (hs ▸ h) ▸ rfl
  | grammar left => exact Option.some.inj (hs ▸ h) ▸ rfl
  | terminals column => exact Option.some.inj (hs ▸ h) ▸ rfl
  | nonterminals column => exact Option.some.inj (hs ▸ h) ▸ rfl

theorem finish_of_states {r : Reader} {b : Builder} (h : r.stretch = .states b) :
    r.finish = .ok { symbols := r.symbols, rules := r.rules, table := b.finish,
                     diagnostics := r.oddities.reverse } := by
  rw [finish, h]

/-- **One header at a time.** A line, accepted or not, ends a stretch if it is the header
awaited; among the states nothing is awaited any more. -/
theorem awaits_feed (r : Reader) (n : Nat) (line : Text) :
    (r.feed n line).1.stretch.awaits = r.stretch.awaits.bind fun name =>
      if opens name line then name.next else some name := by
  cases hb : Text.blank line with
  | true =>
    rw [feed_blank r n hb]
    cases hs : r.stretch <;> simp [Stretch.awaits, not_opens_blank hb]
  | false =>
    cases hs : r.stretch with
    | preamble =>
      rw [feed_preamble n hb hs]
      rcases hh : Line.header? line with _ | _ | _ | _ | _ <;>
        simp [opens_eq hh, accept, hs, Stretch.awaits, SectionName.next, Line.Header.sectionName]
    | grammar left =>
      obtain ⟨left', rules, oddities, hline⟩ := grammarLine_eq hs n line
      rw [feed_grammar n hb hs]
      rcases hh : Line.header? line with _ | _ | _ | _ | _ <;>
        simp [opens_eq hh, accept, hline, Stretch.awaits, SectionName.next,
          Line.Header.sectionName]
    | terminals column =>
      obtain ⟨terminals, hline⟩ := terminalLine_eq r column line
      rw [feed_terminals n hb hs]
      rcases hh : Line.header? line with _ | _ | _ | _ | _ <;>
        simp [opens_eq hh, accept, hline, Stretch.awaits, SectionName.next,
          Line.Header.sectionName]
    | nonterminals column =>
      obtain ⟨nonterminals, hline⟩ := nonterminalLine_eq r column line
      rw [feed_nonterminals n hb hs]
      rcases hh : Line.header? line with _ | _ | _ | _ | found
      case some.state =>
        obtain ⟨b, -, ha⟩ := beginState_step r
          (.empty r.strictness r.symbols.terminals.size r.symbols.nonterminals.size) n found
        simp [opens_eq hh, ha.stretch, Stretch.awaits, SectionName.next, Line.Header.sectionName]
      all_goals
        simp [opens_eq hh, accept, hline, Stretch.awaits, SectionName.next,
          Line.Header.sectionName]
    | states b =>
      obtain ⟨b', -, ha⟩ := feed_states_step hs n line
      rw [ha.stretch]
      rfl

theorem awaits_feed_of_opens {r : Reader} {name : SectionName} (h : r.stretch.awaits = some name)
    {line : Text} (ho : opens name line = true) (n : Nat) :
    (r.feed n line).1.stretch.awaits = name.next := by
  rw [awaits_feed, h, Option.bind_some, if_pos ho]

theorem awaits_feed_of_not_opens {r : Reader} {name : SectionName}
    (h : r.stretch.awaits = some name) {line : Text} (ho : opens name line = false) (n : Nat) :
    (r.feed n line).1.stretch.awaits = some name := by
  rw [awaits_feed, h, Option.bind_some, if_neg (by simp [ho])]

/-- Only the header of a state, among the nonterminals, takes a reader to the states. -/
theorem opens_of_awaits_feed {r : Reader} {name : SectionName} (h : r.stretch.awaits = some name)
    {n : Nat} {line : Text} (hafter : (r.feed n line).1.stretch.awaits = none) :
    (∃ column, r.stretch = .nonterminals column) ∧ opens .state line = true := by
  cases ho : opens name line with
  | false => exact absurd ((awaits_feed_of_not_opens h ho n).symm.trans hafter) nofun
  | true =>
    have hnext := (awaits_feed_of_opens h ho n).symm.trans hafter
    cases hs : r.stretch with
    | nonterminals column => exact ⟨⟨column, rfl⟩, Option.some.inj (hs ▸ h) ▸ ho⟩
    | preamble => exact absurd (Option.some.inj (hs ▸ h) ▸ hnext) nofun
    | grammar left => exact absurd (Option.some.inj (hs ▸ h) ▸ hnext) nofun
    | terminals column => exact absurd (Option.some.inj (hs ▸ h) ▸ hnext) nofun
    | states b => exact absurd (hs ▸ h) nofun

/-- Among the states, a line that is not the header of one does what it tells the reader to do. -/
theorem feed_states_line {r : Reader} {b : Builder} (hs : r.stretch = .states b) (n : Nat)
    {line : Text} (hblank : Text.blank line = false) (ho : opens .state line = false) :
    r.feed n line = r.obey b n line (told r.symbols line) := by
  rw [feed_states n hblank hs]
  split
  · rename_i found hheader
    rw [opens_state_iff.2 ⟨found, hheader⟩] at ho
    exact absurd ho nofun
  · exact stateLine_eq ..

/-- What is ahead of a reader before the states is still ahead of it after a line. -/
theorem ahead_feed {r : Reader} {name : SectionName} (h : r.stretch.awaits = some name) (n : Nat)
    (line : Text) (rest : List Text) :
    ahead r.stretch.awaits (line :: rest) = ahead (r.feed n line).1.stretch.awaits rest := by
  rw [awaits_feed, h, ahead_cons]
  rfl

end Reader
end ParserTables
