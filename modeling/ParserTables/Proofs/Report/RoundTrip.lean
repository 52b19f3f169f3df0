import ParserTables.Proofs.Report.Sections
import ParserTables.Proofs.Table.Recorded

/-! Reports are read as what they describe.

The entries of a state are recorded one after the other (`reads_entries`), the states are
read in order (`reads_blocks`), and so a report on a description is read to its end, section
by section (`reads_sections`). `compile_reports` puts this together: every report on a
description compiles to what is described, with nothing odd about it. -/
namespace ParserTables

/-- A name of a listing that is not too long has an id, and the id is its position. -/
theorem Listing.exists_id? {l : Listing} {name : Text} (h : name ∈ l.toList)
    (hlen : l.toList.length ≤ idCount) : ∃ i, l.id? name = some i ∧ l.toList[i]? = some name := by
  obtain ⟨i, hi⟩ := List.mem_iff_getElem?.1 h
  have hpos : l.position? name = some i := by
    rw [Listing.position?_eq_some_iff, ← Listing.getElem?_toList, hi]
  have hlt : i < idCount := Nat.lt_of_lt_of_le (List.getElem?_eq_some_iff.1 hi).1 hlen
  exact ⟨i, by rw [Listing.id?, hpos, Option.map_some, idOf_of_lt hlt], hi⟩

/-! ### Entries -/

namespace Reader

/-- A reader that has the symbols of a description. -/
structure Knows (d : Description) (r : Reader) : Prop where
  terminals : r.symbols.terminals.toList = d.terminals
  nonterminals : r.symbols.nonterminals.toList = d.nonterminals

variable {d : Description} {r : Reader} (hk : Knows d r)
include hk

theorem Knows.terminal {t : Text} (h : t ∈ d.terminals) :
    ∃ i, r.symbols.terminals.id? t = some i ∧ d.terminals[i]? = some t := by
  rw [← hk.terminals] at h ⊢
  exact Listing.exists_id? h (by rw [hk.terminals]; exact d.length_terminals)

theorem Knows.nonterminal {n : Text} (h : n ∈ d.nonterminals) :
    ∃ i, r.symbols.nonterminals.id? n = some i ∧ d.nonterminals[i]? = some n := by
  rw [← hk.nonterminals] at h ⊢
  exact Listing.exists_id? h (by rw [hk.nonterminals]; exact d.length_nonterminals)

/-- The line of an entry for a free slot records the entry. -/
theorem feed_entry {done : List (List Entry)} {entries : List Entry}
    (hs : r.stretch = .states (d.builder done entries)) {e : Entry}
    (he : e.Resolves d.terminals d.nonterminals d.rules.length d.states.length)
    (hname : IsName e.phrase.1) (hfree : e.slot ∉ entries.map Entry.slot) {line : Text}
    (hl : e.IsWritten line) (n : Nat) :
    r.feed n line = ({ r with stretch := .states (d.builder done (entries ++ [e])) }, none) := by
  have hindented := isIndented_of_isWritten hl hname
  have hstate := state_of_isWritten hl hname
  rw [feed_states n hindented.isContent.blank hs, hindented.header?]
  cases e with
  | action token a =>
    obtain ⟨i, hid, hi⟩ := hk.terminal he.1
    have hdefault : token ≠ Symbol.defaultName := (d.terminal_names token he.1).2.2
    simp only [stateLine, hstate, Entry.phrase, Token.lineOf, if_neg hdefault, hid,
      Description.action_builder hi a hfree, recorded, accept]
  | fallback a =>
    simp only [stateLine, hstate, Entry.phrase, Token.lineOf, if_true,
      Description.fallback_builder a hfree, recorded, accept]
  | goto symbol target =>
    obtain ⟨i, hid, hi⟩ := hk.nonterminal he.1
    simp only [stateLine, hstate, Entry.phrase, Token.lineOf, hid,
      Description.goto_builder hi target hfree, recorded, accept]

/-- **The entries of a state** are recorded one after the other. -/
theorem reads_entries {done : List (List Entry)} (hs : r.stretch = .states (d.builder done []))
    {entries : List Entry} (hmem : entries ∈ d.states) {lines : List Text}
    (h : List.Forall₂ Entry.IsWritten entries lines) :
    Reads r lines { r with stretch := .states (d.builder done entries) } := by
  have hstep : ∀ (prior : List Entry) (e : Entry) (line : Text) (r' : Reader),
      prior ++ [e] <+: entries → e.IsWritten line →
      r' = { r with stretch := .states (d.builder done prior) } →
      ∃ r'', (∀ n, r'.feed n line = (r'', none)) ∧
        r'' = { r with stretch := .states (d.builder done (prior ++ [e])) } := by
    rintro prior e line _ hpre hline rfl
    have hin : e ∈ entries := hpre.mem (List.mem_append_right _ (List.mem_singleton_self e))
    have hfree : e.slot ∉ prior.map Entry.slot := by
      have := hpre.map Entry.slot
      rw [List.map_append] at this
      exact not_mem_of_isPrefix (d.slots_nodup entries hmem) this
    have hk' : Knows d { r with stretch := .states (d.builder done prior) } :=
      ⟨hk.terminals, hk.nonterminals⟩
    exact ⟨_, feed_entry hk' rfl (d.resolves entries hmem e hin) (d.isName_phrase hmem hin) hfree
      hline, rfl⟩
  obtain ⟨_, hreads, rfl⟩ := Reads.of_forall₂ hstep h (by rw [← hs])
  exact hreads

/-! ### States -/

omit hk in
/-- The header of the next state opens it. -/
theorem feed_next {done : List (List Entry)} {entries : List Entry} {word : Text}
    (hw : word = "state ".toList ∨ word = "State ".toList)
    (hlt : done.length + 1 < idCount) (hs : r.stretch = .states (d.builder done entries)) (n : Nat) :
    r.feed n (word ++ Text.ofNat (done.length + 1)) =
      ({ r with stretch := .states (d.builder (done ++ [entries]) []) }, none) := by
  rw [feed_states n (isContent_stateHeader hw _).blank hs, header?_state hw hlt]
  simp only [beginState, d.nextState_builder entries hlt, if_true, accept,
    d.beginState_builder done entries]

/-- The header of the first state ends the listings. -/
theorem feed_first {column : Option Nat} {word : Text}
    (hw : word = "state ".toList ∨ word = "State ".toList) (hstrict : r.strictness = .strict)
    (hs : r.stretch = .nonterminals column) (n : Nat) :
    r.feed n (word ++ Text.ofNat 0) = ({ r with stretch := .states (d.builder [] []) }, none) := by
  have hterminals : r.symbols.terminals.size = d.terminals.length := by
    rw [← hk.terminals, Listing.length_toList]
  have hnonterminals : r.symbols.nonterminals.size = d.nonterminals.length := by
    rw [← hk.nonterminals, Listing.length_toList]
  rw [feed_nonterminals n (isContent_stateHeader hw _).blank hs,
    header?_state hw (by decide)]
  simp only [beginState, hstrict, hterminals, hnonterminals, d.beginState_empty, accept]
  rfl

/-- **The states after the first** are read in order. -/
theorem reads_states {number : Nat} {states : List (List Entry)} {lines : List Text}
    (h : StateLines number states lines) {done : List (List Entry)} {current : List Entry}
    (hall : done ++ current :: states = d.states) (hnum : number = done.length + 1)
    (hs : r.stretch = .states (d.builder done current)) :
    ∃ done' last, done' ++ [last] = d.states ∧
      Reads r lines { r with stretch := .states (d.builder done' last) } := by
  induction h generalizing done current r with
  | nil =>
    refine ⟨done, current, hall, ?_⟩
    rw [← hs]
    exact .done r
  | @block number word entries states lines more hw hentries _ ih =>
    subst hnum
    have hmem : entries ∈ d.states := by rw [← hall]; simp
    have hlt : done.length + 1 < idCount := by
      have hlen := d.length_states
      rw [← hall] at hlen
      simp only [List.length_append, List.length_cons] at hlen
      omega
    have hhead := feed_next hw hlt hs
    have hk₁ : Knows d { r with stretch := .states (d.builder (done ++ [current]) []) } :=
      ⟨hk.terminals, hk.nonterminals⟩
    have hblock := reads_entries hk₁ rfl hmem hentries
    have hk₂ : Knows d { r with stretch := .states (d.builder (done ++ [current]) entries) } :=
      ⟨hk.terminals, hk.nonterminals⟩
    have hall' : (done ++ [current]) ++ entries :: states = d.states := by simpa using hall
    obtain ⟨done', last, hlast, hmore⟩ := ih hk₂ hall' (by simp) rfl
    exact ⟨done', last, hlast, .line hhead (hblock.append hmore)⟩

/-- **All states** are read in order. -/
theorem reads_blocks {column : Option Nat} (hstrict : r.strictness = .strict)
    (hs : r.stretch = .nonterminals column) {lines : List Text}
    (h : StateLines 0 d.states lines) :
    ∃ done last, done ++ [last] = d.states ∧
      Reads r lines { r with stretch := .states (d.builder done last) } := by
  obtain ⟨first, rest, hsplit⟩ := List.exists_cons_of_ne_nil d.states_ne_nil
  rw [hsplit] at h
  cases h with
  | block hw hentries hrest =>
    have hknows : ∀ stretch, Knows d { r with stretch := stretch } :=
      fun _ => ⟨hk.terminals, hk.nonterminals⟩
    have hhead := feed_first hk hw hstrict hs
    have hblock := reads_entries (hknows (.states (d.builder [] []))) rfl
      (by rw [hsplit]; exact List.mem_cons_self ..) hentries
    have hall : [] ++ first :: rest = d.states := hsplit.symm
    obtain ⟨done, last, hlast, hmore⟩ :=
      reads_states (hknows (.states (d.builder [] first))) hrest hall rfl rfl
    exact ⟨done, last, hlast, .line hhead (hblock.append hmore)⟩

end Reader

/-! ### Whole reports -/

namespace Description
variable (d : Description)

/-- **A report on a description is read**, to its end, as what is described. -/
theorem reads_sections {lines : List Text} (h : Sections d lines) :
    ∃ r done last, Reader.Reads (.start .strict) lines r ∧ Reader.Knows d r ∧
      r.rules.toList = d.ruleList ∧ r.oddities = [] ∧
      r.stretch = .states (d.builder done last) ∧ done ++ [last] = d.states := by
  obtain ⟨hrules, hterminals, hnonterminals, hstates⟩ := h
  -- each section starts from the reader that the one before it left
  have hempty := RuleSet.toList_empty
  obtain ⟨left, rules, hreads₁, hlist⟩ := Reader.reads_rules hrules d.rules_named
    (by simpa using d.length_rules) (r := { Reader.start .strict with stretch := .grammar none })
    rfl (by rw [Reader.start, hempty]; rfl) (by rw [Reader.start, hempty]; rfl)
  obtain ⟨column₁, terminals, hreads₂, hterminals'⟩ := Reader.reads_terminals hterminals
    d.terminals_nodup (fun t ht => ⟨(d.terminal_names t ht).1, (d.terminal_names t ht).2.1⟩)
    (r := { Reader.start .strict with stretch := .terminals none, rules := rules }) rfl rfl
  obtain ⟨column₂, nonterminals, hreads₃, hnonterminals'⟩ := Reader.reads_nonterminals
    hnonterminals d.nonterminals_nodup d.isName_nonterminal
    (r := { Reader.start .strict with
      stretch := .nonterminals none, rules := rules, symbols := ⟨terminals, .empty⟩ }) rfl rfl
  have hknows : ∀ stretch, Reader.Knows d { Reader.start .strict with
      stretch := stretch, rules := rules, symbols := ⟨terminals, nonterminals⟩ } :=
    fun _ => ⟨hterminals', hnonterminals'⟩
  obtain ⟨done, last, hlast, hreads₄⟩ :=
    Reader.reads_blocks (hknows (.nonterminals column₂)) rfl rfl hstates
  refine ⟨_, done, last, ?_, hknows (.states (d.builder done last)), hlist, rfl, rfl, hlast⟩
  exact .line (Reader.feed_grammarHeader rfl) (hreads₁.append
    (.line (Reader.feed_terminalsHeader rfl) (hreads₂.append
      (.line (Reader.feed_nonterminalsHeader rfl) (hreads₃.append hreads₄)))))

/-- A report on a description is read as what is described. -/
theorem read_reports {lines : List Text} (h : d.Reports lines) :
    ∃ a, Automaton.read .strict (Text.unlines lines) = .ok a ∧ d.IsOf a := by
  obtain ⟨r, done, last, hreads, hknows, hrules, hoddities, hstretch, hall⟩ :=
    d.reads_sections h.sections
  have hrun := hreads.of_filter.feedAll 1
  refine ⟨⟨r.symbols, r.rules, (d.builder done last).finish, r.oddities.reverse⟩, ?_, ?_⟩
  · rw [Automaton.read, d.lines_unlines_of_reports h, hrun]
    simp only [bind, Except.bind, Reader.finish, hstretch]
  · refine ⟨hknows.terminals, hknows.nonterminals, hrules, ?_, ?_⟩
    · rw [d.finish_builder done last, hall]
    · rw [hoddities]
      rfl

/-- **Every report on a description compiles to what is described**, with nothing odd about
it: the symbols and rules in order, and for each state its actions, its fallback and its
successors. -/
theorem compile_reports (d : Description) {lines : List Text} (h : d.Reports lines) :
    ∃ a, Automaton.compile .strict (Text.unlines lines) = .ok a ∧ d.IsOf a := by
  obtain ⟨a, hread, ha⟩ := d.read_reports h
  have hnone : a.violation? = none := Automaton.violation?_eq_none_iff.2 ha.consistent
  exact ⟨a, Automaton.compile_strict_iff.2 ⟨hread, hnone⟩, ha⟩

/-! ### A report with awkward names -/

/-- A grammar with symbols named like headers and remarks, and with quoted marks. -/
def awkward : Description where
  terminals := ["$end".toList, "state".toList, "\"a (b): |\"".toList, "' '".toList]
  nonterminals := ["$accept".toList, "Conflict".toList]
  rules := [("$accept".toList, ["Conflict".toList, "$end".toList]),
    ("Conflict".toList, ["state".toList, "\"a (b): |\"".toList]),
    ("Conflict".toList, ["' '".toList]), ("Conflict".toList, [])]
  states := [
    [.goto "Conflict".toList 1, .action "state".toList (.shift 2), .fallback (.reduce 3)],
    [.action "$end".toList .accept],
    [.action "' '".toList .error, .action "\"a (b): |\"".toList (.reduce 1)]]
  terminals_nodup := by decide +kernel
  nonterminals_nodup := by decide +kernel
  length_terminals := by decide
  length_nonterminals := by decide
  length_rules := by decide
  length_states := by decide
  states_ne_nil := List.cons_ne_nil _ _
  terminal_names := by decide +kernel
  nonterminal_names := by decide +kernel
  lefts := by decide +kernel
  rights := by decide +kernel
  slots_nodup := by decide +kernel
  resolves := by decide +kernel

def awkwardReport : List Text := List.map String.toList
  ["Grammar", "", "    0 $accept: Conflict $end", "", "    1 Conflict: state \"a (b): |\"",
    "    2     | ' '", "    3 | %empty", "", "Terminals, with rules where they appear", "",
    "    $end (0)", "    state (258)", "    \"a (b): |\" (259)", "    ' ' (32)", "",
    "Nonterminals, with rules where they appear", "", "    $accept (6)", "    Conflict (7)", "",
    "State 0", "", "    Conflict  go to state 1", "    state  shift, and go to state 2", "",
    "    $default  reduce using rule 3 (Conflict)", "", "State 1", "", "    $end  accept", "",
    "State 2", "", "    ' '  error (nonassociative)",
    "    \"a (b): |\"  reduce using rule 1 (Conflict)"]

theorem awkward_reports : awkward.Reports awkwardReport := by
  have hi : IsGap "    ".toList := by decide
  have hne : "    ".toList ≠ [] := by decide
  have hgap : IsGap " ".toList := by decide
  have hwide : IsGap "     ".toList := by decide
  have hentry : ∀ (e : Entry) (said : Text), Says said e.phrase.2 → '\n' ∉ said →
      e.IsWritten ("    ".toList ++ (e.phrase.1 ++ ("  ".toList ++ said))) :=
    fun e said hs hn => ⟨_, _, said, hi, hne, by decide, by decide, hs, hn, rfl⟩
  have hrules : RuleLines 0 none awkward.rules _ :=
    .cons (.named hi hne) (.cons (.named hi hne) (.cons
      (.further hi hne hwide (by decide) rfl) (.cons
        (.further hi hne hgap (by decide) rfl) .nil)))
  have hterminals : ListingLines awkward.terminals _ :=
    ⟨_, hi, .cons ⟨0, rfl⟩ (.cons ⟨258, rfl⟩ (.cons ⟨259, rfl⟩ (.cons ⟨32, rfl⟩ .nil)))⟩
  have hnonterminals : ListingLines awkward.nonterminals _ :=
    ⟨_, hi, .cons ⟨6, rfl⟩ (.cons ⟨7, rfl⟩ .nil)⟩
  have hstates : StateLines 0 awkward.states _ :=
    .block (.inr rfl) (.cons (hentry _ _ (.goto (by decide)) (by decide +kernel)) (.cons
      (hentry _ _ (.shift (by decide)) (by decide +kernel)) (.cons
      (hentry _ _ (.reduce "Conflict".toList (by decide)) (by decide +kernel)) .nil)))
    (.block (.inr rfl) (.cons (hentry _ _ .accept (by decide +kernel)) .nil)
    (.block (.inr rfl) (.cons (hentry _ _ .nonassociative (by decide +kernel)) (.cons
      (hentry _ _ (.reduce "Conflict".toList (by decide)) (by decide +kernel)) .nil)) .nil))
  refine ⟨by decide +kernel, ?_⟩
  refine (congrArg (Sections awkward) ?_).mpr (.mk hrules hterminals hnonterminals hstates)
  decide +kernel

theorem compile_reports_awkward : awkward.Reports awkwardReport ∧
    ∃ a, Automaton.compile .strict (Text.unlines awkwardReport) = .ok a ∧ awkward.IsOf a :=
  ⟨awkward_reports, compile_reports awkward awkward_reports⟩

end Description
end ParserTables
