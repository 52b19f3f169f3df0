import ParserTables.Proofs.Report.Strictness

/-! Reading lines whose numbers do not matter.

The number of a line is written into what is said about the line and has no other use. What a line
does to a reader is what it does as line 0 to one for which nothing is odd so far
(`Reader.feed_bare`), and so a report is read as its lines are one by one, numbers aside
(`Automaton.unplaced_compile`). `Reader.run` reads lines that way. Neither the blanks at the end of a
line nor the carriage return before its line feed make a difference (`Reader.feed_append_blank`). -/
namespace ParserTables

/-! ### Other line numbers -/

/-- What is odd, on another line. -/
def Diagnostic.onLine (n : Nat) (d : Diagnostic) : Diagnostic := { d with line := n }

/-- An error, on another line. -/
def ReadError.onLine (n : Nat) : ReadError → ReadError
  | .missingSection name => .missingSection name
  | .stateOutOfOrder _ expected found => .stateOutOfOrder n expected found
  | .duplicateRule _ rule => .duplicateRule n rule
  | .orphanAlternative _ => .orphanAlternative n
  | .unknownTerminal _ name => .unknownTerminal n name
  | .unknownNonterminal _ name => .unknownNonterminal n name
  | .conflictingActions _ state token => .conflictingActions n state token
  | .columnOutOfRange _ name => .columnOutOfRange n name

@[simp] theorem Diagnostic.onLine_onLine (n m : Nat) (d : Diagnostic) :
    (d.onLine m).onLine n = d.onLine n := rfl

@[simp] theorem ReadError.onLine_onLine (n m : Nat) (e : ReadError) :
    (e.onLine m).onLine n = e.onLine n := by
  cases e <;> rfl

namespace Reader

/-- The reader, were nothing odd so far. -/
def bare (r : Reader) : Reader := { r with oddities := [] }

/-- The outcome of a line, were it another line and some oddities older. -/
def relined (older : List Diagnostic) (n : Nat) (fed : Fed) : Fed :=
  ({ fed.1 with oddities := fed.1.oddities.map (·.onLine n) ++ older },
    fed.2.map (·.onLine n))

/-! ### One line -/

theorem addRule_bare (r : Reader) (n : Nat) (rule : Rule) :
    r.addRule n rule = relined r.oddities n (r.bare.addRule 0 rule) := by
  rw [addRule, addRule]
  dsimp only [bare]
  rcases r.rules.insert rule with ⟨rules, _ | refused⟩
  · dsimp only
    split <;> rfl
  · rfl

theorem grammarLine_bare (r : Reader) (left : Option Text) (n : Nat) (line : Text) :
    r.grammarLine left n line = relined r.oddities n (r.bare.grammarLine left 0 line) := by
  rw [grammarLine, grammarLine]
  cases Line.rule? line with
  | none => rfl
  | some parsed =>
    dsimp only
    cases parsed.left.or left with
    | none => rfl
    | some left => exact addRule_bare { r with stretch := .grammar (some left) } n _

theorem terminalLine_bare (r : Reader) (column : Option Nat) (n : Nat) (line : Text) :
    (r.terminalLine column line).accept =
      relined r.oddities n (r.bare.terminalLine column line).accept := by
  rw [terminalLine, terminalLine]
  cases listedName? column line with
  | none => rfl
  | some name =>
    dsimp only
    split <;> rfl

theorem nonterminalLine_bare (r : Reader) (column : Option Nat) (n : Nat) (line : Text) :
    (r.nonterminalLine column line).accept =
      relined r.oddities n (r.bare.nonterminalLine column line).accept := by
  rw [nonterminalLine, nonterminalLine]
  cases listedName? column line <;> rfl

theorem beginState_bare (r : Reader) (b : Builder) (n found : Nat) :
    r.beginState b n found = relined r.oddities n (r.bare.beginState b 0 found) := by
  rw [beginState, beginState]
  split <;> rfl

theorem stateLine_bare (r : Reader) (b : Builder) (n : Nat) (line : Text) :
    r.stateLine b n line = relined r.oddities n (r.bare.stateLine b 0 line) := by
  rw [stateLine_eq, stateLine_eq, show r.bare.symbols = r.symbols from rfl]
  cases told r.symbols line with
  | nothing => rfl
  | odd => rfl
  | unknownTerminal name => rfl
  | unknownNonterminal name => rfl
  | call name c =>
    show r.recorded n (b.nextState - 1) name (b.call c) =
      relined r.oddities n (r.bare.recorded 0 (b.nextState - 1) name (b.call c))
    rcases b.call c with ⟨b', _ | _ | _⟩ <;> rfl

/-- **The number of a line** is looked at only to note it down, and what was odd before is not
looked at. -/
theorem feed_bare (r : Reader) (n : Nat) (line : Text) :
    r.feed n line = relined r.oddities n (r.bare.feed 0 line) := by
  cases hb : Text.blank line with
  | true =>
    rw [feed_blank r n hb, feed_blank r.bare 0 hb]
    rfl
  | false =>
    cases hs : r.stretch with
    | preamble =>
      rw [feed_preamble n hb hs, feed_preamble (r := r.bare) 0 hb hs]
      split <;> rfl
    | grammar left =>
      rw [feed_grammar n hb hs, feed_grammar (r := r.bare) 0 hb hs]
      split
      · rfl
      · exact grammarLine_bare r left n line
    | terminals column =>
      rw [feed_terminals n hb hs, feed_terminals (r := r.bare) 0 hb hs]
      split
      · rfl
      · exact terminalLine_bare r column n line
    | nonterminals column =>
      rw [feed_nonterminals n hb hs, feed_nonterminals (r := r.bare) 0 hb hs]
      split
      · exact beginState_bare r _ n _
      · exact nonterminalLine_bare r column n line
    | states b =>
      rw [feed_states n hb hs, feed_states (r := r.bare) 0 hb hs]
      split
      · exact beginState_bare r b n _
      · exact stateLine_bare r b n line

/-- What was odd stays noted. -/
theorem oddities_feed (r : Reader) (n : Nat) (line : Text) :
    r.oddities ⊆ (r.feed n line).1.oddities := by
  rw [feed_bare]
  exact List.subset_append_right ..

/-- The reader with all line numbers left out. -/
def unplaced (r : Reader) : Reader := { r with oddities := r.oddities.map (·.onLine 0) }

theorem feed_unplaced (r : Reader) (n : Nat) (line : Text) :
    r.unplaced.feed 0 line =
      ((r.feed n line).1.unplaced, (r.feed n line).2.map (·.onLine 0)) := by
  rw [feed_bare r, feed_bare r.unplaced, show r.unplaced.bare = r.bare from rfl]
  simp [relined, unplaced, Function.comp_def]

/-! ### Many lines -/

/-- Read lines up to the first that is rejected, with no regard to their numbers. -/
def run (r : Reader) (lines : List Text) : Except ReadError Reader :=
  lines.foldlM (fun r line => outcome (r.feed 0 line)) r

theorem run_cons (r : Reader) (line : Text) (rest : List Text) :
    r.run (line :: rest) = outcome (r.feed 0 line) >>= fun r => r.run rest :=
  List.foldlM_cons

theorem run_cons_ok {r r' : Reader} {line : Text} {rest : List Text}
    (h : r.run (line :: rest) = .ok r') :
    (r.feed 0 line).2 = none ∧ (r.feed 0 line).1.run rest = .ok r' := by
  rw [run_cons] at h
  generalize r.feed 0 line = fed at h ⊢
  match fed, h with
  | (_, none), h => exact ⟨rfl, h⟩

theorem run_append (r : Reader) (a b : List Text) :
    r.run (a ++ b) = r.run a >>= fun r => r.run b :=
  List.foldlM_append

theorem run_append_ok {r r' : Reader} {a b : List Text} (h : r.run (a ++ b) = .ok r') :
    ∃ r₁, r.run a = .ok r₁ ∧ r₁.run b = .ok r' := by
  rw [run_append] at h
  cases ha : r.run a with
  | error e => exact absurd (ha ▸ h) nofun
  | ok r₁ => exact ⟨r₁, rfl, by rwa [ha] at h⟩

/-- Lines are read the same with their numbers and without, numbers aside. -/
theorem run_unplaced (r : Reader) (n : Nat) (lines : List Text) :
    r.unplaced.run lines = ((r.feedAll n lines).map unplaced).mapError (·.onLine 0) := by
  induction lines generalizing r n with
  | nil => rfl
  | cons line rest ih =>
    rw [run_cons, feed_unplaced r n line, feedAll_cons]
    rcases r.feed n line with ⟨r', _ | e⟩
    · exact ih r' (n + 1)
    · rfl

end Reader

/-! ### Blanks at the end of a line -/

namespace Text

theorem trimEnd_append_blank (t : Text) {b : Text} (hb : blank b = true) :
    trimEnd (t ++ b) = trimEnd t := by
  have hrev : ∀ c ∈ b.reverse, isBlank c = true := fun c hc =>
    List.all_eq_true.1 hb c (List.mem_reverse.1 hc)
  rw [trimEnd, List.reverse_append, List.dropWhile_append_of_pos hrev, trimEnd]

theorem trim_append_blank (t : Text) {b : Text} (hb : blank b = true) :
    trim (t ++ b) = trim t := by
  cases ht : blank t with
  | true => rw [trim_blank ht, trim_blank (by rw [blank_append, ht, hb]; rfl)]
  | false =>
    have hstart : trimStart (t ++ b) = trimStart t ++ b := by
      have hne : (t.dropWhile isBlank).isEmpty = false := by
        rw [Bool.eq_false_iff]
        intro hnil
        rw [List.isEmpty_iff, List.dropWhile_eq_nil_iff] at hnil
        exact absurd (List.all_eq_true.2 hnil) (by rw [show t.all isBlank = false from ht]; nofun)
      rw [trimStart, List.dropWhile_append, hne]
      rfl
    rw [trim, hstart, trimEnd_append_blank _ hb, trim]

end Text

namespace Line
variable {line b : Text} (hb : Text.blank b = true)
include hb

theorem header?_append_blank : header? (line ++ b) = header? line := by
  rw [header?, Text.trimEnd_append_blank line hb, header?]

theorem rule?_append_blank : rule? (line ++ b) = rule? line := by
  rw [rule?, Text.trim_append_blank line hb, rule?]

theorem symbolName_append_blank : symbolName (line ++ b) = symbolName line := by
  rw [symbolName, Text.trim_append_blank line hb, symbolName]

theorem state_append_blank : state (line ++ b) = state line := by
  rw [state, Text.trim_append_blank line hb, state]

end Line

namespace Reader

theorem indentation_append_blank {line b : Text} (hline : Text.blank line = false) :
    indentation (line ++ b) = indentation line := by
  have hlt : (line.takeWhile Text.isBlank).length ≠ line.length := fun heq => by
    have hall := List.takeWhile_eq_self_iff.1
      ((List.takeWhile_prefix Text.isBlank).eq_of_length heq)
    exact absurd (List.all_eq_true.2 hall)
      (by rw [show line.all Text.isBlank = false from hline]; nofun)
  rw [indentation, List.takeWhile_append, if_neg hlt, indentation]

/-- **Blanks at the end of a line** are not looked at. -/
theorem feed_append_blank (r : Reader) (n : Nat) (line : Text) {b : Text}
    (hb : Text.blank b = true) : r.feed n (line ++ b) = r.feed n line := by
  cases hline : Text.blank line with
  | true =>
    have hblank : Text.blank (line ++ b) = true := by rw [Text.blank_append, hline, hb]; rfl
    rw [feed_blank r n hblank, feed_blank r n hline]
  | false =>
    have hblank : Text.blank (line ++ b) = false := by rw [Text.blank_append, hline]; rfl
    have hindent := indentation_append_blank (b := b) hline
    cases hs : r.stretch with
    | preamble =>
      rw [feed_preamble n hblank hs, feed_preamble n hline hs, Line.header?_append_blank hb]
    | grammar left =>
      rw [feed_grammar n hblank hs, feed_grammar n hline hs, Line.header?_append_blank hb,
        grammarLine, Line.rule?_append_blank hb, Text.trim_append_blank line hb, ← grammarLine]
    | terminals column =>
      rw [feed_terminals n hblank hs, feed_terminals n hline hs, Line.header?_append_blank hb,
        terminalLine, listedName?, columnAfter, hindent, Line.symbolName_append_blank hb,
        ← columnAfter, ← listedName?, ← terminalLine]
    | nonterminals column =>
      rw [feed_nonterminals n hblank hs, feed_nonterminals n hline hs,
        Line.header?_append_blank hb, nonterminalLine, listedName?, columnAfter, hindent,
        Line.symbolName_append_blank hb, ← columnAfter, ← listedName?, ← nonterminalLine]
    | states b' =>
      rw [feed_states n hblank hs, feed_states n hline hs, Line.header?_append_blank hb,
        stateLine, Line.state_append_blank hb, Text.trim_append_blank line hb, ← stateLine]

/-- Nor is the carriage return before a line feed. -/
theorem feed_dropReturn (r : Reader) (n : Nat) (current : Text) :
    r.feed n (Text.dropReturn current).reverse = r.feed n current.reverse := by
  unfold Text.dropReturn
  split
  · rw [List.reverse_cons]
    exact (feed_append_blank r n _ (b := ['\r']) rfl).symm
  · rfl

/-! ### The lines of a text -/

/-- A reader takes a text cut at its line feeds as it takes the lines of the text: what is cut off
them, and the empty line after the last line feed, is blank. -/
theorem run_linesFrom (r : Reader) (current rest : Text) :
    r.run (Text.linesFrom current rest) =
      r.run (List.splitOnPPrepend (· == '\n') rest current) := by
  induction rest generalizing r current with
  | nil =>
    rw [Text.linesFrom, List.splitOnPPrepend_nil]
    split
    · rename_i hempty
      rw [List.isEmpty_iff.1 hempty, run_cons, List.reverse_nil, feed_blank r 0 rfl]
      rfl
    · rfl
  | cons c rest ih =>
    rw [Text.linesFrom, List.splitOnPPrepend_cons_eq_if]
    by_cases hc : c = '\n'
    · rw [if_pos hc, if_pos (beq_iff_eq.2 hc), run_cons, run_cons, feed_dropReturn]
      exact congrArg _ (funext fun r => ih r [])
    · rw [if_neg hc, if_neg (by simpa using hc)]
      exact ih r (c :: current)

/-- The lines of a text may be cut at its line feeds. -/
theorem run_lines (r : Reader) (source : Text) :
    r.run (Text.lines source) = r.run (source.splitOn '\n') :=
  run_linesFrom r [] source

end Reader

/-! ### Whole reports -/

namespace Automaton

/-- The automaton with all line numbers left out. -/
def unplaced (a : Automaton) : Automaton :=
  { a with diagnostics := a.diagnostics.map (·.onLine 0) }

end Automaton

/-- The error with its line number left out. -/
def CompileError.unplaced : CompileError → CompileError
  | .malformed cause => .malformed (cause.onLine 0)
  | .inconsistent cause => .inconsistent cause

/-- What compiling a report comes to, with all line numbers left out. -/
def unplacedResult (result : Except CompileError Automaton) : Except CompileError Automaton :=
  (result.map Automaton.unplaced).mapError CompileError.unplaced

namespace Automaton

/-- What comes of what was read: an automaton has its references checked, unless the report is
taken at face value. -/
def checked (s : Strictness) : Except ReadError Automaton → Except CompileError Automaton
  | .error e => .error (.malformed e)
  | .ok a =>
    match s, a.violation? with
    | .strict, some e => .error (.inconsistent e)
    | _, _ => .ok a

theorem compile_eq (s : Strictness) (source : Text) :
    compile s source = checked s (read s source) := rfl

theorem checked_strict (a : Automaton) : checked .strict (.ok a) =
    match a.violation? with
    | some e => .error (.inconsistent e)
    | none => .ok a := by
  cases hv : a.violation? <;> simp [checked, hv]

theorem unplacedResult_checked (s : Strictness) (result : Except ReadError Automaton) :
    unplacedResult (checked s result) =
      checked s ((result.map unplaced).mapError (·.onLine 0)) := by
  cases result with
  | error e => rfl
  | ok a =>
    -- the check does not look at what was odd
    have hsame : a.unplaced.violation? = a.violation? := rfl
    cases s with
    | legacy => rfl
    | strict =>
      show unplacedResult (checked .strict (.ok a)) = checked .strict (.ok a.unplaced)
      rw [checked_strict, checked_strict, hsame]
      cases a.violation? <;> rfl

theorem unplaced_finish (r : Reader) :
    (r.finish.map unplaced).mapError (·.onLine 0) = r.unplaced.finish := by
  rw [Reader.finish, Reader.finish, show r.unplaced.stretch = r.stretch from rfl]
  cases r.stretch with
  | states b =>
    show Except.ok _ = Except.ok _
    rw [unplaced, Reader.unplaced, List.map_reverse]
  | _ => rfl

/-- **Line numbers aside**, a report is read as its lines are, one by one. -/
theorem unplaced_compile (s : Strictness) (source : Text) :
    unplacedResult (compile s source) =
      checked s ((Reader.start s).run (Text.lines source) >>= Reader.finish) := by
  have hrun := (Reader.start s).run_unplaced 1 (Text.lines source)
  rw [show (Reader.start s).unplaced = Reader.start s from rfl] at hrun
  rw [compile_eq, unplacedResult_checked, read_eq, hrun]
  cases (Reader.start s).feedAll 1 (Text.lines source) with
  | error e => rfl
  | ok r => exact congrArg _ (unplaced_finish r)

/-- **A report is accepted** if its lines can be read, one by one, and what is read is consistent. -/
theorem exists_compile_strict_iff {source : Text} {a : Automaton} :
    (∃ a', compile .strict source = .ok a' ∧ a'.unplaced = a) ↔
      ∃ r, (Reader.start .strict).run (Text.lines source) = .ok r ∧ r.finish = .ok a ∧
        a.violation? = none := by
  have hunplaced := unplaced_compile .strict source
  have hleft : (∃ a', compile .strict source = .ok a' ∧ a'.unplaced = a) ↔
      unplacedResult (compile .strict source) = .ok a := by
    cases compile .strict source with
    | error e => simp [unplacedResult, Except.map, Except.mapError]
    | ok a' => simp [unplacedResult, Except.map, Except.mapError]
  rw [hleft, hunplaced]
  cases (Reader.start .strict).run (Text.lines source) with
  | error e => simp [bind, Except.bind, checked]
  | ok r =>
    have hread : (∃ r', (.ok r : Except ReadError Reader) = .ok r' ∧ r'.finish = .ok a ∧
        a.violation? = none) ↔ r.finish = .ok a ∧ a.violation? = none := by simp
    rw [hread]
    show checked .strict r.finish = .ok a ↔ _
    cases r.finish with
    | error e => simp [checked]
    | ok a' =>
      rw [checked_strict]
      constructor
      · intro h
        split at h
        · exact absurd h nofun
        · obtain rfl := Except.ok.inj h
          exact ⟨rfl, ‹_›⟩
      · rintro ⟨h, hv⟩
        obtain rfl := Except.ok.inj h
        rw [hv]

end Automaton
end ParserTables
