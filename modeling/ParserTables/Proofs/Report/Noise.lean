import Mathlib.Logic.Relation
import ParserTables.Proofs.Report.Lines
import ParserTables.Proofs.Report.Place

/-! What a report may hold besides, and no reading of it takes notice.

Blank lines, whatever comes before the grammar, details under the names of a listing, and the items
and notes of a state are passed over, and so are, strictly, the actions the generator discarded
(`Report.Passed`). Such a line leaves a reader as it is, in the place where it stands
(`Reader.feed_of_passed`). So lines like these can be put into a report, and the blanks at the ends
of its lines changed, and it is compiled to the same, line numbers aside
(`Automaton.compile_of_edits`). -/
namespace ParserTables

/-! ### Lines that open a state -/

open Text in
/-- A line that opens a state is `state` or `State` and a number. -/
theorem Line.exists_of_header?_state {line : Text} {found : Nat}
    (h : header? line = some (.state found)) :
    ∃ c number, (c = 's' ∨ c = 'S') ∧ trimEnd line = c :: "tate".toList ++ ' ' :: number ∧
      number? number = some found := by
  unfold header? at h
  dsimp only at h
  split at h
  · exact absurd h nofun
  · split at h
    · exact absurd h nofun
    · split at h
      · exact absurd h nofun
      · obtain ⟨number, hmark, hnumber⟩ := Option.bind_eq_some_iff.1 h
        obtain ⟨n, hn, he⟩ := Option.map_eq_some_iff.1 hnumber
        obtain rfl := Header.state.inj he
        rcases Option.or_eq_some_iff.1 hmark with hmark | ⟨-, hmark⟩
        · exact ⟨'s', number, .inl rfl, (after?_eq_some_iff.1 hmark).trans (by simp), hn⟩
        · exact ⟨'S', number, .inr rfl, (after?_eq_some_iff.1 hmark).trans (by simp), hn⟩

open Text in
/-- A number says nothing about a symbol. -/
theorem Line.phrase?_digit {c : Char} (hc : c.isDigit = true) (rest : Text) :
    phrase? (unbracket (c :: rest)).1 = none := by
  have hne : ∀ m : Char, m.isDigit = false → m ≠ c := fun m hm he => by
    rw [he, hc] at hm
    exact absurd hm nofun
  have hun : unbracket (c :: rest) = (c :: rest, false) := by
    rw [unbracket]
    exact fun inner he => hne '[' rfl (List.cons.inj he).1.symm
  have hs := hne 's' rfl
  have hr := hne 'r' rfl
  have hg := hne 'g' rfl
  have ha := hne 'a' rfl
  have he := hne 'e' rfl
  simp [hun, phrase?, after?, hs, hr, hg, he, ha.symm, he.symm]

open Text in
/-- Inside a state, a line that opens one would say nothing. -/
theorem Line.state_of_header {line : Text} {found : Nat}
    (h : header? line = some (.state found)) : state line = .unrecognized := by
  obtain ⟨c, number, hc, htrimEnd, hnumber⟩ := exists_of_header?_state h
  have hblank : isBlank c = false := by rcases hc with rfl | rfl <;> rfl
  -- the line starts with a letter, and so it is trimmed at its end only
  have htrim : trim line = c :: "tate".toList ++ ' ' :: number := by
    obtain ⟨b, hb⟩ := trimEnd_isPrefix line
    rw [htrimEnd] at hb
    have hstart : trimStart line = line :=
      trimStart_eq_self fun d hd => by
        rw [← hb] at hd
        exact Option.some.inj hd ▸ hblank
    unfold trim
    rw [hstart, htrimEnd]
  have hnum : leadingNumber? (c :: "tate".toList ++ ' ' :: number) = none := by
    rcases hc with rfl | rfl <;> exact leadingNumber?_cons rfl _
  have hnote : after? "Conflict between ".toList (c :: "tate".toList ++ ' ' :: number) = none := by
    rcases hc with rfl | rfl <;> rfl
  have hfirst : Token.first (c :: "tate".toList ++ ' ' :: number) =
      (c :: "tate".toList, ' ' :: number) := by
    rcases hc with rfl | rfl
    · rfl
    · rfl
  have hrest : trim (' ' :: number) = trim number := by
    unfold trim
    exact congrArg trimEnd (Text.trimStart_append (b := [' ']) rfl number)
  unfold number? at hnumber
  dsimp only at hnumber
  split at hnumber
  · rename_i hdigits
    unfold state
    simp only [htrim, hnum, hnote, hfirst, hrest, Option.isSome_none, Bool.false_eq_true,
      if_false]
    cases hd : trim number with
    | nil => rfl
    | cons d more =>
      rw [hd] at hdigits
      have hphrase := phrase?_digit (List.all_eq_true.1 hdigits d (List.mem_cons_self ..)) more
      rw [hphrase]
      rfl
  · exact absurd hnumber nofun

/-! ### Lines that are passed over -/

namespace Report
open Reader

/-- An item of a state starts with a number, that of its rule. -/
def IsItem (line : Text) : Prop :=
  ∃ indent digits rest, line = indent ++ (digits ++ rest) ∧ Text.blank indent = true ∧
    digits ≠ [] ∧ (∀ c ∈ digits, c.isDigit = true) ∧
    Nat.ofDigitChars 10 digits 0 < Text.numberLimit ∧ rest.head?.all Text.isBlank = true

/-- A note on a conflict starts with these words. -/
def IsNote (line : Text) : Prop :=
  ∃ rest, Text.trim line = "Conflict between ".toList ++ rest

/-- An action that lost a conflict, on all other terminals or on one that is listed. -/
def IsDiscarded (before : List Text) (line : Text) : Prop :=
  ∃ token entry, Line.state line = .action token entry true ∧
    (token = Symbol.defaultName ∨ Lists before token)

/-- A line that says nothing new after the lines before it. -/
inductive Passed (s : Strictness) (before : List Text) (line : Text) : Prop where
  | blank : Text.blank line = true → Passed s before line
  | preamble : (place before).awaits = some .grammar → Line.header? line ≠ some .grammar →
      Passed s before line
  /-- Details of a name are indented deeper than the first name of its listing. -/
  | detail {c : Nat} :
      (place before).awaits = some .nonterminals ∨ (place before).awaits = some .state →
      column? (place before).since = some c → c < indentation line → Passed s before line
  | item : (place before).awaits = none → IsItem line → Passed s before line
  | note : (place before).awaits = none → IsNote line → Passed s before line
  /-- The actions that were discarded are passed over in strict reading only. -/
  | discarded : s = .strict → (place before).awaits = none → IsDiscarded before line →
      Passed s before line

theorem IsItem.state {line : Text} (h : IsItem line) : Line.state line = .item := by
  obtain ⟨indent, digits, rest, rfl, hindent, hne, hdigits, hvalue, hrest⟩ := h
  have htrim : Text.trim (indent ++ (digits ++ rest)) = digits ++ Text.trimEnd rest := by
    have hsolid : Text.Solid digits :=
      .of_forall hne fun c hc => Text.not_isBlank_of_isDigit (hdigits c hc)
    obtain ⟨front, c, rfl, hc⟩ := hsolid.last
    rw [Text.trim, Text.trimStart_append hindent, hsolid.trimStart_append, List.append_assoc,
      List.singleton_append, Text.trimEnd_append_cons front hc]
    simp
  have hend : (Text.trimEnd rest).head?.all Text.isBlank = true := by
    obtain ⟨b, hb⟩ := Text.trimEnd_isPrefix rest
    cases ht : Text.trimEnd rest with
    | nil => rfl
    | cons c more =>
      rw [← hb, ht] at hrest
      exact hrest
  have hsome : (Text.valueOf? digits).isSome = true := by
    have hempty : digits.isEmpty = false := by simpa using hne
    simp [Text.valueOf?, hempty, hvalue]
  have hnumber : (Text.leadingNumber? (digits ++ Text.trimEnd rest)).isSome = true := by
    rw [Text.leadingNumber?_digits hdigits hend, Option.isSome_map, hsome]
  simp only [Line.state, htrim, hnumber, if_true]

theorem IsNote.state {line : Text} (h : IsNote line) : Line.state line = .note := by
  obtain ⟨rest, htrim⟩ := h
  have hnumber : Text.leadingNumber? ("Conflict between ".toList ++ rest) = none :=
    Text.leadingNumber?_cons (c := 'C') rfl _
  have hnote := Text.after?_append "Conflict between ".toList rest
  simp only [Line.state, htrim, hnumber, hnote, Option.isSome_none, Option.isSome_some,
    Bool.false_eq_true, if_false, if_true]

end Report

namespace Reader
open Report

theorem withStretch_eq {r : Reader} {s : Stretch} (h : r.stretch = s) :
    { r with stretch := s } = r := by
  rw [← h]

/-- A line that is indented is no header. -/
theorem header?_of_indentation {line : Text} (h : 0 < indentation line) :
    Line.header? line = none := by
  cases line with
  | nil => exact absurd h (by decide)
  | cons c rest =>
    cases hc : Text.isBlank c with
    | true => exact header?_blank_cons hc rest
    | false => simp [indentation, hc] at h

theorem terminalLine_detail {r : Reader} {column : Nat} (hs : r.stretch = .terminals (some column))
    {line : Text} (h : column < indentation line) : r.terminalLine (some column) line = r := by
  rw [terminalLine, listedName?, if_pos (by simpa using h)]
  exact withStretch_eq hs

theorem nonterminalLine_detail {r : Reader} {column : Nat}
    (hs : r.stretch = .nonterminals (some column)) {line : Text} (h : column < indentation line) :
    r.nonterminalLine (some column) line = r := by
  rw [nonterminalLine, listedName?, if_pos (by simpa using h)]
  exact withStretch_eq hs

/-- What a line of a state tells the reader to do it does to a reader among the states. -/
theorem feed_states_state {r : Reader} {b : Builder} (hs : r.stretch = .states b) (n : Nat)
    {line : Text} (hblank : Text.blank line = false) (h : Line.state line ≠ .unrecognized) :
    r.feed n line = r.obey b n line (told r.symbols line) := by
  rw [feed_states n hblank hs]
  split
  · exact absurd (Line.state_of_header ‹_›) h
  · exact stateLine_eq ..

/-- A discarded action does nothing to a strict reader that knows its token. -/
theorem obey_discarded {r : Reader} {b : Builder} (hs : r.stretch = .states b)
    (hstrict : b.strictness = .strict) (n : Nat) {line token : Text} {entry : Action}
    (hstate : Line.state line = .action token entry true)
    (hknown : token = Symbol.defaultName ∨ token ∈ r.symbols.terminals.toList) :
    r.obey b n line (told r.symbols line) = (r, none) := by
  have hcall : ∀ c : Call, (∀ block : Block, block.call .strict c = (block, none)) →
      r.obey b n line (.call token c) = (r, none) := by
    intro c hc
    have hb : b.call c = (b, none) := by
      cases hblock : b.block with
      | none => exact Builder.call_of_none hblock c
      | some block => rw [Builder.call_eq hblock, hstrict, hc, ← hblock, ← hstrict]
    rw [obey, hb]
    exact Prod.ext (withStretch_eq hs) rfl
  rw [told, hstate]
  dsimp only
  split
  · exact hcall _ fun block => Block.call_strict_discarded_fallback entry
  · rename_i hne
    obtain ⟨position, hposition⟩ : ∃ p, r.symbols.terminals.position? token = some p := by
      rw [← Option.ne_none_iff_exists', Ne, Listing.position?_eq_none_iff]
      exact fun hnot => hnot (hknown.resolve_left hne)
    rw [show r.symbols.terminals.id? token = some (idOf position) by
      rw [Listing.id?, hposition, Option.map_some]]
    exact hcall _ fun block => Block.call_strict_discarded_action _ entry

/-- **A line that says nothing new** is passed over. -/
theorem feed_of_passed {s : Strictness} {before : List Text} {r : Reader}
    (h : StandsAt s before r) {line : Text} (hp : Passed s before line) (n : Nat) :
    r.feed n line = (r, none) := by
  cases hb : Text.blank line with
  | true => exact feed_blank r n hb
  | false =>
    cases hp with
    | blank hblank => exact absurd (hb.symm.trans hblank) nofun
    | preamble hplace hheader =>
      cases hs : r.stretch with
      | preamble =>
        rw [feed_preamble n hb hs]
        split
        · exact absurd ‹_› hheader
        · rfl
      | _ => exact absurd (h.awaits.trans hplace) (hs ▸ nofun)
    | detail hplace hcolumn hdeep =>
      have hheader := header?_of_indentation (Nat.zero_lt_of_lt hdeep)
      rcases hplace with hplace | hplace
      · cases hs : r.stretch with
        | terminals c =>
          obtain rfl := (h.column c (.inl hs)).trans hcolumn
          rw [feed_terminals n hb hs, hheader]
          exact congrArg accept (terminalLine_detail hs hdeep)
        | _ => exact absurd (h.awaits.trans hplace) (hs ▸ nofun)
      · cases hs : r.stretch with
        | nonterminals c =>
          obtain rfl := (h.column c (.inr hs)).trans hcolumn
          rw [feed_nonterminals n hb hs, hheader]
          exact congrArg accept (nonterminalLine_detail hs hdeep)
        | _ => exact absurd (h.awaits.trans hplace) (hs ▸ nofun)
    | item hplace hitem =>
      obtain ⟨b, hs⟩ := Stretch.awaits_eq_none_iff.1 (h.awaits.trans hplace)
      rw [feed_states_state hs n hb (by rw [hitem.state]; nofun)]
      unfold told
      rw [hitem.state]
      rfl
    | note hplace hnote =>
      obtain ⟨b, hs⟩ := Stretch.awaits_eq_none_iff.1 (h.awaits.trans hplace)
      rw [feed_states_state hs n hb (by rw [hnote.state]; nofun)]
      unfold told
      rw [hnote.state]
      rfl
    | discarded hstrict hplace hdiscarded =>
      obtain ⟨b, hs⟩ := Stretch.awaits_eq_none_iff.1 (h.awaits.trans hplace)
      obtain ⟨token, entry, hstate, hknown⟩ := hdiscarded
      rw [feed_states_state hs n hb (by rw [hstate]; nofun)]
      have hb := (h.literal b hs).trans (h.strictness.trans hstrict)
      exact obey_discarded hs hb n hstate (hknown.imp_right (h.terminals token))

end Reader

/-! ### Edits -/

namespace Report

/-- A change to the lines of a report that no reading takes notice of. -/
inductive Edit (s : Strictness) : List Text → List Text → Prop where
  /-- One more line that says nothing new. -/
  | insert {before after : List Text} {line : Text} : Passed s before line →
      Edit s (before ++ after) (before ++ line :: after)
  /-- Other blanks at the end of a line, the carriage return before its line feed among them. -/
  | ending {before after : List Text} {line blanks blanks' : Text} :
      Text.blank blanks = true → Text.blank blanks' = true →
      Edit s (before ++ (line ++ blanks) :: after) (before ++ (line ++ blanks') :: after)

/-- A line may be put in at any position. -/
theorem Edit.insertAt {s : Strictness} {lines : List Text} (position : Nat) (line : Text)
    (h : Passed s (lines.take position) line) :
    Edit s lines (lines.take position ++ line :: lines.drop position) := by
  have hedit := @Edit.insert s (lines.take position) (lines.drop position) line h
  rwa [List.take_append_drop] at hedit

end Report

namespace Reader
open Report

/-- A change to one line goes unnoticed if the reader comes out the same there. -/
theorem run_congr {r : Reader} {before a b : List Text}
    (h : ∀ r', r.run before = .ok r' → r'.run a = r'.run b) :
    r.run (before ++ a) = r.run (before ++ b) := by
  rw [run_append, run_append]
  cases hr : r.run before with
  | error e => rfl
  | ok r' => exact h r' hr

theorem run_edit {s : Strictness} {lines lines' : List Text} (h : Edit s lines lines') :
    (start s).run lines = (start s).run lines' := by
  cases h with
  | insert hp =>
    refine run_congr fun r hr => ?_
    rw [run_cons, feed_of_passed (standsAt_run hr) hp]
    rfl
  | ending hb hb' =>
    refine run_congr fun r _ => ?_
    rw [run_cons, run_cons, feed_append_blank r 0 _ hb, feed_append_blank r 0 _ hb']

end Reader

namespace Automaton
open Report

/-- **Reports that differ by noise** are compiled to the same, line numbers aside: to the same
automaton or to the same error. The lines of a text are cut at its line feeds here, so that a
carriage return before a line feed is one of the blanks at the end of a line. -/
theorem compile_of_edits {s : Strictness} {source source' : Text}
    (h : Relation.ReflTransGen (Edit s) (source.splitOn '\n') (source'.splitOn '\n')) :
    unplacedResult (compile s source) = unplacedResult (compile s source') := by
  have hrun : (Reader.start s).run (source.splitOn '\n') =
      (Reader.start s).run (source'.splitOn '\n') := by
    -- the report in between need not be the lines of any text
    generalize source.splitOn '\n' = lines at h ⊢
    generalize source'.splitOn '\n' = lines' at h ⊢
    induction h with
    | refl => rfl
    | tail _ hedit ih => exact ih.trans (Reader.run_edit hedit)
  rw [unplaced_compile, unplaced_compile, Reader.run_lines, Reader.run_lines, hrun]

/-- The report of a grammar with one rule. -/
def plainReport : Text := Text.unlines <| List.map String.toList
  ["Grammar", "    0 s: A", "Terminals, with rules where they appear", "A (258) 0",
    "Nonterminals, with rules where they appear", "s (3)", "state 0", "    $default  accept"]

/-- The same report with a remark before it, a listed use, an item and a discarded action, and with
a carriage return at the end of its first header. -/
def noisyReport : Text := Text.unlines <| List.map String.toList
  ["Terminals unused in grammar", "Grammar\r", "    0 s: A",
    "Terminals, with rules where they appear", "A (258) 0", "    on right: 0",
    "Nonterminals, with rules where they appear", "s (3)", "state 0", "", "    0 s: . A",
    "    A  [reduce using rule 0 (s)]", "    $default  accept"]

theorem compile_of_edits_noisyReport :
    unplacedResult (compile .strict plainReport) = unplacedResult (compile .strict noisyReport) ∧
      (compile .strict noisyReport).toOption.isSome = true := by
  refine ⟨compile_of_edits ?_, by decide +kernel⟩
  have hplain : plainReport.splitOn '\n' =
      [] ++ ("Grammar".toList ++ []) :: (plainReport.splitOn '\n').drop 1 := by decide +kernel
  have hlists : Lists ((plainReport.splitOn '\n').take 7) ['A'] :=
    ⟨by decide, (plainReport.splitOn '\n').take 3, "A (258) 0".toList,
      ((plainReport.splitOn '\n').take 7).drop 4, by decide +kernel, by decide +kernel,
      by decide +kernel, by decide +kernel, by decide +kernel⟩
  have hitem : IsItem "    0 s: . A".toList :=
    ⟨"    ".toList, ['0'], " s: . A".toList, by decide, by decide, by decide,
      List.all_eq_true.1 (by decide), by decide, by decide⟩
  -- the lines are put in from the last to the first
  refine .head (.insertAt 7 "    A  [reduce using rule 0 (s)]".toList
    (.discarded rfl (by decide +kernel) ⟨['A'], .reduce 0, by decide +kernel, .inr hlists⟩)) ?_
  rw [hplain]
  refine .head (.insertAt 7 "    0 s: . A".toList (.item (by decide +kernel) hitem)) ?_
  refine .head (.insertAt 7 [] (.blank rfl)) ?_
  refine .head (.insertAt 4 "    on right: 0".toList
    (.detail (c := 0) (.inl (by decide +kernel)) (by decide +kernel) (by decide))) ?_
  refine .head (@Edit.ending .strict [] _ "Grammar".toList [] ['\r'] rfl rfl) ?_
  refine .head (.insertAt 0 "Terminals unused in grammar".toList
    (.preamble rfl (by decide +kernel))) ?_
  exact of_eq (by decide +kernel)

end Automaton
end ParserTables
