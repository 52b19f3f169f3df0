import ParserTables.Proofs.Report.Blocks
import ParserTables.Proofs.Table.Consistency

/-! What strict reading checks of a state.

The actions by terminal and the gotos of a row are checked. The fallback stands beside them, and is
checked where a terminal takes it: if each terminal has an entry of its own, the fallback is never
looked at (`Row.resolves_ofCalls_iff`). `Automaton.compile_strict_iff_checks` says this of whole
reports, by what their blocks list, and `idleFallbacks_accepted` shows two fallbacks that lead
nowhere. -/
namespace ParserTables

/-! ### Rows made by calls -/

namespace Row
variable {s : Strictness} {terminals nonterminals states : Nat} {calls : List Call}
  {declared : Nat → Bool}

/-- The entry among some calls that counts for a terminal. -/
def own? (s : Strictness) (calls : List Call) (terminal : Nat) : Option Action :=
  s.kept? (calls.filterMap (Call.onTerminal? terminal))

/-- A terminal without an entry of its own takes the fallback. -/
theorem getElem?_ofCalls {t : Nat} (ht : t < terminals) :
    (ofCalls s terminals nonterminals calls).actions[t]? = some
      (((own? s calls t).or (ofCalls s terminals nonterminals calls).fallback).getD .error) := by
  simp [ofCalls, own?, ht]

/-- **The fallback is checked** with the terminals that take it, and not by itself. -/
theorem resolves_ofCalls_iff :
    (ofCalls s terminals nonterminals calls).Resolves declared states ↔
      (∀ t action, own? s calls t ≠ none →
        (ofCalls s terminals nonterminals calls).actions[t]? = some action →
        action.Resolves declared states) ∧
      (∀ target, some target ∈ (ofCalls s terminals nonterminals calls).gotos → target < states) ∧
      ∀ action, (ofCalls s terminals nonterminals calls).fallback = some action →
        (∀ t < terminals, own? s calls t ≠ none) ∨ action.Resolves declared states := by
  constructor
  · intro h
    refine ⟨fun t action _ haction => h.actions action (Array.mem_of_getElem? haction), h.gotos,
      fun action hfallback => Decidable.or_iff_not_imp_left.2 fun hleft => ?_⟩
    obtain ⟨t, ht, hnone⟩ : ∃ t < terminals, own? s calls t = none := by simpa using hleft
    have haction : (ofCalls s terminals nonterminals calls).actions[t]? = some action := by
      rw [getElem?_ofCalls ht, hnone, hfallback]
      rfl
    exact h.actions action (Array.mem_of_getElem? haction)
  · rintro ⟨hown, hgotos, hfallback⟩
    refine ⟨fun action hmem => ?_, hgotos⟩
    obtain ⟨t, haction⟩ := Array.mem_iff_getElem?.1 hmem
    cases ht : own? s calls t with
    | some entry => exact hown t action (by rw [ht]; nofun) haction
    | none =>
      have hlt : t < terminals := by
        have hsize := (Array.getElem?_eq_some_iff.1 haction).1
        simpa [ofCalls] using hsize
      rw [getElem?_ofCalls hlt, ht, Option.none_or] at haction
      obtain rfl := Option.some.inj haction
      cases hrest : (ofCalls s terminals nonterminals calls).fallback with
      | none => trivial
      | some entry => exact (hfallback entry hrest).resolve_left fun hall => hall t hlt ht

end Row

/-! ### Entries of a block -/

namespace Report

/-- The block has an entry for the terminal that was not discarded. -/
def HasEntry (symbols : SymbolTable) (block : List Text) (terminal : Nat) : Prop :=
  ∃ line ∈ block, ∃ token entry, token ≠ Symbol.defaultName ∧
    symbols.terminals.id? token = some terminal ∧ Line.state line = .action token entry false

theorem told_action_iff {symbols : SymbolTable} {line token : Text} {terminal : Nat}
    {entry : Action} {discarded : Bool} :
    Reader.told symbols line = .call token (.action terminal entry discarded) ↔
      token ≠ Symbol.defaultName ∧ symbols.terminals.id? token = some terminal ∧
        Line.state line = .action token entry discarded := by
  constructor
  · intro h
    have hsaid := Reader.state_of_told h
    refine ⟨fun hdefault => ?_, hsaid.2, hsaid.1⟩
    rw [Reader.told, hsaid.1] at h
    dsimp only at h
    rw [if_pos hdefault] at h
    exact absurd h (by simp)
  · rintro ⟨hne, hid, hstate⟩
    rw [Reader.told, hstate]
    dsimp only
    rw [if_neg hne, hid]

/-- A terminal has an entry of its own in a strict row just if the block has one for it. -/
theorem own?_calls_iff {symbols : SymbolTable} {block : List Text} {terminal : Nat} :
    Row.own? .strict (calls symbols block) terminal ≠ none ↔ HasEntry symbols block terminal := by
  simp only [Row.own?, Strictness.kept?_strict_ne_none_iff, List.mem_filterMap,
    Call.onTerminal?_eq_counted, mem_calls_iff, HasEntry, ← told_action_iff]
  constructor
  · rintro ⟨entry, c, ⟨line, hline, token, htold⟩, rfl⟩
    exact ⟨line, hline, token, entry, htold⟩
  · rintro ⟨line, hline, token, entry, htold⟩
    exact ⟨entry, _, ⟨line, hline, token, htold⟩, rfl⟩

end Report

/-! ### Reports -/

namespace Automaton
open Report

/-- What is checked of a row, in terms of the block it was read from: the action of each terminal
that the block has an entry for, each goto, and the fallback unless the block has an entry for every
terminal. -/
structure Checks (a : Automaton) (block : List Text) (row : Row) : Prop where
  actions : ∀ t action, HasEntry a.symbols block t → row.actions[t]? = some action →
    action.Resolves a.rules.contains a.table.size
  gotos : ∀ target, some target ∈ row.gotos → target < a.table.size
  fallback : ∀ action, row.fallback = some action →
    (∀ t < a.symbols.terminals.size, HasEntry a.symbols block t) ∨
      action.Resolves a.rules.contains a.table.size

theorem resolves_iff_checks {a : Automaton} {block : List Text} {row : Row}
    (hrow : row = Row.ofCalls .strict a.symbols.terminals.size a.symbols.nonterminals.size
      (calls a.symbols block)) :
    row.Resolves a.rules.contains a.table.size ↔ a.Checks block row := by
  subst hrow
  rw [Row.resolves_ofCalls_iff]
  simp only [own?_calls_iff]
  exact ⟨fun ⟨hactions, hgotos, hfallback⟩ => ⟨hactions, hgotos, hfallback⟩,
    fun h => ⟨h.actions, h.gotos, h.fallback⟩⟩

/-- **A report is accepted** strictly just if it can be read, its rules produce listed nonterminals,
and of each row is there what is checked of it. No fallback is checked that no terminal takes. -/
theorem compile_strict_iff_checks {source : Text} {a : Automaton} :
    compile .strict source = .ok a ↔
      read .strict source = .ok a ∧
      (∀ r ∈ a.rules.toList, r.left ∈ a.symbols.nonterminals.toList) ∧
      ∀ (state : Nat) (row : Row), a.table.rows[state]? = some row →
        ∃ block, (blocks (Text.lines source))[state]? = some block ∧ a.Checks block row := by
  rw [compile_strict_iff, violation?_eq_none_iff]
  refine and_congr_right fun hread => ?_
  have hrows := rows_of_read hread
  have hblock : ∀ {state : Nat} {row : Row}, a.table.rows[state]? = some row →
      ∃ block, (blocks (Text.lines source))[state]? = some block ∧
        row = Row.ofCalls .strict a.symbols.terminals.size a.symbols.nonterminals.size
          (calls a.symbols block) := by
    intro state row hrow
    rw [hrows, List.getElem?_toArray, List.getElem?_map] at hrow
    obtain ⟨block, hblock, rfl⟩ := Option.map_eq_some_iff.1 hrow
    exact ⟨block, hblock, rfl⟩
  constructor
  · rintro ⟨hlefts, hresolves⟩
    refine ⟨hlefts, fun state row hrow => ?_⟩
    obtain ⟨block, hat, hmade⟩ := hblock hrow
    exact ⟨block, hat, (resolves_iff_checks hmade).1 (hresolves row (Array.mem_of_getElem? hrow))⟩
  · rintro ⟨hlefts, hchecks⟩
    refine ⟨hlefts, fun row hmem => ?_⟩
    obtain ⟨state, hrow⟩ := Array.mem_iff_getElem?.1 hmem
    obtain ⟨block, hat, hmade⟩ := hblock hrow
    obtain ⟨block', hat', hchecked⟩ := hchecks state row hrow
    obtain rfl := Option.some.inj (hat.symm.trans hat')
    exact (resolves_iff_checks hmade).2 hchecked

end Automaton

/-- A report with an entry for its one terminal in each of its two states, and fallbacks that lead
to a state and a rule that are not there. -/
def idleFallbacksReport : Text := Text.unlines <| List.map String.toList
  ["Grammar", "    0 s: A", "Terminals, with rules where they appear", "A (258) 0",
    "Nonterminals, with rules where they appear", "s (3)",
    "state 0", "    A  shift, and go to state 1", "    $default  shift, and go to state 7",
    "state 1", "    A  accept", "    $default  reduce using rule 9 (s)"]

/-- Strict reading accepts it. -/
theorem idleFallbacks_accepted : ∃ a row row',
    Automaton.compile .strict idleFallbacksReport = .ok a ∧ a.table.size = 2 ∧
    a.table.rows[0]? = some row ∧ row.fallback = some (.shift 7) ∧
    a.table.rows[1]? = some row' ∧ row'.fallback = some (.reduce 9) ∧
    a.rules.contains 9 = false := by
  obtain ⟨a, ha, hcheck⟩ := exists_ok_of_any (x := Automaton.compile .strict idleFallbacksReport)
    (p := fun a => a.table.size = 2 &&
      (a.table.rows[0]?.any fun row => row.fallback = some (.shift 7)) &&
      (a.table.rows[1]?.any fun row => row.fallback = some (.reduce 9)) && !a.rules.contains 9)
    (by decide +kernel)
  simp only [Bool.and_eq_true, Option.any_eq_true, decide_eq_true_eq, Bool.not_eq_true'] at hcheck
  obtain ⟨⟨⟨hsize, row, hrow, hshift⟩, row', hrow', hreduce⟩, hrule⟩ := hcheck
  exact ⟨a, row, row', ha, hsize, hrow, hshift, hrow', hreduce, hrule⟩

end ParserTables
