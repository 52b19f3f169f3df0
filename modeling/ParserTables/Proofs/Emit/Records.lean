import Mathlib.Data.List.Nodup
import ParserTables.Emit.Target
import ParserTables.Proofs.Emit.Declared
import ParserTables.Proofs.Report.Numbered

/-! The records of the rules in the emitted sources.

An emitted source holds a record and a descriptor for each rule, in the order of the rules
(`Target.lists_text`), and the arity and the left side of a rule can be read off its record
(`Target.shown?_record`). The tables refer to a record by its position. In a report that numbers
its rules from zero that is the number of its rule, and so every reduction of an accepted report
finds the record of the rule it names (`Automaton.rules_positional`). The fallback action of a state
is not checked where no terminal takes it (`undeclared_fallback_accepted`). -/
namespace ParserTables

/-! ### Identifiers -/

namespace Identifier
open Text

theorem exists_digitChar_of_mem_ofNatHex {n : Nat} {c : Char} (h : c ∈ ofNatHex n) :
    ∃ d < 16, c = Nat.digitChar d := by
  induction n using Nat.strongRecOn with
  | ind n ih =>
    rw [ofNatHex, Nat.toDigits_eq_if (by omega)] at h
    split at h
    · exact ⟨n, ‹_›, List.mem_singleton.1 h⟩
    · rcases List.mem_append.1 h with h | h
      · exact ih (n / 16) (by omega) h
      · exact ⟨n % 16, Nat.mod_lt _ (by omega), List.mem_singleton.1 h⟩

variable [IdentifierPart]

theorem continues_code (c : Char) : ∀ d ∈ code c, continuesIdentifier d = true := by
  have hdigit : ∀ d < 16, isWordPart (Nat.digitChar d).toUpper = true := by decide
  intro d hd
  rcases List.mem_append.1 hd with hd | hd
  · rw [List.eq_of_mem_replicate hd]
    exact continues_of_isWordPart rfl
  · obtain ⟨e, he, rfl⟩ := List.mem_map.1 hd
    obtain ⟨n, hn, rfl⟩ := exists_digitChar_of_mem_ofNatHex he
    exact continues_of_isWordPart (hdigit n hn)

theorem continues_part (c : Char) : continuesIdentifier (part c) = true := by
  unfold part
  split
  · exact continues_of_isWordPart rfl
  · split
    · exact continues_of_isWordPart rfl
    · split
      · assumption
      · exact continues_of_isWordPart rfl

theorem continues_mangle (name : Text) : ∀ c ∈ mangle name, continuesIdentifier c = true := by
  fun_cases mangle name with
  | case1 c =>
    intro d hd
    rcases List.mem_append.1 hd with hd | hd
    · have hall : "LIT_".toList.all isWordPart = true := by decide
      exact continues_of_isWordPart (List.all_eq_true.1 hall d hd)
    · exact continues_code c d hd
  | case2 name hname =>
    intro d hd
    obtain ⟨c, -, rfl⟩ := List.mem_map.1 hd
    exact continues_part c

/-- An identifier is made of characters that may stand inside one. -/
theorem continues_append_mangle {mark : Text} (h : mark.all isWordPart = true)
    (name : Text) : ∀ c ∈ mark ++ mangle name, continuesIdentifier c = true := by
  intro c hc
  rcases List.mem_append.1 hc with hc | hc
  · exact continues_of_isWordPart (List.all_eq_true.1 h c hc)
  · exact continues_mangle name c hc

theorem continues_ofTerminal (name : Text) :
    ∀ c ∈ ofTerminal name, continuesIdentifier c = true :=
  continues_append_mangle (by decide) name

theorem continues_ofNonterminal (name : Text) :
    ∀ c ∈ ofNonterminal name, continuesIdentifier c = true :=
  continues_append_mangle (by decide) name

end Identifier

/-! ### Plans -/

namespace Plan
open Identifier

variable [Text.IdentifierPart] {a : Automaton} {p : Plan} (h : ofAutomaton a = .ok p)
include h

/-- Listed nonterminals are told apart by their identifiers. -/
theorem eq_of_ofNonterminal {x y : Text} (hx : x ∈ a.symbols.nonterminals.toList)
    (hy : y ∈ a.symbols.nonterminals.toList) (hxy : ofNonterminal x = ofNonterminal y) : x = y := by
  obtain ⟨-, -, -, hnonterminals, -, -⟩ := exists_of_ofAutomaton h
  exact List.inj_on_of_nodup_map (identifiers_eq_ok_iff.1 hnonterminals).1 hx hy hxy

theorem arity_le {r : Rule} (hr : r ∈ a.rules.toList) : r.arity ≤ largestArity := by
  obtain ⟨-, harity, -⟩ := exists_of_ofAutomaton h
  have hnone := List.findSome?_eq_none_iff.1 harity r hr
  unfold arityOverflow? at hnone
  split at hnone
  · assumption
  · exact absurd hnone nofun

end Plan

/-! ### Records -/

namespace Target

variable [Text.IdentifierPart]

/-- The lines of the record of a rule. -/
def record : Target → Plan → Rule → List Text
  | .cpp, p, r => [Cpp.record (Cpp.field p) r]
  | .rust, _, r => Rust.record r

def descriptor : Target → Rule → Text
  | .cpp => Cpp.descriptor
  | .rust => Rust.descriptor

/-- What stands in front of the records. -/
def opensRecords : Target → Nat → List Text
  | .cpp, _ => ["\x7d BisonGrammar[] =".toList, "\x7b".toList]
  | .rust, count => ["pub static GRAMMAR: [BisonReduce; ".toList ++ Text.ofNat count ++
      "] = [".toList]

/-- What stands between the records and the descriptors. -/
def opensDescriptors : Target → Nat → List Text
  | .cpp, _ => ["\x7d;".toList, "#ifdef BISON_RULE_PATTERNS".toList]
  | .rust, count => ["];".toList, [], "pub static RULE_PATTERNS: [&str; ".toList ++
      Text.ofNat count ++ "] = [".toList]

def closesDescriptors : Target → List Text
  | .cpp => ["#endif".toList]
  | .rust => ["];".toList]

/-- A source ends in these records and descriptors. -/
def Lists (t : Target) (source : Text) (records : List (List Text)) (descriptors : List Text) :
    Prop :=
  ∃ front, source = Text.unlines (front ++ t.opensRecords records.length ++ records.flatten ++
    t.opensDescriptors descriptors.length ++ descriptors ++ t.closesDescriptors)

/-- **An emitted source** holds a record and a descriptor for each rule, in the order of the
rules. -/
theorem lists_text (t : Target) (p : Plan) :
    t.Lists (t.text p) (p.rules.map (t.record p)) (p.rules.map t.descriptor) := by
  -- the lines that open the records are the last ones of a longer block
  have hcut : ∀ (n : Nat) (front block : List Text),
      front ++ block = front ++ block.take n ++ block.drop n := fun n front block => by
    rw [List.append_assoc, List.take_append_drop]
  unfold Lists
  rw [List.length_map, List.length_map, ← List.flatMap_def]
  cases t with
  | cpp =>
    have hrecords : p.rules.flatMap (record .cpp p) = p.rules.map (Cpp.record (Cpp.field p)) :=
      List.map_eq_flatMap.symm
    rw [hrecords]
    exact ⟨_, congrArg (fun front => Text.unlines
      (front ++ p.rules.map _ ++ _ ++ p.rules.map _ ++ _)) (hcut 7 _ _)⟩
  | rust =>
    exact ⟨_, congrArg (fun front => Text.unlines
      (front ++ p.rules.flatMap _ ++ _ ++ p.rules.map _ ++ _)) (hcut 12 _ _)⟩

/-- The number and the identifier that a line shows: the number up to a comma, and the identifier
after what stands `between` them. -/
def shownBy (opening between line : Text) : Option (Nat × Text) :=
  (Text.after? opening line).bind fun rest =>
  (Text.number? (rest.takeWhile (· != ','))).bind fun number =>
  (Text.after? between (rest.dropWhile (· != ','))).map fun rest =>
    (number, rest.takeWhile Text.continuesIdentifier)

/-- The arity and the identifier that a record shows. -/
def shown? : Target → List Text → Option (Nat × Text)
  | .cpp, [line] => shownBy "  \x7b".toList ", ".toList line
  | .rust, [_, line] =>
    shownBy "    BisonReduce \x7b n_reduce: ".toList
      ", produced_nonterminal: Nonterminal::".toList line
  | _, _ => none

/-- What was written into a line is read back from it. -/
theorem shownBy_append (opening between : Text) (blanks : Nat) {n : Nat} {name rest : Text}
    (hbetween : between.head? = some ',') (hn : n < Text.numberLimit)
    (hname : ∀ c ∈ name, Text.continuesIdentifier c = true)
    (hrest : rest.head?.any Text.continuesIdentifier = false) :
    shownBy opening between
      (opening ++ (List.replicate blanks ' ' ++ (Text.ofNat n ++ (between ++ (name ++ rest))))) =
      some (n, name) := by
  have hnumber : Text.number? (List.replicate blanks ' ' ++ Text.ofNat n) = some n := by
    rw [Text.number?, (Text.solid_ofNat n).trim_after (Text.blank_replicate blanks),
      ← (Text.solid_ofNat n).trim_eq, ← Text.number?, Text.number?_ofNat hn]
  have hcomma : ∀ c ∈ List.replicate blanks ' ' ++ Text.ofNat n, (c != ',') = true := by
    intro c hc
    rcases List.mem_append.1 hc with hc | hc
    · rw [List.eq_of_mem_replicate hc]
      rfl
    · have hdigit := Text.isDigit_of_mem_ofNat hc
      rw [bne_iff_ne]
      rintro rfl
      exact absurd hdigit (by decide)
  have hafter : (between ++ (name ++ rest)).head?.any (· != ',') = false := by
    rw [List.head?_append, hbetween, Option.some_or]
    rfl
  obtain ⟨htake, hdrop⟩ := Text.cut_append hcomma hafter
  obtain ⟨hid, -⟩ := Text.cut_append hname hrest
  rw [shownBy, Text.after?_append, Option.bind_some, ← List.append_assoc, htake, hdrop, hnumber,
    Option.bind_some, Text.after?_append, Option.map_some, hid]

theorem cpp_record_eq (field : Nat) (r : Rule) : Cpp.record field r = "  \x7b".toList ++
    (List.replicate (3 - (Text.ofNat r.arity).length) ' ' ++ (Text.ofNat r.arity ++
    (", ".toList ++ (Plan.produced r ++
    (List.replicate (field - (Plan.produced r).length) ' ' ++ ("\x7d, /* ".toList ++
    (StringLiteral.comment r.text ++ " */".toList))))))) := by
  unfold Cpp.record Text.padLeft Text.padRight
  simp only [List.append_assoc]

theorem rust_record_eq (r : Rule) : Rust.record r = ["    // ".toList ++ r.text,
    "    BisonReduce \x7b n_reduce: ".toList ++ (List.replicate 0 ' ' ++ (Text.ofNat r.arity ++
    (", produced_nonterminal: Nonterminal::".toList ++ (Plan.produced r ++ " \x7d,".toList))))] := by
  unfold Rust.record
  simp only [List.append_assoc]
  rfl

theorem continues_produced (r : Rule) :
    ∀ c ∈ Plan.produced r, Text.continuesIdentifier c = true :=
  Identifier.continues_ofNonterminal r.left

/-- After the identifier of a C++ record, its field or the record ends. -/
theorem head?_endsRecord (blanks : Nat) (more : Text) :
    (List.replicate blanks ' ' ++ ("\x7d, /* ".toList ++ more)).head?.any
      Text.continuesIdentifier = false := by
  cases blanks with
  | zero => exact Text.not_continues_cons (c := '\x7d') (by decide) rfl _
  | succ blanks => exact Text.not_continues_cons (c := ' ') (by decide) rfl _

/-- **The arity and the left side of a rule** can be read off its record. -/
theorem shown?_record (t : Target) (p : Plan) {r : Rule} (hr : r.arity ≤ Plan.largestArity) :
    t.shown? (t.record p r) = some (r.arity, Plan.produced r) := by
  have hn : r.arity < Text.numberLimit := Nat.lt_of_le_of_lt hr (by decide)
  cases t with
  | cpp =>
    rw [record, shown?, cpp_record_eq]
    exact shownBy_append _ _ _ rfl hn (continues_produced r) (head?_endsRecord _ _)
  | rust =>
    rw [record, rust_record_eq, shown?]
    exact shownBy_append _ _ 0 rfl hn (continues_produced r)
      (Text.not_continues_cons (c := ' ') (by decide) rfl _)

/-- Records and descriptors are found by the numbers of the rules. -/
structure Indexes (t : Target) (rules : RuleSet) (records : List (List Text))
    (descriptors : List Text) : Prop where
  record : ∀ k, records[k]?.bind t.shown? =
    (rules.get? k).map fun r => (r.arity, Plan.produced r)
  descriptor : ∀ k, descriptors[k]? = (rules.get? k).map t.descriptor

/-- Where rules stand in their places, so do their records and descriptors. -/
theorem indexes_of_positional {a : Automaton} {p : Plan} (hp : Plan.ofAutomaton a = .ok p)
    (h : Reader.Positional a.rules.toList) (t : Target) :
    t.Indexes a.rules (p.rules.map (t.record p)) (p.rules.map t.descriptor) := by
  obtain ⟨-, -, -, -, -, hrules⟩ := Plan.exists_of_ofAutomaton hp
  rw [hrules]
  refine ⟨fun k => ?_, fun k => ?_⟩
  · rw [List.getElem?_map, RuleSet.getElem?_toList h]
    cases hget : a.rules.get? k with
    | none => rfl
    | some rule =>
      have hmem := (RuleSet.mem_toList_of_get? hget).1
      exact t.shown?_record p (Plan.arity_le hp hmem)
  · rw [List.getElem?_map, RuleSet.getElem?_toList h]

end Target

theorem Automaton.exists_of_emit [Text.IdentifierPart] {a : Automaton} {t : Target} {text : Text}
    (h : a.emit t = .ok text) : ∃ p, Plan.ofAutomaton a = .ok p ∧ text = t.text p := by
  obtain ⟨p, hp, h⟩ := exists_of_bind_eq_ok h
  split at h
  · exact absurd h nofun
  · exact ⟨p, hp, (Except.ok.inj h).symm⟩

/-! ### Reductions -/

/-- A reduction on a terminal names a rule that is declared. -/
theorem Automaton.Consistent.exists_rule {a : Automaton} (h : a.Consistent) {row : Row} {n : Nat}
    (hrow : row ∈ a.table.rows) (hreduce : .reduce n ∈ row.actions) :
    ∃ rule ∈ a.rules.toList, rule.number = n ∧ a.rules.get? n = some rule := by
  have hdeclared : a.rules.contains n = true := (h.rows row hrow).actions _ hreduce
  obtain ⟨rule, hrule⟩ := Option.isSome_iff_exists.1 hdeclared
  obtain ⟨hmem, hnumber⟩ := RuleSet.mem_toList_of_get? hrule
  exact ⟨rule, hmem, hnumber, hrule⟩

/-- **Rules in their places.** If no rule of a report is noted to be out of its place, the rules
are numbered from zero in the order in which their records and descriptors are emitted. In an
accepted report, a reduction on a terminal then finds at its position the record of a rule: it
shows the arity of that rule and the identifier of its left side, and no other listed name has that
identifier. -/
theorem Automaton.rules_positional [Text.IdentifierPart] {s : Strictness} {source : Text}
    {a : Automaton} (h : Automaton.read s source = .ok a) (hsilent : ¬ Misplaces a.diagnostics) :
    a.rules.toList.map Rule.number = List.range a.rules.size ∧
    (∀ (t : Target) (text : Text), a.emit t = .ok text → ∃ records descriptors,
      t.Lists text records descriptors ∧ t.Indexes a.rules records descriptors) ∧
    (Automaton.compile .strict source = .ok a → ∀ row ∈ a.table.rows, ∀ n,
      .reduce n ∈ row.actions → n < a.rules.size ∧ ∃ rule, a.rules.get? n = some rule ∧
        ∀ (t : Target) (text : Text), a.emit t = .ok text → ∃ records descriptors,
          t.Lists text records descriptors ∧
          records[n]?.bind t.shown? = some (rule.arity, Plan.produced rule) ∧
          ∀ name ∈ a.symbols.nonterminals.toList,
            Identifier.ofNonterminal name = Plan.produced rule → name = rule.left) := by
  have hplaces := Automaton.positional_of_read h hsilent
  have hemitted : ∀ (t : Target) (p : Plan), Plan.ofAutomaton a = .ok p →
      t.Lists (t.text p) (p.rules.map (t.record p)) (p.rules.map t.descriptor) ∧
      t.Indexes a.rules (p.rules.map (t.record p)) (p.rules.map t.descriptor) :=
    fun t p hp => ⟨t.lists_text p, t.indexes_of_positional hp hplaces⟩
  refine ⟨?_, fun t text hemit => ?_, fun haccepted row hrow n hreduce => ?_⟩
  · rw [← RuleSet.length_toList]
    exact hplaces
  · obtain ⟨p, hp, rfl⟩ := exists_of_emit hemit
    exact ⟨_, _, hemitted t p hp⟩
  · have hconsistent := consistent_of_compile haccepted
    obtain ⟨rule, hmem, hnumber, hrule⟩ := hconsistent.exists_rule hrow hreduce
    refine ⟨?_, rule, hrule, fun t text hemit => ?_⟩
    · rw [← hnumber, ← RuleSet.length_toList]
      exact hplaces.lt rule hmem
    · obtain ⟨p, hp, rfl⟩ := exists_of_emit hemit
      obtain ⟨hlists, hindexes⟩ := hemitted t p hp
      refine ⟨_, _, hlists, by rw [hindexes.record, hrule]; rfl, fun name hname hsame => ?_⟩
      exact Plan.eq_of_ofNonterminal hp hname (hconsistent.lefts rule hmem) hsame

/-- In the report of sums, the reduction by rule 1 finds a record that shows three symbols and
the nonterminal `expr`. -/
theorem rules_positional_sumReport : ∃ a text records descriptors,
    Automaton.compile .strict sumReport = .ok a ∧ ¬ Misplaces a.diagnostics ∧
    a.rules.toList.map Rule.number = [0, 1, 2] ∧
    (∃ row ∈ a.table.rows, .reduce 1 ∈ row.actions) ∧ a.emit .rust = .ok text ∧
    Target.rust.Lists text records descriptors ∧
    records[1]?.bind Target.rust.shown? = some (3, "NT_expr".toList) := by
  obtain ⟨a, ha, hcheck⟩ := exists_ok_of_any (x := Automaton.compile .strict sumReport)
    (p := fun a => (a.emit .rust).toOption.any (fun _ => true) && decide (a.diagnostics = [] ∧
      a.rules.size = 3 ∧ (∃ row ∈ a.table.rows, Action.reduce 1 ∈ row.actions) ∧
      (a.rules.get? 1).map (fun r => (r.arity, Plan.produced r)) = some (3, "NT_expr".toList)))
    (by decide +kernel)
  obtain ⟨hemits, hfacts⟩ := Bool.and_eq_true_iff.1 hcheck
  obtain ⟨hdiagnostics, hsize, hreduce, hshown⟩ := of_decide_eq_true hfacts
  have hsilent : ¬ Misplaces a.diagnostics := hdiagnostics ▸ not_misplaces_nil
  obtain ⟨hnumbers, -, hreductions⟩ :=
    Automaton.rules_positional (Automaton.compile_strict_iff.1 ha).1 hsilent
  obtain ⟨row, hrow, hmem⟩ := hreduce
  obtain ⟨-, rule, hrule, hrecord⟩ := hreductions ha row hrow 1 hmem
  obtain ⟨text, hemit, -⟩ := exists_ok_of_any hemits
  obtain ⟨records, descriptors, hlists, hshows, -⟩ := hrecord .rust text hemit
  rw [hrule] at hshown
  exact ⟨a, text, records, descriptors, ha, hsilent, by rw [hnumbers, hsize]; rfl,
    ⟨row, hrow, hmem⟩, hemit, hlists, hshows.trans hshown⟩

/-- A report with a fallback that no terminal takes, by a rule that is not there. -/
def idleFallbackReport : Text := Text.unlines <| List.map String.toList
  ["Grammar", "    0 s: A", "Terminals, with rules where they appear", "A (258) 0",
    "Nonterminals, with rules where they appear", "s (3)", "state 0",
    "    A  reduce using rule 0 (s)", "    $default  reduce using rule 9 (s)"]

/-- It is accepted and stays in the table, though there is only one record. -/
theorem undeclared_fallback_accepted : ∃ a, Automaton.compile .strict idleFallbackReport = .ok a ∧
    ¬ Misplaces a.diagnostics ∧ a.rules.size = 1 ∧
    ∃ row ∈ a.table.rows, row.fallback = some (.reduce 9) := by
  obtain ⟨a, ha, hcheck⟩ := exists_ok_of_any (x := Automaton.compile .strict idleFallbackReport)
    (p := fun a => decide (a.diagnostics = [] ∧ a.rules.size = 1 ∧
      ∃ row ∈ a.table.rows, row.fallback = some (.reduce 9)))
    (by decide +kernel)
  obtain ⟨hsilent, hsize, hfallback⟩ := of_decide_eq_true hcheck
  exact ⟨a, ha, hsilent ▸ not_misplaces_nil, hsize, hfallback⟩

end ParserTables
