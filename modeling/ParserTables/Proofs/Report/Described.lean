import Mathlib.Data.List.Forall2
import ParserTables.Automaton.Compile
import ParserTables.Proofs.Report.Lines
import ParserTables.Proofs.Report.Phrase
import ParserTables.Proofs.Table.Consistency

/-! What a report describes, and the ways to write it.

A `Description` is a grammar with the entries of its states, each symbol spelled out.
`Description.Reports` relates it to the lines of its reports: gaps, blank lines, codes, the order
of the entries in a state and the shorthand for further right-hand sides are left open.
`Description.IsOf` says that an automaton is the one described; it is consistent then
(`IsOf.consistent`). -/
namespace ParserTables
open Text

/-! ### Descriptions -/

/-- Something a state says. -/
inductive Entry where
  | action (token : Text) (action : Action)
  | fallback (action : Action)
  | goto (symbol : Text) (target : Nat)

/-- What an entry says something about. -/
inductive Slot where
  | terminal (name : Text)
  | rest
  | nonterminal (name : Text)
deriving DecidableEq

namespace Entry

def slot : Entry → Slot
  | .action token _ => .terminal token
  | .fallback _ => .rest
  | .goto symbol _ => .nonterminal symbol

/-- What an entry refers to is there: its symbol, and the rule or state it leads to. -/
def Resolves (terminals nonterminals : List Text) (rules states : Nat) : Entry → Prop
  | .action token a => token ∈ terminals ∧ a.Resolves (· < rules) states
  | .fallback a => a.Resolves (· < rules) states
  | .goto symbol target => symbol ∈ nonterminals ∧ target < states

instance (terminals nonterminals : List Text) (rules states : Nat) (e : Entry) :
    Decidable (e.Resolves terminals nonterminals rules states) :=
  match e with
  | .action token a => inferInstanceAs
      (Decidable (token ∈ terminals ∧ a.Resolves (· < rules) states))
  | .fallback a => inferInstanceAs (Decidable (a.Resolves (· < rules) states))
  | .goto symbol target => inferInstanceAs (Decidable (symbol ∈ nonterminals ∧ target < states))

/-- The action that some entries have for a terminal. -/
def action? (entries : List Entry) (terminal : Text) : Option Action :=
  entries.findSome? fun
    | .action token a => if token = terminal then some a else none
    | _ => none

def fallback? (entries : List Entry) : Option Action :=
  entries.findSome? fun
    | .fallback a => some a
    | _ => none

/-- The state that some entries lead to after a nonterminal. -/
def goto? (entries : List Entry) (nonterminal : Text) : Option Nat :=
  entries.findSome? fun
    | .goto symbol target => if symbol = nonterminal then some target else none
    | _ => none

end Entry

/-- A grammar and what each state of its parser does. -/
structure Description where
  terminals : List Text
  nonterminals : List Text
  /-- The nonterminal that each rule produces, and the symbols it is produced from. -/
  rules : List (Text × List Text)
  states : List (List Entry)
  terminals_nodup : terminals.Nodup
  nonterminals_nodup : nonterminals.Nodup
  length_terminals : terminals.length ≤ idCount
  length_nonterminals : nonterminals.length ≤ idCount
  length_rules : rules.length ≤ idCount
  length_states : states.length ≤ idCount
  states_ne_nil : states ≠ []
  terminal_names : ∀ t ∈ terminals, IsName t ∧ t ≠ Symbol.errorName ∧ t ≠ Symbol.defaultName
  nonterminal_names : ∀ n ∈ nonterminals, isIdentifier n = true
  lefts : ∀ rule ∈ rules, rule.1 ∈ nonterminals
  rights : ∀ rule ∈ rules, ∀ t ∈ rule.2, IsName t
  slots_nodup : ∀ entries ∈ states, (entries.map Entry.slot).Nodup
  resolves : ∀ entries ∈ states, ∀ e ∈ entries,
    e.Resolves terminals nonterminals rules.length states.length

/-- Rules with their numbers, the first of which is given. -/
def numberedFrom (number : Nat) : List (Text × List Text) → List Rule
  | [] => []
  | (left, right) :: rules =>
    ⟨number, left, right.map Symbol.ofToken⟩ :: numberedFrom (number + 1) rules

namespace Description

/-- The rules, numbered from zero. -/
def ruleList (d : Description) : List Rule := numberedFrom 0 d.rules

/-- The row of a state: for each terminal its own entry, or else the fallback, or else an
error. -/
def row (d : Description) (entries : List Entry) : Row where
  actions := (d.terminals.map fun t =>
    (Entry.action? entries t).getD ((Entry.fallback? entries).getD .error)).toArray
  gotos := (d.nonterminals.map (Entry.goto? entries)).toArray
  fallback := Entry.fallback? entries

/-- An automaton is the one described, and nothing was odd about its report. -/
structure IsOf (d : Description) (a : Automaton) : Prop where
  terminals : a.symbols.terminals.toList = d.terminals
  nonterminals : a.symbols.nonterminals.toList = d.nonterminals
  rules : a.rules.toList = d.ruleList
  rows : a.table.rows.toList = d.states.map d.row
  diagnostics : a.diagnostics = []

/-! ### Consistency -/

section Consistency
variable {d : Description}

theorem mem_numberedFrom {number : Nat} {rules : List (Text × List Text)} {r : Rule}
    (h : r ∈ numberedFrom number rules) : ∃ rule ∈ rules, rule.1 = r.left := by
  induction rules generalizing number with
  | nil => exact absurd h List.not_mem_nil
  | cons rule rules ih =>
    rcases List.mem_cons.1 h with rfl | h
    · exact ⟨rule, List.mem_cons_self .., rfl⟩
    · obtain ⟨other, hother, hleft⟩ := ih h
      exact ⟨other, List.mem_cons_of_mem _ hother, hleft⟩

theorem exists_mem_numberedFrom {number n : Nat} {rules : List (Text × List Text)}
    (hlo : number ≤ n) (hhi : n < number + rules.length) :
    ∃ r ∈ numberedFrom number rules, r.number = n := by
  induction rules generalizing number with
  | nil =>
    rw [List.length_nil] at hhi
    omega
  | cons rule rules ih =>
    rw [List.length_cons] at hhi
    by_cases hn : number = n
    · exact ⟨_, List.mem_cons_self .., hn⟩
    · have hlo' : number + 1 ≤ n := by omega
      obtain ⟨r, hr, hnumber⟩ := ih hlo' (by omega)
      exact ⟨r, List.mem_cons_of_mem _ hr, hnumber⟩

/-- The action of a state on a terminal refers to what is there. -/
theorem resolves_action {entries : List Entry} (hmem : entries ∈ d.states) (t : Text) :
    ((Entry.action? entries t).getD ((Entry.fallback? entries).getD .error)).Resolves
      (· < d.rules.length) d.states.length := by
  have hfallback : ((Entry.fallback? entries).getD .error).Resolves
      (· < d.rules.length) d.states.length := by
    cases hf : Entry.fallback? entries with
    | none => exact trivial
    | some a =>
      obtain ⟨e, he, hsome⟩ := List.exists_of_findSome?_eq_some hf
      have hres := d.resolves entries hmem e he
      cases e with
      | action token b => exact absurd hsome nofun
      | fallback b => exact Option.some.inj hsome ▸ hres
      | goto symbol target => exact absurd hsome nofun
  cases ha : Entry.action? entries t with
  | none => exact hfallback
  | some a =>
    obtain ⟨e, he, hsome⟩ := List.exists_of_findSome?_eq_some ha
    have hres := d.resolves entries hmem e he
    cases e with
    | action token b =>
      obtain ⟨-, hb⟩ := Option.ite_none_right_eq_some.1 hsome
      exact Option.some.inj hb ▸ hres.2
    | fallback b => exact absurd hsome nofun
    | goto symbol target => exact absurd hsome nofun

theorem resolves_goto {entries : List Entry} (hmem : entries ∈ d.states) {n : Text} {target : Nat}
    (h : Entry.goto? entries n = some target) : target < d.states.length := by
  obtain ⟨e, he, hsome⟩ := List.exists_of_findSome?_eq_some h
  have hres := d.resolves entries hmem e he
  cases e with
  | action token b => exact absurd hsome nofun
  | fallback b => exact absurd hsome nofun
  | goto symbol k =>
    obtain ⟨-, hk⟩ := Option.ite_none_right_eq_some.1 hsome
    exact Option.some.inj hk ▸ hres.2

/-- What is described is consistent. -/
theorem IsOf.consistent {a : Automaton} (h : d.IsOf a) : a.Consistent := by
  have hsize : a.table.size = d.states.length := by
    rw [Table.size, ← Array.length_toList, h.rows, List.length_map]
  have hdeclared : ∀ n, n < d.rules.length → a.rules.contains n = true := by
    intro n hn
    have hn' : n < 0 + d.rules.length := by omega
    obtain ⟨r, hr, rfl⟩ := exists_mem_numberedFrom (Nat.zero_le n) hn'
    have hmem : r ∈ a.rules.toList := by rw [h.rules]; exact hr
    rw [RuleSet.contains, RuleSet.mem_toList_iff.1 hmem, Option.isSome_some]
  constructor
  · intro r hr
    rw [h.rules] at hr
    obtain ⟨rule, hrule, hleft⟩ := mem_numberedFrom hr
    rw [h.nonterminals, ← hleft]
    exact d.lefts rule hrule
  · intro row hrow
    have hrow' : row ∈ d.states.map d.row := by
      rw [← h.rows]
      exact Array.mem_toList_iff.2 hrow
    obtain ⟨entries, hentries, rfl⟩ := List.mem_map.1 hrow'
    constructor
    · intro action haction
      obtain ⟨t, -, rfl⟩ := List.mem_map.1 (List.mem_toArray.1 haction)
      rw [hsize]
      exact (resolves_action hentries t).mono fun n hn => hdeclared n (of_decide_eq_true hn)
    · intro target htarget
      obtain ⟨n, -, hn⟩ := List.mem_map.1 (List.mem_toArray.1 htarget)
      rw [hsize]
      exact resolves_goto hentries hn

end Consistency

end Description

/-! ### Reports -/

/-- The line of a rule. It may leave out the nonterminal produced if the rule before it
produces the same one, `previous`. -/
inductive RuleLine (number : Nat) (previous : Option Text) (left : Text) (right : List Text) :
    Text → Prop where
  | named {indent : Text} : IsGap indent → indent ≠ [] →
      RuleLine number previous left right (indent ++ namedRule number left right)
  | further {indent gap : Text} : IsGap indent → indent ≠ [] → IsGap gap → gap ≠ [] →
      previous = some left →
      RuleLine number previous left right (indent ++ furtherRule number gap right)

/-- The lines of the rules, numbered from `number`. -/
inductive RuleLines : (number : Nat) → (previous : Option Text) → List (Text × List Text) →
    List Text → Prop where
  | nil {number : Nat} {previous : Option Text} : RuleLines number previous [] []
  | cons {number : Nat} {previous : Option Text} {left line : Text} {right : List Text}
      {rules : List (Text × List Text)} {lines : List Text} :
      RuleLine number previous left right line → RuleLines (number + 1) (some left) rules lines →
      RuleLines number previous ((left, right) :: rules) (line :: lines)

/-- The line that lists a name, with its code after it. -/
def IsListed (indent name line : Text) : Prop :=
  ∃ code, line = indent ++ listedName name code

/-- The lines of a listing all start in one column. -/
def ListingLines (names : List Text) (lines : List Text) : Prop :=
  ∃ indent, IsGap indent ∧ List.Forall₂ (IsListed indent) names lines

/-- What an entry is about, as it is written, and what it says about it. -/
def Entry.phrase : Entry → Text × Line.Phrase
  | .action token a => (token, .action a)
  | .fallback a => (Symbol.defaultName, .action a)
  | .goto symbol target => (symbol, .goto target)

/-- The line of an entry. -/
def Entry.IsWritten (e : Entry) (line : Text) : Prop :=
  ∃ indent gap said, IsGap indent ∧ indent ≠ [] ∧ IsGap gap ∧ gap ≠ [] ∧
    Says said e.phrase.2 ∧ '\n' ∉ said ∧ line = indent ++ (e.phrase.1 ++ (gap ++ said))

/-- The blocks of the states, numbered from `number`. -/
inductive StateLines : (number : Nat) → List (List Entry) → List Text → Prop where
  | nil {number : Nat} : StateLines number [] []
  | block {number : Nat} {word : Text} {entries : List Entry} {states : List (List Entry)}
      {lines more : List Text} : word = "state ".toList ∨ word = "State ".toList →
      List.Forall₂ Entry.IsWritten entries lines → StateLines (number + 1) states more →
      StateLines number (entries :: states) ((word ++ ofNat number) :: (lines ++ more))

/-- A report without its blank lines. -/
inductive Sections (d : Description) : List Text → Prop where
  | mk {rules terminals nonterminals states : List Text} :
      RuleLines 0 none d.rules rules → ListingLines d.terminals terminals →
      ListingLines d.nonterminals nonterminals → StateLines 0 d.states states →
      Sections d ("Grammar".toList :: (rules ++
        "Terminals, with rules where they appear".toList :: (terminals ++
        "Nonterminals, with rules where they appear".toList :: (nonterminals ++ states))))

/-- The lines of a report on what is described. Gaps may stand as lines anywhere. -/
structure Description.Reports (d : Description) (lines : List Text) : Prop where
  gaps : ∀ line ∈ lines, blank line = true → IsGap line
  sections : Sections d (lines.filter fun line => !blank line)

end ParserTables
