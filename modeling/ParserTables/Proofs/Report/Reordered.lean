import Mathlib.Data.List.Nodup
import Mathlib.Data.List.Pairwise
import ParserTables.Proofs.Report.Place
import ParserTables.Proofs.Report.Sections
import ParserTables.Proofs.Table.Order

/-! The order of the lines of a state.

What a line of a state asks for does not depend on the lines around it (`Reader.asked?`), so the
lines of a block may be put in another order if no two of them are for the same goto
(`Reader.rowsAfter?_perm`). After a block that is in another order a reader differs in the order of
what was odd, and that it does not look at any more (`Reader.Matches.run`). So the report is
accepted in either order or in none, and it describes the same table (`Automaton.compile_perm`). -/
namespace ParserTables

/-- No two of the names have the same id. Past the last id ids start again at zero, so a listing
that is longer gives some of its names the same. -/
def Listing.Apart (l : Listing) (names : List Text) : Prop :=
  ∀ a ∈ names, ∀ b ∈ names, ∀ id, l.id? a = some id → l.id? b = some id → a = b

theorem Listing.apart_of_size_le {l : Listing} (h : l.size ≤ idCount) (names : List Text) :
    l.Apart names := by
  intro a _ b _ id ha hb
  obtain ⟨p, hp, rfl⟩ := Option.map_eq_some_iff.1 ha
  obtain ⟨q, hq, hid⟩ := Option.map_eq_some_iff.1 hb
  have hlt : ∀ {name p}, l.position? name = some p → p < idCount := fun hp =>
    Nat.lt_of_lt_of_le (lt_size_of_position? hp) h
  rw [idOf_of_lt (hlt hp), idOf_of_lt (hlt hq)] at hid
  obtain rfl := hid
  rw [position?_eq_some_iff] at hp hq
  exact Option.some.inj (hp.symm.trans hq)

/-! ### Results -/

theorem toOption_eq_some_iff {α ε : Type} {x : Except ε α} {a : α} :
    x.toOption = some a ↔ x = .ok a := by
  cases x <;> simp [Except.toOption]

theorem toOption_bind {α β ε : Type} (x : Except ε α) (f : α → Except ε β) :
    (x >>= f).toOption = x.toOption.bind fun a => (f a).toOption := by
  cases x <;> rfl

/-! ### Gotos -/

namespace Report

/-- The symbol of a line that says where to go after one. -/
def goto? (line : Text) : Option Text :=
  match Line.state line with
  | .goto symbol _ => some symbol
  | _ => none

/-- The symbols for which a block says where to go. -/
def gotos (block : List Text) : List Text := block.filterMap goto?

/-- Two lines of a block are not for the same symbol. -/
theorem goto?_ne {block : List Text} (h : (gotos block).Nodup) {x y a b : Text} (hx : x ∈ block)
    (hy : y ∈ block) (hxy : x ≠ y) (ha : goto? x = some a) (hb : goto? y = some b) : a ≠ b := by
  have hpairs := List.pairwise_filterMap.1 h
  have : Std.Symm fun x y => ∀ a, goto? x = some a → ∀ b, goto? y = some b → a ≠ b :=
    ⟨fun x y hne a ha b hb => (hne b hb a ha).symm⟩
  exact hpairs.forall hx hy hxy a ha b hb

end Report

/-! ### Lines of a block -/

namespace Reader
open Report

/-- The call that a line of a block asks for, if it asks for one and is not rejected for the names
in it. -/
def asked? (symbols : SymbolTable) (line : Text) : Option (Option Call) :=
  if Text.blank line then some none
  else
    match told symbols line with
    | .nothing => some none
    | .odd => some none
    | .unknownTerminal _ => none
    | .unknownNonterminal _ => none
    | .call _ c => some (some c)

/-- What is odd about a line of a block. -/
def noted (symbols : SymbolTable) (line : Text) : List Diagnostic :=
  if Text.blank line then []
  else
    match told symbols line with
    | .odd => [⟨0, "unrecognized state line: ".toList ++ Text.trim line⟩]
    | _ => []

/-- A strict row after one more line of its block, unless the line is rejected. -/
def rowAfter? (symbols : SymbolTable) (row : Block) (line : Text) : Option Block :=
  (asked? symbols line).bind fun c => c.elim (some row) row.take?

/-- A strict row after more lines of its block. -/
def rowsAfter? (symbols : SymbolTable) (row : Option Block) (lines : List Text) : Option Block :=
  lines.foldl (fun row line => row.bind fun row => rowAfter? symbols row line) row

theorem asked?_goto {symbols : SymbolTable} {line : Text} {id target : Nat}
    (h : asked? symbols line = some (some (.goto id target))) :
    ∃ symbol, goto? line = some symbol ∧ symbols.nonterminals.id? symbol = some id := by
  rw [asked?] at h
  split at h
  · exact absurd h nofun
  · split at h
    · exact absurd h nofun
    · exact absurd h nofun
    · exact absurd h nofun
    · exact absurd h nofun
    · rename_i name c htold
      obtain rfl := Option.some.inj (Option.some.inj h)
      obtain ⟨hstate, hid⟩ := state_of_told htold
      exact ⟨name, by rw [goto?, hstate], hid⟩

theorem asked?_of_goto {symbols : SymbolTable} {line symbol : Text} {target id : Nat}
    (hb : Text.blank line = false) (hstate : Line.state line = .goto symbol target)
    (hid : symbols.nonterminals.id? symbol = some id) :
    asked? symbols line = some (some (.goto id target)) := by
  rw [asked?, if_neg (by simp [hb]), told, hstate]
  simp only [hid]

/-- Two lines may be exchanged unless they ask for the same goto. -/
theorem rowAfter?_comm {symbols : SymbolTable} {x y : Text}
    (h : ∀ c d, asked? symbols x = some (some c) → asked? symbols y = some (some d) →
      ¬ c.Overwrites d) (row : Block) :
    (rowAfter? symbols row x).bind (rowAfter? symbols · y) =
      (rowAfter? symbols row y).bind (rowAfter? symbols · x) := by
  unfold rowAfter?
  cases hx : asked? symbols x with
  | none => cases asked? symbols y <;> simp
  | some c? =>
    cases hy : asked? symbols y with
    | none => simp
    | some d? =>
      cases c? with
      | none => cases d? <;> simp
      | some c =>
        cases d? with
        | none => simp
        | some d => exact row.take?_comm (h c d hx hy)

/-- **A block may be put in any order** if no two of its lines are for the same goto. -/
theorem rowsAfter?_perm {symbols : SymbolTable} {block block' : List Text}
    (hperm : block.Perm block') (hgotos : (gotos block).Nodup)
    (happart : symbols.nonterminals.Apart (gotos block)) (row : Option Block) :
    rowsAfter? symbols row block = rowsAfter? symbols row block' := by
  apply hperm.foldl_eq'
  intro x hx y hy row?
  by_cases hxy : x = y
  · rw [hxy]
  · cases row? with
    | none => rfl
    | some row =>
      refine rowAfter?_comm (fun c d hc hd hsame => ?_) row
      -- gotos to the same column would be for the same symbol
      obtain ⟨id, target, target', rfl, rfl⟩ := hsame.exists_goto
      obtain ⟨a, ha, hida⟩ := asked?_goto hc
      obtain ⟨b, hb, hidb⟩ := asked?_goto hd
      refine goto?_ne hgotos hx hy hxy ha hb (happart a ?_ b ?_ id hida hidb)
      · exact List.mem_filterMap.2 ⟨x, hx, ha⟩
      · exact List.mem_filterMap.2 ⟨y, hy, hb⟩

/-! ### Runs of a block -/

/-- A reader among the states, with another open row and more that is odd. -/
def withRow (r : Reader) (b : Builder) (row : Block) (odd : List Diagnostic) : Reader :=
  { r with stretch := .states { b with block := some row }, oddities := odd ++ r.oddities }

/-- A strict reader, among the states, in a row. -/
structure InRow (b : Builder) (row : Block) (r : Reader) : Prop where
  stretch : r.stretch = .states b
  strict : b.strictness = .strict
  block : b.block = some row

theorem InRow.withRow {r : Reader} {b : Builder} {row : Block} (h : InRow b row r) (after : Block)
    (odd : List Diagnostic) : InRow { b with block := some after } after (r.withRow b after odd) :=
  ⟨rfl, h.strict, rfl⟩

theorem InRow.withRow_self {r : Reader} {b : Builder} {row : Block} (h : InRow b row r)
    (odd : List Diagnostic) : r.withRow b row odd = { r with oddities := odd ++ r.oddities } := by
  have hb : { b with block := some row } = b := by rw [← h.block]
  rw [Reader.withRow, hb, ← h.stretch]

/-- A line of a block changes the row and adds to what is odd, or it is rejected. -/
theorem outcome_feed {r : Reader} {b : Builder} {row : Block} (h : InRow b row r) {line : Text}
    (ho : opens .state line = false) :
    (outcome (r.feed 0 line)).toOption =
      (rowAfter? r.symbols row line).map fun after => r.withRow b after (noted r.symbols line) := by
  cases hb : Text.blank line with
  | true =>
    rw [feed_blank r 0 hb, rowAfter?, asked?, noted, if_pos hb, if_pos hb]
    exact congrArg some (h.withRow_self []).symm
  | false =>
    rw [feed_states_line h.stretch 0 hb ho, rowAfter?, asked?, noted, if_neg (by simp [hb]),
      if_neg (by simp [hb])]
    cases told r.symbols line with
    | nothing => exact congrArg some (h.withRow_self []).symm
    | odd => exact congrArg some (h.withRow_self [_]).symm
    | unknownTerminal name => rfl
    | unknownNonterminal name => rfl
    | call name c =>
      show (outcome (r.recorded 0 (b.nextState - 1) name (b.call c))).toOption =
        (row.take? c).map fun after => r.withRow b after []
      have hcall : b.call c =
          ({ b with block := some (row.call .strict c).1 }, (row.call .strict c).2) := by
        rw [Builder.call_eq h.block, h.strict]
      rw [hcall, Block.take?]
      match row.call .strict c with
      | (after, none) => rfl
      | (after, some .duplicate) => rfl
      | (after, some .outOfRange) => rfl

/-- **The lines of a block** change the row one after the other and add to what is odd, unless one
of them is rejected. -/
theorem run_block {r : Reader} {b : Builder} {row : Block} (h : InRow b row r) {block : List Text}
    (ho : ∀ line ∈ block, opens .state line = false) :
    (r.run block).toOption = (rowsAfter? r.symbols (some row) block).map fun after =>
      r.withRow b after (block.reverse.flatMap (noted r.symbols)) := by
  induction block generalizing r b row with
  | nil => exact congrArg some (h.withRow_self []).symm
  | cons line rest ih =>
    have hline := outcome_feed h (ho line (List.mem_cons_self ..))
    rw [run_cons, toOption_bind, hline, rowsAfter?, List.foldl_cons, Option.bind_some]
    cases rowAfter? r.symbols row line with
    | none =>
      rw [List.foldl_fixed' fun _ => rfl]
      rfl
    | some after =>
      have hrest := ih (h.withRow after (noted r.symbols line)) fun line hline =>
        ho line (List.mem_cons_of_mem _ hline)
      rw [Option.map_some, Option.bind_some, hrest]
      simp only [rowsAfter?, withRow, List.reverse_cons, List.flatMap_append, List.append_assoc,
        List.flatMap_singleton]

/-! ### Readers that match -/

/-- Two readers that differ in the order of what was odd. -/
structure Matches (r q : Reader) : Prop where
  bare : q.bare = r.bare
  oddities : q.oddities.Perm r.oddities

theorem Matches.feed {r q : Reader} (h : Matches r q) (line : Text) :
    (q.feed 0 line).2 = (r.feed 0 line).2 ∧ Matches (r.feed 0 line).1 (q.feed 0 line).1 := by
  rw [feed_bare r, feed_bare q, h.bare]
  exact ⟨rfl, rfl, h.oddities.append_left _⟩

/-- Matching readers read on alike. -/
theorem Matches.run {r q r' : Reader} (h : Matches r q) {lines : List Text}
    (hrun : r.run lines = .ok r') : ∃ q', q.run lines = .ok q' ∧ Matches r' q' := by
  induction lines generalizing r q with
  | nil =>
    obtain rfl := Except.ok.inj hrun
    exact ⟨q, rfl, h⟩
  | cons line rest ih =>
    obtain ⟨hok, hrest⟩ := run_cons_ok hrun
    obtain ⟨hsame, hmatches⟩ := h.feed line
    obtain ⟨q', hq, hq'⟩ := ih hmatches hrest
    refine ⟨q', ?_, hq'⟩
    rw [← hq, run_cons]
    generalize q.feed 0 line = fed at hsame hmatches ⊢
    rcases fed with ⟨q₁, _ | e⟩
    · rfl
    · exact absurd (hsame.trans hok) nofun

/-- A block in another order is accepted too, and the reader comes out the same, except for the
order of what is odd. -/
theorem run_block_perm {r r' : Reader} {b : Builder} {row : Block} (h : InRow b row r)
    {block block' : List Text} (hperm : block.Perm block')
    (ho : ∀ line ∈ block, opens .state line = false) (hgotos : (gotos block).Nodup)
    (happart : r.symbols.nonterminals.Apart (gotos block)) (hrun : r.run block = .ok r') :
    ∃ q', r.run block' = .ok q' ∧ Matches r' q' := by
  have hblock := run_block h ho
  have hblock' := run_block h fun line hline => ho line (hperm.mem_iff.2 hline)
  rw [← rowsAfter?_perm hperm hgotos happart] at hblock'
  rw [hrun] at hblock
  obtain ⟨after, hafter, rfl⟩ := Option.map_eq_some_iff.1 hblock.symm
  rw [hafter] at hblock'
  refine ⟨_, toOption_eq_some_iff.1 hblock', rfl, ?_⟩
  have hlines : block'.reverse.Perm block.reverse :=
    (block'.reverse_perm.trans hperm.symm).trans block.reverse_perm.symm
  exact (hlines.flatMap_right _).append_right _

end Reader

/-! ### Reports -/

namespace Automaton
open Report

/-- Two automata that differ in the order and the places of what was odd about their reports. -/
structure Matches (a a' : Automaton) : Prop where
  symbols : a'.symbols = a.symbols
  rules : a'.rules = a.rules
  table : a'.table = a.table
  messages : (a'.diagnostics.map Diagnostic.message).Perm (a.diagnostics.map Diagnostic.message)

theorem Matches.violation?_eq {a a' : Automaton} (h : Matches a a') :
    a'.violation? = a.violation? := by
  rw [violation?, violation?, h.symbols, h.rules, h.table]

theorem Matches.of_unplaced {a a' : Automaton} (h : Matches a.unplaced a'.unplaced) :
    Matches a a' where
  symbols := h.symbols
  rules := h.rules
  table := h.table
  messages := by
    have hmessages := h.messages
    rw [unplaced, unplaced, List.map_map, List.map_map] at hmessages
    exact hmessages

end Automaton

theorem Reader.Matches.finish {r q : Reader} (h : Matches r q) {a : Automaton}
    (hfinish : r.finish = .ok a) : ∃ a', q.finish = .ok a' ∧ a.Matches a' := by
  have hstretch : q.bare.stretch = r.bare.stretch := congrArg Reader.stretch h.bare
  have hsymbols : q.bare.symbols = r.bare.symbols := congrArg Reader.symbols h.bare
  have hrules : q.bare.rules = r.bare.rules := congrArg Reader.rules h.bare
  cases hawaits : r.stretch.awaits with
  | some name => exact absurd ((finish_of_awaits hawaits).symm.trans hfinish) nofun
  | none =>
    obtain ⟨b, hs⟩ := Stretch.awaits_eq_none_iff.1 hawaits
    obtain rfl := Except.ok.inj ((finish_of_states hs).symm.trans hfinish)
    refine ⟨_, finish_of_states (hstretch.trans hs), ?_⟩
    have hodd : q.oddities.reverse.Perm r.oddities.reverse :=
      (q.oddities.reverse_perm.trans h.oddities).trans r.oddities.reverse_perm.symm
    exact ⟨hsymbols, hrules, rfl, hodd.map Diagnostic.message⟩

namespace Automaton
open Report

/-- A report with a block in another order is accepted if the report is. -/
theorem exists_compile_of_perm {source source' : Text} {front block block' back : List Text}
    (hsource : Text.lines source = front ++ (block ++ back))
    (hsource' : Text.lines source' = front ++ (block' ++ back)) (hperm : block.Perm block')
    (hplace : (place front).awaits = none) (ho : ∀ line ∈ block, opens .state line = false)
    (hgotos : (gotos block).Nodup)
    (hcolumns : ∀ r, (Reader.start .strict).run front = .ok r →
      r.symbols.nonterminals.Apart (gotos block))
    {a : Automaton} (h : compile .strict source = .ok a) :
    ∃ a', compile .strict source' = .ok a' ∧ a.Matches a' := by
  obtain ⟨r, hrun, hfinish, hv⟩ := exists_compile_strict_iff.1 ⟨a, h, rfl⟩
  rw [hsource] at hrun
  obtain ⟨r₀, hfront, hrest⟩ := Reader.run_append_ok hrun
  obtain ⟨r₁, hblock, hback⟩ := Reader.run_append_ok hrest
  have hstands := Reader.standsAt_run hfront
  obtain ⟨b, hs⟩ := Stretch.awaits_eq_none_iff.1 (hstands.awaits.trans hplace)
  obtain ⟨row, hrow⟩ := Option.isSome_iff_exists.1 (hstands.begun b hs)
  have hin : Reader.InRow b row r₀ :=
    ⟨hs, (hstands.literal b hs).trans hstands.strictness, hrow⟩
  obtain ⟨q₁, hblock', hq₁⟩ :=
    Reader.run_block_perm hin hperm ho hgotos (hcolumns r₀ hfront) hblock
  obtain ⟨q, hback', hq⟩ := hq₁.run hback
  have hrun' : (Reader.start .strict).run (Text.lines source') = .ok q := by
    rw [hsource', Reader.run_append, hfront]
    show r₀.run (block' ++ back) = _
    rw [Reader.run_append, hblock']
    exact hback'
  obtain ⟨a₀, hfinish', hmatches⟩ := hq.finish hfinish
  obtain ⟨a', ha', rfl⟩ := exists_compile_strict_iff.2
    ⟨q, hrun', hfinish', hmatches.violation?_eq.trans hv⟩
  exact ⟨a', ha', hmatches.of_unplaced⟩

/-- **The order of the lines of a state** does not matter: with the lines of one block in another
order a report is accepted or not as it was, and if it is, it describes the same symbols, rules and
rows, and the same is odd about it in some order. No symbol may have two gotos in the block. Nor may
two symbols share a column, as some do where more are listed than there are ids. -/
theorem compile_perm {source source' : Text} {front block block' back : List Text}
    (hsource : Text.lines source = front ++ (block ++ back))
    (hsource' : Text.lines source' = front ++ (block' ++ back)) (hperm : block.Perm block')
    (hplace : (place front).awaits = none) (ho : ∀ line ∈ block, opens .state line = false)
    (hgotos : (gotos block).Nodup)
    (hcolumns : ∀ r, (Reader.start .strict).run front = .ok r →
      r.symbols.nonterminals.Apart (gotos block)) :
    ((∃ a, compile .strict source = .ok a) ↔ ∃ a', compile .strict source' = .ok a') ∧
      ∀ a a', compile .strict source = .ok a → compile .strict source' = .ok a' →
        a.Matches a' := by
  have hback : ∀ a', compile .strict source' = .ok a' →
      ∃ a, compile .strict source = .ok a ∧ a'.Matches a := fun a' ha' => by
    have hsame : ∀ {name}, name ∈ gotos block' → name ∈ gotos block :=
      fun hname => (hperm.filterMap goto?).mem_iff.2 hname
    refine exists_compile_of_perm hsource' hsource hperm.symm hplace
      (fun line hline => ho line (hperm.mem_iff.2 hline)) (hgotos.perm (hperm.filterMap goto?))
      (fun r hr => ?_) ha'
    exact fun a ha b hb => hcolumns r hr a (hsame ha) b (hsame hb)
  refine ⟨⟨?_, ?_⟩, ?_⟩
  · rintro ⟨a, ha⟩
    obtain ⟨a', ha', -⟩ := exists_compile_of_perm hsource hsource' hperm hplace ho hgotos hcolumns ha
    exact ⟨a', ha'⟩
  · rintro ⟨a', ha'⟩
    obtain ⟨a, ha, -⟩ := hback a' ha'
    exact ⟨a, ha⟩
  · intro a a' ha ha'
    obtain ⟨a'', ha'', hmatches⟩ :=
      exists_compile_of_perm hsource hsource' hperm hplace ho hgotos hcolumns ha
    obtain rfl := Except.ok.inj (ha''.symm.trans ha')
    exact hmatches

/-- The lines of a report up to its first state and of that state. -/
def shuffledFront : List Text := List.map String.toList
  ["Grammar", "    0 s: A", "Terminals, with rules where they appear", "A (258) 0", "B (259)",
    "Nonterminals, with rules where they appear", "s (3)", "t (4)", "state 0"]

def shuffledBlock : List Text := List.map String.toList
  ["    0 s: . A", "    A  shift, and go to state 1", "    B  [reduce using rule 0 (s)]",
    "    $default  reduce using rule 0 (s)", "    s  go to state 1", "    t  go to state 0", "    B"]

theorem compile_perm_shuffled : ∃ a a',
    compile .strict (Text.unlines (shuffledFront ++ (shuffledBlock ++ ["state 1".toList]))) =
      .ok a ∧
    compile .strict
      (Text.unlines (shuffledFront ++ (shuffledBlock.reverse ++ ["state 1".toList]))) = .ok a' ∧
    a.Matches a' ∧ a.diagnostics.length = 1 := by
  obtain ⟨a, ha, hlength⟩ := exists_ok_of_any (x := compile .strict
    (Text.unlines (shuffledFront ++ (shuffledBlock ++ ["state 1".toList]))))
    (p := fun a => a.diagnostics.length == 1) (by decide +kernel)
  have hsize : ((Reader.start .strict).run shuffledFront).toOption.all
      (fun r => decide (r.symbols.nonterminals.size ≤ idCount)) = true := by decide +kernel
  obtain ⟨hiff, hmatches⟩ := @compile_perm (Text.unlines _) (Text.unlines _) shuffledFront
    shuffledBlock shuffledBlock.reverse ["state 1".toList]
    (Text.lines_unlines (by decide +kernel)) (Text.lines_unlines (by decide +kernel))
    shuffledBlock.reverse_perm.symm (by decide +kernel) (by decide +kernel) (by decide +kernel)
    fun r hr => Listing.apart_of_size_le (by
      rw [hr] at hsize
      exact of_decide_eq_true hsize) _
  obtain ⟨a', ha'⟩ := hiff.1 ⟨a, ha⟩
  exact ⟨a, a', ha, ha', hmatches a a' ha ha', beq_iff_eq.1 hlength⟩

end Automaton

/-! ### A long listing -/

/-- A report whose lines can be read is accepted if what is read is consistent. -/
theorem Automaton.exists_compile_iff_consistent {source : Text} {r : Reader} {a : Automaton}
    (hrun : (Reader.start .strict).run (Text.lines source) = .ok r) (hfinish : r.finish = .ok a) :
    (∃ a', compile .strict source = .ok a') ↔ a.Consistent := by
  rw [← violation?_eq_none_iff]
  constructor
  · rintro ⟨a', ha'⟩
    obtain ⟨r', hrun', hfinish', hv⟩ := exists_compile_strict_iff.1 ⟨a', ha', rfl⟩
    obtain rfl := Except.ok.inj (hrun.symm.trans hrun')
    obtain rfl := Except.ok.inj (hfinish.symm.trans hfinish')
    exact hv
  · intro hv
    obtain ⟨a', ha', -⟩ := exists_compile_strict_iff.2 ⟨r, hrun, hfinish, hv⟩
    exact ⟨a', ha'⟩

/-- An automaton without rules and with one state is consistent if its row is. -/
theorem Automaton.consistent_iff_of_row {a : Automaton} {row : Row} (hrules : a.rules = .empty)
    (htable : a.table = ⟨#[row]⟩) : a.Consistent ↔ row.Resolves a.rules.contains 1 := by
  have hsize : a.table.size = 1 := by rw [htable]; rfl
  constructor
  · intro h
    rw [← hsize]
    exact h.rows row (by rw [htable]; exact Array.mem_singleton.2 rfl)
  · intro h
    constructor
    · rw [hrules, RuleSet.toList_empty]
      exact fun _ hr => absurd hr List.not_mem_nil
    · rw [hsize, htable]
      intro row' hrow'
      rw [Array.mem_singleton.1 hrow']
      exact h

/-- A row of no terminals with one goto, in its first column. -/
def gotoRow (width target : Nat) : Block where
  actions := #[]
  explicit := #[]
  size_explicit := rfl
  gotos := (Array.replicate width none).setIfInBounds 0 (some target)
  fallback := none

theorem resolves_gotoRow_iff {width target states : Nat} {declared : Nat → Bool}
    (hwidth : 0 < width) :
    (gotoRow width target).close.Resolves declared states ↔ target < states := by
  have hmem : ∀ t, some t ∈ (gotoRow width target).gotos ↔ t = target := by
    intro t
    rw [Array.mem_iff_getElem?]
    constructor
    · rintro ⟨i, hi⟩
      by_cases hzero : 0 = i
      · subst hzero
        simpa [gotoRow, hwidth, eq_comm] using hi
      · rw [gotoRow, Array.getElem?_setIfInBounds_ne hzero] at hi
        exact absurd (Array.mem_of_getElem? hi) (by simp)
    · rintro rfl
      exact ⟨0, by simp [gotoRow, hwidth]⟩
  constructor
  · intro h
    exact h.gotos target ((hmem target).2 rfl)
  · intro h
    refine ⟨fun a ha => ?_, fun t ht => (hmem t).1 ht ▸ h⟩
    simp [gotoRow, Block.close] at ha

/-- A report up to its first state, with no terminals and no rules. -/
def listingFront (names : List Text) : List Text :=
  "Grammar".toList :: "Terminals, with rules where they appear".toList ::
    "Nonterminals, with rules where they appear".toList ::
      (names.map (listedName · 0) ++ ["state 0".toList])

section LongListing
open Report
variable {names : List Text} (hnodup : names.Nodup) (hok : ∀ t ∈ names, IsName t)
include hnodup hok

/-- Such a report is read up to its first state. -/
theorem Reader.run_listingFront : ∃ r b, (start .strict).run (listingFront names) = .ok r ∧
    InRow b (.empty 0 names.length) r ∧ b.rows = #[] ∧ r.rules = .empty ∧
    r.symbols.nonterminals.toList = names := by
  have hlisted : ListingLines names (names.map (listedName · 0)) := by
    refine ⟨[], (fun _ hc => nomatch hc), ?_⟩
    rw [List.forall₂_map_right_iff, List.forall₂_same]
    exact fun name _ => ⟨0, rfl⟩
  obtain ⟨column, l, hreads, hl⟩ := reads_nonterminals hlisted hnodup hok
    (r := { start .strict with stretch := .nonterminals none }) rfl rfl
  have hopens : ∀ {r : Reader}, r.stretch = .nonterminals column → ∀ n,
      r.feed n "state 0".toList =
        r.beginState (.empty r.strictness r.symbols.terminals.size r.symbols.nonterminals.size) n 0 :=
    fun hs n => by
      rw [feed_nonterminals n (by decide) hs,
        show Line.header? "state 0".toList = some (.state 0) by decide +kernel]
  have hrun := (Reads.line (feed_grammarHeader (r := start .strict) rfl)
    (.line (feed_terminalsHeader rfl) (.line (feed_nonterminalsHeader rfl)
      (hreads.append (.line (fun n => hopens rfl n) (.done _)))))).run
  refine ⟨_, _, hrun, ⟨rfl, rfl, ?_⟩, rfl, rfl, hl⟩
  rw [← hl]
  rfl

omit hnodup in
theorem lines_listingFront {block : List Text} (hblock : ∀ line ∈ block, IsLine line) :
    Text.lines (Text.unlines (listingFront names ++ block)) = listingFront names ++ block := by
  have hheaders : ∀ line ∈ ["Grammar".toList, "Terminals, with rules where they appear".toList,
      "Nonterminals, with rules where they appear".toList, "state 0".toList],
      '\n' ∉ line ∧ line.getLast? ≠ some '\r' := by decide +kernel
  have hnames : ∀ line ∈ names.map (listedName · 0), IsLine line := by
    intro line hline
    obtain ⟨name, hname, rfl⟩ := List.mem_map.1 hline
    exact (isBody_listedName (hok name hname) 0).isContent.isLine
  refine Text.lines_unlines fun line hline => ?_
  rcases List.mem_append.1 hline with hline | hline
  · simp only [listingFront, List.mem_cons, List.mem_append, List.not_mem_nil, or_false] at hline
    rcases hline with hline | hline | hline | hline | hline
    · exact hheaders line (by simp [hline])
    · exact hheaders line (by simp [hline])
    · exact hheaders line (by simp [hline])
    · exact ⟨(hnames line hline).newline, (hnames line hline).last⟩
    · exact hheaders line (by simp [hline])
  · exact ⟨(hblock line hline).newline, (hblock line hline).last⟩

/-- Two gotos for the first column: the second one is in the table, and where the first one goes
need not be there. -/
theorem Automaton.exists_compile_listingFront_iff {x y : Text} {i j : Nat}
    (hlines : ∀ line ∈ [x, y], IsLine line) (ho : ∀ line ∈ [x, y], opens .state line = false)
    (hasked : ∀ symbols : SymbolTable, symbols.nonterminals.toList = names →
      Reader.asked? symbols x = some (some (.goto 0 i)) ∧
      Reader.asked? symbols y = some (some (.goto 0 j))) (hne : names ≠ []) :
    (∃ a, compile .strict (Text.unlines (listingFront names ++ [x, y])) = .ok a) ↔ j = 0 := by
  obtain ⟨r, b, hrun, hin, hrows, hrules, hsymbols⟩ := Reader.run_listingFront hnodup hok
  obtain ⟨hax, hay⟩ := hasked r.symbols hsymbols
  have hpos : 0 < names.length := List.length_pos_iff.2 hne
  -- the row that both lines leave
  have htake : ∀ (row : Block) (k : Nat), row.gotos.size = names.length →
      row.take? (.goto 0 k) = some (row.put (.goto 0 k)) := fun row k hsize =>
    Block.take?_eq_some_iff.2 ⟨show 0 < row.gotos.size by omega, rfl⟩
  have hafter : Reader.rowsAfter? r.symbols (some (.empty 0 names.length)) [x, y] =
      some (gotoRow names.length j) := by
    simp [Reader.rowsAfter?, Reader.rowAfter?, hax, hay, htake, Block.empty, Block.put, gotoRow]
  have hblock := Reader.run_block hin ho
  rw [hafter, Option.map_some, toOption_eq_some_iff] at hblock
  have hall := congrArg (· >>= fun r => r.run [x, y]) hrun
  rw [← Reader.run_append, ← lines_listingFront hok hlines] at hall
  have htable : Builder.finish { b with block := some (gotoRow names.length j) } =
      ⟨#[(gotoRow names.length j).close]⟩ := by
    rw [Builder.finish, Builder.closed, hrows]
    rfl
  rw [exists_compile_iff_consistent (hall.trans hblock) (Reader.finish_of_states rfl),
    consistent_iff_of_row hrules htable, resolves_gotoRow_iff hpos, Nat.lt_one_iff]

end LongListing

/-! ### More nonterminals than ids -/

/-- One more name than there are ids. -/
def wideNames : List Text := (List.range (idCount + 1)).map fun i => 'n' :: Text.ofNat i

theorem nodup_wideNames : wideNames.Nodup := by
  refine List.Nodup.map (fun i j h => ?_) List.nodup_range
  have hvalue : ∀ n, Nat.ofDigitChars 10 (Text.ofNat n) 0 = n := fun n =>
    Nat.ofDigitChars_ten_toDigits
  rw [← hvalue i, ← hvalue j, (List.cons.inj h).2]

theorem isName_of_mem_wideNames {t : Text} (h : t ∈ wideNames) : IsName t := by
  obtain ⟨i, -, rfl⟩ := List.mem_map.1 h
  apply isName_of_isIdentifier
  have hdigits : (Text.ofNat i).all isNamePart = true :=
    List.all_eq_true.2 fun c hc => by simp [isNamePart, Text.isDigit_of_mem_ofNat hc]
  rw [isIdentifier, hdigits]
  rfl

/-- A name of such a listing has the remainder of its position as its id. -/
theorem id?_wideNames {l : Listing} (h : l.toList = wideNames) {i : Nat} (hi : i < idCount + 1) :
    l.id? ('n' :: Text.ofNat i) = some (idOf i) := by
  have hposition : l.position? ('n' :: Text.ofNat i) = some i := by
    rw [Listing.position?_eq_some_iff, ← Listing.getElem?_toList, h, wideNames, List.getElem?_map,
      List.getElem?_range hi]
    rfl
  rw [Listing.id?, hposition, Option.map_some]

/-- Where to go after the last of these names and where after the first. -/
def wideBlock : List Text := ["    n65536  go to state 9".toList, "    n0  go to state 0".toList]

namespace Automaton
open Report

/-- **The two lines are for different symbols and the same column**: in one order the report is
accepted, in the other it refers to a state that is not there. -/
theorem compile_wideBlock :
    (gotos wideBlock).Nodup ∧ (∀ line ∈ wideBlock, opens .state line = false) ∧
    (place (listingFront wideNames)).awaits = none ∧
    Text.lines (Text.unlines (listingFront wideNames ++ wideBlock)) =
      listingFront wideNames ++ wideBlock ∧
    Text.lines (Text.unlines (listingFront wideNames ++ wideBlock.reverse)) =
      listingFront wideNames ++ wideBlock.reverse ∧
    (∃ a, compile .strict (Text.unlines (listingFront wideNames ++ wideBlock)) = .ok a) ∧
    ¬ ∃ a, compile .strict (Text.unlines (listingFront wideNames ++ wideBlock.reverse)) = .ok a := by
  have ho : ∀ line ∈ wideBlock, opens .state line = false := by decide +kernel
  have hends : ∀ line ∈ wideBlock, '\n' ∉ line ∧ line.getLast? ≠ some '\r' := by decide +kernel
  have hlines : ∀ line ∈ wideBlock, IsLine line := fun line hline =>
    ⟨(hends line hline).1, (hends line hline).2⟩
  have hok : ∀ t ∈ wideNames, IsName t := fun _ => isName_of_mem_wideNames
  have hne : wideNames ≠ [] := by simp [wideNames]
  -- both symbols have the id of the first column
  have hlast : ∀ symbols : SymbolTable, symbols.nonterminals.toList = wideNames →
      Reader.asked? symbols "    n65536  go to state 9".toList = some (some (.goto 0 9)) :=
    fun symbols h => Reader.asked?_of_goto (by decide)
      (show Line.state _ = .goto ('n' :: Text.ofNat 65536) 9 by decide +kernel)
      (id?_wideNames h (by decide))
  have hfirst : ∀ symbols : SymbolTable, symbols.nonterminals.toList = wideNames →
      Reader.asked? symbols "    n0  go to state 0".toList = some (some (.goto 0 0)) :=
    fun symbols h => Reader.asked?_of_goto (by decide)
      (show Line.state _ = .goto ('n' :: Text.ofNat 0) 0 by decide +kernel)
      (id?_wideNames h (by decide))
  refine ⟨by decide +kernel, ho, ?_, lines_listingFront hok hlines, ?_, ?_, ?_⟩
  · obtain ⟨r, b, hrun, hin, -⟩ := Reader.run_listingFront nodup_wideNames hok
    exact (Reader.standsAt_run hrun).awaits.symm.trans (congrArg Stretch.awaits hin.stretch)
  · exact lines_listingFront hok fun line hline => hlines line (List.mem_reverse.1 hline)
  · exact (exists_compile_listingFront_iff nodup_wideNames hok hlines ho
      (fun symbols h => ⟨hlast symbols h, hfirst symbols h⟩) hne).2 rfl
  · intro haccepted
    have hzero := (exists_compile_listingFront_iff nodup_wideNames hok
      (fun line hline => hlines line (List.mem_reverse.1 hline))
      (fun line hline => ho line (List.mem_reverse.1 hline))
      (fun symbols h => ⟨hfirst symbols h, hlast symbols h⟩) hne).1 haccepted
    exact absurd hzero (by decide)

end Automaton
end ParserTables
