import ParserTables.Proofs.Table.Accepted

/-! The parser that a table drives, on rows and on cells.

A shift-reduce driver reads a table through two look-ups, a `Reading`: what to do in a state
on a terminal, and where to go from a state after a nonterminal. The rows of a table are one
reading, its packed cells another. `run_packed_eq` says that the two drive every input
through the same configurations, step by step, if the table has no transition to state 0
and no reduction by rule 0; and neither driver ever looks up something that is not
there. A step keeps the driver inside the table (`step_packed_eq`), and there the two readings
give the same answers (`agree_action?`, `agree_goto?`). -/
namespace ParserTables.Driver

/-! ### The driver -/

/-- What a driver reads of a table, where it has such an entry. -/
structure Reading where
  action? : Nat → Nat → Option Action
  goto? : Nat → Nat → Option (Option Nat)

/-- The rows of a table, as a driver reads them. -/
def ofTable (t : Table) : Reading := ⟨t.action?, t.goto?⟩

/-- The cells of a packed table, as a driver reads them: the goto cell 0 is no transition. -/
def ofCells (rows : List PackedRow) : Reading where
  action? state terminal := (PackedRow.cell? rows state terminal).map Action.ofCell
  goto? state nonterminal := (PackedRow.gotoCell? rows state nonterminal).map targetOf

/-- How far a driver has come. -/
inductive Verdict where
  | running
  | accepted
  | rejected
  /-- There is no transition to take, or nothing to take off the stack. -/
  | stuck
  /-- A state, a column, a rule or a nonterminal was looked up that is not there. -/
  | missing
deriving DecidableEq

/-- What is read past the end of the input. -/
inductive Ending where
  /-- Nothing: without a lookahead the input is rejected. -/
  | stops
  /-- The last terminal, again and again. -/
  | repeats

/-- What is left of the terminals when the first one was taken. -/
def Ending.next : Ending → List Nat → List Nat
  | .repeats, [terminal] => [terminal]
  | _, terminals => terminals.tail

theorem Ending.next_subset (ending : Ending) (terminals : List Nat) :
    ending.next terminals ⊆ terminals := by
  unfold Ending.next
  split
  · exact List.Subset.refl _
  · exact fun _ hmem => List.mem_of_mem_tail hmem

structure Config where
  /-- The states, the last one first. -/
  stack : List Nat
  /-- The terminals that are left, the lookahead first. -/
  remaining : List Nat
  /-- The rules reduced so far, in order. -/
  reduced : List Nat
  verdict : Verdict
deriving DecidableEq

namespace Config

def start (input : List Nat) : Config := ⟨[0], input, [], .running⟩

def stop (c : Config) (verdict : Verdict) : Config := { c with verdict }

/-- Take the lookahead and go to a state. -/
def shift (c : Config) (ending : Ending) (target : Nat) : Config :=
  { c with stack := target :: c.stack, remaining := ending.next c.remaining }

/-- Go to a state after a reduction that left the states of `below`. -/
def reduce (c : Config) (below : List Nat) (rule target : Nat) : Config :=
  { c with stack := target :: below, reduced := c.reduced ++ [rule] }

end Config

section Steps
variable (reading : Reading) (a : Automaton) (ending : Ending)

/-- Reduce by a rule: take a state off the stack for each symbol of the rule, and go on from
the state below with the nonterminal that the rule produces. -/
def reduce (c : Config) (number : Nat) : Config :=
  match a.rules.get? number with
  | none => c.stop .missing
  | some rule =>
    match c.stack.drop rule.arity with
    | [] => c.stop .stuck
    | base :: below =>
      match a.symbols.nonterminals.id? rule.left with
      | none => c.stop .missing
      | some id =>
        match reading.goto? base id with
        | none => c.stop .missing
        | some none => c.stop .stuck
        | some (some target) => c.reduce (base :: below) number target

/-- What the driver does on an action. -/
def act (c : Config) : Action → Config
  | .shift target => c.shift ending target
  | .reduce number => reduce reading a c number
  | .accept => c.stop .accepted
  | .error => c.stop .rejected

/-- One step of a driver that still runs. Without a lookahead the input is rejected. -/
def advance (c : Config) : Config :=
  match c.stack, c.remaining with
  | state :: _, terminal :: _ =>
    match reading.action? state terminal with
    | none => c.stop .missing
    | some action => act reading a ending c action
  | [], _ => c.stop .stuck
  | _, [] => c.stop .rejected

def step (c : Config) : Config :=
  if c.verdict = .running then advance reading a ending c else c

/-- The configuration after a number of steps. -/
def run (c : Config) : Nat → Config
  | 0 => c
  | n + 1 => run (step reading a ending c) n

end Steps

/-! ### Staying inside the table -/

/-- The states on the stack and the terminals to come are those of the automaton, and nothing
was missing so far. -/
structure Inside (a : Automaton) (c : Config) : Prop where
  stack_ne_nil : c.stack ≠ []
  stack : ∀ s ∈ c.stack, s < a.table.size
  remaining : ∀ t ∈ c.remaining, t < a.symbols.terminals.size
  verdict : c.verdict ≠ .missing

namespace Inside
variable {a : Automaton} {c : Config}

theorem stop (h : Inside a c) {verdict : Verdict} (hv : verdict ≠ .missing) :
    Inside a (c.stop verdict) :=
  ⟨h.stack_ne_nil, h.stack, h.remaining, hv⟩

theorem shift (h : Inside a c) (ending : Ending) {target : Nat} (ht : target < a.table.size) :
    Inside a (c.shift ending target) := by
  refine ⟨List.cons_ne_nil _ _, ?_, fun t hmem => ?_, h.verdict⟩
  · intro s hs
    rcases List.mem_cons.1 hs with rfl | hs
    · exact ht
    · exact h.stack s hs
  · exact h.remaining t (ending.next_subset c.remaining hmem)

theorem reduce (h : Inside a c) {below : List Nat} {rule target : Nat}
    (hb : ∀ s ∈ below, s < a.table.size) (ht : target < a.table.size) :
    Inside a (c.reduce below rule target) := by
  refine ⟨List.cons_ne_nil _ _, ?_, h.remaining, h.verdict⟩
  intro s hs
  rcases List.mem_cons.1 hs with rfl | hs
  · exact ht
  · exact hb s hs

end Inside

/-! ### The two readings -/

/-- No transition leads to state 0, and no action reduces by rule 0. -/
def SparesZero (t : Table) : Prop :=
  ∀ row ∈ t.rows.toList,
    .shift 0 ∉ row.actions.toList ∧ .reduce 0 ∉ row.actions.toList ∧ some 0 ∉ row.gotos.toList

instance (t : Table) : Decidable (SparesZero t) :=
  inferInstanceAs (Decidable (∀ row ∈ t.rows.toList, _))

section Readings
variable {source : Text} {a : Automaton} {rows : List PackedRow}
  (ha : Automaton.compile .strict source = .ok a) (hp : a.table.pack = .ok rows)
  (h0 : SparesZero a.table)
include ha hp h0

/-- In a state of the table, both readings have the same action on a terminal, and it refers
to what is there. -/
theorem agree_action? {s t : Nat} (hs : s < a.table.size) (ht : t < a.symbols.terminals.size) :
    ∃ action, (ofTable a.table).action? s t = some action ∧
      (ofCells rows).action? s t = some action ∧
      action.Resolves a.rules.contains a.table.size := by
  obtain ⟨action, cell, haction, hres, hcell, hc⟩ := exists_cell ha hp hs ht
  refine ⟨action, haction, ?_, hres⟩
  have hmem : action ∈ a.table.rows[s].actions.toList := by
    rw [Table.action?, Array.getElem?_eq_getElem hs, Option.bind_some] at haction
    exact Array.mem_toList_iff.2 (Array.mem_of_getElem? haction)
  have hzero := h0 _ (Array.mem_toList_iff.2 (Array.getElem_mem hs))
  have hne : ¬ (action = .shift 0 ∨ action = .reduce 0) := by
    rintro (rfl | rfl)
    · exact hzero.1 hmem
    · exact hzero.2.1 hmem
  show (PackedRow.cell? rows s t).map Action.ofCell = some action
  rw [hcell, Option.map_some, Action.ofCell_of_toCell?_eq_ite hc, if_neg hne]

/-- In a state of the table, both readings have the same goto for a nonterminal, and it leads to
a state if anywhere. -/
theorem agree_goto? {s n : Nat} (hs : s < a.table.size)
    (hn : n < a.symbols.nonterminals.size) :
    ∃ goto, (ofTable a.table).goto? s n = some goto ∧ (ofCells rows).goto? s n = some goto ∧
      ∀ target, goto = some target → target < a.table.size := by
  obtain ⟨goto, hgoto, hres⟩ := exists_goto? ha hs hn
  refine ⟨goto, hgoto, ?_, hres⟩
  have hrel := rel_gotoCell? hp s n
  rw [hgoto] at hrel
  have hne : goto ≠ some 0 := by
    rintro rfl
    rw [Table.goto?, Array.getElem?_eq_getElem hs, Option.bind_some] at hgoto
    exact (h0 _ (Array.mem_toList_iff.2 (Array.getElem_mem hs))).2.2
      (Array.mem_toList_iff.2 (Array.mem_of_getElem? hgoto))
  show (PackedRow.gotoCell? rows s n).map targetOf = some goto
  generalize PackedRow.gotoCell? rows s n = packed at hrel ⊢
  cases hrel with
  | some hc => rw [Option.map_some, targetOf_of_gotoCell? hc hne]

/-! ### Steps and runs -/

/-- A reduction by a declared rule is the same on both readings, and stays inside. -/
theorem reduce_packed_eq {c : Config} (hc : Inside a c) {number : Nat}
    (hr : a.rules.contains number = true) :
    reduce (ofCells rows) a c number = reduce (ofTable a.table) a c number ∧
      Inside a (reduce (ofTable a.table) a c number) := by
  obtain ⟨rule, hrule⟩ := Option.isSome_iff_exists.1 hr
  obtain ⟨id, hid, hlt⟩ := exists_left ha hrule
  simp only [reduce, hrule, hid]
  cases hstack : c.stack.drop rule.arity with
  | nil => exact ⟨rfl, hc.stop (by decide)⟩
  | cons base below =>
    have hbelow : ∀ s ∈ base :: below, s < a.table.size := fun s hs =>
      hc.stack s (List.mem_of_mem_drop (hstack ▸ hs))
    obtain ⟨goto, hrows, hcells, hres⟩ :=
      agree_goto? ha hp h0 (hbelow base (List.mem_cons_self ..)) hlt
    simp only [hrows, hcells]
    cases goto with
    | none => exact ⟨trivial, hc.stop (by decide)⟩
    | some target => exact ⟨trivial, hc.reduce hbelow (hres target rfl)⟩

/-- **One step** is the same on both readings, and stays inside. -/
theorem step_packed_eq (ending : Ending) {c : Config} (hc : Inside a c) :
    step (ofCells rows) a ending c = step (ofTable a.table) a ending c ∧
      Inside a (step (ofTable a.table) a ending c) := by
  rw [step, step]
  split
  · obtain ⟨state, below, hstack⟩ := List.exists_cons_of_ne_nil hc.stack_ne_nil
    cases hrem : c.remaining with
    | nil =>
      simp only [advance, hstack, hrem]
      exact ⟨trivial, hc.stop (by decide)⟩
    | cons terminal rest =>
      have hs : state < a.table.size := hc.stack state (hstack ▸ List.mem_cons_self ..)
      have ht : terminal < a.symbols.terminals.size :=
        hc.remaining terminal (hrem ▸ List.mem_cons_self ..)
      obtain ⟨action, hrows, hcells, hres⟩ := agree_action? ha hp h0 hs ht
      simp only [advance, hstack, hrem, hrows, hcells]
      cases action with
      | shift target => exact ⟨rfl, hc.shift ending hres⟩
      | reduce number => exact reduce_packed_eq ha hp h0 hc hres
      | accept => exact ⟨rfl, hc.stop (by decide)⟩
      | error => exact ⟨rfl, hc.stop (by decide)⟩
  · exact ⟨rfl, hc⟩

/-- Any number of steps from inside is the same on both readings, and stays inside. -/
theorem run_inside (ending : Ending) {c : Config} (hc : Inside a c) (n : Nat) :
    run (ofCells rows) a ending c n = run (ofTable a.table) a ending c n ∧
      Inside a (run (ofTable a.table) a ending c n) := by
  induction n generalizing c with
  | zero => exact ⟨rfl, hc⟩
  | succ n ih =>
    obtain ⟨heq, hin⟩ := step_packed_eq ha hp h0 ending hc
    rw [run, run, heq]
    exact ih hin

/-- **The cells drive every input like the rows.** After any number of steps on any input both
drivers are in the same configuration, and nothing they looked up was missing. -/
theorem run_packed_eq (ending : Ending) (input : List Nat)
    (hin : ∀ t ∈ input, t < a.symbols.terminals.size) (n : Nat) :
    run (ofCells rows) a ending (.start input) n =
        run (ofTable a.table) a ending (.start input) n ∧
      (run (ofCells rows) a ending (.start input) n).verdict ≠ .missing ∧
      (run (ofTable a.table) a ending (.start input) n).verdict ≠ .missing := by
  have hstart : Inside a (.start input) := by
    refine ⟨List.cons_ne_nil _ _, ?_, hin, fun hv => nomatch hv⟩
    intro s hs
    rw [List.mem_singleton.1 hs]
    exact size_pos_of_compile ha
  obtain ⟨heq, hend⟩ := run_inside ha hp h0 ending hstart n
  exact ⟨heq, heq ▸ hend.verdict, hend.verdict⟩

end Readings

/-- The sum of two numbers is accepted in seven steps, on rows and on cells. -/
theorem run_packed_eq_sumReport : ∃ a rows, Automaton.compile .strict sumReport = .ok a ∧
    a.table.pack = .ok rows ∧ SparesZero a.table ∧
    (∀ t ∈ [2, 1, 2, 0], t < a.symbols.terminals.size) ∧
    run (ofTable a.table) a .repeats (.start [2, 1, 2, 0]) 7 =
      ⟨[3, 2, 0], [0], [2, 1], .accepted⟩ ∧
    run (ofCells rows) a .repeats (.start [2, 1, 2, 0]) 7 =
      run (ofTable a.table) a .repeats (.start [2, 1, 2, 0]) 7 := by
  obtain ⟨a, ha, hcheck⟩ := exists_ok_of_any (x := Automaton.compile .strict sumReport)
    (p := fun a => a.table.pack.toOption.isSome && decide (SparesZero a.table) &&
      decide (∀ t ∈ ([2, 1, 2, 0] : List Nat), t < a.symbols.terminals.size) &&
      decide (run (ofTable a.table) a .repeats (.start [2, 1, 2, 0]) 7 =
        ⟨[3, 2, 0], [0], [2, 1], .accepted⟩))
    (by decide +kernel)
  simp only [Bool.and_eq_true, decide_eq_true_eq] at hcheck
  obtain ⟨⟨⟨hpack, hspares⟩, hin⟩, hend⟩ := hcheck
  cases hp : a.table.pack with
  | error e => exact absurd hpack (by simp [hp, Except.toOption])
  | ok rows =>
    exact ⟨a, rows, ha, hp, hspares, hin, hend, (run_packed_eq ha hp hspares .repeats _ hin 7).1⟩

end ParserTables.Driver
