import ParserTables.Proofs.Emit.Failure
import ParserTables.Proofs.Emit.ReadBack
import ParserTables.Proofs.Report.RoundTrip

/-! What emitted sources carry.

The names and rules of a report have no line feeds in them and the cells of a packed table are
small, so the source of an automaton, in either language, is read back as its packed table and the
records of its rules (`Automaton.emitted_carries`). A plan always has a Rust source. It has a C++
source unless an identifier is longer than the fields of the records can be
(`wideGrammar_not_emitted`). -/
namespace ParserTables

/-! ### Plans of reports -/

theorem Identifier.tame_ofTerminal [Text.IdentifierPart] (name : Text) :
    Target.Tame (ofTerminal name) :=
  ⟨(Text.plain_of_continues (continues_ofTerminal name)).newline_not_mem, by simp [ofTerminal]⟩

theorem Identifier.tame_ofNonterminal [Text.IdentifierPart] (name : Text) :
    Target.Tame (ofNonterminal name) :=
  ⟨(Text.plain_of_continues (continues_ofNonterminal name)).newline_not_mem, by simp [ofNonterminal]⟩

/-- The plan of a report has no line feeds in its names and rules. -/
theorem Plan.unbroken [Text.IdentifierPart] {s : Strictness} {source : Text} {a : Automaton}
    {p : Plan} (h : Automaton.read s source = .ok a) (hp : ofAutomaton a = .ok p) : p.Unbroken := by
  obtain ⟨hterminals, hnonterminals, hrules⟩ := Automaton.newline_not_mem h
  obtain ⟨hsymbols, hlist, -, hterminalIds, hnonterminalIds⟩ := ofAutomaton_eq_ok hp
  refine ⟨by rwa [hsymbols], by rwa [hsymbols], by rwa [hlist], fun id hid => ?_⟩
  rw [hterminalIds, hnonterminalIds] at hid
  rcases List.mem_append.1 hid with hid | hid
  · obtain ⟨name, -, rfl⟩ := List.mem_map.1 hid
    exact Identifier.tame_ofTerminal name
  · obtain ⟨name, -, rfl⟩ := List.mem_map.1 hid
    exact Identifier.tame_ofNonterminal name

/-- The cell of a goto fits into a signed byte, too. -/
theorem gotoCell?_byte {goto : Option Nat} {cell : Int} (h : gotoCell? goto = some cell) :
    -128 ≤ cell ∧ cell ≤ 127 := by
  cases goto with
  | none =>
    obtain rfl : 0 = cell := Option.some.inj h
    decide
  | some target => exact Action.toCell?_bounds (a := .shift target) h

/-- The cells of a packed table are small. -/
theorem readable_of_pack {t : Table} {rows : List PackedRow} (h : t.pack = .ok rows) :
    ∀ r ∈ rows, r.Readable := by
  intro r hr cell hcell
  obtain ⟨⟨state, row⟩, -, hrow⟩ := exists_of_forall₂ (forall₂_of_mapM_ok h) r hr
  obtain ⟨hactions, hgotos⟩ := Row.packs_of_pack hrow
  have hbyte : -128 ≤ cell ∧ cell ≤ 127 := by
    rcases List.mem_append.1 hcell with hcell | hcell
    · obtain ⟨action, -, haction⟩ := exists_of_forall₂ hactions cell hcell
      exact Action.toCell?_bounds haction
    · obtain ⟨goto, -, hgoto⟩ := exists_of_forall₂ hgotos cell hcell
      exact gotoCell?_byte hgoto
  show cell.natAbs < 65536
  omega

/-! ### Emitting -/

/-- A plan has a source unless something is in the way of its language. -/
theorem Automaton.exists_emit_iff [Text.IdentifierPart] {a : Automaton} {p : Plan}
    (hp : Plan.ofAutomaton a = .ok p) (t : Target) :
    (∃ text, a.emit t = .ok text) ↔ t.obstacle? p = none := by
  unfold emit
  rw [hp]
  dsimp only [bind, Except.bind]
  cases t.obstacle? p with
  | none => exact ⟨fun _ => rfl, fun _ => ⟨_, rfl⟩⟩
  | some e => exact ⟨fun ⟨_, htext⟩ => (nomatch htext), nofun⟩

theorem Cpp.obstacle?_eq_none_iff {p : Plan} :
    Cpp.obstacle? p = none ↔ p.rules = [] ∨ Text.longest p.nonterminals ≤ 65535 := by
  unfold Cpp.obstacle? Cpp.field Cpp.widestField
  simp [or_iff_not_imp_left]

/-- **Both sources carry the tables.** Whatever the report, and whether it is taken at face value or
not: an automaton with a plan always has a Rust source, and it has a C++ source unless it has rules
and a nonterminal with an identifier of more than 65535 bytes. Reading the source, line by line,
gives the rows of the packed table, and for each rule, in ascending order of their numbers, its
arity and the identifier of its left side. -/
theorem Automaton.emitted_carries [Text.IdentifierPart] {s : Strictness} {source : Text}
    {a : Automaton} {p : Plan} (h : Automaton.compile s source = .ok a)
    (hp : Plan.ofAutomaton a = .ok p) :
    (∃ text, a.emit .rust = .ok text) ∧
    ((∃ text, a.emit .cpp = .ok text) ↔
      a.rules.toList = [] ∨ Text.longest p.nonterminals ≤ 65535) ∧
    a.rules.toList.Pairwise (·.number < ·.number) ∧
    ∀ (t : Target) (text : Text), a.emit t = .ok text →
      a.table.pack = .ok (t.readRows text) ∧
      t.readRecords text = a.rules.toList.map fun r => (r.arity, Identifier.ofNonterminal r.left) := by
  have hread := read_of_compile h
  obtain ⟨-, hrules, hpack, -, -⟩ := Plan.ofAutomaton_eq_ok hp
  have hunbroken := Plan.unbroken hread hp
  have harity : ∀ r ∈ p.rules, r.arity ≤ Plan.largestArity := fun r hr =>
    Plan.arity_le hp (hrules ▸ hr)
  refine ⟨(exists_emit_iff hp .rust).2 rfl, ?_, a.rules.pairwise_toList, fun t text hemit => ?_⟩
  · rw [← hrules]
    exact (exists_emit_iff hp .cpp).trans Cpp.obstacle?_eq_none_iff
  · obtain ⟨p', hp', rfl⟩ := exists_of_emit hemit
    obtain rfl := Except.ok.inj (hp'.symm.trans hp)
    rw [Target.readRows_text t hunbroken (readable_of_pack hpack),
      Target.readRecords_text t hunbroken harity, ← hrules]
    exact ⟨hpack, rfl⟩

/-- Both sources of the report of sums show the record of rule 1. -/
theorem Automaton.emitted_carries_sumReport : ∃ a cpp rust,
    Automaton.compile .strict sumReport = .ok a ∧ a.emit .cpp = .ok cpp ∧
    a.emit .rust = .ok rust ∧ a.table.pack = .ok (Target.cpp.readRows cpp) ∧
    Target.rust.readRows rust = Target.cpp.readRows cpp ∧
    Target.rust.readRecords rust = Target.cpp.readRecords cpp ∧
    (Target.cpp.readRecords cpp)[1]? = some (3, "NT_expr".toList) := by
  obtain ⟨a, ha, hcheck⟩ := exists_ok_of_any (x := Automaton.compile .strict sumReport)
    (p := fun a =>
      (Plan.ofAutomaton a).toOption.any (fun p : Plan => Text.longest p.nonterminals ≤ 65535) &&
      decide (a.rules.toList[1]?.map (fun r : Rule => (r.arity, Identifier.ofNonterminal r.left)) =
        some (3, "NT_expr".toList)))
    (by decide +kernel)
  obtain ⟨hplan, hrule⟩ := Bool.and_eq_true_iff.1 hcheck
  obtain ⟨p, hp, hnarrow⟩ := exists_ok_of_any hplan
  obtain ⟨⟨rust, hrust⟩, hcpp, -, hcarries⟩ := emitted_carries ha hp
  obtain ⟨cpp, hcpp⟩ := hcpp.2 (.inr (of_decide_eq_true hnarrow))
  obtain ⟨hrows, hrecords⟩ := hcarries .cpp cpp hcpp
  obtain ⟨hrows', hrecords'⟩ := hcarries .rust rust hrust
  refine ⟨a, cpp, rust, ha, hcpp, hrust, hrows, ?_, hrecords'.trans hrecords.symm, ?_⟩
  · exact Except.ok.inj (hrows'.symm.trans hrows)
  · rw [hrecords, List.getElem?_map]
    exact of_decide_eq_true hrule

/-! ### A long name -/

theorem isIdentifier_replicate (n : Nat) : isIdentifier (List.replicate (n + 1) 'n') = true := by
  rw [List.replicate_succ, isIdentifier, Bool.and_eq_true_iff, List.all_eq_true]
  exact ⟨rfl, fun c hc => by rw [List.eq_of_mem_replicate hc]; rfl⟩

/-- A grammar whose nonterminal has a long name. -/
def wideGrammar (n : Nat) : Description where
  terminals := ["A".toList]
  nonterminals := [List.replicate (n + 1) 'n']
  rules := [(List.replicate (n + 1) 'n', ["A".toList])]
  states := [[.fallback .accept]]
  terminals_nodup := List.nodup_singleton _
  nonterminals_nodup := List.nodup_singleton _
  length_terminals := Nat.le_of_ble_eq_true rfl
  length_nonterminals := Nat.le_of_ble_eq_true rfl
  length_rules := Nat.le_of_ble_eq_true rfl
  length_states := Nat.le_of_ble_eq_true rfl
  states_ne_nil := List.cons_ne_nil _ _
  terminal_names := by decide +kernel
  nonterminal_names := by simp [isIdentifier_replicate]
  lefts := by simp
  rights := by
    have hname : IsName ['A'] := by decide
    simp [hname]
  slots_nodup := by decide +kernel
  resolves := by simp [Entry.Resolves, Action.Resolves]

theorem byteLength_replicate (n : Nat) : Text.byteLength (List.replicate n 'n') = n := by
  induction n with
  | zero => rfl
  | succ n ih =>
    rw [List.replicate_succ']
    rw [Text.byteLength_append, ih]
    rfl

theorem ofNonterminal_replicate [Text.IdentifierPart] (n : Nat) :
    Identifier.ofNonterminal (List.replicate (n + 1) 'n') =
      "NT_".toList ++ List.replicate (n + 1) 'n' := by
  have hword : (List.replicate (n + 1) 'n').all Text.isWordPart = true :=
    List.all_eq_true.2 fun c hc => List.eq_of_mem_replicate hc ▸ rfl
  rw [Identifier.ofNonterminal, Identifier.mangle_of_isWordPart hword]

/-- A report on it is accepted and has a plan, in which the longest identifier is four characters
longer. -/
theorem exists_plan_wideGrammar [Text.IdentifierPart] (n : Nat) : ∃ a p,
    Automaton.compile .strict (Text.unlines (wideGrammar n).write) = .ok a ∧
    Plan.ofAutomaton a = .ok p ∧ p.rules ≠ [] ∧ Text.longest p.nonterminals = n + 4 := by
  obtain ⟨a, hread, ha⟩ := (wideGrammar n).read_reports (wideGrammar n).reports_write
  have hcompile : Automaton.compile .strict _ = .ok a :=
    Automaton.compile_strict_iff.2 ⟨hread, Automaton.violation?_eq_none_iff.2 ha.consistent⟩
  have hrules : a.rules.toList =
      [⟨0, List.replicate (n + 1) 'n', [Symbol.ofToken "A".toList]⟩] := ha.rules
  have hrows : a.table.rows = #[⟨#[.accept], #[none], some .accept⟩] :=
    Array.toList_inj.1 ha.rows
  have hpack : a.table.pack = .ok [⟨[127], [0]⟩] := by
    unfold Table.pack Table.states
    rw [hrows]
    rfl
  have hplan : ∃ p, Plan.ofAutomaton a = .ok p := by
    refine Plan.exists_ofAutomaton_iff.2 ⟨⟨_, hpack⟩, ?_, ?_, ?_⟩
    · rw [hrules]
      simp [Rule.arity]
    · rw [ha.terminals]
      simp [Plan.Apart, wideGrammar]
    · rw [ha.nonterminals]
      simp [Plan.Apart, wideGrammar]
  obtain ⟨p, hp⟩ := hplan
  obtain ⟨-, hlist, -, -, hnonterminals⟩ := Plan.ofAutomaton_eq_ok hp
  refine ⟨a, p, hcompile, hp, by rw [hlist, hrules]; exact List.cons_ne_nil _ _, ?_⟩
  rw [hnonterminals, ha.nonterminals, wideGrammar, List.map_singleton, ofNonterminal_replicate,
    Text.longest, List.map_singleton, Text.byteLength_append, byteLength_replicate]
  show max (3 + (n + 1)) 0 = n + 4
  omega

/-- A name of 65533 characters cannot be printed into a C++ record. -/
theorem wideGrammar_not_emitted : ∃ a p,
    Automaton.compile .strict (Text.unlines (wideGrammar 65532).write) = .ok a ∧
    Plan.ofAutomaton a = .ok p ∧ a.emit .cpp = .error (.fieldTooWide 65536) := by
  obtain ⟨a, p, ha, hp, hrules, hlongest⟩ := exists_plan_wideGrammar 65532
  refine ⟨a, p, ha, hp, ?_⟩
  have hwide : Target.obstacle? .cpp p = some (.fieldTooWide 65536) := by
    show Cpp.obstacle? p = _
    unfold Cpp.obstacle? Cpp.field
    rw [hlongest, if_neg (by simp [hrules, Cpp.widestField])]
  unfold Automaton.emit
  rw [hp]
  dsimp only [bind, Except.bind]
  rw [hwide]
  rfl

end ParserTables
