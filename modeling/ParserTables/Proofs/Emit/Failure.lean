import ParserTables.Proofs.Emit.Records

/-! When there is a plan, and why there is none.

A plan is made in four steps, and the first that fails is reported (`Plan.FirstFailure`). Each fails
for one reason only: an entry of the table fits into no cell, a rule has too many symbols, two
terminals or two nonterminals look alike (`Plan.ofAutomaton_eq_error_iff`). So there is a plan if
none of this is so; its identifiers can then be used as such, and the one in the record of a
rule leads to the nonterminal that the rule produces (`Plan.ofAutomaton_exact`). -/
namespace ParserTables

namespace Plan
open Identifier

/-- Different names have different identifiers. -/
def Apart (identifier : Text → Text) (names : List Text) : Prop :=
  ∀ x ∈ names, ∀ y ∈ names, identifier x = identifier y → x = y

theorem apart_iff {identifier : Text → Text} (l : Listing) :
    Apart identifier l.toList ↔ (l.toList.map identifier).Nodup :=
  (List.nodup_map_iff_inj_on l.nodup_toList).symm

/-! ### Rules with too many symbols -/

theorem arityOverflow?_eq_none_iff {r : Rule} : arityOverflow? r = none ↔ r.arity ≤ 127 := by
  unfold arityOverflow? largestArity
  split <;> simp_all

theorem arityOverflow?_eq_some_iff {r : Rule} {e : EmitError} :
    arityOverflow? r = some e ↔ 127 < r.arity ∧ e = .arityOverflow r.number r.arity := by
  unfold arityOverflow? largestArity
  split
  · simp
    omega
  · simp [eq_comm]
    omega

/-- The first rule that is noted to have too many symbols is the one with the lowest number. -/
theorem findSome?_arityOverflow?_eq_some_iff {rules : RuleSet} {e : EmitError} :
    rules.toList.findSome? arityOverflow? = some e ↔
      ∃ r ∈ rules.toList, 127 < r.arity ∧ e = .arityOverflow r.number r.arity ∧
        ∀ q ∈ rules.toList, 127 < q.arity → r.number ≤ q.number := by
  rw [RuleSet.findSome?_toList_eq_some_iff]
  simp only [arityOverflow?_eq_some_iff, ne_eq, arityOverflow?_eq_none_iff, Nat.not_le, and_assoc]

theorem findSome?_arityOverflow?_eq_none_iff {rules : RuleSet} :
    rules.toList.findSome? arityOverflow? = none ↔ ∀ r ∈ rules.toList, r.arity ≤ 127 := by
  simp only [List.findSome?_eq_none_iff, arityOverflow?_eq_none_iff]

/-! ### Failures -/

section Failures
variable [Text.IdentifierPart]

/-- What is reported of an automaton that has no plan: the first of the obstacles, in this order. -/
inductive FirstFailure (a : Automaton) : EmitError → Prop where
  /-- The table does not pack. -/
  | cell {cause : CellOverflow} : a.table.pack = .error cause →
      FirstFailure a (.cellOverflow cause)
  /-- Of the rules with too many symbols, this one has the lowest number. -/
  | arity {rows : List PackedRow} {r : Rule} : a.table.pack = .ok rows →
      r ∈ a.rules.toList → 127 < r.arity →
      (∀ q ∈ a.rules.toList, 127 < q.arity → r.number ≤ q.number) →
      FirstFailure a (.arityOverflow r.number r.arity)
  | terminals {rows : List PackedRow} {first second : Text} : a.table.pack = .ok rows →
      (∀ r ∈ a.rules.toList, r.arity ≤ 127) →
      FirstClash ofTerminal a.symbols.terminals.toList first second →
      FirstFailure a (.nameCollision first second (ofTerminal second))
  | nonterminals {rows : List PackedRow} {first second : Text} : a.table.pack = .ok rows →
      (∀ r ∈ a.rules.toList, r.arity ≤ 127) → Apart ofTerminal a.symbols.terminals.toList →
      FirstClash ofNonterminal a.symbols.nonterminals.toList first second →
      FirstFailure a (.nameCollision first second (ofNonterminal second))

/-- The steps in which a plan is made. -/
theorem ofAutomaton_eq (a : Automaton) : ofAutomaton a =
    match a.table.pack with
    | .error cause => .error (.cellOverflow cause)
    | .ok rows =>
      match a.rules.toList.findSome? arityOverflow? with
      | some e => .error e
      | none =>
        match identifiers ofTerminal a.symbols.terminals.toList with
        | .error e => .error e
        | .ok terminals =>
          match identifiers ofNonterminal a.symbols.nonterminals.toList with
          | .error e => .error e
          | .ok nonterminals => .ok
            { symbols := a.symbols, rules := a.rules.toList, rows, terminals, nonterminals } := by
  unfold ofAutomaton
  cases a.table.pack with
  | error cause => rfl
  | ok rows =>
    dsimp only [Except.mapError, bind, Except.bind]
    cases a.rules.toList.findSome? arityOverflow? with
    | some e => rfl
    | none =>
      dsimp only
      cases identifiers ofTerminal a.symbols.terminals.toList with
      | error e => rfl
      | ok terminals =>
        dsimp only
        cases identifiers ofNonterminal a.symbols.nonterminals.toList with
        | error e => rfl
        | ok nonterminals => rfl

/-- **The first failure is reported.** -/
theorem ofAutomaton_eq_error_iff {a : Automaton} {e : EmitError} :
    ofAutomaton a = .error e ↔ FirstFailure a e := by
  rw [ofAutomaton_eq]
  constructor
  · intro h
    split at h
    · rename_i cause hpack
      exact Except.error.inj h ▸ .cell hpack
    rename_i rows hpack
    split at h
    · rename_i overflow harity
      obtain ⟨r, hr, hlarge, rfl, hlowest⟩ := findSome?_arityOverflow?_eq_some_iff.1 harity
      exact Except.error.inj h ▸ .arity hpack hr hlarge hlowest
    rename_i harity
    have hsmall := findSome?_arityOverflow?_eq_none_iff.1 harity
    split at h
    · rename_i clash hterminals
      obtain ⟨first, second, rfl, hclash⟩ := identifiers_eq_error_iff.1 hterminals
      exact Except.error.inj h ▸ .terminals hpack hsmall hclash
    rename_i terminals hterminals
    split at h
    · rename_i clash hnonterminals
      obtain ⟨first, second, rfl, hclash⟩ := identifiers_eq_error_iff.1 hnonterminals
      have hapart := (apart_iff _).2 (identifiers_eq_ok_iff.1 hterminals).1
      exact Except.error.inj h ▸ .nonterminals hpack hsmall hapart hclash
    · exact absurd h nofun
  · intro h
    cases h with
    | cell hpack => rw [hpack]
    | arity hpack hr hlarge hlowest =>
      have harity := findSome?_arityOverflow?_eq_some_iff.2 ⟨_, hr, hlarge, rfl, hlowest⟩
      simp only [hpack, harity]
    | terminals hpack hsmall hclash =>
      have harity := findSome?_arityOverflow?_eq_none_iff.2 hsmall
      simp only [hpack, harity, identifiers_of_firstClash hclash]
    | nonterminals hpack hsmall hapart hclash =>
      have harity := findSome?_arityOverflow?_eq_none_iff.2 hsmall
      have hterminals := identifiers_of_nodup ((apart_iff _).1 hapart)
      simp only [hpack, harity, hterminals, identifiers_of_firstClash hclash]

/-- There is a plan if none of the four steps fails. -/
theorem exists_ofAutomaton_iff {a : Automaton} : (∃ p, ofAutomaton a = .ok p) ↔
    (∃ rows, a.table.pack = .ok rows) ∧ (∀ r ∈ a.rules.toList, r.arity ≤ 127) ∧
      Apart ofTerminal a.symbols.terminals.toList ∧
      Apart ofNonterminal a.symbols.nonterminals.toList := by
  constructor
  · rintro ⟨p, hp⟩
    obtain ⟨hpack, harity, hterminals, hnonterminals, -, -⟩ := exists_of_ofAutomaton hp
    exact ⟨⟨_, hpack⟩, findSome?_arityOverflow?_eq_none_iff.1 harity,
      (apart_iff _).2 (identifiers_eq_ok_iff.1 hterminals).1,
      (apart_iff _).2 (identifiers_eq_ok_iff.1 hnonterminals).1⟩
  · rintro ⟨⟨rows, hpack⟩, hsmall, hterminals, hnonterminals⟩
    have harity := findSome?_arityOverflow?_eq_none_iff.2 hsmall
    rw [ofAutomaton_eq]
    simp only [hpack, harity, identifiers_of_nodup ((apart_iff _).1 hterminals),
      identifiers_of_nodup ((apart_iff _).1 hnonterminals)]
    exact ⟨_, rfl⟩

/-! ### The identifiers of a plan -/

section Plan
variable {a : Automaton} {p : Plan} (h : ofAutomaton a = .ok p)
include h

/-- No identifier is there twice, among the terminals, the nonterminals or both. -/
theorem nodup_identifiers : (p.terminals ++ p.nonterminals).Nodup := by
  obtain ⟨-, -, hterminals, hnonterminals, -, -⟩ := exists_of_ofAutomaton h
  obtain ⟨hnodup₁, heq₁⟩ := identifiers_eq_ok_iff.1 hterminals
  obtain ⟨hnodup₂, heq₂⟩ := identifiers_eq_ok_iff.1 hnonterminals
  rw [heq₁, heq₂, List.nodup_append]
  refine ⟨hnodup₁, hnodup₂, fun x hx y hy => ?_⟩
  obtain ⟨terminal, -, rfl⟩ := List.mem_map.1 hx
  obtain ⟨nonterminal, -, rfl⟩ := List.mem_map.1 hy
  exact ofTerminal_ne_ofNonterminal terminal nonterminal

theorem continues_identifiers :
    ∀ id ∈ p.terminals ++ p.nonterminals, ∀ c ∈ id, Text.continuesIdentifier c = true := by
  obtain ⟨-, -, -, hterminals, hnonterminals⟩ := ofAutomaton_eq_ok h
  intro id hid
  rw [hterminals, hnonterminals] at hid
  rcases List.mem_append.1 hid with hid | hid
  · obtain ⟨name, -, rfl⟩ := List.mem_map.1 hid
    exact continues_ofTerminal name
  · obtain ⟨name, -, rfl⟩ := List.mem_map.1 hid
    exact continues_ofNonterminal name

/-- A listed nonterminal and no other has its identifier. -/
theorem getElem?_nonterminals_iff {name : Text} {i : Nat}
    (hi : a.symbols.nonterminals.position? name = some i) (k : Nat) :
    p.nonterminals[k]? = some (ofNonterminal name) ↔ k = i := by
  have hnodup := (List.nodup_append.1 (nodup_identifiers h)).2.1
  have hat : p.nonterminals[i]? = some (ofNonterminal name) := by
    obtain ⟨-, -, -, -, hnonterminals⟩ := ofAutomaton_eq_ok h
    rw [hnonterminals, List.getElem?_map, Listing.getElem?_toList,
      Listing.position?_eq_some_iff.1 hi, Option.map_some]
  constructor
  · intro hk
    obtain ⟨hlt, -⟩ := List.getElem?_eq_some_iff.1 hk
    exact (List.getElem?_inj hlt hnodup).1 (hk.trans hat.symm)
  · rintro rfl
    exact hat

end Plan

/-- **There is a plan exactly when it can be used.** It is made if the table packs, no rule has more
than 127 symbols and symbols of a kind do not look alike; otherwise the first failure is reported.
Its identifiers are those of the listed names, in order; they differ from one another and hold
nothing that may not stand in an identifier; and the one for the left side of a rule is found
where that nonterminal is listed and nowhere else. -/
theorem ofAutomaton_exact (a : Automaton) :
    ((∃ p, ofAutomaton a = .ok p) ↔
      (∃ rows, a.table.pack = .ok rows) ∧ (∀ r ∈ a.rules.toList, r.arity ≤ 127) ∧
        Apart ofTerminal a.symbols.terminals.toList ∧
        Apart ofNonterminal a.symbols.nonterminals.toList) ∧
    (∀ e, ofAutomaton a = .error e ↔ FirstFailure a e) ∧
    ∀ p, ofAutomaton a = .ok p →
      (∀ i, p.terminals[i]? = (a.symbols.terminals.name? i).map ofTerminal ∧
        p.nonterminals[i]? = (a.symbols.nonterminals.name? i).map ofNonterminal) ∧
      (p.terminals ++ p.nonterminals).Nodup ∧
      (∀ id ∈ p.terminals ++ p.nonterminals, ∀ c ∈ id, Text.continuesIdentifier c = true) ∧
      ∀ r ∈ a.rules.toList, ∀ i, a.symbols.nonterminals.position? r.left = some i →
        ∀ k, p.nonterminals[k]? = some (produced r) ↔ k = i := by
  refine ⟨exists_ofAutomaton_iff, fun e => ofAutomaton_eq_error_iff, fun p hp => ?_⟩
  obtain ⟨-, -, -, hterminals, hnonterminals⟩ := ofAutomaton_eq_ok hp
  refine ⟨fun i => ?_, nodup_identifiers hp, continues_identifiers hp, fun r _ i hi k =>
    getElem?_nonterminals_iff hp hi k⟩
  rw [hterminals, hnonterminals, List.getElem?_map, List.getElem?_map, Listing.getElem?_toList,
    Listing.getElem?_toList]
  exact ⟨rfl, rfl⟩

end Failures

/-- A report whose names all need other characters in an identifier. -/
def oddNamesReport : Text := Text.unlines <| List.map String.toList
  ["Grammar", "    0 $accept: expr.list $end", "    1 expr.list: '+' \"end of file\"",
    "Terminals, with rules where they appear", "$end (0) 0", "'+' (43) 1",
    "\"end of file\" (258) 1", "Nonterminals, with rules where they appear",
    "$accept (3) on left: 0", "expr.list (4) on left: 1", "state 0", "    $default  accept"]

/-- The identifier in the record of its rule 1 is that of the second nonterminal only. -/
theorem ofAutomaton_exact_oddNamesReport : ∃ a p r,
    Automaton.compile .strict oddNamesReport = .ok a ∧ ofAutomaton a = .ok p ∧
    p.terminals[2]? = some "T__end_of_file_".toList ∧
    (p.terminals ++ p.nonterminals).Nodup ∧
    r ∈ a.rules.toList ∧ produced r = "NT_expr_list".toList ∧
    ∀ k, p.nonterminals[k]? = some "NT_expr_list".toList ↔ k = 1 := by
  obtain ⟨a, ha, hcheck⟩ := exists_ok_of_any (x := Automaton.compile .strict oddNamesReport)
    (p := fun a => (ofAutomaton a).toOption.any (fun _ => true) &&
      decide (a.symbols.terminals.name? 2 = some "\"end of file\"".toList) &&
      a.rules.toList.any fun r => decide (produced r = "NT_expr_list".toList ∧
        a.symbols.nonterminals.position? r.left = some 1))
    (by decide +kernel)
  rw [Bool.and_eq_true_iff, Bool.and_eq_true_iff, List.any_eq_true] at hcheck
  obtain ⟨⟨hplan, hname⟩, r, hr, hrule⟩ := hcheck
  obtain ⟨p, hp, -⟩ := exists_ok_of_any hplan
  obtain ⟨hproduced, hposition⟩ := of_decide_eq_true hrule
  obtain ⟨hidentifiers, hnodup, -, hfound⟩ := (ofAutomaton_exact a).2.2 p hp
  have hterminal := (hidentifiers 2).1
  rw [of_decide_eq_true hname] at hterminal
  have hat := hfound r hr 1 hposition
  rw [hproduced] at hat
  exact ⟨a, p, r, ha, hp, hterminal.trans (by decide), hnodup, hr, hproduced, hat⟩

end Plan
end ParserTables
