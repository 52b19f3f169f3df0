import ParserTables.Proofs.Table.Order

/-! What the rows of a builder hold.

A row is made of the calls between its opening and the next one. Strictly the first entry for a
slot counts that was not discarded, and as legacy the last one, discarded or not
(`Strictness.kept?`); a terminal without an entry of its own takes the one for all others
(`Row.ofCalls`). One call keeps an open row so, refused or not (`Block.Holds.call`), and a second
entry for a slot is the only thing that is refused (`Block.Holds.call_duplicate_iff`).
`Builder.built_performEach` carries this over any operations. -/
namespace ParserTables

/-! ### Entries for one slot -/

namespace Strictness

/-- The entry that counts among those for one slot, in their order. Discarded ones are marked. -/
def kept? (s : Strictness) (entries : List (Action × Bool)) : Option Action :=
  match s with
  | .strict => (entries.find? fun e => !e.2).map Prod.fst
  | .legacy => entries.getLast?.map Prod.fst

/-- One more entry counts if it is neither dropped nor refused. -/
theorem kept?_concat (s : Strictness) (entries : List (Action × Bool)) (entry : Action)
    (discarded : Bool) : s.kept? (entries ++ [(entry, discarded)]) =
      if s.drops discarded then s.kept? entries
      else if s.refuses (s.kept? entries).isSome then s.kept? entries
      else some entry := by
  cases s with
  | legacy => simp [kept?, drops, refuses]
  | strict =>
    rw [kept?, List.find?_append, kept?]
    cases entries.find? fun e => !e.2 <;> cases discarded <;> simp [drops, refuses]

/-- An entry is refused if it counts and the slot is taken. -/
theorem refused_iff {α : Type} {s : Strictness} {discarded taken : Bool} {dropped kept recorded : α} :
    (if s.drops discarded then (dropped, none)
      else if s.refuses taken then (kept, some EntryError.duplicate)
      else (recorded, none)).2 = some .duplicate ↔
      s = .strict ∧ discarded = false ∧ taken = true := by
  cases s <;> cases discarded <;> cases taken <;> simp [drops, refuses]

theorem kept?_strict_ne_none_iff {entries : List (Action × Bool)} :
    Strictness.strict.kept? entries ≠ none ↔ ∃ entry, (entry, false) ∈ entries := by
  simp [kept?]

end Strictness

/-! ### Calls for one slot -/

namespace Call

/-- The entry that a call has for a terminal. -/
def onTerminal? (terminal : Nat) : Call → Option (Action × Bool)
  | .action t entry discarded => if t = terminal then some (entry, discarded) else none
  | .fallback _ _ => none
  | .goto _ _ => none

/-- The entry that a call has for all other terminals. -/
def onRest? : Call → Option (Action × Bool)
  | .action _ _ _ => none
  | .fallback entry discarded => some (entry, discarded)
  | .goto _ _ => none

/-- The state that a call says to go to after a nonterminal. -/
def onNonterminal? (nonterminal : Nat) : Call → Option Nat
  | .action _ _ _ => none
  | .fallback _ _ => none
  | .goto n target => if n = nonterminal then some target else none

theorem onTerminal?_eq_counted {c : Call} {t : Nat} {entry : Action} :
    c.onTerminal? t = some (entry, false) ↔ c = .action t entry false := by
  cases c <;> simp [onTerminal?]

theorem onRest?_eq_counted {c : Call} {entry : Action} :
    c.onRest? = some (entry, false) ↔ c = .fallback entry false := by
  cases c <;> simp [onRest?]

/-- An action that counts meets those for its terminal that count. -/
theorem clashes_action_iff {c : Call} {t : Nat} {entry : Action} {discarded : Bool} :
    c.Clashes (.action t entry discarded) ↔
      discarded = false ∧ ∃ first, c = .action t first false := by
  rcases c with ⟨u, first, _ | _⟩ | ⟨first, _ | _⟩ | ⟨u, target⟩ <;> cases discarded <;>
    simp [Clashes]

theorem clashes_fallback_iff {c : Call} {entry : Action} {discarded : Bool} :
    c.Clashes (.fallback entry discarded) ↔ discarded = false ∧ ∃ first, c = .fallback first false
    := by
  rcases c with ⟨u, first, _ | _⟩ | ⟨first, _ | _⟩ | ⟨u, target⟩ <;> cases discarded <;>
    simp [Clashes]

theorem not_clashes_goto (c : Call) (n target : Nat) : ¬ c.Clashes (.goto n target) := by
  rcases c with ⟨u, first, _ | _⟩ | ⟨first, _ | _⟩ | ⟨u, target⟩ <;> simp [Clashes]

end Call

/-- The row that some calls make. -/
def Row.ofCalls (s : Strictness) (terminals nonterminals : Nat) (calls : List Call) : Row where
  actions := Array.ofFn fun t : Fin terminals =>
    ((s.kept? (calls.filterMap (Call.onTerminal? t))).or
      (s.kept? (calls.filterMap Call.onRest?))).getD .error
  gotos := Array.ofFn fun n : Fin nonterminals =>
    (calls.filterMap (Call.onNonterminal? n)).getLast?
  fallback := s.kept? (calls.filterMap Call.onRest?)

theorem filterMap_concat {α β : Type} (f : α → Option β) (l : List α) (a : α) :
    (l ++ [a]).filterMap f = l.filterMap f ++ (f a).toList := by
  rw [List.filterMap_append]
  cases h : f a <;> simp [h]

/-! ### The open row -/

namespace Block

/-- In each of its places an open row holds what counts among some calls. -/
structure Holds (s : Strictness) (terminals nonterminals : Nat) (calls : List Call)
    (block : Block) : Prop where
  fits : block.Fits terminals nonterminals
  slots : ∀ t < terminals,
    block.slot? t = some (s.kept? (calls.filterMap (Call.onTerminal? t)))
  gotos : ∀ n < nonterminals,
    block.gotos[n]? = some (calls.filterMap (Call.onNonterminal? n)).getLast?
  fallback : block.fallback = s.kept? (calls.filterMap Call.onRest?)

variable {s : Strictness} {block : Block}

/-! What one call leaves in the row, refused or not. -/

section OneCall
variable {entries : List (Action × Bool)} (entry : Action) (discarded : Bool)

theorem slot?_call_action {t : Nat} (h : block.slot? t = some (s.kept? entries)) :
    (block.call s (.action t entry discarded)).1.slot? t =
      some (s.kept? (entries ++ [(entry, discarded)])) := by
  rw [call_action h, s.kept?_concat]
  split
  · exact h
  · split
    · exact h
    · exact slot?_enter_self (lt_size_of_slot? h) entry

/-- An action is for its terminal only. -/
theorem call_action_elsewhere {t : Nat} {slot : Option Action} (h : block.slot? t = some slot) :
    (∀ u, t ≠ u → (block.call s (.action t entry discarded)).1.slot? u = block.slot? u) ∧
    (block.call s (.action t entry discarded)).1.gotos = block.gotos ∧
    (block.call s (.action t entry discarded)).1.fallback = block.fallback := by
  rw [call_action h]
  split
  · exact ⟨fun _ _ => rfl, rfl, rfl⟩
  · split
    · exact ⟨fun _ _ => rfl, rfl, rfl⟩
    · exact ⟨fun _ hu => slot?_enter_ne hu entry, rfl, rfl⟩

theorem call_fallback (h : block.fallback = s.kept? entries) :
    (block.call s (.fallback entry discarded)).1 =
      { block with fallback := s.kept? (entries ++ [(entry, discarded)]) } := by
  rw [s.kept?_concat, ← h, call, recordFallback]
  split
  · rfl
  · split <;> rfl

end OneCall

theorem call_goto {n : Nat} (hn : n < block.gotos.size) (target : Nat) :
    block.call s (.goto n target) =
      ({ block with gotos := block.gotos.setIfInBounds n (some target) }, none) :=
  if_pos hn

theorem Fits.call {t n : Nat} (h : block.Fits t n) (s : Strictness) (c : Call) :
    (block.call s c).1.Fits t n := by
  cases c with
  | action terminal entry discarded => exact h.recordAction ..
  | fallback entry discarded => exact h.recordFallback ..
  | goto nonterminal target => exact h.recordGoto ..

variable {t n : Nat} {calls : List Call}

theorem holds_empty (s : Strictness) (t n : Nat) : (Block.empty t n).Holds s t n [] where
  fits := fits_empty t n
  slots u hu := by
    rw [slot?_empty hu]
    cases s <;> rfl
  gotos u hu := by simp [Block.empty, hu]
  fallback := by cases s <;> rfl

/-- **One call**, refused or not, leaves in each place what counts among the calls. -/
theorem Holds.call (h : block.Holds s t n calls) {c : Call} (hc : c.Within t n) :
    (block.call s c).1.Holds s t n (calls ++ [c]) := by
  cases c with
  | action u entry discarded =>
    obtain ⟨hslots, hgotos, hfallback⟩ :=
      call_action_elsewhere (s := s) entry discarded (h.slots u hc)
    refine { fits := h.fits.call s _, slots := fun v hv => ?_, gotos := fun v hv => ?_,
             fallback := ?_ }
    · rw [filterMap_concat]
      by_cases huv : u = v
      · subst huv
        rw [slot?_call_action entry discarded (h.slots u hc)]
        simp [Call.onTerminal?]
      · rw [hslots v huv, h.slots v hv]
        simp [Call.onTerminal?, huv]
    · rw [hgotos, h.gotos v hv, filterMap_concat]
      simp [Call.onNonterminal?]
    · rw [hfallback, h.fallback, filterMap_concat]
      simp [Call.onRest?]
  | fallback entry discarded =>
    have hfits := h.fits.call s (.fallback entry discarded)
    rw [call_fallback entry discarded h.fallback] at hfits ⊢
    refine { fits := hfits, slots := fun v hv => ?_, gotos := fun v hv => ?_, fallback := ?_ }
    · rw [slot?_withFallback, h.slots v hv, filterMap_concat]
      simp [Call.onTerminal?]
    · rw [h.gotos v hv, filterMap_concat]
      simp [Call.onNonterminal?]
    · rw [filterMap_concat]
      simp [Call.onRest?]
  | goto u target =>
    have hu : u < block.gotos.size := h.fits.2.symm ▸ hc
    have hfits := h.fits.call s (.goto u target)
    rw [call_goto hu] at hfits ⊢
    refine { fits := hfits, slots := fun v hv => ?_, gotos := fun v hv => ?_, fallback := ?_ }
    · rw [slot?_withGotos, h.slots v hv, filterMap_concat]
      simp [Call.onTerminal?]
    · rw [filterMap_concat]
      by_cases huv : u = v
      · subst huv
        rw [Array.getElem?_setIfInBounds_self_of_lt hu]
        simp [Call.onNonterminal?]
      · rw [Array.getElem?_setIfInBounds_ne huv, h.gotos v hv]
        simp [Call.onNonterminal?, huv]
    · rw [h.fallback, filterMap_concat]
      simp [Call.onRest?]

/-- **A call is refused** if the row is strict, the entry counts, and one that counts was there for
the same slot. -/
theorem Holds.call_duplicate_iff (h : block.Holds s t n calls) {c : Call} (hc : c.Within t n) :
    (block.call s c).2 = some .duplicate ↔ s = .strict ∧ ∃ earlier ∈ calls, earlier.Clashes c := by
  cases c with
  | action u entry discarded =>
    have hrefused : (block.call s (.action u entry discarded)).2 = some .duplicate ↔ s = .strict ∧
        discarded = false ∧ s.kept? (calls.filterMap (Call.onTerminal? u)) ≠ none := by
      rw [call_action (h.slots u hc), Strictness.refused_iff, Option.ne_none_iff_isSome]
    rw [hrefused]
    refine and_congr_right fun hs => ?_
    subst hs
    simp only [Strictness.kept?_strict_ne_none_iff, List.mem_filterMap, Call.onTerminal?_eq_counted,
      Call.clashes_action_iff]
    grind
  | fallback entry discarded =>
    have hrefused : (block.call s (.fallback entry discarded)).2 = some .duplicate ↔ s = .strict ∧
        discarded = false ∧ s.kept? (calls.filterMap Call.onRest?) ≠ none := by
      rw [Block.call, recordFallback, h.fallback, Strictness.refused_iff,
        Option.ne_none_iff_isSome]
    rw [hrefused]
    refine and_congr_right fun hs => ?_
    subst hs
    simp only [Strictness.kept?_strict_ne_none_iff, List.mem_filterMap, Call.onRest?_eq_counted,
      Call.clashes_fallback_iff]
    grind
  | goto u target =>
    rw [call_goto (h.fits.2.symm ▸ hc)]
    refine iff_of_false (by simp) ?_
    rintro ⟨-, earlier, -, hclash⟩
    exact earlier.not_clashes_goto u target hclash

/-- Closing the row gives the terminals without an entry the one for all others. -/
theorem Holds.close (h : block.Holds s t n calls) : block.close = Row.ofCalls s t n calls := by
  have hactions : block.close.actions = (Row.ofCalls s t n calls).actions := by
    apply Array.ext_getElem?
    intro u
    by_cases hu : u < t
    · rw [getElem?_close, h.slots u hu, rest, h.fallback]
      simp [Row.ofCalls, hu, Option.getD_or]
    · have hsize : block.close.actions.size ≤ u := by
        rw [size_actions_close, h.fits.1]
        omega
      rw [Array.getElem?_eq_none hsize]
      simp [Row.ofCalls, hu]
  have hgotos : block.close.gotos = (Row.ofCalls s t n calls).gotos := by
    apply Array.ext_getElem?
    intro u
    show block.gotos[u]? = _
    by_cases hu : u < n
    · rw [h.gotos u hu]
      simp [Row.ofCalls, hu]
    · rw [Array.getElem?_eq_none (by rw [h.fits.2]; omega)]
      simp [Row.ofCalls, hu]
  have hfallback : block.close.fallback = (Row.ofCalls s t n calls).fallback := h.fallback
  calc block.close = ⟨block.close.actions, block.close.gotos, block.close.fallback⟩ := rfl
    _ = Row.ofCalls s t n calls := by rw [hactions, hgotos, hfallback]

end Block

/-! ### Builders -/

namespace Builder

/-- What a builder can be asked to do. -/
inductive Operation where
  /-- Open the next row. -/
  | beginState
  | record (c : Call)

/-- The builder after an operation, which may be refused. -/
def perform (b : Builder) : Operation → Builder
  | .beginState => b.beginState
  | .record c => (b.call c).1

/-- The builder after some operations, any of which may be refused. -/
def performEach (b : Builder) : List Operation → Builder
  | [] => b
  | operation :: rest => (b.perform operation).performEach rest

/-- The calls up to the first opening of a row, and those of each row. -/
def Operation.cut : List Operation → List Call × List (List Call)
  | [] => ([], [])
  | .beginState :: rest => ([], (cut rest).1 :: (cut rest).2)
  | .record c :: rest => (c :: (cut rest).1, (cut rest).2)

/-- The calls of each row: those between its opening and the next one. -/
def Operation.rows (operations : List Operation) : List (List Call) := (cut operations).2

theorem Operation.rows_eq_nil {operations : List Operation} (h : .beginState ∉ operations) :
    rows operations = [] := by
  induction operations with
  | nil => rfl
  | cons operation rest ih =>
    cases operation with
    | beginState => exact absurd (List.mem_cons_self ..) h
    | record c => exact ih fun hmem => h (List.mem_cons_of_mem _ hmem)

/-- A builder was made by the calls of each row. -/
inductive Built (s : Strictness) (t n : Nat) : List (List Call) → Builder → Prop where
  | empty : Built s t n [] (Builder.empty s t n)
  | opened {done : List (List Call)} {calls : List Call} {block : Block} :
      block.Holds s t n calls → Built s t n (done ++ [calls])
        ⟨s, t, n, (done.map (Row.ofCalls s t n)).toArray, some block⟩

variable {s : Strictness} {t n : Nat} {b : Builder}

theorem Built.closed {rows : List (List Call)} (h : Built s t n rows b) :
    b.closed = (rows.map (Row.ofCalls s t n)).toArray := by
  cases h with
  | empty => rfl
  | opened hblock =>
    show Array.push _ _ = _
    rw [hblock.close]
    simp

/-- Opening a row finishes the one that is open. -/
theorem Built.beginState {rows : List (List Call)} (h : Built s t n rows b) :
    Built s t n (rows ++ [[]]) b.beginState := by
  have hnext := @Built.opened s t n rows _ _ (Block.holds_empty s t n)
  rw [← h.closed] at hnext
  cases h <;> exact hnext

/-- The last row is open. -/
theorem Built.exists_block {done : List (List Call)} {calls : List Call}
    (h : Built s t n (done ++ [calls]) b) : ∃ block, block.Holds s t n calls ∧
      b = ⟨s, t, n, (done.map (Row.ofCalls s t n)).toArray, some block⟩ := by
  generalize hrows : done ++ [calls] = rows at h
  cases h with
  | empty => exact absurd hrows (by simp)
  | @opened done' calls' block hblock =>
    obtain ⟨rfl, hcalls⟩ := List.append_inj' hrows rfl
    obtain rfl := List.singleton_inj.1 hcalls
    exact ⟨block, hblock, rfl⟩

/-- A call is taken by the open row. -/
theorem Built.record {done : List (List Call)} {calls : List Call}
    (h : Built s t n (done ++ [calls]) b) {c : Call} (hc : c.Within t n) :
    Built s t n (done ++ [calls ++ [c]]) (b.perform (.record c)) := by
  obtain ⟨block, hblock, rfl⟩ := h.exists_block
  rw [perform, call_eq rfl]
  exact .opened (hblock.call hc)

/-- Outside of any row a call has no effect. -/
theorem Built.eq_empty (h : Built s t n [] b) : b = Builder.empty s t n := by
  generalize hrows : ([] : List (List Call)) = rows at h
  cases h with
  | empty => rfl
  | opened _ => exact absurd hrows (by simp)

theorem call_empty (s : Strictness) (t n : Nat) (c : Call) :
    (Builder.empty s t n).call c = (Builder.empty s t n, none) :=
  call_of_none rfl c

/-- A row that is open grows up to the next opening. -/
theorem Built.performEach {done : List (List Call)} {calls : List Call}
    (h : Built s t n (done ++ [calls]) b) {operations : List Operation}
    (hwithin : ∀ c, .record c ∈ operations → c.Within t n) :
    Built s t n (done ++ (calls ++ (Operation.cut operations).1) :: (Operation.cut operations).2)
      (b.performEach operations) := by
  induction operations generalizing done calls b with
  | nil => simpa [Operation.cut, Builder.performEach] using h
  | cons operation rest ih =>
    have hrest : ∀ c, .record c ∈ rest → c.Within t n := fun c hc =>
      hwithin c (List.mem_cons_of_mem _ hc)
    cases operation with
    | beginState =>
      show Built s t n _ (b.beginState.performEach rest)
      simpa [Operation.cut] using ih h.beginState hrest
    | record c =>
      have hnext := h.record (hwithin c (List.mem_cons_self ..))
      simpa [Operation.cut, Builder.performEach] using ih hnext hrest

/-- Calls before the first opening are in no row. -/
theorem built_performEach (s : Strictness) {t n : Nat} {operations : List Operation}
    (hwithin : ∀ c, .record c ∈ operations → c.Within t n) :
    Built s t n (Operation.rows operations) ((Builder.empty s t n).performEach operations) := by
  induction operations with
  | nil => exact .empty
  | cons operation rest ih =>
    have hrest : ∀ c, .record c ∈ rest → c.Within t n := fun c hc =>
      hwithin c (List.mem_cons_of_mem _ hc)
    cases operation with
    | beginState =>
      have hopened : Built s t n ([] ++ [[]]) ((Builder.empty s t n).perform .beginState) :=
        Built.empty.beginState
      simpa [Operation.rows, Operation.cut, Builder.performEach] using hopened.performEach hrest
    | record c =>
      have hsame : (Builder.empty s t n).perform (.record c) = Builder.empty s t n := by
        rw [perform, call_empty]
      show Built s t n (Operation.rows rest)
        (((Builder.empty s t n).perform (.record c)).performEach rest)
      rw [hsame]
      exact ih hrest

/-- **What a builder makes of any operations**, refused calls included. Each row is made by the
calls between its opening and the next one. The next call is refused just if the builder is strict,
a row is open and the call is a second entry that counts for a slot of it. Before the first
opening nothing is refused and nothing recorded. -/
theorem rows_performEach (s : Strictness) {t n : Nat} {operations : List Operation}
    (hwithin : ∀ c, .record c ∈ operations → c.Within t n) :
    ((Builder.empty s t n).performEach operations).finish.rows.toList =
      (Operation.rows operations).map (Row.ofCalls s t n) ∧
    (∀ c : Call, c.Within t n →
      ((((Builder.empty s t n).performEach operations).call c).2 = some .duplicate ↔
        s = .strict ∧ ∃ calls, (Operation.rows operations).getLast? = some calls ∧
          ∃ earlier ∈ calls, earlier.Clashes c) ∧
      (((Builder.empty s t n).performEach operations).call c).2 ≠ some .outOfRange) ∧
    (.beginState ∉ operations →
      (Builder.empty s t n).performEach operations = Builder.empty s t n ∧
      ∀ c, (Builder.empty s t n).call c = (Builder.empty s t n, none)) := by
  have hbuilt := built_performEach s hwithin
  have hnone : .beginState ∉ operations → Operation.rows operations = [] :=
    Operation.rows_eq_nil
  generalize (Builder.empty s t n).performEach operations = b at hbuilt ⊢
  generalize Operation.rows operations = rows at hbuilt hnone ⊢
  refine ⟨congrArg Array.toList hbuilt.closed, fun c hc => ?_, fun h => ?_⟩
  · rcases List.eq_nil_or_concat' rows with rfl | ⟨done, calls, rfl⟩
    · obtain rfl := hbuilt.eq_empty
      rw [call_empty]
      exact ⟨iff_of_false nofun (by simp), nofun⟩
    · obtain ⟨block, hblock, rfl⟩ := hbuilt.exists_block
      have hduplicate := hblock.call_duplicate_iff hc
      have hrange := Block.call_ne_outOfRange hblock.fits hc s
      rw [call_eq rfl, List.getLast?_concat, hduplicate]
      exact ⟨by simp, hrange⟩
  · obtain rfl := hnone h
    exact ⟨hbuilt.eq_empty, call_empty s t n⟩

/-- An entry before the first row, then for one terminal a discarded entry, two that count and one
for all others in between. -/
def mixedOperations : List Operation :=
  [.record (.action 0 .accept false), .beginState, .record (.fallback (.reduce 1) true),
    .record (.action 0 (.shift 1) true), .record (.action 0 .error false),
    .record (.fallback (.reduce 2) false), .record (.action 0 .accept false),
    .record (.goto 0 1), .record (.goto 0 2), .beginState]

theorem rows_performEach_mixed :
    (∀ c, .record c ∈ mixedOperations → c.Within 2 1) ∧
    ((Builder.empty .strict 2 1).performEach mixedOperations).finish.rows.toList.map
      (fun row => row.actions.toList) = [[.error, .reduce 2], [.error, .error]] ∧
    ((Builder.empty .legacy 2 1).performEach mixedOperations).finish.rows.toList.map
      (fun row => row.actions.toList) = [[.accept, .reduce 2], [.error, .error]] ∧
    (((Builder.empty .strict 2 1).performEach mixedOperations).call (.action 0 .accept false)).2 ≠
      some .duplicate := by
  have hwithin : ∀ c, .record c ∈ mixedOperations → c.Within 2 1 := by
    intro c hc
    simp only [mixedOperations, List.mem_cons, List.not_mem_nil, Operation.record.injEq,
      reduceCtorEq, false_or, or_false] at hc
    rcases hc with rfl | rfl | rfl | rfl | rfl | rfl | rfl | rfl <;> simp [Call.Within]
  obtain ⟨hstrict, hcalls, -⟩ := rows_performEach .strict hwithin
  obtain ⟨hlegacy, -⟩ := rows_performEach .legacy hwithin
  obtain ⟨hduplicate, -⟩ := hcalls (.action 0 .accept false) (by simp [Call.Within])
  refine ⟨hwithin, ?_, ?_, fun h => ?_⟩
  · rw [hstrict]
    decide
  · rw [hlegacy]
    decide
  · obtain ⟨-, calls, hlast, earlier, hmem, -⟩ := hduplicate.1 h
    obtain rfl : [] = calls := Option.some.inj hlast
    exact absurd hmem List.not_mem_nil

end Builder
end ParserTables
