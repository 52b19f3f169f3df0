import Mathlib.Data.List.Nodup
import ParserTables.Proofs.Report.Described
import ParserTables.Table.Builder

/-! What recording the entries of a description does to a builder.

`Description.builder` is the builder that holds some finished states and a part of the next
one. Each entry for a slot that is still free takes it to the builder with that entry
(`record_builder`), and opening the next state finishes the one that is open
(`beginState_builder`). -/
namespace ParserTables

/-! ### Entries -/

namespace Entry

/-- An entry for no terminal leaves the actions as they were. -/
theorem action?_append_other {e : Entry} (h : ∀ t, e.slot ≠ .terminal t) (entries : List Entry) :
    action? (entries ++ [e]) = action? entries := by
  funext t
  rw [action?, List.findSome?_append, action?]
  cases e with
  | action token a => exact absurd rfl (h token)
  | fallback a => exact Option.or_none
  | goto symbol target => exact Option.or_none

theorem action?_append_action (entries : List Entry) (token : Text) (a : Action) (t : Text) :
    action? (entries ++ [.action token a]) t =
      (action? entries t).or (if token = t then some a else none) := by
  rw [action?, List.findSome?_append, action?, List.findSome?_singleton]

theorem fallback?_append_other {e : Entry} (h : e.slot ≠ .rest) (entries : List Entry) :
    fallback? (entries ++ [e]) = fallback? entries := by
  rw [fallback?, List.findSome?_append, fallback?]
  cases e with
  | action token a => exact Option.or_none
  | fallback a => exact absurd rfl h
  | goto symbol target => exact Option.or_none

theorem fallback?_append_fallback (entries : List Entry) (a : Action) :
    fallback? (entries ++ [.fallback a]) = (fallback? entries).or (some a) := by
  rw [fallback?, List.findSome?_append, fallback?, List.findSome?_singleton]

/-- An entry for no nonterminal leaves the successors as they were. -/
theorem goto?_append_other {e : Entry} (h : ∀ n, e.slot ≠ .nonterminal n) (entries : List Entry) :
    goto? (entries ++ [e]) = goto? entries := by
  funext n
  rw [goto?, List.findSome?_append, goto?]
  cases e with
  | action token a => exact Option.or_none
  | fallback a => exact Option.or_none
  | goto symbol target => exact absurd rfl (h symbol)

theorem goto?_append_goto (entries : List Entry) (symbol : Text) (target : Nat) (n : Text) :
    goto? (entries ++ [.goto symbol target]) n =
      (goto? entries n).or (if symbol = n then some target else none) := by
  rw [goto?, List.findSome?_append, goto?, List.findSome?_singleton]

theorem action?_eq_none {entries : List Entry} {t : Text}
    (h : .terminal t ∉ entries.map slot) : action? entries t = none := by
  rw [action?, List.findSome?_eq_none_iff]
  intro e he
  cases e with
  | action token a =>
    have : token ≠ t := fun ht => h (List.mem_map.2 ⟨_, he, by rw [slot, ht]⟩)
    exact if_neg this
  | fallback a => rfl
  | goto symbol target => rfl

theorem goto?_eq_none {entries : List Entry} {n : Text}
    (h : .nonterminal n ∉ entries.map slot) : goto? entries n = none := by
  rw [goto?, List.findSome?_eq_none_iff]
  intro e he
  cases e with
  | action token a => rfl
  | fallback a => rfl
  | goto symbol target =>
    have : symbol ≠ n := fun hn => h (List.mem_map.2 ⟨_, he, by rw [slot, hn]⟩)
    exact if_neg this

theorem fallback?_eq_none {entries : List Entry} (h : .rest ∉ entries.map slot) :
    fallback? entries = none := by
  rw [fallback?, List.findSome?_eq_none_iff]
  intro e he
  cases e with
  | action token a => rfl
  | fallback a => exact absurd (List.mem_map.2 ⟨_, he, rfl⟩) h
  | goto symbol target => rfl

end Entry

namespace Description
variable (d : Description)

/-! ### Blocks -/

/-- The open row that holds some entries. -/
def block (entries : List Entry) : Block where
  actions := (d.terminals.map fun t => (Entry.action? entries t).getD .error).toArray
  explicit := (d.terminals.map fun t => (Entry.action? entries t).isSome).toArray
  size_explicit := by simp
  gotos := (d.nonterminals.map (Entry.goto? entries)).toArray
  fallback := Entry.fallback? entries

theorem slot?_block (entries : List Entry) (i : Nat) :
    (d.block entries).slot? i = d.terminals[i]?.map (Entry.action? entries) := by
  simp only [Block.slot?, Block.marked, block, List.getElem?_toArray, List.getElem?_map]
  cases d.terminals[i]? with
  | none => rfl
  | some t => cases h : Entry.action? entries t <;> simp [h]

theorem close_block (entries : List Entry) : (d.block entries).close = d.row entries := by
  have hactions : (d.block entries).close.actions = (d.row entries).actions := by
    apply Array.ext_getElem?
    intro i
    rw [Block.getElem?_close, slot?_block, Option.map_map, row, List.getElem?_toArray,
      List.getElem?_map]
    rfl
  calc (d.block entries).close
      = ⟨(d.block entries).close.actions, (d.row entries).gotos, (d.row entries).fallback⟩ := rfl
    _ = d.row entries := by rw [hactions]

theorem block_nil : d.block [] = .empty d.terminals.length d.nonterminals.length := by
  apply Block.ext
  · exact congrArg List.toArray List.map_const'
  · exact congrArg List.toArray List.map_const'
  · exact congrArg List.toArray List.map_const'
  · rfl

/-- Setting what is kept for a name of a list without repetitions changes nothing else. -/
theorem setIfInBounds_map {α : Type} {names : List Text} (hn : names.Nodup) {i : Nat} {name : Text}
    (hi : names[i]? = some name) (f : Text → α) (v : α) :
    (names.map f).toArray.setIfInBounds i v = (names.map (Function.update f name v)).toArray := by
  obtain ⟨hlt, rfl⟩ := List.getElem?_eq_some_iff.1 hi
  rw [List.setIfInBounds_toArray]
  congr 1
  apply List.ext_getElem
  · simp
  · intro j h₁ h₂
    rw [List.getElem_set, List.getElem_map, List.getElem_map]
    by_cases hj : i = j
    · subst hj
      simp
    · have hjlt : j < names.length := by simpa using h₂
      have : names[j] ≠ names[i] := fun he => hj (hn.getElem_inj_iff.1 he).symm
      simp [hj, this]

/-! ### Builders -/

/-- The builder that holds some finished states and some entries of the next one. -/
def builder (done : List (List Entry)) (entries : List Entry) : Builder where
  strictness := .strict
  terminals := d.terminals.length
  nonterminals := d.nonterminals.length
  rows := (done.map d.row).toArray
  block := some (d.block entries)

theorem nextState_builder {done : List (List Entry)} (entries : List Entry)
    (h : done.length + 1 < idCount) : (d.builder done entries).nextState = done.length + 1 := by
  rw [Builder.nextState]
  simpa [builder] using idOf_of_lt h

theorem beginState_empty :
    (Builder.empty .strict d.terminals.length d.nonterminals.length).beginState =
      d.builder [] [] := by
  simp [Builder.beginState, Builder.empty, Builder.closed, builder, block_nil]

/-- Opening the next state finishes the one that is open. -/
theorem beginState_builder (done : List (List Entry)) (entries : List Entry) :
    (d.builder done entries).beginState = d.builder (done ++ [entries]) [] := by
  simp [Builder.beginState, Builder.closed, builder, block_nil, close_block]

theorem finish_builder (done : List (List Entry)) (entries : List Entry) :
    (d.builder done entries).finish.rows.toList = (done ++ [entries]).map d.row := by
  simp [Builder.finish, Builder.closed, builder, close_block]

variable {d} {done : List (List Entry)} {entries : List Entry}

/-! ### Entries for free slots -/

/-- What an entry makes of the open row it makes of the builder. -/
theorem record_builder {entry : Block → Block × Option EntryError} {entries' : List Entry}
    (h : entry (d.block entries) = (d.block entries', none)) :
    (d.builder done entries).record entry = (d.builder done entries', none) := by
  simp only [Builder.record, builder, h]

/-- An action on a terminal without an entry is entered for it. -/
theorem enter_block {i : Nat} {t : Text} (hi : d.terminals[i]? = some t) (a : Action)
    (hfree : .terminal t ∉ entries.map Entry.slot) :
    (d.block entries).enter i a = d.block (entries ++ [.action t a]) := by
  have hupdate : Entry.action? (entries ++ [.action t a]) =
      Function.update (Entry.action? entries) t (some a) := by
    funext u
    rw [Entry.action?_append_action]
    by_cases hu : u = t
    · subst hu
      simp [Entry.action?_eq_none hfree]
    · simp [hu, Ne.symm hu]
  have hset : ∀ {α : Type} (f : Option Action → α),
      (d.terminals.map (f ∘ Entry.action? entries)).toArray.setIfInBounds i (f (some a)) =
        (d.terminals.map (f ∘ Entry.action? (entries ++ [.action t a]))).toArray := by
    intro α f
    rw [setIfInBounds_map d.terminals_nodup hi, hupdate, Function.comp_update]
  apply Block.ext
  · exact hset (·.getD .error)
  · exact hset Option.isSome
  · rw [Block.gotos_enter, block, block, Entry.goto?_append_other (e := .action t a) fun _ => nofun]
  · rw [Block.fallback_enter, block, block, Entry.fallback?_append_other (e := .action t a) nofun]

theorem action_builder {i : Nat} {t : Text} (hi : d.terminals[i]? = some t) (a : Action)
    (hfree : .terminal t ∉ entries.map Entry.slot) :
    (d.builder done entries).action i a false =
      (d.builder done (entries ++ [.action t a]), none) := by
  have hslot : (d.block entries).slot? i = some none := by
    rw [slot?_block, hi, Option.map_some, Entry.action?_eq_none hfree]
  have hmarked : (d.block entries).marked i = false := Block.marked_of_slot? hslot
  have hlt := Block.lt_size_of_slot? hslot
  have hrecord : (d.block entries).recordAction .strict i a false =
      ((d.block entries).enter i a, none) := by
    rw [Block.recordAction, hmarked, if_pos hlt]
    rfl
  exact record_builder (hrecord.trans (by rw [enter_block hi a hfree]))

theorem fallback_builder (a : Action) (hfree : .rest ∉ entries.map Entry.slot) :
    (d.builder done entries).fallback a false =
      (d.builder done (entries ++ [.fallback a]), none) := by
  have hslot : (d.block entries).fallback = none := Entry.fallback?_eq_none hfree
  have hset : Entry.fallback? (entries ++ [.fallback a]) = some a := by
    rw [Entry.fallback?_append_fallback, Entry.fallback?_eq_none hfree, Option.none_or]
  have hactions := Entry.action?_append_other (e := .fallback a) (fun _ => nofun) entries
  have hgotos := Entry.goto?_append_other (e := .fallback a) (fun _ => nofun) entries
  have hrecord : (d.block entries).recordFallback .strict a false =
      (d.block (entries ++ [.fallback a]), none) := by
    rw [Block.recordFallback, hslot]
    simp [Strictness.drops, Strictness.refuses, block, hset, hactions, hgotos]
  exact record_builder hrecord

theorem goto_builder {i : Nat} {n : Text} (hi : d.nonterminals[i]? = some n) (target : Nat)
    (hfree : .nonterminal n ∉ entries.map Entry.slot) :
    (d.builder done entries).goto i target =
      (d.builder done (entries ++ [.goto n target]), none) := by
  have hnone := Entry.goto?_eq_none hfree
  have hlt : i < (d.block entries).gotos.size := by
    simpa [block] using (List.getElem?_eq_some_iff.1 hi).1
  have hupdate : Entry.goto? (entries ++ [.goto n target]) =
      Function.update (Entry.goto? entries) n (some target) := by
    funext u
    rw [Entry.goto?_append_goto]
    by_cases hu : u = n
    · subst hu
      simp [hnone]
    · simp [hu, Ne.symm hu]
  have hset : (d.block entries).gotos.setIfInBounds i (some target) =
      (d.block (entries ++ [.goto n target])).gotos := by
    rw [block, setIfInBounds_map d.nonterminals_nodup hi, block, hupdate]
  have hactions := Entry.action?_append_other (e := .goto n target) (by simp [Entry.slot])
    entries
  have hfallback := Entry.fallback?_append_other (e := .goto n target) (by simp [Entry.slot])
    entries
  have hrecord : (d.block entries).recordGoto i target =
      (d.block (entries ++ [.goto n target]), none) := by
    rw [Block.recordGoto, if_pos hlt, hset]
    simp [block, hactions, hfallback]
  exact record_builder hrecord

end Description
end ParserTables
