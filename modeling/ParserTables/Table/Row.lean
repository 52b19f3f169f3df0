import ParserTables.Table.Action

/-! The rows of a parse table.

A row has an action for every terminal and at most one successor for every nonterminal. While its
block is being read, the terminals with an entry of their own are marked beside the actions, and
closing the block gives all others the fallback action (`getElem?_close`). `Block.slot?` says what
was recorded for a terminal. Marking a terminal a second time changes nothing
(`Block.mark_of_marked`). -/
namespace ParserTables

/-- One state of the parser. -/
structure Row where
  /-- What to do, by terminal. -/
  actions : Array Action
  /-- Where to go after a reduction, by nonterminal. -/
  gotos : Array (Option Nat)
  /-- The action listed for all other terminals, if any. -/
  fallback : Option Action

/-- A row that is being read. -/
@[ext] structure Block where
  /-- What was recorded so far, by terminal; nothing that counts where no entry is marked. -/
  actions : Array Action
  /-- Which terminals have an entry of their own. -/
  explicit : Array Bool
  size_explicit : explicit.size = actions.size
  gotos : Array (Option Nat)
  fallback : Option Action

namespace Block

/-- A block with nothing recorded. -/
def empty (terminals nonterminals : Nat) : Block where
  actions := Array.replicate terminals .error
  explicit := Array.replicate terminals false
  size_explicit := by simp
  gotos := Array.replicate nonterminals none
  fallback := none

/-- Has the terminal an entry of its own? -/
def marked (b : Block) (t : Nat) : Bool := b.explicit[t]?.getD false

/-- Mark that the terminal has an entry of its own. -/
def mark (b : Block) (t : Nat) : Block :=
  { b with
    explicit := b.explicit.setIfInBounds t true
    size_explicit := by simpa using b.size_explicit }

/-- Mark that the terminal has an entry of its own, and write the entry. -/
def enter (b : Block) (t : Nat) (entry : Action) : Block :=
  { b.mark t with
    actions := b.actions.setIfInBounds t entry
    size_explicit := by
      rw [Array.size_setIfInBounds]
      exact (b.mark t).size_explicit }

/-- The action of the terminals that have none of their own. -/
def rest (b : Block) : Action := b.fallback.getD .error

/-- The row of a block to which nothing will be added. -/
def close (b : Block) : Row where
  actions := b.actions.mapIdx fun t entry => if b.marked t then entry else b.rest
  gotos := b.gotos
  fallback := b.fallback

/-! ### Slots -/

/-- What was recorded for a terminal, if there is a column for it. -/
def slot? (b : Block) (t : Nat) : Option (Option Action) :=
  b.actions[t]?.map fun entry => if b.marked t then some entry else none

variable {b : Block} {t : Nat}

theorem exists_slot? (h : t < b.actions.size) : ∃ slot, b.slot? t = some slot :=
  ⟨_, by rw [slot?, Array.getElem?_eq_getElem h, Option.map_some]⟩

theorem slot?_eq_none (h : b.actions.size ≤ t) : b.slot? t = none := by
  rw [slot?, Array.getElem?_eq_none h, Option.map_none]

theorem lt_size_of_slot? {slot : Option Action} (h : b.slot? t = some slot) :
    t < b.actions.size := by
  obtain ⟨entry, hentry, -⟩ := Option.map_eq_some_iff.1 h
  exact (Array.getElem?_eq_some_iff.1 hentry).1

/-- The terminals that are marked are those for which something was recorded. -/
theorem marked_of_slot? {slot : Option Action} (h : b.slot? t = some slot) :
    b.marked t = slot.isSome := by
  obtain ⟨entry, -, rfl⟩ := Option.map_eq_some_iff.1 h
  cases b.marked t <;> rfl

theorem slot?_empty {terminals : Nat} (h : t < terminals) (nonterminals : Nat) :
    (empty terminals nonterminals).slot? t = some none := by
  simp [slot?, empty, marked, h]

theorem slot?_enter_self (h : t < b.actions.size) (entry : Action) :
    (b.enter t entry).slot? t = some (some entry) := by
  have hexplicit : t < b.explicit.size := b.size_explicit.symm ▸ h
  simp [slot?, enter, mark, marked, h, hexplicit]

theorem slot?_enter_ne {u : Nat} (h : t ≠ u) (entry : Action) :
    (b.enter t entry).slot? u = b.slot? u := by
  have hactions : (b.enter t entry).actions[u]? = b.actions[u]? := Array.getElem?_setIfInBounds_ne h
  have hmarked : (b.enter t entry).marked u = b.marked u :=
    congrArg (·.getD false) (Array.getElem?_setIfInBounds_ne h)
  rw [slot?, slot?, hactions, hmarked]

@[simp] theorem size_actions_enter (entry : Action) :
    (b.enter t entry).actions.size = b.actions.size := by
  simp [enter]

@[simp] theorem gotos_enter (entry : Action) : (b.enter t entry).gotos = b.gotos := rfl

@[simp] theorem fallback_enter (entry : Action) : (b.enter t entry).fallback = b.fallback := rfl

@[simp] theorem slot?_withGotos (gotos : Array (Option Nat)) (t : Nat) :
    { b with gotos := gotos }.slot? t = b.slot? t := rfl

@[simp] theorem slot?_withFallback (fallback : Option Action) (t : Nat) :
    { b with fallback := fallback }.slot? t = b.slot? t := rfl

/-- Entries for two terminals do not meet. -/
theorem enter_comm {u : Nat} (h : t ≠ u) (entry entry' : Action) :
    (b.enter t entry).enter u entry' = (b.enter u entry').enter t entry :=
  Block.ext (Array.setIfInBounds_comm _ _ h) (Array.setIfInBounds_comm _ _ h) rfl rfl

/-! ### Marking in vain -/

theorem mark_of_marked (h : b.marked t = true) : b.mark t = b := by
  have hset : b.explicit.setIfInBounds t true = b.explicit := by
    apply Array.ext_getElem?
    intro u
    by_cases hu : t = u
    · subst hu
      cases hold : b.explicit[t]? with
      | none => simpa using hold
      | some old =>
        obtain rfl : old = true := by simpa [marked, hold] using h
        simp [(Array.getElem?_eq_some_iff.1 hold).1]
    · rw [Array.getElem?_setIfInBounds_ne hu]
  exact Block.ext rfl hset rfl rfl

theorem mark_of_size_le (h : b.actions.size ≤ t) : b.mark t = b :=
  Block.ext rfl (Array.setIfInBounds_eq_of_size_le (b.size_explicit.symm ▸ h)) rfl rfl

/-! ### Closing -/

theorem size_actions_close (b : Block) : b.close.actions.size = b.actions.size := by
  simp [close]

theorem getElem?_close (b : Block) (t : Nat) :
    b.close.actions[t]? = (b.slot? t).map (·.getD b.rest) := by
  rw [close, slot?, Array.getElem?_mapIdx, Option.map_map]
  congr 1
  funext entry
  cases b.marked t <;> simp

end Block
end ParserTables
