import ParserTables.Proofs.Report.Strictness

/-! The order of the calls on a strict row.

A row takes a call if it is free for it (`Block.Free`), and then the call is put in its place
(`Block.put`). A call leaves every place free but its own, and the order of two calls does not
matter unless they are for the same goto: there the last one wins (`Block.take?_comm`). -/
namespace ParserTables

/-! ### Calls that meet -/

namespace Call

/-- Two actions for one place: whichever comes second is refused. -/
def Clashes : Call → Call → Prop
  | .action t _ false, .action u _ false => t = u
  | .fallback _ false, .fallback _ false => True
  | _, _ => False

/-- Two gotos for one place: whichever comes second wins. -/
def Overwrites : Call → Call → Prop
  | .goto t _, .goto u _ => t = u
  | _, _ => False

theorem Clashes.symm {c d : Call} (h : c.Clashes d) : d.Clashes c := by
  unfold Clashes at h ⊢
  split at h
  · exact Eq.symm h
  · trivial
  · exact h.elim

theorem Overwrites.exists_goto {c d : Call} (h : c.Overwrites d) :
    ∃ t i j, c = .goto t i ∧ d = .goto t j := by
  unfold Overwrites at h
  split at h
  · subst h
    exact ⟨_, _, _, rfl, rfl⟩
  · exact h.elim

theorem Overwrites.symm {c d : Call} (h : c.Overwrites d) : d.Overwrites c := by
  obtain ⟨t, i, j, rfl, rfl⟩ := h.exists_goto
  exact Eq.refl t

end Call

/-! ### Strict rows -/

namespace Block

/-- A strict row has no entry yet where a call would record one. Discarded entries are not
recorded. -/
def Free (row : Block) : Call → Prop
  | .action t _ false => row.slot? t = some none
  | .fallback _ false => row.fallback = none
  | .goto t _ => t < row.gotos.size
  | .action _ _ true => True
  | .fallback _ true => True

/-- A row with the entry of a call. -/
def put (row : Block) : Call → Block
  | .action t entry false => row.enter t entry
  | .fallback entry false => { row with fallback := some entry }
  | .goto t target => { row with gotos := row.gotos.setIfInBounds t (some target) }
  | .action _ _ true => row
  | .fallback _ true => row

/-- A strict row after a call, unless the call is refused. -/
def take? (row : Block) (c : Call) : Option Block :=
  match row.call .strict c with
  | (after, none) => some after
  | (_, some _) => none

theorem take?_eq_some_iff {row after : Block} {c : Call} :
    row.take? c = some after ↔ row.Free c ∧ row.put c = after := by
  unfold take?
  cases c with
  | action t entry discarded =>
    cases discarded with
    | true => simp [call_strict_discarded_action, Free, put]
    | false =>
      by_cases ht : t < row.actions.size
      · obtain ⟨slot, hslot⟩ := exists_slot? ht
        rw [call_strict_action hslot]
        cases slot <;> simp [Free, put, hslot]
      · -- there is no such column, whether or not the call is a second one
        have hslot := slot?_eq_none (Nat.le_of_not_lt ht)
        rw [call, recordAction, if_neg (by simp [Strictness.drops]), if_neg ht]
        cases Strictness.strict.refuses (row.marked t) <;> simp [Free, hslot]
  | fallback entry discarded =>
    cases discarded with
    | true => simp [call_strict_discarded_fallback, Free, put]
    | false =>
      rw [call_strict_fallback]
      cases hslot : row.fallback <;> simp [Free, put, hslot]
  | goto t target =>
    rw [call, recordGoto]
    by_cases ht : t < row.gotos.size
    · simp [ht, Free, put]
    · simp [ht, Free]

/-- A call takes no place but its own. -/
theorem free_put_iff {row : Block} {c d : Call} (h : row.Free c) :
    (row.put c).Free d ↔ row.Free d ∧ ¬ c.Clashes d := by
  rcases c with ⟨t, entry, _ | _⟩ | ⟨entry, _ | _⟩ | ⟨t, target⟩ <;>
    rcases d with ⟨u, entry', _ | _⟩ | ⟨entry', _ | _⟩ | ⟨u, target'⟩ <;>
    simp [put, Free, Call.Clashes]
  -- two actions that count
  by_cases hu : t = u
  · subst hu
    simp [slot?_enter_self (lt_size_of_slot? h)]
  · simp [slot?_enter_ne hu, hu]

theorem put_comm (row : Block) {c d : Call} (hc : ¬ c.Clashes d) (ho : ¬ c.Overwrites d) :
    (row.put c).put d = (row.put d).put c := by
  rcases c with ⟨t, entry, _ | _⟩ | ⟨entry, _ | _⟩ | ⟨t, target⟩ <;>
    rcases d with ⟨u, entry', _ | _⟩ | ⟨entry', _ | _⟩ | ⟨u, target'⟩ <;>
    try rfl
  · exact enter_comm hc _ _
  · exact absurd trivial hc
  · exact congrArg (fun gotos => { row with gotos }) (Array.setIfInBounds_comm _ _ ho)

/-- **Two calls may be exchanged** unless they are for the same goto. -/
theorem take?_comm (row : Block) {c d : Call} (h : ¬ c.Overwrites d) :
    (row.take? c).bind (·.take? d) = (row.take? d).bind (·.take? c) := by
  -- in either order both must be free and not clash, and the entries end up in the same places
  have hone : ∀ {c d : Call} {after : Block}, ¬ c.Overwrites d →
      (row.take? c).bind (·.take? d) = some after →
      (row.take? d).bind (·.take? c) = some after := by
    intro c d after ho htake
    obtain ⟨row', hc, hd⟩ := Option.bind_eq_some_iff.1 htake
    obtain ⟨hfree, rfl⟩ := take?_eq_some_iff.1 hc
    obtain ⟨hfree', rfl⟩ := take?_eq_some_iff.1 hd
    obtain ⟨hd, hclash⟩ := (free_put_iff hfree).1 hfree'
    refine Option.bind_eq_some_iff.2 ⟨row.put d, take?_eq_some_iff.2 ⟨hd, rfl⟩, ?_⟩
    refine take?_eq_some_iff.2 ⟨(free_put_iff hd).2 ⟨hfree, fun hs => hclash hs.symm⟩, ?_⟩
    exact (row.put_comm hclash ho).symm
  exact Option.ext fun after => ⟨hone h, hone fun hs => h hs.symm⟩

end Block
end ParserTables
