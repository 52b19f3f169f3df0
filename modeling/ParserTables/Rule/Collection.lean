import ParserTables.Rule.Basic
import Std.Data.TreeMap

/-! The rules of a grammar.

A `RuleSet` holds at most one rule of each number and lists them in ascending order.
Numbers need not be consecutive: a report may skip some. `get?_insert` says what
inserting does to look-up, and `insert_refused` that a rule whose number is taken is not
inserted; `pairwise_toList` and `mem_toList_iff` say what is listed. -/
namespace ParserTables

/-- Rules by number. -/
structure RuleSet where
  byNumber : Std.TreeMap Nat Rule
  number_eq : ∀ (n : Nat) (r : Rule), byNumber[n]? = some r → r.number = n

namespace RuleSet

def empty : RuleSet where
  byNumber := ∅
  number_eq := by simp

/-- The number of rules. -/
def size (s : RuleSet) : Nat := s.byNumber.size

/-- The rule with a number. -/
def get? (s : RuleSet) (number : Nat) : Option Rule := s.byNumber[number]?

/-- Is there a rule with this number? -/
def contains (s : RuleSet) (number : Nat) : Bool := (s.get? number).isSome

/-- The rules, in ascending order of their numbers. -/
def toList (s : RuleSet) : List Rule := s.byNumber.toList.map Prod.snd

/-- Add a rule, or hand it back if its number is taken. -/
def insert (s : RuleSet) (r : Rule) : RuleSet × Option Rule :=
  if s.contains r.number then (s, some r)
  else
    ({ byNumber := s.byNumber.insert r.number r
       number_eq := by
        intro n other h
        rw [Std.TreeMap.getElem?_insert] at h
        split at h
        · rename_i hn
          rw [← Option.some.inj h]
          exact Std.LawfulEqCmp.eq_of_compare hn
        · exact s.number_eq n other h }, none)

theorem insert_accepted_iff {s : RuleSet} {r : Rule} :
    (s.insert r).2 = none ↔ s.contains r.number = false := by
  unfold insert
  split <;> simp_all

/-- **A rule that is refused** is handed back, and the rules are as they were. -/
theorem insert_refused {s s' : RuleSet} {r back : Rule} (h : s.insert r = (s', some back)) :
    s' = s ∧ back = r := by
  unfold insert at h
  split at h
  · obtain ⟨rfl, hback⟩ := Prod.mk.inj h
    exact ⟨rfl, (Option.some.inj hback).symm⟩
  · exact absurd (congrArg Prod.snd h) nofun

theorem get?_insert {s s' : RuleSet} {r : Rule} (h : s.insert r = (s', none)) (n : Nat) :
    s'.get? n = if n = r.number then some r else s.get? n := by
  unfold insert at h
  split at h
  · exact absurd (congrArg Prod.snd h) nofun
  · obtain ⟨rfl, -⟩ := Prod.mk.inj h
    simp only [get?, Std.TreeMap.getElem?_insert]
    by_cases hn : n = r.number
    · simp [hn]
    · simp [hn, Ne.symm hn]

theorem mem_toList_iff {s : RuleSet} {r : Rule} : r ∈ s.toList ↔ s.get? r.number = some r := by
  simp only [toList, List.mem_map, Prod.exists, exists_eq_right, get?,
    Std.TreeMap.mem_toList_iff_getElem?_eq_some]
  constructor
  · rintro ⟨n, hn⟩
    rwa [s.number_eq n r hn]
  · exact fun h => ⟨_, h⟩

/-- A rule that is found by a number is listed, under that number. -/
theorem mem_toList_of_get? {s : RuleSet} {n : Nat} {r : Rule} (h : s.get? n = some r) :
    r ∈ s.toList ∧ r.number = n := by
  have hnumber := s.number_eq n r h
  exact ⟨mem_toList_iff.2 (hnumber ▸ h), hnumber⟩

/-- Rules are listed by ascending number. -/
theorem pairwise_toList (s : RuleSet) : s.toList.Pairwise (·.number < ·.number) := by
  rw [toList, List.pairwise_map]
  refine List.Pairwise.imp_of_mem ?_ Std.TreeMap.ordered_keys_toList
  rintro ⟨n, r⟩ ⟨m, q⟩ hn hm hlt
  have hr := s.number_eq n r (Std.TreeMap.mem_toList_iff_getElem?_eq_some.1 hn)
  have hq := s.number_eq m q (Std.TreeMap.mem_toList_iff_getElem?_eq_some.1 hm)
  simpa [hr, hq, Nat.compare_eq_lt] using hlt

/-- A search of the rules ends at the lowest number that it finds something at. -/
theorem findSome?_toList_eq_some_iff {β : Type} {s : RuleSet} {f : Rule → Option β} {b : β} :
    s.toList.findSome? f = some b ↔ ∃ r ∈ s.toList, f r = some b ∧
      ∀ q ∈ s.toList, f q ≠ none → r.number ≤ q.number := by
  have hsorted := s.pairwise_toList
  rw [List.findSome?_eq_some_iff]
  constructor
  · intro h
    obtain ⟨earlier, r, later, hsplit, hr, hearlier⟩ := h
    rw [hsplit] at hsorted ⊢
    refine ⟨r, by simp, hr, fun q hq hfound => ?_⟩
    rcases List.mem_append.1 hq with hq | hq
    · exact absurd (hearlier q hq) hfound
    · rcases List.mem_cons.1 hq with rfl | hq
      · exact Nat.le_refl _
      · exact Nat.le_of_lt (List.rel_of_pairwise_cons (List.pairwise_append.1 hsorted).2.1 hq)
  · intro h
    obtain ⟨r, hr, hb, hlowest⟩ := h
    obtain ⟨earlier, later, hsplit⟩ := List.append_of_mem hr
    refine ⟨earlier, r, later, hsplit, hb, fun q hq => Decidable.byContradiction fun hfound => ?_⟩
    rw [hsplit] at hsorted hlowest
    have hle := hlowest q (List.mem_append_left _ hq) hfound
    have hlt := (List.pairwise_append.1 hsorted).2.2 q hq r (List.mem_cons_self ..)
    omega

theorem length_toList (s : RuleSet) : s.toList.length = s.size := by
  simp [toList, size, Std.TreeMap.length_toList]

end RuleSet
end ParserTables
