import Mathlib.Data.List.Induction
import Mathlib.Data.List.Nodup
import ParserTables.Emit.Plan

/-! The identifiers that names are given.

Names are given their identifiers in order, each as long as no earlier name has it. So all of them
get theirs if no identifier is there twice (`Plan.identifiers_eq_ok_iff`), and otherwise the first
name whose identifier is taken is reported with the name that has it
(`Plan.identifiers_eq_error_iff`). -/
namespace ParserTables

/-- The names of a listing differ from one another. -/
theorem Listing.nodup_toList (l : Listing) : l.toList.Nodup := by
  refine List.pairwise_iff_getElem.2 fun i j hi hj hlt heq => ?_
  have hat : ∀ {k} (hk : k < l.toList.length), l.position? l.toList[k] = some k := fun hk => by
    rw [position?_eq_some_iff, ← getElem?_toList, List.getElem?_eq_getElem hk]
  have hsame : some i = some j := by rw [← hat hi, heq, hat hj]
  exact absurd (Option.some.inj hsame) (Nat.ne_of_lt hlt)

namespace Plan
variable {identifier : Text → Text}

/-! ### Clashes -/

/-- The second of two names is the earliest in a list whose identifier a name before it has, and
the first is that name. -/
inductive FirstClash (identifier : Text → Text) : List Text → Text → Text → Prop where
  | mk {earlier later : List Text} {first second : Text} :
      (earlier.map identifier).Nodup → first ∈ earlier → identifier first = identifier second →
      FirstClash identifier (earlier ++ second :: later) first second

/-- Where an identifier is there twice, there is a first clash. -/
theorem exists_firstClash {names : List Text} (h : ¬ (names.map identifier).Nodup) :
    ∃ first second, FirstClash identifier names first second := by
  induction names using List.reverseRecOn with
  | nil => exact absurd List.nodup_nil h
  | append_singleton names last ih =>
    by_cases hnodup : (names.map identifier).Nodup
    · have hlast : identifier last ∈ names.map identifier := by
        by_contra hfree
        rw [List.map_append, List.map_singleton] at h
        exact h (List.nodup_append.2 ⟨hnodup, List.nodup_singleton _, fun x hx y hy hxy =>
          hfree (List.mem_singleton.1 hy ▸ hxy ▸ hx)⟩)
      obtain ⟨first, hfirst, hsame⟩ := List.mem_map.1 hlast
      exact ⟨first, last, .mk hnodup hfirst hsame⟩
    · obtain ⟨first, second, hclash⟩ := ih hnodup
      obtain ⟨hearlier, hfirst, hsame⟩ := hclash
      refine ⟨first, second, ?_⟩
      rw [List.append_assoc, List.cons_append]
      exact .mk hearlier hfirst hsame

/-! ### Owners -/

/-- The owners are some names, each under its identifier. -/
def Owns (identifier : Text → Text) (owners : Std.TreeMap Text Text) (names : List Text) : Prop :=
  ∀ id name, owners[id]? = some name ↔ name ∈ names ∧ identifier name = id

theorem owns_empty : Owns identifier ∅ [] := by
  intro id name
  simp

/-- An identifier is free if no name has it. -/
theorem Owns.free {owners : Std.TreeMap Text Text} {names : List Text}
    (h : Owns identifier owners names) {id : Text} (hid : id ∉ names.map identifier) :
    owners[id]? = none := by
  rw [Option.eq_none_iff_forall_ne_some]
  intro name hname
  obtain ⟨hmem, rfl⟩ := (h id name).1 hname
  exact hid (List.mem_map_of_mem hmem)

/-- A name whose identifier is free becomes its owner. -/
theorem Owns.insert {owners : Std.TreeMap Text Text} {names : List Text}
    (h : Owns identifier owners names) {name : Text} (hfree : identifier name ∉ names.map identifier) :
    Owns identifier (owners.insert (identifier name) name) (names ++ [name]) := by
  intro id other
  rw [Std.TreeMap.getElem?_insert]
  split
  · rename_i hcompare
    obtain rfl := Std.LawfulEqCmp.compare_eq_iff_eq.1 hcompare
    constructor
    · intro hother
      obtain rfl := Option.some.inj hother
      exact ⟨by simp, rfl⟩
    · rintro ⟨hmem, hsame⟩
      rcases List.mem_append.1 hmem with hmem | hmem
      · exact absurd (hsame ▸ List.mem_map_of_mem hmem) hfree
      · rw [List.mem_singleton.1 hmem]
  · rename_i hcompare
    rw [h id other]
    constructor
    · rintro ⟨hmem, hsame⟩
      exact ⟨List.mem_append_left _ hmem, hsame⟩
    · rintro ⟨hmem, hsame⟩
      rcases List.mem_append.1 hmem with hmem | hmem
      · exact ⟨hmem, hsame⟩
      · obtain rfl := List.mem_singleton.1 hmem
        exact absurd (Std.LawfulEqCmp.compare_eq_iff_eq.2 hsame) hcompare

/-! ### Assigning -/

/-- **Names that clash with none before them** get their identifiers and own them from then on. -/
theorem exists_assign_append {owners : Std.TreeMap Text Text} {seen names : List Text}
    (h : Owns identifier owners seen) (hnodup : ((seen ++ names).map identifier).Nodup)
    (rest : List Text) : ∃ owners', Owns identifier owners' (seen ++ names) ∧
      assign identifier owners (names ++ rest) =
        (assign identifier owners' rest).map (names.map identifier ++ ·) := by
  induction names generalizing owners seen with
  | nil =>
    refine ⟨owners, by rwa [List.append_nil], ?_⟩
    rw [List.nil_append]
    cases assign identifier owners rest <;> rfl
  | cons name names ih =>
    have hfree : identifier name ∉ seen.map identifier := by
      rw [List.map_append, List.map_cons, List.nodup_append] at hnodup
      exact fun hmem => hnodup.2.2 _ hmem _ (List.mem_cons_self ..) rfl
    have hcat : seen ++ [name] ++ names = seen ++ name :: names := by simp
    obtain ⟨owners', howns, hassign⟩ := ih (h.insert hfree) (by rwa [hcat])
    refine ⟨owners', by rwa [hcat] at howns, ?_⟩
    rw [List.cons_append, assign]
    simp only [h.free hfree, hassign]
    cases assign identifier owners' rest <;> rfl

theorem identifiers_of_nodup {names : List Text} (h : (names.map identifier).Nodup) :
    identifiers identifier names = .ok (names.map identifier) := by
  obtain ⟨owners, -, hassign⟩ := exists_assign_append owns_empty h []
  rw [List.append_nil] at hassign
  rw [identifiers, hassign]
  show Except.ok (names.map identifier ++ []) = _
  rw [List.append_nil]

theorem identifiers_of_firstClash {names : List Text} {first second : Text}
    (h : FirstClash identifier names first second) :
    identifiers identifier names = .error (.nameCollision first second (identifier second)) := by
  obtain ⟨hnodup, hfirst, hsame⟩ := h
  rename_i earlier later
  obtain ⟨owners, howns, hassign⟩ := exists_assign_append owns_empty hnodup (second :: later)
  have htaken : owners[identifier second]? = some first := (howns _ _).2 ⟨hfirst, hsame⟩
  rw [identifiers, hassign, assign]
  simp only [htaken]
  rfl

/-- **Names get their identifiers** if no identifier is there twice. -/
theorem identifiers_eq_ok_iff {names ids : List Text} :
    identifiers identifier names = .ok ids ↔
      (names.map identifier).Nodup ∧ ids = names.map identifier := by
  constructor
  · intro h
    by_cases hnodup : (names.map identifier).Nodup
    · rw [identifiers_of_nodup hnodup] at h
      exact ⟨hnodup, (Except.ok.inj h).symm⟩
    · obtain ⟨first, second, hclash⟩ := exists_firstClash hnodup
      rw [identifiers_of_firstClash hclash] at h
      exact absurd h nofun
  · rintro ⟨hnodup, rfl⟩
    exact identifiers_of_nodup hnodup

/-- **Otherwise the first clash is reported.** -/
theorem identifiers_eq_error_iff {names : List Text} {e : EmitError} :
    identifiers identifier names = .error e ↔
      ∃ first second, e = .nameCollision first second (identifier second) ∧
        FirstClash identifier names first second := by
  constructor
  · intro h
    by_cases hnodup : (names.map identifier).Nodup
    · rw [identifiers_of_nodup hnodup] at h
      exact absurd h nofun
    · obtain ⟨first, second, hclash⟩ := exists_firstClash hnodup
      rw [identifiers_of_firstClash hclash] at h
      exact ⟨first, second, (Except.error.inj h).symm, hclash⟩
  · rintro ⟨first, second, rfl, hclash⟩
    exact identifiers_of_firstClash hclash

end Plan
end ParserTables
