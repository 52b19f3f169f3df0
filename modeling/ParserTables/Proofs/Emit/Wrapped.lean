import Mathlib.Data.List.Chain
import ParserTables.Emit.Wrapped

/-! The lines of a wrapped list.

The items of a list are cut into lines (`lines`), of which none is empty and none is lost, and what
is written is those lines (`text_eq_join`). The column that decides where a line ends is never short
of the line: it counts one more byte for each of its items (`column`). So a line fits as soon as it
has two items, with the comma that ends it (`fits_of_mem_lines`). But a line may also end although
the next item would fit (`threeLetters_broken`): what the column counts settles the lines altogether
(`filled_iff`), and it is a byte too much for each item of a line after the first. -/
namespace ParserTables.Wrapped

/-! ### Lines -/

/-- The text of a line. -/
def line (items : List Text) : Text := Text.join ", ".toList items

/-- Where the column stands after some items of a line. -/
def column (items : List Text) : Nat := Text.byteLength (line items) + items.length

/-- The lines of a list, when some of its items stand on a line that may get more of them. -/
def linesFrom (width : Nat) (items : List Text) : List Text → List (List Text)
  | [] => [items]
  | item :: rest =>
    if width < column items + Text.byteLength item + 2 then items :: linesFrom width [item] rest
    else linesFrom width (items ++ [item]) rest

/-- The lines of a list. -/
def lines (width : Nat) : List Text → List (List Text)
  | [] => []
  | item :: rest => linesFrom width [item] rest

theorem line_singleton (item : Text) : line [item] = item := Text.join_singleton ..

theorem line_concat {items : List Text} (hne : items ≠ []) (item : Text) :
    line (items ++ [item]) = line items ++ ", ".toList ++ item := by
  obtain ⟨first, rest, rfl⟩ := List.exists_cons_of_ne_nil hne
  rw [line, line, List.cons_append, Text.join_cons, Text.join_cons, List.flatMap_append,
    List.flatMap_singleton]
  simp only [List.append_assoc]

theorem byteLength_line_concat {items : List Text} (hne : items ≠ []) (item : Text) :
    Text.byteLength (line (items ++ [item])) =
      Text.byteLength (line items) + 2 + Text.byteLength item := by
  rw [line_concat hne, Text.byteLength_append, Text.byteLength_append]
  rfl

theorem column_singleton (item : Text) : column [item] = Text.byteLength item + 1 := by
  rw [column, line_singleton, List.length_singleton]

/-- One more item takes the column further than the line. -/
theorem column_concat {items : List Text} (hne : items ≠ []) (item : Text) :
    column (items ++ [item]) = column items + 2 + (Text.byteLength item + 1) := by
  rw [column, column, byteLength_line_concat hne, List.length_append, List.length_singleton]
  omega

/-! ### What is written -/

/-- The first line goes on with the items that stand on it. -/
theorem exists_linesFrom_eq_cons (width : Nat) (items rest : List Text) :
    ∃ l more, linesFrom width items rest = l :: more ∧ items <+: l := by
  induction rest generalizing items with
  | nil => exact ⟨items, [], rfl, List.prefix_rfl⟩
  | cons item rest ih =>
    rw [linesFrom]
    split
    · exact ⟨items, _, rfl, List.prefix_rfl⟩
    · obtain ⟨l, more, hlines, hfront⟩ := ih (items ++ [item])
      exact ⟨l, more, hlines, (List.prefix_append items [item]).trans hfront⟩

/-- What is written after some items of a line, when the column stands where they end. -/
theorem line_append_more (indent : Text) (width : Nat) {items : List Text} (hne : items ≠ [])
    (rest : List Text) : line items ++ more indent width (column items) rest =
      Text.join (",\n".toList ++ indent) ((linesFrom width items rest).map line) := by
  induction rest generalizing items with
  | nil =>
    rw [more, linesFrom, List.append_nil, List.map_singleton, Text.join_singleton]
  | cons item rest ih =>
    rw [more, linesFrom]
    split
    · -- the line ends, and the next one starts with the item
      have hnext := ih (List.cons_ne_nil item [])
      rw [line_singleton, column_singleton] at hnext
      obtain ⟨next, others, hlines, -⟩ := exists_linesFrom_eq_cons width [item] rest
      rw [hlines] at hnext
      rw [List.map_cons, hlines, List.map_cons, Text.join_cons_cons, ← List.map_cons, ← hnext]
      simp only [List.append_assoc]
    · -- the item goes onto the line
      have hnext := ih (List.append_ne_nil_of_right_ne_nil items (List.cons_ne_nil item []))
      rw [line_concat hne, column_concat hne] at hnext
      rw [← hnext]
      simp only [List.append_assoc]

theorem text_eq_join (indent : Text) (width : Nat) (items : List Text) :
    text indent width items =
      Text.join (",\n".toList ++ indent) ((lines width items).map line) := by
  cases items with
  | nil => rfl
  | cons item rest =>
    have hmore := line_append_more indent width (List.cons_ne_nil item []) rest
    rwa [line_singleton, column_singleton] at hmore

/-! ### What the lines hold -/

theorem flatten_linesFrom (width : Nat) (items rest : List Text) :
    (linesFrom width items rest).flatten = items ++ rest := by
  induction rest generalizing items with
  | nil => rw [linesFrom, List.flatten_singleton, List.append_nil]
  | cons item rest ih =>
    rw [linesFrom]
    split
    · rw [List.flatten_cons, ih, List.singleton_append]
    · rw [ih, List.append_assoc, List.singleton_append]

theorem flatten_lines (width : Nat) (items : List Text) : (lines width items).flatten = items := by
  cases items with
  | nil => rfl
  | cons item rest => exact flatten_linesFrom width [item] rest

section Kept
variable {width : Nat} {P : List Text → Prop}

theorem forall_mem_linesFrom (hsingle : ∀ item, P [item])
    (hconcat : ∀ {items item}, P items → ¬ width < column items + Text.byteLength item + 2 →
      P (items ++ [item])) {items : List Text} (h : P items) (rest : List Text) :
    ∀ l ∈ linesFrom width items rest, P l := by
  induction rest generalizing items with
  | nil =>
    intro l hl
    exact List.mem_singleton.1 hl ▸ h
  | cons item rest ih =>
    rw [linesFrom]
    split
    · intro l hl
      rcases List.mem_cons.1 hl with rfl | hl
      · exact h
      · exact ih (hsingle item) l hl
    · exact ih (hconcat h ‹_›)

/-- What holds of a line of one item, and is kept by an item for which the column leaves room,
holds of every line. -/
theorem forall_mem_lines (hsingle : ∀ item, P [item])
    (hconcat : ∀ {items item}, P items → ¬ width < column items + Text.byteLength item + 2 →
      P (items ++ [item])) (items : List Text) : ∀ l ∈ lines width items, P l := by
  cases items with
  | nil => exact fun l hl => absurd hl List.not_mem_nil
  | cons item rest => exact forall_mem_linesFrom hsingle hconcat (hsingle item) rest

end Kept

/-- A line that has an item, and fits if it has more of them. -/
structure Fits (width : Nat) (items : List Text) : Prop where
  ne_nil : items ≠ []
  byteLength_le : 2 ≤ items.length → Text.byteLength (line items) + 1 ≤ width

theorem fits_singleton (width : Nat) (item : Text) : Fits width [item] :=
  ⟨List.cons_ne_nil _ _, fun h => absurd h (by simp)⟩

/-- An item for which the column leaves room has room on the line. -/
theorem Fits.concat {width : Nat} {items : List Text} (h : Fits width items) {item : Text}
    (hroom : ¬ width < column items + Text.byteLength item + 2) : Fits width (items ++ [item]) := by
  refine ⟨List.append_ne_nil_of_right_ne_nil items (List.cons_ne_nil item []), fun _ => ?_⟩
  have hlength : 0 < items.length := List.length_pos_iff.2 h.ne_nil
  rw [byteLength_line_concat h.ne_nil]
  unfold column at hroom
  omega

theorem fits_of_mem_lines {width : Nat} {items : List Text} :
    ∀ l ∈ lines width items, Fits width l :=
  forall_mem_lines (fits_singleton width) (fun h hroom => h.concat hroom) items

/-- **A wrapped list** is written in lines that hold its items in their order, and a line with two
items or more is within the width, the comma that ends it included. -/
theorem exists_lines_text (indent : Text) (width : Nat) (items : List Text) :
    ∃ lines : List (List Text), lines.flatten = items ∧ (∀ l ∈ lines, l ≠ []) ∧
      text indent width items =
        Text.join (",\n".toList ++ indent) (lines.map (Text.join ", ".toList)) ∧
      ∀ l ∈ lines, 2 ≤ l.length → Text.byteLength (Text.join ", ".toList l) + 1 ≤ width :=
  ⟨lines width items, flatten_lines width items, fun l hl => (fits_of_mem_lines l hl).ne_nil,
    text_eq_join indent width items, fun l hl => (fits_of_mem_lines l hl).byteLength_le⟩

/-- Three short items on lines of eight bytes. -/
example : text "  ".toList 8 ["aaa".toList, "bbb".toList, "ccc".toList] =
    "aaa,\n  bbb,\n  ccc".toList := by decide

/-! ### Where a line ends -/

/-- The column leaves no room for an item behind some items of a line: counted are the line with
the item, and one byte for each item before it. -/
def Full (width : Nat) (items : List Text) (item : Text) : Prop :=
  width < Text.byteLength (line (items ++ [item])) + items.length

theorem full_iff {width : Nat} {items : List Text} (hne : items ≠ []) (item : Text) :
    width < column items + Text.byteLength item + 2 ↔ Full width items item := by
  rw [Full, byteLength_line_concat hne, column]
  omega

/-- A line that has an item, and on which every other item found room. -/
structure Roomy (width : Nat) (l : List Text) : Prop where
  ne_nil : l ≠ []
  not_full : ∀ front item, front ≠ [] → front ++ [item] <+: l → ¬ Full width front item

theorem roomy_singleton (width : Nat) (item : Text) : Roomy width [item] := by
  refine ⟨List.cons_ne_nil _ _, fun front other hne hfront => ?_⟩
  have hle := hfront.length_le
  have hpos := List.length_pos_iff.2 hne
  rw [List.length_append, List.length_singleton, List.length_singleton] at hle
  omega

theorem Roomy.concat {width : Nat} {items : List Text} (h : Roomy width items) {item : Text}
    (hroom : ¬ width < column items + Text.byteLength item + 2) :
    Roomy width (items ++ [item]) := by
  refine ⟨List.append_ne_nil_of_right_ne_nil items (List.cons_ne_nil item []), ?_⟩
  intro front other hne hfront
  rcases List.prefix_concat_iff.1 hfront with heq | hfront
  · obtain ⟨rfl, hlast⟩ := List.append_inj' heq rfl
    rw [List.singleton_inj.1 hlast, ← full_iff hne]
    exact hroom
  · exact h.not_full front other hne hfront

/-- The lines of a list, as they follow from the column: a line ends where it is full, and nowhere
else. -/
structure Filled (width : Nat) (items : List Text) (lines : List (List Text)) : Prop where
  flatten_eq : lines.flatten = items
  full : lines.IsChain fun l next => ∀ item ∈ next.head?, Full width l item
  roomy : ∀ l ∈ lines, Roomy width l

theorem isChain_linesFrom {width : Nat} {items : List Text} (hne : items ≠ []) (rest : List Text) :
    (linesFrom width items rest).IsChain fun l next => ∀ item ∈ next.head?, Full width l item := by
  induction rest generalizing items with
  | nil => exact List.isChain_singleton items
  | cons item rest ih =>
    rw [linesFrom]
    split
    · rename_i hfull
      refine List.isChain_cons.2 ⟨fun next hnext other hother => ?_, ih (List.cons_ne_nil item [])⟩
      -- the next line starts with the item that found no room
      obtain ⟨l, more, hlines, tail, rfl⟩ := exists_linesFrom_eq_cons width [item] rest
      rw [hlines] at hnext
      obtain rfl := Option.some.inj hnext
      obtain rfl := Option.some.inj hother
      exact (full_iff hne item).1 hfull
    · exact ih (List.append_ne_nil_of_right_ne_nil items (List.cons_ne_nil item []))

theorem filled_lines (width : Nat) (items : List Text) : Filled width items (lines width items) := by
  refine ⟨flatten_lines width items, ?_,
    forall_mem_lines (roomy_singleton width) (fun h hroom => h.concat hroom) items⟩
  cases items with
  | nil => exact List.isChain_nil
  | cons item rest => exact isChain_linesFrom (List.cons_ne_nil item []) rest

/-- The first line of a cut starts with the first item. -/
theorem exists_cons_of_flatten {ls : List (List Text)} (hne : ∀ l ∈ ls, l ≠ []) {item : Text}
    {rest : List Text} (h : ls.flatten = item :: rest) :
    ∃ l more, ls = (item :: l) :: more ∧ l ++ more.flatten = rest := by
  cases ls with
  | nil => exact absurd h (List.cons_ne_nil item rest).symm
  | cons first more =>
    obtain ⟨other, l, rfl⟩ := List.exists_cons_of_ne_nil (hne first (List.mem_cons_self ..))
    obtain ⟨rfl, hrest⟩ := List.cons.inj h
    exact ⟨l, more, rfl, hrest⟩

theorem eq_nil_of_flatten {ls : List (List Text)} (hne : ∀ l ∈ ls, l ≠ [])
    (h : ls.flatten = []) : ls = [] := by
  cases ls with
  | nil => rfl
  | cons first more =>
    exact absurd (List.append_eq_nil_iff.1 h).1 (hne first (List.mem_cons_self ..))

theorem Filled.ne_nil {width : Nat} {items : List Text} {ls : List (List Text)}
    (h : Filled width items ls) : ∀ l ∈ ls, l ≠ [] := fun l hl => (h.roomy l hl).ne_nil

theorem Filled.tail {width : Nat} {items l : List Text} {more : List (List Text)}
    (h : Filled width items (l :: more)) : Filled width more.flatten more :=
  ⟨rfl, (List.isChain_cons.1 h.full).2, fun m hm => h.roomy m (List.mem_cons_of_mem l hm)⟩

/-- When the first line is known to start with some items, the lines are the ones that the column
makes of the others. -/
theorem Filled.linesFrom_eq {width : Nat} {items tail rest : List Text} {more : List (List Text)}
    (h : Filled width (items ++ rest) ((items ++ tail) :: more)) (hne : items ≠ []) :
    linesFrom width items rest = (items ++ tail) :: more := by
  have hrest : tail ++ more.flatten = rest := by
    have hflat := h.flatten_eq
    rwa [List.flatten_cons, List.append_assoc, List.append_cancel_left_eq] at hflat
  induction rest generalizing items tail more with
  | nil =>
    obtain ⟨rfl, hmore⟩ := List.append_eq_nil_iff.1 hrest
    rw [linesFrom, List.append_nil, eq_nil_of_flatten h.tail.ne_nil hmore]
  | cons item rest ih =>
    cases tail with
    | nil =>
      -- the item starts the next line, which is there only if the item found no room
      rw [List.nil_append] at hrest
      obtain ⟨next, others, rfl, hothers⟩ := exists_cons_of_flatten h.tail.ne_nil hrest
      have hfull : Full width (items ++ []) item :=
        (List.isChain_cons.1 h.full).1 (item :: next) rfl item rfl
      have hnext : Filled width (item :: rest) ((item :: next) :: others) := by
        rw [← hrest]
        exact h.tail
      rw [List.append_nil] at hfull ⊢
      rw [linesFrom, if_pos ((full_iff hne item).2 hfull),
        ih hnext (List.cons_ne_nil item []) hothers, List.singleton_append]
    | cons other tail =>
      -- the item stands on the line, which it does only if it found room
      obtain ⟨rfl, hothers⟩ := List.cons.inj hrest
      rw [List.append_cons items other rest, List.append_cons items other tail] at h
      rw [List.append_cons items other tail]
      have hroom := (h.roomy _ (List.mem_cons_self ..)).not_full items other hne
        (List.prefix_append _ tail)
      rw [linesFrom, if_neg fun hfull => hroom ((full_iff hne other).1 hfull)]
      exact ih h (List.append_ne_nil_of_right_ne_nil items (List.cons_ne_nil other [])) hothers

theorem filled_iff {width : Nat} {items : List Text} {ls : List (List Text)} :
    Filled width items ls ↔ ls = lines width items := by
  refine ⟨fun h => ?_, fun h => h ▸ filled_lines width items⟩
  cases items with
  | nil => exact eq_nil_of_flatten h.ne_nil h.flatten_eq
  | cons item rest =>
    obtain ⟨l, more, rfl, -⟩ := exists_cons_of_flatten h.ne_nil h.flatten_eq
    have hfirst : Filled width ([item] ++ rest) (([item] ++ l) :: more) := h
    exact (hfirst.linesFrom_eq (List.cons_ne_nil item [])).symm

/-- **Where the lines of a wrapped list end.** There is one way to cut the items into lines that end
where they are full and nowhere else, and those lines are written. So a line of one item ends just
if the next item and the comma behind it would not fit, and a line of more items may end before that
by a byte for each item after the first. -/
theorem exists_filled_text (indent : Text) (width : Nat) (items : List Text) :
    ∃ lines, (∀ others, Filled width items others ↔ others = lines) ∧
      text indent width items =
        Text.join (",\n".toList ++ indent) (lines.map (Text.join ", ".toList)) :=
  ⟨lines width items, fun _ => filled_iff, text_eq_join indent width items⟩

/-- Three letters, which take seven bytes in one line, and eight with a comma behind them. -/
def threeLetters : List Text := ["a".toList, "b".toList, "c".toList]

/-- **A line may end although the next item would fit**: on lines of eight bytes the third letter
stands on a line of its own. -/
theorem threeLetters_broken :
    text "  ".toList 8 threeLetters = "a, b,\n  c".toList ∧
      ¬ ∃ lines : List (List Text), lines.flatten = threeLetters ∧ (∀ l ∈ lines, l ≠ []) ∧
        text "  ".toList 8 threeLetters =
          Text.join (",\n".toList ++ "  ".toList) (lines.map (Text.join ", ".toList)) ∧
        lines.IsChain fun l next => ∀ item ∈ next.head?,
          8 < Text.byteLength (Text.join ", ".toList (l ++ [item])) + 1 := by
  have htext : text "  ".toList 8 threeLetters = "a, b,\n  c".toList := by decide
  refine ⟨htext, ?_⟩
  rintro ⟨lines, hflat, hne, heq, hchain⟩
  rw [htext] at heq
  obtain ⟨l, more, rfl, hrest⟩ := exists_cons_of_flatten hne hflat
  have hmore : ∀ m ∈ more, m ≠ [] := fun m hm => hne m (List.mem_cons_of_mem _ hm)
  match l with
  | [] =>
    -- a line of the first letter alone would be followed by a line feed
    obtain ⟨next, others, rfl, -⟩ := exists_cons_of_flatten hmore hrest
    simp [Text.join_cons_cons, Text.join_singleton] at heq
  | [b] =>
    -- these are the lines that are written, and the first has room for one more letter
    obtain ⟨rfl, hc⟩ := List.cons.inj hrest
    obtain ⟨next, others, rfl, -⟩ := exists_cons_of_flatten hmore hc
    exact absurd ((List.isChain_cons.1 hchain).1 _ rfl _ rfl) (by decide)
  | b :: c :: l =>
    -- all letters on one line
    obtain ⟨rfl, hc⟩ := List.cons.inj hrest
    obtain ⟨rfl, hl⟩ := List.cons.inj hc
    obtain ⟨rfl, hnil⟩ := List.append_eq_nil_iff.1 hl
    obtain rfl := eq_nil_of_flatten hmore hnil
    exact absurd heq (by decide)

end ParserTables.Wrapped
