import ParserTables.Proofs.Report.Lines
import ParserTables.Proofs.Symbol.Spaced
import ParserTables.Rule.Basic

/-! A rule is read back from its text.

The text of a rule is its left side and then its symbols, a blank before each. What keeps a rule
from being read back is a left side that is cut differently (`IsLeft`), a symbol that is
(`Symbol.Legible`), or symbols that look like a mark for none; a rule with none of this is read
back whatever its number (`Rule.reread`). -/
namespace ParserTables
open Text

/-! ### Symbols -/

/-- A word that is taken for no quoted token. -/
structure IsBare (t : Text) : Prop where
  ne_nil : t ≠ []
  not_blank : ∀ c ∈ t, isBlank c = false
  quote : t.head? ≠ some '\'' ∧ t.head? ≠ some '"'

instance (t : Text) : Decidable (IsBare t) :=
  decidable_of_iff (t ≠ [] ∧ (t.all fun c => !isBlank c) = true ∧ t.head? ≠ some '\'' ∧
    t.head? ≠ some '"') ⟨fun h => ⟨h.1, by simpa using h.2.1, h.2.2⟩,
      fun h => ⟨h.ne_nil, by simpa using h.not_blank, h.quote⟩⟩

theorem IsBare.separable {t : Text} (h : IsBare t) : Token.Separable t := by
  refine ⟨.of_forall h.ne_nil h.not_blank, fun rest hr => ?_⟩
  obtain ⟨c, more, rfl⟩ := List.exists_cons_of_ne_nil h.ne_nil
  have hsingle : c ≠ '\'' := fun he => h.quote.1 (congrArg some he)
  have hdouble : c ≠ '"' := fun he => h.quote.2 (congrArg some he)
  obtain ⟨hword, hafter⟩ := Token.word_append h.not_blank hr
  rw [Token.first, List.cons_append, Token.quoted?_cons hsingle hdouble, ← List.cons_append,
    hword, hafter, Option.getD_none]

namespace Symbol

/-- A symbol that is told from its spelling, and whose spelling is cut off as one token. -/
inductive Legible : Symbol → Prop where
  | literal (c : Char) : Legible (.literal c)
  | named {s : Symbol} : ofToken s.text = s → (Token.isQuoted s.text = true ∨ IsBare s.text) →
      Legible s

theorem Legible.ofToken_text {s : Symbol} (h : s.Legible) : ofToken s.text = s := by
  cases h with
  | literal c => rfl
  | named hs _ => exact hs

theorem Legible.separable {s : Symbol} (h : s.Legible) : Token.Separable s.text := by
  cases h with
  | literal c => exact (whole_of_isQuoted rfl).separable
  | named _ ht =>
    rcases ht with ht | ht
    · exact (whole_of_isQuoted ht).separable
    · exact ht.separable

/-- Legible symbols are read back from their spellings. -/
theorem ofRight_join_text {symbols : List Symbol} (h : ∀ s ∈ symbols, s.Legible)
    (hne : symbols ≠ []) (hmark : join [' '] (symbols.map text) ∉ writtenMarks) :
    ofRight (join [' '] (symbols.map text)) = symbols := by
  have htokens : ∀ t ∈ symbols.map text, Token.Separable t := fun t ht => by
    obtain ⟨s, hs, rfl⟩ := List.mem_map.1 ht
    exact (h s hs).separable
  have hsolid : Solid (join [' '] (symbols.map text)) :=
    Token.solid_join (fun t ht => (htokens t ht).solid) (by simpa using hne)
  rw [ofRight_eq (by rwa [hsolid.trim_eq]), hsolid.trim_eq, Token.Separable.all_join htokens,
    List.map_map]
  calc symbols.map (ofToken ∘ text) = symbols.map id :=
        List.map_congr_left fun s hs => (h s hs).ofToken_text
    _ = symbols := List.map_id symbols

end Symbol

/-! ### Rules -/

namespace Rule

/-- A rule that is read back from its text. -/
structure Legible (r : Rule) : Prop where
  left : IsLeft r.left
  right : ∀ s ∈ r.right, s.Legible
  unmarked : join [' '] (r.right.map Symbol.text) ∉ Symbol.writtenMarks

theorem rightText_eq {symbols : List Symbol} (hne : symbols ≠ []) :
    rightText symbols = ' ' :: join [' '] (symbols.map Symbol.text) := by
  obtain ⟨s, more, rfl⟩ := List.exists_cons_of_ne_nil hne
  rw [List.map_cons, join_cons, List.flatMap_map]
  rfl

/-- What stands after the colon, past its first blank, is read as the right-hand side. -/
theorem Legible.exists_right {r : Rule} (h : r.Legible) :
    ∃ right, rightText r.right = ' ' :: right ∧ Solid right ∧ Symbol.ofRight right = r.right := by
  by_cases hne : r.right = []
  · rw [hne]
    have hsolid : Solid "%empty".toList :=
      (Solid.singleton (c := '%') rfl).append "empt".toList (.singleton (c := 'y') rfl)
    exact ⟨"%empty".toList, rfl, hsolid, by decide⟩
  · refine ⟨_, rightText_eq hne, ?_, Symbol.ofRight_join_text h.right hne h.unmarked⟩
    refine Token.solid_join (fun t ht => ?_) (by simpa using hne)
    obtain ⟨s, hs, rfl⟩ := List.mem_map.1 ht
    exact (h.right s hs).separable.solid

/-- **A rule is read back from its text** and a number before it: the number, the left side, and
on the right the symbols. -/
theorem reread {r : Rule} (h : r.Legible) {n : Nat} (hn : n < numberLimit) :
    ∃ right, Line.rule? (ofNat n ++ ' ' :: r.text) = some ⟨n, some r.left, right⟩ ∧
      Symbol.ofRight right = r.right := by
  obtain ⟨right, htext, hsolid, hread⟩ := h.exists_right
  have hline : Solid (ofNat n ++ ' ' :: r.text) := by
    have := (solid_ofNat n).append (' ' :: (r.left ++ [':', ' '])) hsolid
    rw [text, htext]
    simpa using this
  have hnum : leadingNumber? (trim (ofNat n ++ ' ' :: r.text)) =
      some (n, ' ' :: (r.left ++ ':' :: ' ' :: right)) := by
    rw [hline.trim_eq, text, htext]
    exact leadingNumber?_ofNat hn rfl
  have hright : trim (' ' :: right) = right := hsolid.trim_after (a := [' ']) rfl
  exact ⟨_, rule?_of_isLeft hnum h.left, by rwa [hright]⟩

/-- Quoted blanks, quotes and colons, an alias with a colon inside, and words that look like a
number and like an alternative. -/
def awkwardRule : Rule where
  number := 0
  left := "3a|'".toList
  right := [.literal ' ', .literal '\'', .literal ':', .terminal "\"a : \\\" b\"".toList,
    .terminal "12".toList, .nonterminal "|e".toList, .literal '\n']

theorem reread_awkwardRule : awkwardRule.Legible ∧
    ∃ right, Line.rule? "65535 3a|': ' ' ''' ':' \"a : \\\" b\" 12 |e '\n'".toList =
      some ⟨65535, some "3a|'".toList, right⟩ ∧ Symbol.ofRight right = awkwardRule.right := by
  have hleft : IsLeft awkwardRule.left := by decide
  have hlegible : awkwardRule.Legible := by
    refine ⟨hleft, fun s hs => ?_, by decide⟩
    simp only [awkwardRule, List.mem_cons, List.not_mem_nil, or_false] at hs
    rcases hs with rfl | rfl | rfl | rfl | rfl | rfl | rfl
    · exact .literal ' '
    · exact .literal '\''
    · exact .literal ':'
    · exact .named (by decide) (.inl (by decide))
    · exact .named (by decide) (.inr (by decide))
    · exact .named (by decide) (.inr (by decide))
    · exact .literal '\n'
  exact ⟨hlegible, reread hlegible (n := 65535) (by decide)⟩

end Rule
end ParserTables
