import Mathlib.Logic.Relation
import ParserTables.Proofs.Text.Ends
import ParserTables.Symbol.Basic

/-! Nothing of a right-hand side is lost when it is cut into symbols.

The symbols are cut off one in each round (`Cutting.Round`). A round takes blanks and then a token
with something in it off what is left (`Round.exists_token`), so what was taken off is always the
text of the symbols so far, in order and with nothing but blanks around them (`Cutting.Of`), and
what is left gets shorter. `Symbol.ofRight_spaced` says so of a whole right-hand side. -/
namespace ParserTables
open Text

/-! ### Tokens with blanks around them -/

/-- Some tokens stand in a text, in order, and what is around them is blank. -/
inductive Spaced : List Text → Text → Prop where
  | nil {gap : Text} : blank gap = true → Spaced [] gap
  | cons {gap token rest : Text} {tokens : List Text} : blank gap = true → Spaced tokens rest →
      Spaced (token :: tokens) (gap ++ (token ++ rest))

namespace Spaced
variable {tokens : List Text} {t gap : Text}

theorem blank_append (hg : blank gap = true) (h : Spaced tokens t) : Spaced tokens (gap ++ t) := by
  cases h with
  | nil hb =>
    exact .nil (by rw [Text.blank_append, hg, hb]; rfl)
  | cons hb hrest =>
    rw [← List.append_assoc]
    exact .cons (by rw [Text.blank_append, hg, hb]; rfl) hrest

theorem append_blank (h : Spaced tokens t) (hg : blank gap = true) : Spaced tokens (t ++ gap) := by
  induction h with
  | nil hb => exact .nil (by rw [Text.blank_append, hg, hb]; rfl)
  | cons hb _ ih =>
    rw [List.append_assoc, List.append_assoc]
    exact .cons hb ih

/-- One more token at the end. -/
theorem concat (h : Spaced tokens t) (hg : blank gap = true) (token : Text) :
    Spaced (tokens ++ [token]) (t ++ (gap ++ token)) := by
  induction h with
  | @nil before hb =>
    have hgap : blank (before ++ gap) = true := by rw [Text.blank_append, hg, hb]; rfl
    have hone : Spaced [token] ((before ++ gap) ++ (token ++ [])) := .cons hgap (.nil rfl)
    rwa [List.append_nil, List.append_assoc] at hone
  | cons hb _ ih =>
    rw [List.append_assoc, List.append_assoc, List.cons_append]
    exact .cons hb ih

end Spaced

/-- Tokens that stand in a trimmed text stand in the text. -/
theorem Spaced.of_trim {tokens : List Text} {t : Text} (h : Spaced tokens (trim t)) :
    Spaced tokens t := by
  obtain ⟨before, hbefore, hstart⟩ := exists_trimStart t
  obtain ⟨after, hafter, hend⟩ := exists_trimEnd (trimStart t)
  rw [hstart, hend]
  exact (h.append_blank hafter).blank_append hbefore

/-! ### Rounds -/

/-- Where the cutting of a right-hand side stands: the symbols so far, and what is left. -/
structure Cutting where
  symbols : List Symbol
  rest : Text

namespace Cutting

/-- One round, as long as something is left after the next blanks: the token there is cut off
and becomes a symbol. -/
inductive Round : Cutting → Cutting → Prop where
  | mk {symbols : List Symbol} {rest : Text} : trimStart rest ≠ [] →
      Round ⟨symbols, rest⟩ ⟨symbols ++ [.ofToken (Token.first (trimStart rest)).1],
        (Token.first (trimStart rest)).2⟩

/-- What a round takes off and makes of it. -/
theorem Round.exists_token {before after : Cutting} (h : Round before after) :
    ∃ gap token, blank gap = true ∧ token ≠ [] ∧ before.rest = gap ++ (token ++ after.rest) ∧
      trimStart before.rest = token ++ after.rest ∧
      after.symbols = before.symbols ++ [.ofToken token] := by
  obtain ⟨hleft⟩ := h
  rename_i symbols rest
  obtain ⟨gap, hgap, hrest⟩ := exists_trimStart rest
  obtain ⟨c, more, hstart⟩ := List.exists_cons_of_ne_nil hleft
  have htoken : (Token.first (trimStart rest)).1 ≠ [] := by
    rw [hstart]
    exact Token.first_ne_nil (isBlank_of_trimStart_eq_cons hstart) more
  have hcut := Token.first_append (trimStart rest)
  exact ⟨gap, _, hgap, htoken, by rw [hcut, ← hrest], hcut.symm, rfl⟩

/-- A round takes at least one character off what is left after the blanks. -/
theorem Round.length_lt {before after : Cutting} (h : Round before after) :
    after.rest.length < (trimStart before.rest).length := by
  obtain ⟨_, token, -, htoken, -, hstart, -⟩ := h.exists_token
  have hpos := List.length_pos_iff.2 htoken
  rw [hstart, List.length_append]
  omega

/-- What was taken off a text so far is the symbols so far, with blanks around them. -/
structure Of (t : Text) (c : Cutting) : Prop where
  spaced : ∃ taken, t = taken ++ c.rest ∧ Spaced (c.symbols.map Symbol.text) taken
  spelled : ∀ s ∈ c.symbols, s.text ≠ []

theorem of_start (t : Text) : Of t ⟨[], t⟩ := ⟨⟨[], rfl, .nil rfl⟩, nofun⟩

/-- **One round** moves blanks and a token from what is left to what was taken off. -/
theorem Of.round {t : Text} {before after : Cutting} (h : Of t before) (hround : Round before after) :
    Of t after := by
  obtain ⟨gap, token, hgap, htoken, hrest, -, hsymbols⟩ := hround.exists_token
  obtain ⟨taken, htaken, hspaced⟩ := h.spaced
  constructor
  · refine ⟨taken ++ (gap ++ token), ?_, ?_⟩
    · rw [htaken, hrest, List.append_assoc, List.append_assoc]
    · rw [hsymbols, List.map_append, List.map_singleton, Symbol.text_ofToken]
      exact hspaced.concat hgap token
  · intro s hs
    rw [hsymbols] at hs
    rcases List.mem_append.1 hs with hs | hs
    · exact h.spelled s hs
    · rw [List.mem_singleton.1 hs, Symbol.text_ofToken]
      exact htoken

/-- **All rounds** from the start. -/
theorem Of.rounds {t : Text} {before after : Cutting} (h : Of t before)
    (hrounds : Relation.ReflTransGen Round before after) : Of t after := by
  induction hrounds with
  | refl => exact h
  | tail _ hround ih => exact ih.round hround

/-- The rounds end, and then each token of the text is a symbol. -/
theorem exists_rounds (symbols : List Symbol) (t : Text) : ∃ rest, trimStart rest = [] ∧
    Relation.ReflTransGen Round ⟨symbols, t⟩ ⟨symbols ++ (Token.all t).map .ofToken, rest⟩ := by
  fun_induction Token.all t generalizing symbols with
  | case1 t hend => exact ⟨t, hend, by rw [List.map_nil, List.append_nil]⟩
  | case2 t c rest hstart ih =>
    obtain ⟨last, hlast, hrounds⟩ := ih (symbols ++ [.ofToken (Token.first (c :: rest)).1])
    rw [List.append_assoc] at hrounds
    have hround : Round ⟨symbols, t⟩ ⟨symbols ++ [.ofToken (Token.first (c :: rest)).1],
        (Token.first (c :: rest)).2⟩ := by
      rw [← hstart]
      exact .mk (by rw [hstart]; exact List.cons_ne_nil _ _)
    exact ⟨last, hlast, .head hround hrounds⟩

end Cutting

/-! ### Right-hand sides -/

namespace Symbol

/-- What is written for no symbols at all, where something is written. -/
def writtenMarks : List Text := ["/* empty */".toList, "%empty".toList, "ε".toList]

/-- All right-hand sides but the written marks are cut into tokens, the empty one too. -/
theorem ofRight_eq {t : Text} (h : trim t ∉ writtenMarks) :
    ofRight t = (Token.all (trim t)).map ofToken := by
  by_cases hempty : trim t = []
  · have hnone : Token.all [] = [] := by rw [Token.all]; rfl
    simp [ofRight, hempty, emptyMarks, hnone]
  · have hmark : trim t ∉ emptyMarks := fun hmem =>
      (List.mem_cons.1 hmem).elim (fun hnil => hempty hnil) h
    simp only [ofRight, if_neg hmark]

/-- **A right-hand side is cut into symbols without loss.** The texts of the symbols stand in it in
order and what is around them is blank; none of them is empty. They are cut off in rounds that end
when nothing but blanks is left, and each round takes at least one character besides the blanks
before it. -/
theorem ofRight_spaced {t : Text} (h : trim t ∉ writtenMarks) :
    Spaced ((ofRight t).map text) t ∧ (∀ s ∈ ofRight t, s.text ≠ []) ∧
    (∃ rest, trimStart rest = [] ∧
      Relation.ReflTransGen Cutting.Round ⟨[], trim t⟩ ⟨ofRight t, rest⟩) ∧
    ∀ before after, Cutting.Round before after →
      after.rest.length < (trimStart before.rest).length := by
  obtain ⟨rest, hend, hrounds⟩ := Cutting.exists_rounds [] (trim t)
  rw [List.nil_append, ← ofRight_eq h] at hrounds
  obtain ⟨⟨taken, htaken, hspaced⟩, hspelled⟩ := (Cutting.of_start (trim t)).rounds hrounds
  obtain ⟨gap, hgap, hrest⟩ := exists_trimStart rest
  rw [hend, List.append_nil] at hrest
  refine ⟨Spaced.of_trim ?_, hspelled, ⟨rest, hend, hrounds⟩, fun _ _ h => h.length_lt⟩
  rw [htaken, hrest]
  exact hspaced.append_blank hgap

/-- Quoted tokens with nothing between them, blanks of several kinds, and a quote left open. -/
theorem ofRight_spaced_abutting :
    trim " 'x'\"a b\"c\t' '\u3000\"d".toList ∉ writtenMarks ∧
    ofRight " 'x'\"a b\"c\t' '\u3000\"d".toList = [.literal 'x', .terminal "\"a b\"".toList,
      .nonterminal "c".toList, .literal ' ', .terminal "\"d".toList] ∧
    Spaced ["'x'".toList, "\"a b\"".toList, "c".toList, "' '".toList, "\"d".toList]
      " 'x'\"a b\"c\t' '\u3000\"d".toList := by
  have hmark : trim " 'x'\"a b\"c\t' '\u3000\"d".toList ∉ writtenMarks := by decide
  have hsymbols : ofRight " 'x'\"a b\"c\t' '\u3000\"d".toList = [.literal 'x',
      .terminal "\"a b\"".toList, .nonterminal "c".toList, .literal ' ',
      .terminal "\"d".toList] := by decide +kernel
  obtain ⟨hspaced, -⟩ := ofRight_spaced hmark
  rw [hsymbols] at hspaced
  exact ⟨hmark, hsymbols, hspaced⟩

end Symbol
end ParserTables
