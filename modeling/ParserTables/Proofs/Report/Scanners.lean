import ParserTables.Proofs.Report.Phrase
import ParserTables.Proofs.Symbol.Spelling

/-! The three scanners of a report on one spelling.

A symbol has a line in a listing, stands on the right-hand sides of rules and has
actions in states, and each of the three is cut up by a scanner of its own. They agree
on every spelling but the escaped single quote, which only the listing reads:
`scanners_agree_iff`. -/
namespace ParserTables
open Text Token

/-- The symbols of a right-hand side are spelled like the tokens it is cut into. -/
theorem map_text_ofRight_join {ss : List Text} (h : ∀ s ∈ ss, Spelling s) :
    (Symbol.ofRight (join [' '] ss)).map Symbol.text = Token.all (join [' '] ss) := by
  rw [ofRight_join (fun s hs => (h s hs).solid) fun hne =>
    join_not_mem_emptyMarks (fun s hs => (h s hs).unmarked) hne, List.map_map]
  exact List.map_id'' (fun t => Symbol.text_ofToken t) _

/-- The escaped single quote is cut in two on a right-hand side. -/
theorem all_escapedQuote (rest : Text) :
    ∃ more, Token.all (escapedQuote ++ rest) = "'\\'".toList :: more := by
  rw [Token.all]
  split
  · rename_i hnil
    rw [solid_escapedQuote.trimStart_append] at hnil
    exact absurd (List.append_eq_nil_iff.1 hnil).1 solid_escapedQuote.ne_nil
  · rename_i c more hcons
    rw [solid_escapedQuote.trimStart_append] at hcons
    rw [← hcons]
    exact ⟨_, rfl⟩

/-- A right-hand side with an escaped single quote is not read as it was spelled. -/
theorem all_join_ne {ss : List Text} (h : ∀ s ∈ ss, Spelling s) (hmem : escapedQuote ∈ ss) :
    Token.all (join [' '] ss) ≠ ss := by
  obtain ⟨before, after, rfl, hfirst⟩ := List.eq_append_cons_of_mem hmem
  have hbefore : ∀ s ∈ before, Separable s := fun s hs =>
    ((h s (List.mem_append_left _ hs)).whole fun he => hfirst (he ▸ hs)).separable
  obtain ⟨rest, hrest⟩ : ∃ rest, join [' '] (escapedQuote :: after) = escapedQuote ++ rest := by
    cases after with
    | nil => exact ⟨[], by rw [List.append_nil]; exact join_singleton ..⟩
    | cons u more => exact ⟨_, join_cons_cons _ _ u more⟩
  obtain ⟨more, hmore⟩ := all_escapedQuote rest
  rw [Separable.all_join_append hbefore, hrest, hmore]
  intro heq
  have := (List.cons.inj (List.append_cancel_left heq)).1
  exact absurd this (by decide)

/-- In a state, the escaped single quote is taken for a quoted backslash and a word that says
nothing. -/
theorem state_escapedQuote (k : Nat) :
    Line.state ("    ".toList ++ (escapedQuote ++
      ("  ".toList ++ ("shift, and go to state ".toList ++ ofNat k)))) = .unrecognized := by
  have hsaid : Solid ("shift, and go to state ".toList ++ ofNat k) :=
    (Solid.singleton (c := 's') rfl).append "hift, and go to state ".toList (solid_ofNat k)
  generalize "shift, and go to state ".toList ++ ofNat k = said at hsaid
  have hline : Solid (escapedQuote ++ ("  ".toList ++ said)) := by
    have := solid_escapedQuote.append "  ".toList hsaid
    rwa [List.append_assoc] at this
  have hnum : leadingNumber? (escapedQuote ++ ("  ".toList ++ said)) = none :=
    leadingNumber?_cons rfl _
  have hnote : after? "Conflict between ".toList (escapedQuote ++ ("  ".toList ++ said)) = none :=
    rfl
  have hfirst : first (escapedQuote ++ ("  ".toList ++ said)) =
      ("'\\'".toList, "'  ".toList ++ said) := rfl
  have hrest : Solid ("'  ".toList ++ said) :=
    (Solid.singleton (c := '\'') rfl).append "  ".toList hsaid
  have hun : Line.unbracket ("'  ".toList ++ said) = ("'  ".toList ++ said, false) := rfl
  have hphrase : Line.phrase? ("'  ".toList ++ said) = none := by simp [Line.phrase?, after?]
  simp only [Line.state, hline.trim_after (a := "    ".toList) rfl, hnum, hnote, hfirst,
    hrest.trim_eq, hun, hphrase, Option.isSome_none, Bool.false_eq_true, if_false, ite_self]

/-- **The scanners agree on every spelling but one.** A listing names each spelling as it is
written. A state does so, and a right-hand side has one symbol for each spelling, spelled
that way, exactly where the escaped single quote does not occur. -/
theorem scanners_agree_iff {s : Text} (hs : Spelling s) {k : Nat} (hk : k < 65536)
    {ss : List Text} (hss : ∀ s ∈ ss, Spelling s) :
    Line.symbolName (s ++ " (258) 3".toList) = s ∧
    Line.state ("    ".toList ++ (s ++ ("  shift, and go to state ".toList ++ ofNat k))) =
      (if s = escapedQuote then .unrecognized else .action s (.shift k) false) ∧
    ((Symbol.ofRight (join [' '] ss)).map Symbol.text = ss ↔ escapedQuote ∉ ss) := by
  refine ⟨?_, ?_, ?_⟩
  · by_cases he : s = escapedQuote
    · subst he
      decide
    · have : Line.symbolName ([] ++ (s ++ " (".toList ++ "258) 3".toList)) = s :=
        (hs.whole he).symbolName rfl _
      rwa [List.nil_append, List.append_assoc] at this
  · by_cases he : s = escapedQuote
    · rw [if_pos he, he]
      exact state_escapedQuote k
    · rw [if_neg he]
      show Line.state ("    ".toList ++ (s ++
        ("  ".toList ++ ("shift, and go to state ".toList ++ ofNat k)))) = _
      exact (Says.shift hk).state (hs.whole he) rfl rfl (List.cons_ne_nil _ _)
  · rw [map_text_ofRight_join hss]
    constructor
    · exact fun heq hmem => all_join_ne hss hmem heq
    · exact fun hmem => Whole.all_join fun s hs => (hss s hs).whole fun he => hmem (he ▸ hs)

/-- An alias with a quote and a parenthesis inside, among an escape and quoted blanks. -/
theorem scanners_agree_on_quotes :
    Line.symbolName ("\"a \\\" (b\"".toList ++ " (258) 3".toList) = "\"a \\\" (b\"".toList ∧
    Line.state ("    ".toList ++ ("\"a \\\" (b\"".toList ++
      ("  shift, and go to state ".toList ++ ofNat 65535))) =
        .action "\"a \\\" (b\"".toList (.shift 65535) false ∧
    (Symbol.ofRight (join [' '] ["' '".toList, "'\\n'".toList, "' '".toList])).map Symbol.text =
      ["' '".toList, "'\\n'".toList, "' '".toList] := by
  have halias : Spelling "\"a \\\" (b\"".toList :=
    .stringAlias (.plain (by decide) (by decide) (.plain (by decide) (by decide) (.escaped
      (.plain (by decide) (by decide) (.plain (by decide) (by decide) (.plain (by decide)
        (by decide) .nil))))))
  have hescape : Spelling "'\\n'".toList := .escape (.char rfl)
  have hblank : Spelling "' '".toList := .literal ' '
  have hall : ∀ s ∈ ["' '".toList, "'\\n'".toList, "' '".toList], Spelling s := by
    intro s hs
    simp only [List.mem_cons, List.not_mem_nil, or_false] at hs
    rcases hs with rfl | rfl | rfl
    · exact hblank
    · exact hescape
    · exact hblank
  obtain ⟨hname, hstate, hright⟩ := scanners_agree_iff halias (k := 65535) (by decide) hall
  exact ⟨hname, by rwa [if_neg (by decide)] at hstate, hright.2 (by decide)⟩

/-- The escaped single quote is a spelling that a listing reads, a state does not, and a
right-hand side takes for two symbols. -/
theorem escapedQuote_disagrees :
    Spelling escapedQuote ∧ Line.symbolName (escapedQuote ++ " (258) 3".toList) = escapedQuote ∧
    Line.state "    '\\''  shift, and go to state 1".toList = .unrecognized ∧
    Symbol.ofRight escapedQuote = [.literal '\\', .terminal ['\'']] :=
  ⟨.escape (.char rfl), by decide, by decide, by decide +kernel⟩

end ParserTables
