import ParserTables.Proofs.Symbol.Whole

/-! What a line of a state says, as it is written.

`Says` lists the written phrases with their meanings. A phrase is read as it was meant
(`Says.phrase?`), and so is a line that says it about a whole token (`Says.state`). -/
namespace ParserTables
open Text

/-- A phrase and its meaning. The name after a rule's number is a remark. -/
inductive Says : Text → Line.Phrase → Prop where
  | shift {target : Nat} : target < numberLimit →
      Says ("shift, and go to state ".toList ++ ofNat target) (.action (.shift target))
  | reduce {rule : Nat} (left : Text) : rule < numberLimit →
      Says ("reduce using rule ".toList ++ (ofNat rule ++ (" (".toList ++ left ++ [')'])))
        (.action (.reduce rule))
  | accept : Says "accept".toList (.action .accept)
  | error : Says "error".toList (.action .error)
  | nonassociative : Says "error (nonassociative)".toList (.action .error)
  | goto {target : Nat} : target < numberLimit →
      Says ("go to state ".toList ++ ofNat target) (.goto target)

namespace Says

/-- Phrases start with letters that open neither a bracket nor a remark on a conflict. -/
theorem head {t : Text} {p : Line.Phrase} (h : Says t p) :
    t.head? ≠ some 'b' ∧ t.head? ≠ some '[' := by
  cases h <;> exact ⟨by simp, by simp⟩

theorem solid {t : Text} {p : Line.Phrase} (h : Says t p) : Solid t := by
  have letter : ∀ c : Char, isBlank c = false → Solid [c] := fun c hc => .singleton hc
  cases h with
  | @shift target _ =>
    exact (letter 's' rfl).append "hift, and go to state ".toList (solid_ofNat target)
  | @reduce rule left _ =>
    have := (letter 'r' rfl).append
      ("educe using rule ".toList ++ (ofNat rule ++ (" (".toList ++ left))) (letter ')' rfl)
    simpa using this
  | accept => exact (letter 'a' rfl).append "ccep".toList (letter 't' rfl)
  | error => exact (letter 'e' rfl).append "rro".toList (letter 'r' rfl)
  | nonassociative => exact (letter 'e' rfl).append "rror (nonassociative".toList (letter ')' rfl)
  | @goto target _ => exact (letter 'g' rfl).append "o to state ".toList (solid_ofNat target)

/-- A phrase is read as it was meant. -/
theorem phrase? {t : Text} {p : Line.Phrase} (h : Says t p) : Line.phrase? t = some p := by
  cases h with
  | shift hk => simp only [Line.phrase?, after?_append, number?_ofNat hk, Option.map_some]
  | reduce left hk =>
    have hshift : ∀ rest : Text, after? "shift, and go to state ".toList
        ("reduce using rule ".toList ++ rest) = none := fun _ => rfl
    simp only [Line.phrase?, hshift, after?_append, leadingNumber?_ofNat hk
      (show (" (".toList ++ left ++ [')']).head?.all isBlank = true from rfl), Option.map_some]
  | accept => rfl
  | error => rfl
  | nonassociative => rfl
  | goto hk =>
    have hshift : ∀ rest : Text, after? "shift, and go to state ".toList
        ("go to state ".toList ++ rest) = none := fun _ => rfl
    have hreduce : ∀ rest : Text, after? "reduce using rule ".toList
        ("go to state ".toList ++ rest) = none := fun _ => rfl
    simp only [Line.phrase?, hshift, hreduce, after?_append, number?_ofNat hk, Option.map_some]

/-- **A line that says something about a whole token** is read as it was meant. -/
theorem state {token indent gap said : Text} {p : Line.Phrase} (h : Says said p)
    (ht : Token.Whole token) (hi : blank indent = true) (hg : blank gap = true) (hne : gap ≠ []) :
    Line.state (indent ++ (token ++ (gap ++ said))) = Token.lineOf token p :=
  ht.state hi hg hne h.solid h.head.1 h.head.2 h.phrase?

end Says

end ParserTables
