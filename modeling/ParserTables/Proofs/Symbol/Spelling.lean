import ParserTables.Proofs.Symbol.Whole

/-! How a symbol is spelled, and how the scanners read it.

A symbol is written as an identifier, as a string alias, as a quoted character or as a
quoted escape (`Spelling`). All spellings but one are whole tokens (`Spelling.whole`),
so a listing, a rule and a state name the same symbol by them. The one left is the escaped
single quote, `escapedQuote`: its second quote is taken for the closing one.
`scanners_agree_iff` says exactly what becomes of it. -/
namespace ParserTables
open Text

/-! ### Spellings -/

/-- May an identifier start with this character? -/
def isNameStart (c : Char) : Bool := c.isAlpha || c = '_' || c = '.' || c = '$' || c = '@'

/-- May an identifier go on with this character? -/
def isNamePart (c : Char) : Bool := isNameStart c || c.isDigit || c = '-'

/-- Is this text an identifier? -/
def isIdentifier : Text → Bool
  | [] => false
  | c :: rest => isNameStart c && rest.all isNamePart

/-- What may stand between the quotes of a string alias: a backslash takes the character
after it along, and no other quote is inside. -/
inductive AliasBody : Text → Prop where
  | nil : AliasBody []
  | plain {c : Char} {body : Text} : c ≠ '"' → c ≠ '\\' → AliasBody body → AliasBody (c :: body)
  | escaped {c : Char} {body : Text} : AliasBody body → AliasBody ('\\' :: c :: body)

/-- What may follow the backslash of a quoted escape: one character, or the letters and
digits of a code. -/
inductive EscapeCode : Text → Prop where
  | char {c : Char} : isBlank c = false → EscapeCode [c]
  | code {c : Char} {rest : Text} : (∀ d ∈ c :: rest, d.isAlphanum = true) → EscapeCode (c :: rest)

/-- The ways a symbol is written. -/
inductive Spelling : Text → Prop where
  | identifier {t : Text} : isIdentifier t = true → Spelling t
  | stringAlias {body : Text} : AliasBody body → Spelling ('"' :: body ++ ['"'])
  | literal (c : Char) : Spelling ['\'', c, '\'']
  | escape {code : Text} : EscapeCode code → Spelling ('\'' :: '\\' :: code ++ ['\''])

/-- The escaped single quote. -/
def escapedQuote : Text := "'\\''".toList

/-! ### Character classes -/

theorem isNamePart_of_isNameStart {c : Char} (h : isNameStart c = true) : isNamePart c = true := by
  simp [isNamePart, h]

/-- The code points of letters. -/
theorem isAlpha_iff {c : Char} : c.isAlpha = true ↔
    (65 ≤ c.toNat ∧ c.toNat ≤ 90) ∨ (97 ≤ c.toNat ∧ c.toNat ≤ 122) := by
  show (decide (65 ≤ c.val ∧ c.val ≤ 90) ||
    (decide (97 ≤ c.val) && decide (c.val ≤ 122))) = true ↔ _
  simp only [Bool.or_eq_true, Bool.and_eq_true, decide_eq_true_eq, UInt32.le_iff_toNat_le]
  rfl

theorem isAlphanum_iff {c : Char} : c.isAlphanum = true ↔
    ((65 ≤ c.toNat ∧ c.toNat ≤ 90) ∨ (97 ≤ c.toNat ∧ c.toNat ≤ 122)) ∨
      (48 ≤ c.toNat ∧ c.toNat ≤ 57) := by
  show (c.isAlpha || c.isDigit) = true ↔ _
  rw [Bool.or_eq_true, isAlpha_iff, isDigit_iff]

theorem isBlank_of_isAlphanum {c : Char} (h : c.isAlphanum = true) : isBlank c = false := by
  rw [isAlphanum_iff] at h
  exact isBlank_eq_false (by omega) (by omega)

theorem isBlank_of_isNamePart {c : Char} (h : isNamePart c = true) : isBlank c = false := by
  simp only [isNamePart, isNameStart, Bool.or_eq_true, decide_eq_true_eq, isAlpha_iff,
    isDigit_iff] at h
  rcases h with (((((h | rfl) | rfl) | rfl) | rfl) | h) | rfl
  · exact isBlank_eq_false (by omega) (by omega)
  · rfl
  · rfl
  · rfl
  · rfl
  · exact isBlank_eq_false (by omega) (by omega)
  · rfl

/-- Characters that no identifier starts with. -/
theorem ne_of_isNameStart {c d : Char} (h : isNameStart c = true) (hd : isNameStart d = false) :
    c ≠ d := by
  rintro rfl
  exact absurd h (by simp [hd])

theorem isDigit_of_isNameStart {c : Char} (h : isNameStart c = true) : c.isDigit = false := by
  simp only [isNameStart, Bool.or_eq_true, decide_eq_true_eq, isAlpha_iff] at h
  rcases h with (((h | rfl) | rfl) | rfl) | rfl
  · rw [← Bool.not_eq_true, isDigit_iff]
    omega
  · rfl
  · rfl
  · rfl
  · rfl

/-! ### Which spellings are whole -/

open Token (Whole quoted? alias? isQuoted)

theorem isQuoted_iff {t : Text} : isQuoted t = true ↔ quoted? t = some (t, []) := by
  rw [isQuoted, Option.any_eq_true]
  constructor
  · rintro ⟨⟨token, after⟩, h, he⟩
    obtain rfl : after = [] := by simpa using he
    have := Token.quoted?_eq_some h
    rw [List.append_nil] at this
    rw [h, this]
  · exact fun h => ⟨_, h, rfl⟩

theorem whole_of_isQuoted {t : Text} (h : isQuoted t = true) : Whole t :=
  .quoted (isQuoted_iff.1 h)

/-- An identifier holds no characters but those that may stand in one. -/
theorem isNamePart_of_mem {t : Text} (h : isIdentifier t = true) {c : Char} (hc : c ∈ t) :
    isNamePart c = true := by
  obtain _ | ⟨d, rest⟩ := t
  · exact absurd hc List.not_mem_nil
  · obtain ⟨hd, hrest⟩ := Bool.and_eq_true_iff.1 h
    rcases List.mem_cons.1 hc with rfl | hc
    · exact isNamePart_of_isNameStart hd
    · exact List.all_eq_true.1 hrest c hc

theorem not_mem_of_isIdentifier {t : Text} (h : isIdentifier t = true) {c : Char}
    (hc : isNamePart c = false) : c ∉ t := fun hm =>
  absurd (isNamePart_of_mem h hm) (by simp [hc])

theorem whole_of_isIdentifier {t : Text} (h : isIdentifier t = true) : Whole t := by
  obtain _ | ⟨c, rest⟩ := t
  · exact absurd h (by simp [isIdentifier])
  · have hc := (Bool.and_eq_true_iff.1 h).1
    refine .bare (isDigit_of_isNameStart hc) (fun d hd => ?_) fun after => ?_
    · exact isBlank_of_isNamePart (isNamePart_of_mem h hd)
    · exact Token.quoted?_cons (ne_of_isNameStart hc rfl) (ne_of_isNameStart hc rfl) _

/-- The scanner of string aliases stops where the alias does. -/
theorem alias?_body {body : Text} (h : AliasBody body) :
    alias? (body ++ ['"']) = some (body ++ ['"'], []) := by
  induction h with
  | nil => rfl
  | plain hq hb _ ih => rw [List.cons_append, Token.alias?_cons hq hb, ih, Option.map_some]
  | escaped _ ih => rw [List.cons_append, List.cons_append, alias?, ih, Option.map_some]

theorem EscapeCode.isBlank_eq_false {code : Text} (h : EscapeCode code) :
    ∀ d ∈ code, isBlank d = false := by
  intro d hd
  cases h with
  | char hc => rwa [List.mem_singleton.1 hd]
  | code hall => exact isBlank_of_isAlphanum (hall d hd)

/-- A code that starts with a single quote is that quote. -/
theorem EscapeCode.head {code : Text} (h : EscapeCode code) :
    ∃ c rest, code = c :: rest ∧ (c = '\'' → rest = []) := by
  cases h with
  | @char c _ => exact ⟨c, [], rfl, fun _ => rfl⟩
  | @code c rest hall =>
    refine ⟨c, rest, rfl, fun hc => ?_⟩
    subst hc
    exact absurd (hall '\'' (List.mem_cons_self ..)) (by decide)

/-- Of all spellings only the escaped single quote is not whole. -/
theorem Spelling.whole {t : Text} (h : Spelling t) (hne : t ≠ escapedQuote) : Whole t := by
  cases h with
  | identifier h => exact whole_of_isIdentifier h
  | stringAlias h =>
    exact .quoted (by rw [List.cons_append, quoted?, alias?_body h, Option.map_some])
  | literal c => exact .quoted rfl
  | @escape code h =>
    have hblank : ∀ d ∈ '\'' :: '\\' :: code ++ ['\''], isBlank d = false := by
      intro d hd
      rcases List.mem_append.1 hd with hd | hd
      · rcases List.mem_cons.1 hd with rfl | hd
        · rfl
        · rcases List.mem_cons.1 hd with rfl | hd
          · rfl
          · exact h.isBlank_eq_false d hd
      · rw [List.mem_singleton.1 hd]
        rfl
    refine .bare rfl hblank fun after => ?_
    obtain ⟨c, rest, rfl, hc⟩ := h.head
    have hq : c ≠ '\'' := fun he => hne (by rw [he, hc he]; rfl)
    simp [quoted?, hq]

theorem solid_escapedQuote : Solid escapedQuote :=
  (Solid.singleton rfl).append ['\\', '\''] (.singleton rfl)

theorem Spelling.solid {t : Text} (h : Spelling t) : Solid t := by
  by_cases hne : t = escapedQuote
  · exact hne ▸ solid_escapedQuote
  · exact (h.whole hne).solid

/-- A text that starts like no mark for an empty right-hand side. -/
def Unmarked (t : Text) : Prop := ∃ c rest, t = c :: rest ∧ c ≠ '/' ∧ c ≠ '%' ∧ c ≠ 'ε'

theorem unmarked_of_isIdentifier {t : Text} (h : isIdentifier t = true) : Unmarked t := by
  obtain _ | ⟨c, rest⟩ := t
  · exact absurd h (by simp [isIdentifier])
  · have hc := (Bool.and_eq_true_iff.1 h).1
    exact ⟨c, rest, rfl, ne_of_isNameStart hc rfl, ne_of_isNameStart hc rfl,
      ne_of_isNameStart hc rfl⟩

theorem Spelling.unmarked {t : Text} (h : Spelling t) : Unmarked t := by
  cases h with
  | identifier h => exact unmarked_of_isIdentifier h
  | stringAlias _ => exact ⟨_, _, rfl, by decide, by decide, by decide⟩
  | literal _ => exact ⟨_, _, rfl, by decide, by decide, by decide⟩
  | escape _ => exact ⟨_, _, rfl, by decide, by decide, by decide⟩

/-- A written right-hand side is no mark for an empty one. -/
theorem join_not_mem_emptyMarks {ts : List Text} (h : ∀ t ∈ ts, Unmarked t) (hne : ts ≠ []) :
    join [' '] ts ∉ Symbol.emptyMarks := by
  obtain ⟨t, more, rfl⟩ := List.exists_cons_of_ne_nil hne
  obtain ⟨c, rest, rfl, h₁, h₂, h₃⟩ := h _ (List.mem_cons_self ..)
  obtain ⟨tail, htail⟩ : ∃ tail, join [' '] ((c :: rest) :: more) = c :: tail := by
    cases more with
    | nil => exact ⟨rest, join_singleton ..⟩
    | cons u more => exact ⟨_, join_cons_cons _ _ u more⟩
  rw [htail]
  simp [Symbol.emptyMarks, h₁, h₂, h₃]

end ParserTables
