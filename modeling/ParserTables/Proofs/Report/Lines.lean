import ParserTables.Proofs.Symbol.Spelling

/-! The lines of a report as they are written, and how each is read on its own.

A line is a gap and a body (`IsContent`). A rule and an entry of a state are indented, so
neither is a header (`IsIndented.header?`). The line of a listing need not be: that it is no
header either is `header?_listedName`, whatever name it lists. `rule?_namedRule` and
`rule?_furtherRule` read the two ways to write a rule, `rule?_of_isLeft` any text with a name on
its left. -/
namespace ParserTables
open Text

/-! ### Gaps -/

/-- Nothing but spaces and tabs. -/
def IsGap (t : Text) : Prop := ∀ c ∈ t, c = ' ' ∨ c = '\t'

instance (t : Text) : Decidable (IsGap t) :=
  decidable_of_iff (t.all fun c => c = ' ' || c = '\t') (by simp [IsGap])

theorem IsGap.blank {t : Text} (h : IsGap t) : blank t = true := by
  rw [Text.blank, List.all_eq_true]
  intro c hc
  rcases h c hc with rfl | rfl <;> rfl

theorem IsGap.newline {t : Text} (h : IsGap t) : '\n' ∉ t := fun hc => by
  rcases h _ hc with he | he <;> exact absurd he (by decide)

/-- A line that can be told from its neighbours. -/
structure IsLine (line : Text) : Prop where
  newline : '\n' ∉ line
  last : line.getLast? ≠ some '\r'

theorem IsGap.isLine {t : Text} (h : IsGap t) : IsLine t := by
  refine ⟨h.newline, fun he => ?_⟩
  rcases h _ (List.mem_of_getLast? he) with hr | hr <;> exact absurd hr (by decide)

/-- What stands on a line after its indentation. -/
structure IsBody (t : Text) : Prop where
  solid : Solid t
  newline : '\n' ∉ t

namespace IsBody
variable {t : Text} (h : IsBody t)
include h

theorem trimEnd_append_left (before : Text) : trimEnd (before ++ t) = before ++ t := by
  obtain ⟨front, c, rfl, hc⟩ := h.solid.last
  rw [← List.append_assoc, trimEnd_append_cons _ hc]
  rfl

theorem blank_append_left (before : Text) : blank (before ++ t) = false := by
  rw [blank_append, h.solid.not_blank, Bool.and_false]

/-- Two bodies on one line, with a mark between them. -/
theorem append {m u : Text} (hm : '\n' ∉ m) (hu : IsBody u) : IsBody (t ++ (m ++ u)) := by
  constructor
  · have := h.solid.append m hu.solid
    rwa [List.append_assoc] at this
  · simp [h.newline, hm, hu.newline]

end IsBody

theorem isBody_ofNat (n : Nat) : IsBody (ofNat n) :=
  ⟨solid_ofNat n, fun hm => absurd (isDigit_of_mem_ofNat hm) (by decide)⟩

theorem isBody_singleton {c : Char} (hc : isBlank c = false) : IsBody [c] :=
  ⟨.singleton hc, fun hm => absurd hc (by rw [← List.mem_singleton.1 hm]; decide)⟩

/-- A line with something on it, after a gap. -/
inductive IsContent : Text → Prop where
  | mk {indent body : Text} : IsGap indent → IsBody body → IsContent (indent ++ body)

theorem IsBody.isContent {t : Text} (h : IsBody t) : IsContent t :=
  have hgap : IsGap [] := fun _ hc => nomatch hc
  show IsContent ([] ++ t) from .mk hgap h

theorem IsContent.blank {line : Text} (h : IsContent line) : Text.blank line = false := by
  obtain ⟨-, hb⟩ := h
  exact hb.blank_append_left _

theorem IsContent.isLine {line : Text} (h : IsContent line) : IsLine line := by
  obtain ⟨hi, hb⟩ := h
  constructor
  · intro hm
    rcases List.mem_append.1 hm with hm | hm
    · exact hi.newline hm
    · exact hb.newline hm
  · obtain ⟨front, c, rfl, hc⟩ := hb.solid.last
    rw [← List.append_assoc, List.getLast?_concat]
    intro he
    exact absurd hc (by rw [Option.some.inj he]; decide)

/-- A line with something on it that does not start the line. -/
inductive IsIndented : Text → Prop where
  | mk {indent body : Text} : IsGap indent → indent ≠ [] → IsBody body →
      IsIndented (indent ++ body)

theorem IsIndented.isContent {line : Text} (h : IsIndented line) : IsContent line := by
  obtain ⟨hi, -, hb⟩ := h
  exact .mk hi hb

/-! ### Names -/

/-- A name that a report can hold: an identifier, or a quoted token, on one line. -/
structure IsName (t : Text) : Prop where
  form : isIdentifier t = true ∨ Token.isQuoted t = true
  newline : '\n' ∉ t

instance (t : Text) : Decidable (IsName t) :=
  decidable_of_iff ((isIdentifier t = true ∨ Token.isQuoted t = true) ∧ '\n' ∉ t)
    ⟨fun h => ⟨h.1, h.2⟩, fun h => ⟨h.form, h.newline⟩⟩

namespace IsName
variable {t : Text} (h : IsName t)
include h

theorem whole : Token.Whole t := by
  rcases h.form with h | h
  · exact whole_of_isIdentifier h
  · exact whole_of_isQuoted h

theorem isBody : IsBody t := ⟨h.whole.solid, h.newline⟩

theorem unmarked : Unmarked t := by
  rcases h.form with h | h
  · exact unmarked_of_isIdentifier h
  · obtain ⟨q, front, hq, rfl⟩ := Token.exists_of_quoted? (isQuoted_iff.1 h)
    rcases hq with rfl | rfl
    · exact ⟨_, _, rfl, by decide, by decide, by decide⟩
    · exact ⟨_, _, rfl, by decide, by decide, by decide⟩

end IsName

theorem isName_of_isIdentifier {t : Text} (h : isIdentifier t = true) : IsName t :=
  ⟨.inl h, not_mem_of_isIdentifier h rfl⟩

/-! ### Written lines -/

/-- The symbols of a rule, a space between neighbours. -/
def rightText : List Text → Text
  | [] => "%empty".toList
  | ts => join [' '] ts

/-- A rule that names the nonterminal it produces. -/
def namedRule (number : Nat) (left : Text) (right : List Text) : Text :=
  ofNat number ++ (' ' :: (left ++ (':' :: ' ' :: rightText right)))

/-- A rule for the nonterminal of the rule before it, with a gap in its place. -/
def furtherRule (number : Nat) (gap : Text) (right : List Text) : Text :=
  ofNat number ++ ((gap ++ ['|', ' ']) ++ rightText right)

/-- A name in a listing, with its code. -/
def listedName (name : Text) (code : Nat) : Text :=
  name ++ (' ' :: '(' :: (ofNat code ++ [')']))

section Right
variable {ts : List Text} (h : ∀ t ∈ ts, IsName t)
include h

theorem isBody_rightText : IsBody (rightText ts) := by
  cases ts with
  | nil =>
    exact (isBody_singleton (c := '%') rfl).append (m := "empt".toList) (by decide)
      (isBody_singleton (c := 'y') rfl)
  | cons t more =>
    exact ⟨Token.solid_join (fun t ht => (h t ht).isBody.solid) (List.cons_ne_nil _ _),
      Token.not_mem_join (by decide) fun t ht => (h t ht).newline⟩

/-- A written right-hand side is read symbol by symbol. -/
theorem ofRight_rightText : Symbol.ofRight (rightText ts) = ts.map Symbol.ofToken := by
  cases ts with
  | nil => decide
  | cons t more =>
    show Symbol.ofRight (join [' '] (t :: more)) = _
    rw [Token.ofRight_join (fun t ht => (h t ht).isBody.solid)
      (join_not_mem_emptyMarks fun t ht => (h t ht).unmarked),
      Token.Whole.all_join fun t ht => (h t ht).whole]

theorem isBody_namedRule (number : Nat) {left : Text} (hl : IsName left) :
    IsBody (namedRule number left ts) :=
  (isBody_ofNat number).append (m := [' ']) (by decide)
    (hl.isBody.append (m := [':', ' ']) (by decide) (isBody_rightText h))

theorem isBody_furtherRule (number : Nat) {gap : Text} (hg : IsGap gap) :
    IsBody (furtherRule number gap ts) :=
  (isBody_ofNat number).append (m := gap ++ ['|', ' ']) (by simp [hg.newline]) (isBody_rightText h)

end Right

theorem isBody_code (code : Nat) : IsBody ('(' :: (ofNat code ++ [')'])) :=
  (isBody_singleton (c := '(') rfl).append (m := []) List.not_mem_nil
    ((isBody_ofNat code).append (m := []) List.not_mem_nil (isBody_singleton (c := ')') rfl))

theorem isBody_listedName {name : Text} (hn : IsName name) (code : Nat) :
    IsBody (listedName name code) :=
  hn.isBody.append (m := [' ']) (by decide) (isBody_code code)

/-! ### Headers -/

/-- A line that starts with a blank is no header. -/
theorem header?_blank_cons {c : Char} (hc : isBlank c = true) (rest : Text) :
    Line.header? (c :: rest) = none := by
  have hne : ∀ m : Char, isBlank m = false → m ≠ c := fun m hm he => by
    rw [he, hc] at hm
    exact absurd hm nofun
  have hg := hne 'G' rfl
  have ht := hne 'T' rfl
  have hn := hne 'N' rfl
  have hs := hne 's' rfl
  have hS := hne 'S' rfl
  obtain ⟨b, hb⟩ := trimEnd_isPrefix (c :: rest)
  rw [Line.header?]
  cases htrim : trimEnd (c :: rest) with
  | nil => rfl
  | cons d more =>
    rw [htrim] at hb
    obtain rfl := (List.cons.inj hb).1
    simp [after?, hg.symm, ht, hn, hs, hS]

/-- A line that is indented is no header. -/
theorem IsIndented.header? {line : Text} (h : IsIndented line) : Line.header? line = none := by
  obtain ⟨hi, hne, -⟩ := h
  obtain ⟨c, more, rfl⟩ := List.exists_cons_of_ne_nil hne
  exact header?_blank_cons (List.all_eq_true.1 hi.blank c (List.mem_cons_self ..)) _

/-- A line that starts with a quote is no header. -/
theorem header?_quoted {q : Char} (hq : q = '\'' ∨ q = '"') (rest : Text) :
    Line.header? (q :: rest) = none := by
  have hb : isBlank q = false := by rcases hq with rfl | rfl <;> rfl
  have htrim : trimEnd (q :: rest) = q :: trimEnd rest := trimEnd_append_cons [] hb rest
  rw [Line.header?, htrim]
  rcases hq with rfl | rfl
  · simp [after?]
  · simp [after?]

/-- A word and a space are found at the start of a text exactly if its first word is that
word. -/
theorem after?_word {word name : Text} (hw : ' ' ∉ word) (hn : ' ' ∉ name) (rest : Text) :
    after? (word ++ [' ']) (name ++ ' ' :: rest) = if word = name then some rest else none := by
  induction word generalizing name with
  | nil =>
    cases name with
    | nil => rfl
    | cons c name =>
      have hc : ' ' ≠ c := fun he => hn (he ▸ List.mem_cons_self ..)
      simp [after?, hc]
  | cons m word ih =>
    cases name with
    | nil =>
      have hm : m ≠ ' ' := fun he => hw (he ▸ List.mem_cons_self ..)
      simp [after?, hm]
    | cons c name =>
      have := ih (fun hm => hw (List.mem_cons_of_mem m hm)) fun hm => hn (List.mem_cons_of_mem c hm)
      by_cases hc : m = c
      · simp [after?, hc, this]
      · simp [after?, hc]

/-- What starts with a parenthesis is no number. -/
theorem number?_paren (rest : Text) : number? ('(' :: rest) = none := by
  have htrim : trim ('(' :: rest) = '(' :: trimEnd rest := trimEnd_append_cons [] rfl rest
  simp [number?, htrim]

/-- An identifier followed by a remark in parentheses is no header. -/
theorem header?_identifier {name rest : Text} (h : isIdentifier name = true)
    (hr : IsBody ('(' :: rest)) : Line.header? (name ++ ' ' :: '(' :: rest) = none := by
  have hspace : ' ' ∉ name := not_mem_of_isIdentifier h rfl
  have htrim : trimEnd (name ++ ' ' :: '(' :: rest) = name ++ ' ' :: '(' :: rest := by
    have := hr.trimEnd_append_left (name ++ [' '])
    rwa [List.append_assoc] at this
  have hgrammar : name ++ ' ' :: '(' :: rest ≠ "Grammar".toList := fun he => by
    have : ' ' ∈ "Grammar".toList := he ▸ List.mem_append_right name (List.mem_cons_self ..)
    simp at this
  have hlisting : ∀ word : Text, ' ' ∉ word → isIdentifier word = false →
      after? (word ++ [' ']) (name ++ ' ' :: '(' :: rest) = none := by
    intro word hw hf
    rw [after?_word hw hspace, if_neg]
    rintro rfl
    exact absurd h (by simp [hf])
  -- a state may be called `state`, but what follows it here is no number
  have hstate : ∀ word : Text, ' ' ∉ word →
      ∀ t ∈ after? (word ++ [' ']) (name ++ ' ' :: '(' :: rest), number? t = none := by
    intro word hw t ht
    rw [after?_word hw hspace, Option.mem_ite_none_right] at ht
    obtain rfl := Option.some.inj ht.2
    exact number?_paren rest
  have hterminals : after? "Terminals, ".toList (name ++ ' ' :: '(' :: rest) = none :=
    hlisting "Terminals,".toList (by simp) rfl
  have hnonterminals : after? "Nonterminals, ".toList (name ++ ' ' :: '(' :: rest) = none :=
    hlisting "Nonterminals,".toList (by simp) rfl
  have hnumber : ((after? "state ".toList (name ++ ' ' :: '(' :: rest)).or
      (after? "State ".toList (name ++ ' ' :: '(' :: rest))).bind
        (fun t => (number? t).map Line.Header.state) = none := by
    rw [Option.bind_eq_none_iff]
    intro t ht
    rw [Option.map_eq_none_iff]
    rcases Option.or_eq_some_iff.1 ht with ht | ⟨-, ht⟩
    · exact hstate "state".toList (by simp) t ht
    · exact hstate "State".toList (by simp) t ht
  rw [Line.header?, htrim]
  simp only [hgrammar, hterminals, hnonterminals, hnumber, Option.isSome_none,
    Bool.false_eq_true, if_false]

/-- **The line of a listing** is no header, whatever name it lists. -/
theorem header?_listedName {indent name : Text} (hi : IsGap indent) (hn : IsName name)
    (code : Nat) : Line.header? (indent ++ listedName name code) = none := by
  by_cases hne : indent = []
  · subst hne
    rcases hn.form with hform | hform
    · exact header?_identifier hform (isBody_code code)
    · obtain ⟨q, front, hq, rfl⟩ := Token.exists_of_quoted? (isQuoted_iff.1 hform)
      exact header?_quoted hq _
  · exact (IsIndented.mk hi hne (isBody_listedName hn code)).header?

theorem isContent_stateHeader {word : Text}
    (hw : word = "state ".toList ∨ word = "State ".toList) (n : Nat) :
    IsContent (word ++ ofNat n) := by
  have hbody : ∀ c : Char, isBlank c = false → IsBody ([c] ++ ("tate ".toList ++ ofNat n)) :=
    fun c hc => (isBody_singleton hc).append (by decide) (isBody_ofNat n)
  rcases hw with rfl | rfl
  · exact (hbody 's' rfl).isContent
  · exact (hbody 'S' rfl).isContent

theorem header?_state {word : Text} (hw : word = "state ".toList ∨ word = "State ".toList)
    {n : Nat} (hn : n < numberLimit) : Line.header? (word ++ ofNat n) = some (.state n) := by
  rw [Line.header?, (isBody_ofNat n).trimEnd_append_left]
  rcases hw with rfl | rfl
  · simp [after?, number?_ofNat hn]
  · simp [after?, number?_ofNat hn]

/-! ### Rules -/

/-- The number at the start of a line, and what follows it. -/
theorem leadingNumber?_line {indent rest : Text} {n : Nat} (hi : IsGap indent)
    (hn : n < numberLimit) (hb : IsBody (ofNat n ++ rest))
    (hr : rest.head?.all isBlank = true) :
    leadingNumber? (trim (indent ++ (ofNat n ++ rest))) = some (n, rest) := by
  rw [hb.solid.trim_after hi.blank, leadingNumber?_ofNat hn hr]

/-- A name that can stand on the left of a rule. -/
structure IsLeft (t : Text) : Prop where
  ne_nil : t ≠ []
  not_blank : ∀ c ∈ t, isBlank c = false
  colon : ':' ∉ t
  bar : t.head? ≠ some '|'

instance (t : Text) : Decidable (IsLeft t) :=
  decidable_of_iff (t ≠ [] ∧ (t.all fun c => !isBlank c) = true ∧ ':' ∉ t ∧ t.head? ≠ some '|')
    ⟨fun h => ⟨h.1, by simpa using h.2.1, h.2.2.1, h.2.2.2⟩,
      fun h => ⟨h.ne_nil, by simpa using h.not_blank, h.colon, h.bar⟩⟩

theorem isLeft_of_isIdentifier {t : Text} (h : isIdentifier t = true) : IsLeft t where
  ne_nil := (whole_of_isIdentifier h).solid.ne_nil
  not_blank _ hc := isBlank_of_isNamePart (isNamePart_of_mem h hc)
  colon := not_mem_of_isIdentifier h rfl
  bar he := not_mem_of_isIdentifier h (c := '|') rfl (List.mem_of_mem_head? he)

/-- A rule with a name on its left, whatever stands on its right. -/
theorem rule?_of_isLeft {line left right : Text} {n : Nat}
    (hnum : leadingNumber? (trim line) = some (n, ' ' :: (left ++ ':' :: right)))
    (hl : IsLeft left) : Line.rule? line = some ⟨n, some left, trim right⟩ := by
  have hsolid : Solid left := .of_forall hl.ne_nil hl.not_blank
  have hstart : trimStart (' ' :: (left ++ ':' :: right)) = left ++ ':' :: right :=
    (Text.trimStart_append (b := [' ']) rfl _).trans (hsolid.trimStart_append _)
  have hcolon : ∀ c ∈ left, (c != ':') = true := fun c hc => by
    have : c ≠ ':' := fun he => hl.colon (he ▸ hc)
    simpa using this
  obtain ⟨htake, hdrop⟩ := cut_append hcolon (show (':' :: right).head?.any (· != ':') = false from rfl)
  have hany : left.any isBlank = false := by
    rw [List.any_eq_false]
    intro c hc
    simp [hl.not_blank c hc]
  simp only [Line.rule?, hnum, Option.bind_some, hstart]
  split
  · rename_i he
    obtain ⟨c, more, rfl⟩ := List.exists_cons_of_ne_nil hl.ne_nil
    exact absurd (congrArg some (List.cons.inj he).1) hl.bar
  · simp only [htake, hdrop, hsolid.trim_eq, hsolid.isEmpty_eq_false, hany, Bool.or_self,
      Bool.false_eq_true, if_false]

section Rules
variable {indent : Text} {n : Nat} {ts : List Text} (hi : IsGap indent) (hn : n < numberLimit)
  (h : ∀ t ∈ ts, IsName t)
include hi hn h

theorem rule?_namedRule {left : Text} (hl : isIdentifier left = true) :
    Line.rule? (indent ++ namedRule n left ts) = some ⟨n, some left, rightText ts⟩ := by
  have hnum := leadingNumber?_line hi hn (isBody_namedRule h n (isName_of_isIdentifier hl)) rfl
  have hright : trim (' ' :: rightText ts) = rightText ts :=
    (isBody_rightText h).solid.trim_after (a := [' ']) rfl
  rw [← hright]
  exact rule?_of_isLeft hnum (isLeft_of_isIdentifier hl)

theorem rule?_furtherRule {gap : Text} (hg : IsGap gap) (hne : gap ≠ []) :
    Line.rule? (indent ++ furtherRule n gap ts) = some ⟨n, none, rightText ts⟩ := by
  have hhead : ((gap ++ ['|', ' ']) ++ rightText ts).head?.all isBlank = true := by
    obtain ⟨c, more, rfl⟩ := List.exists_cons_of_ne_nil hne
    exact List.all_eq_true.1 hg.blank c (List.mem_cons_self ..)
  have hnum := leadingNumber?_line hi hn (isBody_furtherRule h n hg) hhead
  have hstart : trimStart ((gap ++ ['|', ' ']) ++ rightText ts) = '|' :: ' ' :: rightText ts := by
    rw [List.append_assoc, Text.trimStart_append hg.blank]
    rfl
  have hright : trim (' ' :: rightText ts) = rightText ts :=
    (isBody_rightText h).solid.trim_after (a := [' ']) rfl
  simp only [Line.rule?, furtherRule, hnum, Option.bind_some, hstart, hright]

end Rules

end ParserTables
