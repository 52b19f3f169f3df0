import ParserTables.Proofs.Report.Described

/-! Every description can be written, and its lines can be told apart.

No line of a section is blank or runs into another (`isContent_of_sections`), so a report
can be cut up into its lines again (`lines_unlines_of_reports`). `Description.write` is one way to
write a description: `reports_write`. -/
namespace ParserTables
open Text

/-! ### Lines -/

/-- The line of a rule is indented. -/
theorem isIndented_of_ruleLine {number : Nat} {previous : Option Text} {left line : Text}
    {right : List Text} (h : RuleLine number previous left right line)
    (hl : isIdentifier left = true) (hr : ∀ t ∈ right, IsName t) : IsIndented line := by
  cases h with
  | named hi hne => exact .mk hi hne (isBody_namedRule hr number (isName_of_isIdentifier hl))
  | further hi hne hg => exact .mk hi hne (isBody_furtherRule hr number hg)

/-- The line of an entry is indented. -/
theorem isIndented_of_isWritten {e : Entry} {line : Text} (h : e.IsWritten line)
    (hn : IsName e.phrase.1) : IsIndented line := by
  obtain ⟨indent, gap, said, hi, hne, hg, -, hs, hnew, rfl⟩ := h
  exact .mk hi hne (hn.isBody.append hg.newline ⟨hs.solid, hnew⟩)

/-- The line of an entry is read as it was meant. -/
theorem state_of_isWritten {e : Entry} {line : Text} (h : e.IsWritten line)
    (hn : IsName e.phrase.1) : Line.state line = Token.lineOf e.phrase.1 e.phrase.2 := by
  obtain ⟨indent, gap, said, hi, -, hg, hne, hs, -, rfl⟩ := h
  exact hs.state hn.whole hi.blank hg.blank hne

theorem exists_of_forall₂ {α β : Type} {R : α → β → Prop} {xs : List α} {ys : List β}
    (h : List.Forall₂ R xs ys) : ∀ y ∈ ys, ∃ x ∈ xs, R x y := by
  induction h with
  | nil => exact fun _ hm => absurd hm List.not_mem_nil
  | cons hxy _ ih =>
    intro y hm
    rcases List.mem_cons.1 hm with rfl | hm
    · exact ⟨_, List.mem_cons_self .., hxy⟩
    · obtain ⟨x, hx, hR⟩ := ih y hm
      exact ⟨x, List.mem_cons_of_mem _ hx, hR⟩

theorem isContent_of_ruleLines {number : Nat} {previous : Option Text}
    {rules : List (Text × List Text)} {lines : List Text}
    (h : RuleLines number previous rules lines)
    (hok : ∀ rule ∈ rules, isIdentifier rule.1 = true ∧ ∀ t ∈ rule.2, IsName t) :
    ∀ line ∈ lines, IsContent line := by
  induction h with
  | nil => exact fun _ hm => absurd hm List.not_mem_nil
  | cons hline _ ih =>
    intro l hm
    rcases List.mem_cons.1 hm with rfl | hm
    · obtain ⟨hleft, hright⟩ := hok _ (List.mem_cons_self ..)
      exact (isIndented_of_ruleLine hline hleft hright).isContent
    · exact ih (fun rule hrule => hok rule (List.mem_cons_of_mem _ hrule)) l hm

theorem isContent_of_listingLines {names lines : List Text} (h : ListingLines names lines)
    (hok : ∀ t ∈ names, IsName t) : ∀ line ∈ lines, IsContent line := by
  obtain ⟨indent, hi, hlines⟩ := h
  intro line hm
  obtain ⟨name, hname, code, rfl⟩ := exists_of_forall₂ hlines line hm
  exact .mk hi (isBody_listedName (hok name hname) code)

namespace Description
variable {d : Description}

/-- The name that an entry is written under can be read. -/
theorem isName_phrase {entries : List Entry} (hmem : entries ∈ d.states) {e : Entry}
    (he : e ∈ entries) : IsName e.phrase.1 := by
  have hres := d.resolves entries hmem e he
  cases e with
  | action token a => exact (d.terminal_names token hres.1).1
  | fallback a => exact isName_of_isIdentifier (t := Symbol.defaultName) rfl
  | goto symbol target => exact isName_of_isIdentifier (d.nonterminal_names symbol hres.1)

theorem isContent_of_stateLines {number : Nat} {states : List (List Entry)} {lines : List Text}
    (h : StateLines number states lines) (hok : ∀ entries ∈ states, entries ∈ d.states) :
    ∀ line ∈ lines, IsContent line := by
  induction h with
  | nil => exact fun _ hm => absurd hm List.not_mem_nil
  | @block number word entries states lines more hw hentries _ ih =>
    intro l hm
    rcases List.mem_cons.1 hm with rfl | hm
    · exact isContent_stateHeader hw number
    · rcases List.mem_append.1 hm with hm | hm
      · obtain ⟨e, he, hwritten⟩ := exists_of_forall₂ hentries l hm
        have hname := isName_phrase (hok entries (List.mem_cons_self ..)) he
        exact (isIndented_of_isWritten hwritten hname).isContent
      · exact ih (fun entries h => hok entries (List.mem_cons_of_mem _ h)) l hm

variable (d)

theorem rules_named : ∀ rule ∈ d.rules, isIdentifier rule.1 = true ∧ ∀ t ∈ rule.2, IsName t :=
  fun rule h => ⟨d.nonterminal_names _ (d.lefts rule h), d.rights rule h⟩

theorem isName_terminal : ∀ t ∈ d.terminals, IsName t := fun t ht => (d.terminal_names t ht).1

theorem isName_nonterminal : ∀ n ∈ d.nonterminals, IsName n := fun n hn =>
  isName_of_isIdentifier (d.nonterminal_names n hn)

theorem isContent_of_sections {lines : List Text} (h : Sections d lines) :
    ∀ line ∈ lines, IsContent line := by
  obtain ⟨hrules, hterminals, hnonterminals, hstates⟩ := h
  have hheader : ∀ (first last : Char) (m : Text), isBlank first = false → isBlank last = false →
      '\n' ∉ m → IsContent ([first] ++ (m ++ [last])) := fun first last m hf hl hm =>
    ((isBody_singleton hf).append hm (isBody_singleton hl)).isContent
  intro line hm
  simp only [List.mem_cons, List.mem_append] at hm
  rcases hm with rfl | hm | rfl | hm | rfl | hm | hm
  · exact hheader 'G' 'r' "ramma".toList rfl rfl (by decide)
  · exact isContent_of_ruleLines hrules d.rules_named line hm
  · exact hheader 'T' 'r' "erminals, with rules where they appea".toList rfl rfl (by decide)
  · exact isContent_of_listingLines hterminals d.isName_terminal line hm
  · exact hheader 'N' 'r' "onterminals, with rules where they appea".toList rfl rfl (by decide)
  · exact isContent_of_listingLines hnonterminals d.isName_nonterminal line hm
  · exact isContent_of_stateLines hstates (fun _ h => h) line hm

/-- The lines of a report can be told apart again. -/
theorem lines_unlines_of_reports {lines : List Text} (h : d.Reports lines) :
    Text.lines (Text.unlines lines) = lines := by
  refine Text.lines_unlines fun line hm => ?_
  have hline : IsLine line := by
    cases hb : Text.blank line with
    | true => exact (h.gaps line hm hb).isLine
    | false =>
      have hin : line ∈ lines.filter fun line => !blank line :=
        List.mem_filter.2 ⟨hm, by simp [hb]⟩
      exact (d.isContent_of_sections h.sections line hin).isLine
  exact ⟨hline.newline, hline.last⟩

/-! ### Writing -/

/-- The nonterminal that a rule produces. -/
def leftOf (rule : Nat) : Text := (d.rules[rule]?.map Prod.fst).getD []

/-- What is said, in words. The name after the number of a rule is what the rule produces. -/
def said : Line.Phrase → Text
  | .action a =>
    match a with
    | .shift target => "shift, and go to state ".toList ++ ofNat target
    | .reduce rule =>
      "reduce using rule ".toList ++ (ofNat rule ++ (" (".toList ++ d.leftOf rule ++ [')']))
    | .accept => "accept".toList
    | .error => "error".toList
  | .goto target => "go to state ".toList ++ ofNat target

theorem newline_leftOf (rule : Nat) : '\n' ∉ d.leftOf rule := by
  rw [leftOf]
  cases h : d.rules[rule]? with
  | none => exact List.not_mem_nil
  | some r => exact (d.isName_nonterminal _ (d.lefts r (List.mem_of_getElem? h))).newline

theorem says_said {a : Action} (h : a.Resolves (· < d.rules.length) d.states.length) :
    Says (d.said (.action a)) (.action a) := by
  cases a with
  | shift target =>
    have hlt : target < numberLimit := Nat.lt_of_lt_of_le h d.length_states
    show Says ("shift, and go to state ".toList ++ ofNat target) _
    exact .shift hlt
  | reduce rule =>
    have hlt : rule < numberLimit := Nat.lt_of_lt_of_le (of_decide_eq_true h) d.length_rules
    show Says ("reduce using rule ".toList ++
      (ofNat rule ++ (" (".toList ++ d.leftOf rule ++ [')']))) _
    exact .reduce _ hlt
  | accept => exact .accept
  | error => exact .error

theorem newline_said (p : Line.Phrase) : '\n' ∉ d.said p := by
  have hdigits : ∀ n, '\n' ∉ ofNat n := fun n => (isBody_ofNat n).newline
  match p with
  | .action (.shift target) =>
    show '\n' ∉ "shift, and go to state ".toList ++ ofNat target
    rw [List.mem_append, not_or]
    exact ⟨by decide, hdigits target⟩
  | .action (.reduce rule) =>
    show '\n' ∉ "reduce using rule ".toList ++
      (ofNat rule ++ (" (".toList ++ d.leftOf rule ++ [')']))
    simp only [List.mem_append, not_or]
    exact ⟨by decide, hdigits rule, ⟨by decide, d.newline_leftOf rule⟩, by decide⟩
  | .action .accept =>
    show '\n' ∉ "accept".toList
    decide
  | .action .error =>
    show '\n' ∉ "error".toList
    decide
  | .goto target =>
    show '\n' ∉ "go to state ".toList ++ ofNat target
    rw [List.mem_append, not_or]
    exact ⟨by decide, hdigits target⟩

/-- The line of an entry. -/
def writeEntry (e : Entry) : Text :=
  "    ".toList ++ (e.phrase.1 ++ ("  ".toList ++ d.said e.phrase.2))

def writeRules (number : Nat) : List (Text × List Text) → List Text
  | [] => []
  | (left, right) :: rules =>
    ("    ".toList ++ namedRule number left right) :: writeRules (number + 1) rules

/-- Codes are not read, so any will do. -/
def writeListing (names : List Text) : List Text :=
  names.map fun name => "    ".toList ++ listedName name 0

def writeStates (number : Nat) : List (List Entry) → List Text
  | [] => []
  | entries :: states =>
    ("State ".toList ++ ofNat number) :: (entries.map d.writeEntry ++ writeStates (number + 1) states)

/-- A report on what is described. -/
def write : List Text :=
  "Grammar".toList :: (writeRules 0 d.rules ++
    "Terminals, with rules where they appear".toList :: (writeListing d.terminals ++
    "Nonterminals, with rules where they appear".toList :: (writeListing d.nonterminals ++
      d.writeStates 0 d.states)))

theorem isWritten_writeEntry {entries : List Entry} (hmem : entries ∈ d.states) {e : Entry}
    (he : e ∈ entries) : e.IsWritten (d.writeEntry e) := by
  have hsays : Says (d.said e.phrase.2) e.phrase.2 := by
    have hres := d.resolves entries hmem e he
    cases e with
    | action token a => exact d.says_said hres.2
    | fallback a => exact d.says_said hres
    | goto symbol target =>
      have hlt : target < numberLimit := Nat.lt_of_lt_of_le hres.2 d.length_states
      show Says ("go to state ".toList ++ ofNat target) _
      exact .goto hlt
  exact ⟨"    ".toList, "  ".toList, _, by decide, by decide, by decide, by decide, hsays,
    d.newline_said _, rfl⟩

theorem ruleLines_writeRules (number : Nat) (previous : Option Text)
    (rules : List (Text × List Text)) : RuleLines number previous rules (writeRules number rules) := by
  induction rules generalizing number previous with
  | nil => exact .nil
  | cons rule rules ih => exact .cons (.named (by decide) (by decide)) (ih (number + 1) _)

theorem listingLines_writeListing (names : List Text) :
    ListingLines names (writeListing names) := by
  refine ⟨"    ".toList, by decide, ?_⟩
  rw [writeListing, List.forall₂_map_right_iff, List.forall₂_same]
  exact fun name _ => ⟨0, rfl⟩

theorem stateLines_writeStates {number : Nat} {states : List (List Entry)}
    (h : ∀ entries ∈ states, entries ∈ d.states) :
    StateLines number states (d.writeStates number states) := by
  induction states generalizing number with
  | nil => exact .nil
  | cons entries states ih =>
    have hmem := h entries (List.mem_cons_self ..)
    refine .block (.inr rfl) ?_ (ih fun entries h' => h entries (List.mem_cons_of_mem _ h'))
    rw [List.forall₂_map_right_iff, List.forall₂_same]
    exact fun e he => d.isWritten_writeEntry hmem he

/-- **Every description can be written.** -/
theorem reports_write : d.Reports d.write := by
  have hsections : Sections d d.write := .mk (ruleLines_writeRules 0 none d.rules)
    (listingLines_writeListing d.terminals) (listingLines_writeListing d.nonterminals)
    (d.stateLines_writeStates fun _ h => h)
  have hcontent := d.isContent_of_sections hsections
  constructor
  · intro line hm hb
    exact absurd hb (by simp [(hcontent line hm).blank])
  · rwa [List.filter_eq_self.2 fun line hm => by simp [(hcontent line hm).blank]]

end Description
end ParserTables
