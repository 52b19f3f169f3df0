import Mathlib.Data.List.Induction
import ParserTables.Proofs.Report.Numbered
import ParserTables.Proofs.Report.Place

/-! The lines a reader does not understand.

Two sections of a report are read strictly: among the rules every line has to be a rule, with the
number of rules before it, and among the states every line has to say something. `Report.Noted` says
from the lines alone which of them fall short, and `Automaton.diagnostics_of_read` that those are the
lines noted, each under its number and in the order of the report. A line noted nowhere would be an
action or a rule lost without a word.

What a reader noted of the lines so far is kept along a run (`Reader.Accounted`), together with the
number of rules among the lines of the grammar, from which the next rule is judged. -/
namespace ParserTables

/-! ### Where the sections lie -/

theorem SectionName.next_injective : Function.Injective SectionName.next := by
  intro a b h
  cases a <;> cases b <;> first | rfl | exact absurd h nofun

namespace Report
open Reader

/-- The lines up to the next header that counts are in the section of the place before them. -/
theorem Place.foldl_next {p : Place} {lines : List Text}
    (h : ∀ name, p.awaits = some name → ∀ line ∈ lines, opens name line = false) :
    lines.foldl Place.next p = { p with since := p.since ++ lines } := by
  induction lines generalizing p with
  | nil => simp
  | cons line rest ih =>
    have hnext : p.next line = { p with since := p.since ++ [line] } :=
      Place.next_of_not_opens fun name hname => h name hname line List.mem_cons_self
    have hrest := ih (p := { p with since := p.since ++ [line] })
      fun name hname line' hmem => h name hname line' (List.mem_cons_of_mem _ hmem)
    rw [List.foldl_cons, hnext, hrest]
    simp

/-- A report begins before the grammar, and is there until a line opens it. -/
theorem place_awaits_grammar_iff {lines : List Text} :
    (place lines).awaits = some .grammar ↔ ∀ line ∈ lines, opens .grammar line = false := by
  constructor
  · induction lines using List.reverseRecOn with
    | nil => exact fun _ => nofun
    | append_singleton lines line ih =>
      rw [place_concat, Place.awaits_next]
      intro h
      obtain ⟨name, hname, hline⟩ := Option.bind_eq_some_iff.1 h
      split at hline
      · cases name <;> exact absurd hline nofun
      · obtain rfl := Option.some.inj hline
        intro line' hmem
        rcases List.mem_append.1 hmem with hmem | hmem
        · exact ih hname line' hmem
        · rw [List.mem_singleton.1 hmem, Bool.eq_false_iff]
          assumption
  · intro h
    rw [place, Place.foldl_next fun name hname => Option.some.inj hname ▸ h]

/-- **A section** is what comes after the header that opens it, the first one that counts, and before
the first header of the next section. -/
theorem place_eq_next_iff {name : SectionName} {lines since : List Text} :
    place lines = ⟨name.next, since⟩ ↔ ∃ front header, lines = front ++ header :: since ∧
      (place front).awaits = some name ∧ opens name header = true ∧
      ∀ next, name.next = some next → ∀ line ∈ since, opens next line = false := by
  constructor
  · induction lines using List.reverseRecOn generalizing since with
    | nil =>
      intro h
      have hawaits : some SectionName.grammar = name.next := congrArg Place.awaits h
      cases name <;> exact absurd hawaits nofun
    | append_singleton lines line ih =>
      rw [place_concat]
      intro h
      by_cases hopens : ∃ other, (place lines).awaits = some other ∧ opens other line = true
      · obtain ⟨other, hother, hopens⟩ := hopens
        rw [Place.next_of_opens hother hopens] at h
        obtain ⟨hnext, rfl⟩ := Place.mk.inj h
        obtain rfl := SectionName.next_injective hnext
        exact ⟨lines, line, rfl, hother, hopens, fun _ _ => nofun⟩
      · have hnone : ∀ other, (place lines).awaits = some other → opens other line = false :=
          fun other hother => Bool.eq_false_iff.2 fun ho => hopens ⟨other, hother, ho⟩
        rw [Place.next_of_not_opens hnone] at h
        obtain ⟨hawaits, rfl⟩ := Place.mk.inj h
        have hplace : place lines = ⟨name.next, (place lines).since⟩ :=
          congrArg (Place.mk · _) hawaits
        obtain ⟨front, header, hsplit, hfront, hheader, hlines⟩ := ih hplace
        refine ⟨front, header, ?_, hfront, hheader, fun next hnext line' hmem => ?_⟩
        · rw [← List.cons_append, ← List.append_assoc, ← hsplit]
        rcases List.mem_append.1 hmem with hmem | hmem
        · exact hlines next hnext line' hmem
        · rw [List.mem_singleton.1 hmem]
          exact hnone next (hawaits.trans hnext)
  · rintro ⟨front, header, rfl, hfront, hheader, hlines⟩
    have hsplit : place (front ++ header :: since) =
        since.foldl Place.next ((place front).next header) := List.foldl_append
    rw [hsplit, Place.next_of_opens hfront hheader, Place.foldl_next hlines]
    rfl

/-! ### What there is to note -/

/-- What is noted of a line among the rules that is none. -/
def oddRule (line : Text) : Text := "unrecognized grammar line: ".toList ++ Text.trim line

/-- What is noted of a line among the states that says nothing. -/
def oddEntry (line : Text) : Text := "unrecognized state line: ".toList ++ Text.trim line

/-- The number of lines that are rules. -/
def ruleCount (lines : List Text) : Nat := lines.countP fun line => (Line.rule? line).isSome

/-- What is to be noted of a line at a place. -/
inductive Noted (p : Place) (line : Text) : Text → Prop where
  /-- A line of the grammar that is no rule. -/
  | noRule : p.awaits = some .terminals → opens .terminals line = false →
      Text.blank line = false → Line.rule? line = none → Noted p line (oddRule line)
  /-- A rule whose number is not the number of rules before it. -/
  | misplaced {parsed : Line.RuleLine} : p.awaits = some .terminals →
      opens .terminals line = false → Text.blank line = false → Line.rule? line = some parsed →
      parsed.number ≠ ruleCount p.since →
      Noted p line (Rule.misplaced parsed.number (ruleCount p.since))
  /-- A line of the states that says nothing. -/
  | noEntry : p.awaits = none → opens .state line = false → Text.blank line = false →
      Line.state line = .unrecognized → Noted p line (oddEntry line)

/-- A note on one of the lines, under the number of the line. -/
def NotedAmong (lines : List Text) (d : Diagnostic) : Prop :=
  ∃ front line back, lines = front ++ line :: back ∧ d.line = front.length + 1 ∧
    Noted (place front) line d.message

theorem not_notedAmong_nil (d : Diagnostic) : ¬ NotedAmong [] d := by
  rintro ⟨front, line, back, heq, -⟩
  exact absurd heq.symm (List.append_ne_nil_of_right_ne_nil _ (List.cons_ne_nil _ _))

/-- A note among the lines and one more is a note on that one or on one of the others. -/
theorem notedAmong_concat {lines : List Text} {line : Text} {d : Diagnostic} :
    NotedAmong (lines ++ [line]) d ↔
      NotedAmong lines d ∨ d.line = lines.length + 1 ∧ Noted (place lines) line d.message := by
  constructor
  · rintro ⟨front, line', back, heq, hline, hnoted⟩
    rcases List.eq_nil_or_concat back with rfl | ⟨back, last, rfl⟩
    · obtain ⟨rfl, hlast⟩ := List.append_inj' heq rfl
      obtain rfl := (List.cons.inj hlast).1
      exact .inr ⟨hline, hnoted⟩
    · have heq : lines ++ [line] = (front ++ line' :: back) ++ [last] := by simpa using heq
      obtain ⟨rfl, -⟩ := List.append_inj' heq rfl
      exact .inl ⟨front, line', back, rfl, hline, hnoted⟩
  · rintro (⟨front, line', back, rfl, hline, hnoted⟩ | ⟨hline, hnoted⟩)
    · exact ⟨front, line', back ++ [line], by simp, hline, hnoted⟩
    · exact ⟨lines, line, [], rfl, hline, hnoted⟩

/-- Notes are on the lines there are. -/
theorem NotedAmong.line_le {lines : List Text} {d : Diagnostic} (h : NotedAmong lines d) :
    d.line ≤ lines.length := by
  obtain ⟨front, line, back, rfl, hline, -⟩ := h
  rw [hline, List.length_append, List.length_cons]
  omega

/-- A blank line is no rule. -/
theorem rule?_blank {line : Text} (h : Text.blank line = true) : Line.rule? line = none := by
  rw [Line.rule?, Text.trim_blank h]
  rfl

theorem ruleCount_concat (lines : List Text) (line : Text) :
    ruleCount (lines ++ [line]) = ruleCount lines + if (Line.rule? line).isSome then 1 else 0 := by
  rw [ruleCount, List.countP_append, List.countP_singleton, ruleCount]

/-- A line is noted once at most. -/
theorem Noted.unique {p : Place} {line message message' : Text} (h : Noted p line message)
    (h' : Noted p line message') : message = message' := by
  cases h with
  | noRule hp _ _ hrule =>
    cases h' with
    | noRule => rfl
    | misplaced _ _ _ hparsed => exact absurd (hrule.symm.trans hparsed) nofun
    | noEntry hp' => exact absurd (hp.symm.trans hp') nofun
  | misplaced hp _ _ hparsed =>
    cases h' with
    | noRule _ _ _ hrule => exact absurd (hrule.symm.trans hparsed) nofun
    | misplaced _ _ _ hparsed' => rw [Option.some.inj (hparsed.symm.trans hparsed')]
    | noEntry hp' => exact absurd (hp.symm.trans hp') nofun
  | noEntry hp =>
    cases h' with
    | noRule hp' => exact absurd (hp.symm.trans hp') nofun
    | misplaced hp' => exact absurd (hp.symm.trans hp') nofun
    | noEntry => rfl

/-- Only lines of the grammar and of the states are noted. -/
theorem Noted.awaits {p : Place} {line message : Text} (h : Noted p line message) :
    p.awaits = some .terminals ∨ p.awaits = none := by
  cases h with
  | noRule hp => exact .inl hp
  | misplaced hp => exact .inl hp
  | noEntry hp => exact .inr hp

theorem Noted.not_blank {p : Place} {line message : Text} (h : Noted p line message) :
    Text.blank line = false := by
  cases h <;> assumption

/-- Headers that count are not noted. -/
theorem Noted.not_header {p : Place} {line message : Text} (h : Noted p line message) :
    opens (p.awaits.getD .state) line = false := by
  cases h with
  | noRule hp ho => rwa [hp]
  | misplaced hp ho => rwa [hp]
  | noEntry hp ho => rwa [hp]

/-- A rule is noted for its number only. -/
theorem Noted.number_ne {p : Place} {line message : Text} (h : Noted p line message)
    (hp : p.awaits = some .terminals) {parsed : Line.RuleLine}
    (hparsed : Line.rule? line = some parsed) : parsed.number ≠ ruleCount p.since := by
  cases h with
  | noRule _ _ _ hrule => exact absurd (hrule.symm.trans hparsed) nofun
  | misplaced _ _ _ hparsed' hne => exact Option.some.inj (hparsed'.symm.trans hparsed) ▸ hne
  | noEntry hp' => exact absurd (hp.symm.trans hp') nofun

/-- Among the states only what says nothing is noted. -/
theorem Noted.unrecognized {p : Place} {line message : Text} (h : Noted p line message)
    (hp : p.awaits = none) : Line.state line = .unrecognized := by
  cases h with
  | noRule hp' => exact absurd (hp.symm.trans hp') nofun
  | misplaced hp' => exact absurd (hp.symm.trans hp') nofun
  | noEntry _ _ _ hstate => exact hstate

theorem opens_terminals_iff {line : Text} :
    opens .terminals line = true ↔ Line.header? line = some .terminals := by
  rw [opens]
  cases Line.header? line with
  | none => simp
  | some header => cases header <;> simp [Line.Header.sectionName]

/-- What a line adds to the notes: nothing, or what there is to be noted of it. -/
def Notes (p : Place) (n : Nat) (line : Text) (before after : List Diagnostic) : Prop :=
  (after = before ∧ ∀ message, ¬ Noted p line message) ∨
    ∃ message, Noted p line message ∧ after = ⟨n, message⟩ :: before

theorem Notes.mem_iff {p : Place} {n : Nat} {line : Text} {before after : List Diagnostic}
    (h : Notes p n line before after) (d : Diagnostic) :
    d ∈ after ↔ d ∈ before ∨ d.line = n ∧ Noted p line d.message := by
  rcases h with ⟨rfl, hnone⟩ | ⟨message, hnoted, rfl⟩
  · simp [hnone]
  · rw [List.mem_cons, or_comm]
    refine or_congr_right ⟨?_, ?_⟩
    · rintro rfl
      exact ⟨rfl, hnoted⟩
    · rintro ⟨hline, hd⟩
      rw [← hline, hnoted.unique hd]

end Report

/-! ### What a reader notes -/

/-- A rule set with one more rule has one more. -/
theorem RuleSet.size_insert {s s' : RuleSet} {rule : Rule} (h : s.insert rule = (s', none)) :
    s'.size = s.size + 1 := by
  have hnew : s.contains rule.number = false := insert_accepted_iff.1 (congrArg Prod.snd h)
  rw [insert, hnew] at h
  obtain ⟨rfl, -⟩ := Prod.mk.inj h
  show (s.byNumber.insert rule.number rule).size = s.byNumber.size + 1
  have hfree : s.byNumber.contains rule.number = false := by simpa [contains, get?] using hnew
  rw [Std.TreeMap.size_insert, hfree]
  rfl

namespace Reader
open Report

/-- A rule that is not rejected is added. -/
theorem addRule_accepted {r : Reader} {n : Nat} {rule : Rule} (hok : (r.addRule n rule).2 = none) :
    r.Adds n rule (r.addRule n rule).1 := by
  rcases hrules : r.rules.insert rule with ⟨rules, _ | refused⟩
  · exact adds_of_insert hrules n
  · unfold addRule at hok
    rw [hrules] at hok
    exact absurd hok nofun

/-- A line of the grammar that is accepted is no rule and is noted, or is a rule and is added. -/
theorem grammarLine_accepted {r : Reader} {left : Option Text} {n : Nat} {line : Text}
    (hok : (r.grammarLine left n line).2 = none) :
    (Line.rule? line = none ∧ (r.grammarLine left n line).1 = r.diagnose n (oddRule line)) ∨
    ∃ parsed rule, Line.rule? line = some parsed ∧ rule.number = parsed.number ∧
      r.Adds n rule (r.grammarLine left n line).1 := by
  unfold grammarLine at hok ⊢
  cases hrule : Line.rule? line with
  | none => exact .inl ⟨rfl, rfl⟩
  | some parsed =>
    rw [hrule] at hok
    dsimp only at hok ⊢
    cases hleft : parsed.left.or left with
    | none =>
      rw [hleft] at hok
      exact absurd hok nofun
    | some left' =>
      rw [hleft] at hok
      have hadds := addRule_accepted hok
      exact .inr ⟨parsed, _, rfl, rfl, hadds.rules, hadds.oddities⟩

/-- A line of a state is not understood if it says nothing. -/
theorem told_eq_odd_iff {symbols : SymbolTable} {line : Text} :
    told symbols line = .odd ↔ Line.state line = .unrecognized := by
  rw [told]
  cases Line.state line with
  | goto symbol target =>
    dsimp only
    cases symbols.nonterminals.id? symbol <;> simp
  | action token action discarded =>
    dsimp only
    split
    · simp
    · cases symbols.terminals.id? token <;> simp
  | _ => simp

/-- Only a line that says nothing is noted when it is obeyed. -/
theorem oddities_obey (r : Reader) (b : Builder) (n : Nat) (line : Text) {t : Told}
    (h : t ≠ .odd) : (r.obey b n line t).1.oddities = r.oddities := by
  cases t with
  | odd => exact absurd rfl h
  | call name c =>
    rw [obey, recorded_fst]
  | _ => rfl

theorem oddities_beginState (r : Reader) (b : Builder) (n found : Nat) :
    (r.beginState b n found).1.oddities = r.oddities := by
  rw [beginState]
  split <;> rfl

section Step
variable {r : Reader} {p : Report.Place} (hawaits : r.stretch.awaits = p.awaits)
include hawaits

/-- **One line is noted as it should be**, if it is accepted and the rules before it were
counted. -/
theorem notes_feed (hcount : p.awaits = some .terminals → r.rules.size = ruleCount p.since) (n : Nat)
    {line : Text} (hok : (r.feed n line).2 = none) :
    Notes p n line r.oddities (r.feed n line).1.oddities := by
  -- where the line is not noted, the reader leaves its notes alone
  have elsewhere : ∀ {name : SectionName} {r' : Reader}, r.stretch.awaits = some name →
      name ≠ .terminals → r'.oddities = r.oddities → Notes p n line r.oddities r'.oddities :=
    fun hs hname heq => .inl ⟨heq, fun message hnoted => by
      rcases hnoted.awaits with hp | hp
      · exact hname (Option.some.inj (hs.symm.trans (hawaits.trans hp)))
      · exact absurd (hs.symm.trans (hawaits.trans hp)) nofun⟩
  have header : ∀ {name : SectionName} {r' : Reader}, p.awaits.getD .state = name →
      opens name line = true → r'.oddities = r.oddities → Notes p n line r.oddities r'.oddities :=
    fun hp ho heq => .inl ⟨heq, fun message hnoted => by
      have hclosed := hnoted.not_header
      rw [hp, ho] at hclosed
      exact absurd hclosed nofun⟩
  cases hb : Text.blank line with
  | true =>
    rw [feed_blank r n hb]
    exact .inl ⟨rfl, fun message hnoted => absurd (hb.symm.trans hnoted.not_blank) nofun⟩
  | false =>
    have htakes := r.takes_feed n line
    generalize r.feed n line = fed at htakes hok ⊢
    cases htakes with
    | blank hblank => exact absurd (hb.symm.trans hblank) nofun
    | preamble hs _ => exact elsewhere (congrArg Stretch.awaits hs) nofun rfl
    | enterGrammar hs _ => exact elsewhere (congrArg Stretch.awaits hs) nofun rfl
    | rule hs hheader =>
      have hp : p.awaits = some .terminals := hawaits.symm.trans (congrArg Stretch.awaits hs)
      have ho : opens .terminals line = false :=
        Bool.eq_false_iff.2 fun ho => hheader (opens_terminals_iff.1 ho)
      rcases grammarLine_accepted hok with ⟨hrule, heq⟩ | ⟨parsed, rule, hparsed, hnumber, hadds⟩
      · exact .inr ⟨_, .noRule hp ho hb hrule, congrArg Reader.oddities heq⟩
      · rw [hadds.oddities, hnumber, hcount hp]
        split
        · rename_i hplace
          exact .inl ⟨rfl, fun message hnoted => hnoted.number_ne hp hparsed hplace⟩
        · rename_i hplace
          exact .inr ⟨_, .misplaced hp ho hb hparsed hplace, rfl⟩
    | enterTerminals hs hheader =>
      have hp : p.awaits = some .terminals := hawaits.symm.trans (congrArg Stretch.awaits hs)
      exact header (congrArg (Option.getD · .state) hp) (opens_terminals_iff.2 hheader) rfl
    | @terminal column hs _ =>
      obtain ⟨terminals, hline⟩ := terminalLine_eq r column line
      exact elsewhere (congrArg Stretch.awaits hs) nofun (by
        unfold accept
        rw [hline])
    | enterNonterminals hs _ => exact elsewhere (congrArg Stretch.awaits hs) nofun rfl
    | @nonterminal column hs _ =>
      obtain ⟨nonterminals, hline⟩ := nonterminalLine_eq r column line
      exact elsewhere (congrArg Stretch.awaits hs) nofun (by
        unfold accept
        rw [hline])
    | enterStates hs _ =>
      exact elsewhere (congrArg Stretch.awaits hs) nofun (oddities_beginState ..)
    | beginState hs hheader =>
      have hp : p.awaits = none := hawaits.symm.trans (congrArg Stretch.awaits hs)
      exact header (congrArg (Option.getD · .state) hp) (opens_state_iff.2 ⟨_, hheader⟩)
        (oddities_beginState ..)
    | @entry b hs hheader =>
      have hp : p.awaits = none := hawaits.symm.trans (congrArg Stretch.awaits hs)
      have ho : opens .state line = false := Bool.eq_false_iff.2 fun ho => by
        obtain ⟨found, he⟩ := opens_state_iff.1 ho
        exact hheader found he
      rw [stateLine_eq]
      by_cases hodd : Line.state line = .unrecognized
      · rw [told_eq_odd_iff.2 hodd]
        exact .inr ⟨_, .noEntry hp ho hb hodd, rfl⟩
      · exact .inl ⟨oddities_obey r b n line fun h => hodd (told_eq_odd_iff.1 h),
          fun message hnoted => hodd (hnoted.unrecognized hp)⟩

/-- A line before the grammar adds no rule. -/
theorem rules_feed_preamble (hp : p.awaits = some .grammar) (n : Nat) (line : Text) :
    (r.feed n line).1.rules = r.rules := by
  have htakes := r.takes_feed n line
  generalize r.feed n line = fed at htakes ⊢
  cases htakes with
  | blank _ => rfl
  | preamble _ _ => rfl
  | enterGrammar _ _ => rfl
  | _ hs => exact absurd ((congrArg Stretch.awaits hs).symm.trans (hawaits.trans hp)) nofun

/-- A line of the grammar adds a rule if it is one. -/
theorem size_rules_feed (hp : p.awaits = some .terminals) {line : Text}
    (ho : opens .terminals line = false) (n : Nat) (hok : (r.feed n line).2 = none) :
    (r.feed n line).1.rules.size =
      r.rules.size + if (Line.rule? line).isSome then 1 else 0 := by
  cases hb : Text.blank line with
  | true =>
    rw [feed_blank r n hb, rule?_blank hb]
    rfl
  | false =>
    have htakes := r.takes_feed n line
    generalize r.feed n line = fed at htakes hok ⊢
    cases htakes with
    | blank hblank => exact absurd (hb.symm.trans hblank) nofun
    | rule _ _ =>
      rcases grammarLine_accepted hok with ⟨hrule, heq⟩ | ⟨parsed, rule, hparsed, -, hadds⟩
      · rw [heq, hrule]
        rfl
      · rw [RuleSet.size_insert hadds.rules, hparsed]
        rfl
    | enterTerminals _ hheader =>
      exact absurd ((opens_terminals_iff.2 hheader).symm.trans ho) nofun
    | _ hs => exact absurd ((congrArg Stretch.awaits hs).symm.trans (hawaits.trans hp)) nofun

end Step

/-! ### Whole reports -/

/-- What a reader that was given lines and rejected none of them noted of them. -/
structure Accounted (lines : List Text) (r : Reader) : Prop where
  awaits : r.stretch.awaits = (place lines).awaits
  /-- Before the grammar there are no rules. -/
  ruleless : (place lines).awaits = some .grammar → r.rules.size = 0
  /-- In the grammar there is one for each line that is a rule. -/
  counted : (place lines).awaits = some .terminals → r.rules.size = ruleCount (place lines).since
  /-- The last line noted comes first. -/
  sorted : r.oddities.Pairwise fun later earlier => earlier.line < later.line
  noted : ∀ d, d ∈ r.oddities ↔ NotedAmong lines d

theorem accounted_start (s : Strictness) : Accounted [] (start s) where
  awaits := rfl
  ruleless _ := rfl
  counted := nofun
  sorted := List.Pairwise.nil
  noted d := iff_of_false List.not_mem_nil (not_notedAmong_nil d)

/-- The rules of the grammar are counted on. -/
theorem Accounted.counted_feed {lines : List Text} {r : Reader} (h : Accounted lines r) (n : Nat)
    {line : Text} (hok : (r.feed n line).2 = none)
    (hnext : (place (lines ++ [line])).awaits = some .terminals) :
    (r.feed n line).1.rules.size = ruleCount (place (lines ++ [line])).since := by
  rw [place_concat] at hnext ⊢
  by_cases hopens : ∃ name, (place lines).awaits = some name ∧ opens name line = true
  · obtain ⟨name, hname, ho⟩ := hopens
    rw [Place.next_of_opens hname ho] at hnext ⊢
    obtain rfl : name = .grammar := SectionName.next_injective hnext
    rw [rules_feed_preamble h.awaits hname, h.ruleless hname]
    rfl
  · have hnone : ∀ name, (place lines).awaits = some name → opens name line = false :=
      fun name hname => Bool.eq_false_iff.2 fun ho => hopens ⟨name, hname, ho⟩
    rw [Place.next_of_not_opens hnone] at hnext ⊢
    rw [size_rules_feed h.awaits hnext (hnone _ hnext) n hok, ruleCount_concat, h.counted hnext]

/-- **One more line** is accounted for. -/
theorem Accounted.feed {lines : List Text} {r : Reader} (h : Accounted lines r) {line : Text}
    (hok : (r.feed (lines.length + 1) line).2 = none) :
    Accounted (lines ++ [line]) (r.feed (lines.length + 1) line).1 := by
  have hnotes := notes_feed h.awaits h.counted (lines.length + 1) hok
  have hawaits : (r.feed (lines.length + 1) line).1.stretch.awaits =
      (place (lines ++ [line])).awaits := by
    rw [awaits_feed, h.awaits, place_concat, Place.awaits_next]
  refine ⟨hawaits, fun hnext => ?_, h.counted_feed _ hok, ?_, fun d => ?_⟩
  · have hbefore : (place lines).awaits = some .grammar := by
      rw [place_awaits_grammar_iff] at hnext ⊢
      exact fun line' hmem => hnext line' (List.mem_append_left _ hmem)
    rw [rules_feed_preamble h.awaits hbefore, h.ruleless hbefore]
  · rcases hnotes with ⟨heq, -⟩ | ⟨message, -, heq⟩
    · rw [heq]
      exact h.sorted
    · rw [heq, List.pairwise_cons]
      exact ⟨fun d hd => Nat.lt_succ_of_le ((h.noted d).1 hd).line_le, h.sorted⟩
  · rw [hnotes.mem_iff, h.noted, notedAmong_concat]

/-- **A run of lines** is accounted for. -/
theorem Accounted.feedAll {before lines : List Text} {r r' : Reader} (h : Accounted before r)
    (hrun : r.feedAll (before.length + 1) lines = .ok r') : Accounted (before ++ lines) r' := by
  induction lines generalizing before r with
  | nil =>
    rw [List.append_nil]
    exact Except.ok.inj hrun ▸ h
  | cons line rest ih =>
    obtain ⟨hok, hrest⟩ := feedAll_cons_ok hrun
    rw [List.append_cons]
    apply ih (h.feed hok)
    rwa [List.length_append, List.length_singleton]

end Reader

/-- **The lines not understood are the lines noted.** The notes on a report that is read are in the
order of its lines, and they are the notes there are to make: one for each line of the grammar that
is no rule or a rule out of its place, one for each line of the states that says nothing, and no
other. -/
theorem Automaton.diagnostics_of_read {s : Strictness} {source : Text} {a : Automaton}
    (h : Automaton.read s source = .ok a) :
    a.diagnostics.Pairwise (·.line < ·.line) ∧
    ∀ d, d ∈ a.diagnostics ↔ ∃ front line back, Text.lines source = front ++ line :: back ∧
      d.line = front.length + 1 ∧ Report.Noted (Report.place front) line d.message := by
  obtain ⟨r, b, hrun, -, rfl⟩ := exists_of_read h
  have haccounted := (Reader.accounted_start s).feedAll hrun
  refine ⟨List.pairwise_reverse.2 haccounted.sorted, fun d => ?_⟩
  rw [List.mem_reverse, haccounted.noted, List.nil_append]
  rfl

/-- A report with a gap in the numbers of its rules, a second header of the grammar among them and a
line of a state that says nothing. -/
def patchyReport : Text := Text.unlines <| List.map String.toList
  ["Terminals unused in grammar", "Grammar", "", "    0 s: A", "    2  | %empty", "    of no use",
    "Grammar", "Terminals, with rules where they appear", "A (258) 0",
    "Nonterminals, with rules where they appear", "s (3)", "state 0", "    A  error", "",
    "    s  fall over", "    $default  accept"]

theorem Automaton.diagnostics_of_read_patchyReport :
    ∃ a, Automaton.read .strict patchyReport = .ok a ∧
      a.diagnostics = [⟨5, Rule.misplaced 2 1⟩,
        ⟨6, "unrecognized grammar line: of no use".toList⟩,
        ⟨7, "unrecognized grammar line: Grammar".toList⟩,
        ⟨15, "unrecognized state line: s  fall over".toList⟩] ∧
      a.diagnostics.Pairwise (·.line < ·.line) ∧
      ∀ d, d ∈ a.diagnostics ↔ ∃ front line back,
        Text.lines patchyReport = front ++ line :: back ∧ d.line = front.length + 1 ∧
        Report.Noted (Report.place front) line d.message := by
  obtain ⟨a, hread, hnotes⟩ := exists_ok_of_any
    (x := Automaton.read .strict patchyReport)
    (p := fun a => a.diagnostics = [⟨5, Rule.misplaced 2 1⟩,
      ⟨6, "unrecognized grammar line: of no use".toList⟩,
      ⟨7, "unrecognized grammar line: Grammar".toList⟩,
      ⟨15, "unrecognized state line: s  fall over".toList⟩]) (by decide +kernel)
  exact ⟨a, hread, of_decide_eq_true hnotes, diagnostics_of_read hread⟩

end ParserTables
