import ParserTables.Proofs.Report.Feed
import ParserTables.Proofs.Report.Written

/-! Reading the grammar and the listings of a written report.

Each section is a run of lines of one kind: of rules (`reads_rules`), of terminals
(`reads_terminals`) or of nonterminals (`reads_nonterminals`). -/
namespace ParserTables

/-! ### Headers -/

theorem header?_grammar : Line.header? "Grammar".toList = some .grammar := by decide +kernel

theorem header?_terminals :
    Line.header? "Terminals, with rules where they appear".toList = some .terminals := by
  decide +kernel

theorem header?_nonterminals :
    Line.header? "Nonterminals, with rules where they appear".toList = some .nonterminals := by
  decide +kernel

namespace Reader

theorem feed_grammarHeader {r : Reader} (hs : r.stretch = .preamble) (n : Nat) :
    r.feed n "Grammar".toList = ({ r with stretch := .grammar none }, none) := by
  rw [feed_preamble n (by decide) hs, header?_grammar]
  rfl

theorem feed_terminalsHeader {r : Reader} {left : Option Text} (hs : r.stretch = .grammar left)
    (n : Nat) : r.feed n "Terminals, with rules where they appear".toList =
      ({ r with stretch := .terminals none }, none) := by
  rw [feed_grammar n (by decide +kernel) hs, header?_terminals]
  rfl

theorem feed_nonterminalsHeader {r : Reader} {column : Option Nat}
    (hs : r.stretch = .terminals column) (n : Nat) :
    r.feed n "Nonterminals, with rules where they appear".toList =
      ({ r with stretch := .nonterminals none }, none) := by
  rw [feed_terminals n (by decide +kernel) hs, header?_nonterminals]
  rfl

end Reader

/-! ### Rules -/

namespace RuleSet

theorem toList_empty : RuleSet.empty.toList = [] := by
  apply List.eq_nil_of_length_eq_zero
  rw [RuleSet.length_toList]
  rfl

/-- A rule that is inserted after all others is the last one. -/
theorem toList_insert {s s' : RuleSet} {r : Rule} (h : s.insert r = (s', none))
    (hlast : ∀ q ∈ s.toList, q.number < r.number) : s'.toList = s.toList ++ [r] := by
  have hmem : ∀ q, q ∈ s'.toList ↔ q ∈ s.toList ++ [r] := by
    intro q
    rw [mem_toList_iff, get?_insert h, List.mem_append, List.mem_singleton]
    by_cases hq : q.number = r.number
    · rw [if_pos hq]
      have hnot : q ∉ s.toList := fun hm => absurd (hlast q hm) (by omega)
      simp [hnot, eq_comm]
    · rw [if_neg hq, ← mem_toList_iff]
      have hne : q ≠ r := fun he => hq (he ▸ rfl)
      simp [hne]
  have hsorted : (s.toList ++ [r]).Pairwise (·.number < ·.number) := by
    rw [List.pairwise_append]
    refine ⟨s.pairwise_toList, List.pairwise_singleton _ _, fun q hq p hp => ?_⟩
    rw [List.mem_singleton.1 hp]
    exact hlast q hq
  have hnodup : ∀ {l : List Rule}, l.Pairwise (·.number < ·.number) → l.Nodup := by
    intro l hl
    exact hl.imp fun hlt he => absurd hlt (by rw [he]; omega)
  have hperm := (List.perm_ext_iff_of_nodup (hnodup s'.pairwise_toList) (hnodup hsorted)).2 hmem
  refine hperm.eq_of_pairwise (fun p q _ _ hpq hqp => ?_) s'.pairwise_toList hsorted
  omega

end RuleSet

namespace Reader

/-- The numbers of some rules are their positions. -/
def Positional (rules : List Rule) : Prop := rules.map Rule.number = List.range rules.length

theorem Positional.append {rules : List Rule} (h : Positional rules) {r : Rule}
    (hr : r.number = rules.length) : Positional (rules ++ [r]) := by
  rw [Positional, List.map_append, h, List.length_append, List.length_singleton, List.range_succ]
  simp [hr]

theorem Positional.lt {rules : List Rule} (h : Positional rules) :
    ∀ r ∈ rules, r.number < rules.length := by
  intro r hr
  have : r.number ∈ rules.map Rule.number := List.mem_map_of_mem hr
  rwa [h, List.mem_range] at this

/-- A rule in its place is added, and nothing about it is odd. -/
theorem addRule_positional {r : Reader} (hr : Positional r.rules.toList) (rule : Rule)
    (hnum : rule.number = r.rules.toList.length) :
    ∃ rules, (∀ n, r.addRule n rule = ({ r with rules }, none)) ∧
      rules.toList = r.rules.toList ++ [rule] := by
  have hlast : ∀ q ∈ r.rules.toList, q.number < rule.number := fun q hq => hnum ▸ hr.lt q hq
  have hnew : r.rules.contains rule.number = false := by
    rw [RuleSet.contains, Option.isSome_eq_false_iff, Option.isNone_iff_eq_none,
      Option.eq_none_iff_forall_ne_some]
    intro q hq
    obtain ⟨hmem, hnumber⟩ := RuleSet.mem_toList_of_get? hq
    have := hlast q hmem
    omega
  have hrules : r.rules.insert rule = ((r.rules.insert rule).1, none) :=
    Prod.ext rfl (RuleSet.insert_accepted_iff.2 hnew)
  refine ⟨_, fun n => ?_, RuleSet.toList_insert hrules hlast⟩
  have hsize : rule.number = r.rules.size := hnum.trans r.rules.length_toList
  rw [addRule, hrules]
  exact if_pos hsize

/-- Both ways to write a rule are read as that rule. -/
theorem rule?_of_ruleLine {number : Nat} {previous : Option Text} {left line : Text}
    {right : List Text} (h : RuleLine number previous left right line)
    (hn : number < Text.numberLimit) (hl : isIdentifier left = true)
    (hr : ∀ t ∈ right, IsName t) :
    ∃ named, Line.rule? line = some ⟨number, named, rightText right⟩ ∧
      named.or previous = some left := by
  cases h with
  | named hi _ => exact ⟨some left, rule?_namedRule hi hn hr hl, rfl⟩
  | further hi _ hg hne hp => exact ⟨none, rule?_furtherRule hi hn hr hg hne, hp⟩

/-- The line of a rule in its place adds the rule. -/
theorem feed_ruleLine {number : Nat} {previous : Option Text} {left line : Text}
    {right : List Text} (h : RuleLine number previous left right line)
    (hn : number < Text.numberLimit) (hl : isIdentifier left = true)
    (hright : ∀ t ∈ right, IsName t) {r : Reader} (hs : r.stretch = .grammar previous)
    (hr : Positional r.rules.toList) (hnum : r.rules.toList.length = number) :
    ∃ rules, (∀ n, r.feed n line =
        ({ r with stretch := .grammar (some left), rules := rules }, none)) ∧
      rules.toList = r.rules.toList ++ [⟨number, left, right.map Symbol.ofToken⟩] := by
  obtain ⟨named, hrule, hnamed⟩ := rule?_of_ruleLine h hn hl hright
  have hindented := isIndented_of_ruleLine h hl hright
  obtain ⟨rules, hadd, hlist⟩ := addRule_positional
    (r := { r with stretch := .grammar (some left) }) hr
    ⟨number, left, Symbol.ofRight (rightText right)⟩ hnum.symm
  refine ⟨rules, fun n => ?_, ?_⟩
  · rw [feed_grammar n hindented.isContent.blank hs, hindented.header?]
    simp only [grammarLine, hrule, hnamed]
    exact hadd n
  · rw [hlist, ofRight_rightText hright]

/-- **The rules of a report** are added one after the other. -/
theorem reads_rules {number : Nat} {previous : Option Text} {rules : List (Text × List Text)}
    {lines : List Text} (h : RuleLines number previous rules lines)
    (hok : ∀ rule ∈ rules, isIdentifier rule.1 = true ∧ ∀ t ∈ rule.2, IsName t)
    (hlen : number + rules.length ≤ idCount) {r : Reader} (hs : r.stretch = .grammar previous)
    (hr : Positional r.rules.toList) (hnum : r.rules.toList.length = number) :
    ∃ left rules', Reads r lines { r with stretch := .grammar left, rules := rules' } ∧
      rules'.toList = r.rules.toList ++ numberedFrom number rules := by
  induction h generalizing r with
  | @nil number previous =>
    refine ⟨previous, r.rules, ?_, (List.append_nil _).symm⟩
    rw [← hs]
    exact .done r
  | @cons number previous left line right rules lines hline _ ih =>
    obtain ⟨hleft, hright⟩ := hok _ (List.mem_cons_self ..)
    rw [List.length_cons] at hlen
    have hlt : number < Text.numberLimit := Nat.lt_of_lt_of_le (by omega) hlen
    obtain ⟨rules₁, hfeed, hlist⟩ := feed_ruleLine hline hlt hleft hright hs hr hnum
    have hlength : rules₁.toList.length = number + 1 := by
      rw [hlist, List.length_append, hnum, List.length_singleton]
    obtain ⟨left', rules₂, hreads, hlist'⟩ := ih
      (fun rule hrule => hok rule (List.mem_cons_of_mem _ hrule)) (by omega)
      (r := { r with stretch := .grammar (some left), rules := rules₁ }) rfl
      (hlist ▸ hr.append hnum.symm) hlength
    refine ⟨left', rules₂, .line hfeed hreads, ?_⟩
    rw [hlist', hlist, List.append_assoc]
    rfl

/-! ### Listings -/

theorem indentation_append {indent body : Text} (hi : IsGap indent) (hb : IsBody body) :
    indentation (indent ++ body) = Text.byteLength indent := by
  obtain ⟨c, rest, rfl, hc⟩ := hb.solid.head
  rw [indentation, List.takeWhile_append_of_pos (List.all_eq_true.1 hi.blank),
    List.takeWhile_cons_of_neg (by simp [hc]), List.append_nil]

/-- A column that is not known yet, or that of this indentation. -/
def Column (indent : Text) (column : Option Nat) : Prop :=
  ∀ c ∈ column, c = Text.byteLength indent

theorem column_none (indent : Text) : Column indent none := fun _ hc => nomatch hc

theorem column_some (indent : Text) : Column indent (some (Text.byteLength indent)) :=
  fun _ hc => (Option.some.inj hc).symm

/-- The line of a name in a listing, without blanks in it or a header on it, and the name. -/
theorem symbolName_listed {indent name line : Text} (hi : IsGap indent) (hn : IsName name)
    (hl : IsListed indent name line) :
    Text.blank line = false ∧ Line.header? line = none ∧ Line.symbolName line = name ∧
      indentation line = Text.byteLength indent := by
  obtain ⟨code, rfl⟩ := hl
  have hbody := isBody_listedName hn code
  have hname := hn.whole.symbolName hi.blank (Text.ofNat code ++ [')'])
  rw [List.append_assoc] at hname
  exact ⟨(IsContent.mk hi hbody).blank, header?_listedName hi hn code, hname,
    indentation_append hi hbody⟩

section Listings
variable {indent name line : Text} {column : Option Nat} (hi : IsGap indent) (hn : IsName name)
  (hl : IsListed indent name line) (hc : Column indent column)
include hi hn hl hc

/-- A name in the column of its listing is listed, and the column is kept. -/
theorem listedName?_listed : listedName? column line = some name ∧
    columnAfter column line = Text.byteLength indent := by
  obtain ⟨-, -, hname, hind⟩ := symbolName_listed hi hn hl
  rw [listedName?, columnAfter, hind, hname]
  cases column with
  | none => exact ⟨rfl, rfl⟩
  | some c =>
    obtain rfl := hc c rfl
    simp

theorem feed_terminal {r : Reader} (hs : r.stretch = .terminals column)
    (he : name ≠ Symbol.errorName) (hnew : name ∉ r.symbols.terminals.toList) :
    ∃ l, (∀ n, r.feed n line = ({ r with
        stretch := .terminals (some (Text.byteLength indent))
        symbols := { r.symbols with terminals := l } }, none)) ∧
      l.toList = r.symbols.terminals.toList ++ [name] := by
  obtain ⟨hblank, hheader, -⟩ := symbolName_listed hi hn hl
  obtain ⟨hname, hcolumn⟩ := listedName?_listed hi hn hl hc
  refine ⟨(r.symbols.terminals.declare name).1, fun n => ?_, ?_⟩
  · rw [feed_terminals n hblank hs, hheader]
    simp only [terminalLine, hname, hcolumn, if_neg he, accept]
    rfl
  · rw [Listing.toList_declare, if_neg hnew]

theorem feed_nonterminal {r : Reader} (hs : r.stretch = .nonterminals column)
    (hnew : name ∉ r.symbols.nonterminals.toList) :
    ∃ l, (∀ n, r.feed n line = ({ r with
        stretch := .nonterminals (some (Text.byteLength indent))
        symbols := { r.symbols with nonterminals := l } }, none)) ∧
      l.toList = r.symbols.nonterminals.toList ++ [name] := by
  obtain ⟨hblank, hheader, -⟩ := symbolName_listed hi hn hl
  obtain ⟨hname, hcolumn⟩ := listedName?_listed hi hn hl hc
  refine ⟨(r.symbols.nonterminals.declare name).1, fun n => ?_, ?_⟩
  · rw [feed_nonterminals n hblank hs, hheader]
    simp only [nonterminalLine, hname, hcolumn, accept]
    rfl
  · rw [Listing.toList_declare, if_neg hnew]

end Listings

/-- The next item of a list without repetitions is none of those before it. -/
theorem not_mem_of_isPrefix {α : Type} {items done : List α} {x : α} (h : items.Nodup)
    (hp : done ++ [x] <+: items) : x ∉ done := by
  intro hx
  have := (List.nodup_append.1 (h.sublist hp.sublist)).2.2 x hx x (List.mem_singleton_self x)
  exact this rfl

/-- Some names of a listing were read: `reader` is the reader by the column of the listing
and the names so far. -/
def Listed (reader : Option Nat → Listing → Reader) (indent : Text) (done : List Text)
    (r : Reader) : Prop :=
  ∃ column l, Column indent column ∧ l.toList = done ∧ r = reader column l

/-- Names are listed one after the other, in either listing. -/
theorem reads_listing (reader : Option Nat → Listing → Reader) {names lines : List Text}
    (h : ListingLines names lines) (hnodup : names.Nodup)
    (step : ∀ indent name line column l, IsGap indent → name ∈ names →
      IsListed indent name line → Column indent column → name ∉ Listing.toList l →
      ∃ l', (∀ n, (reader column l).feed n line =
          (reader (some (Text.byteLength indent)) l', none)) ∧ l'.toList = l.toList ++ [name])
    {l : Listing} (hl : l.toList = []) :
    ∃ column l', Reads (reader none l) lines (reader column l') ∧ l'.toList = names := by
  obtain ⟨indent, hi, hlines⟩ := h
  have hstep : ∀ (done : List Text) (name line : Text) (r : Reader), done ++ [name] <+: names →
      IsListed indent name line → Listed reader indent done r →
      ∃ r', (∀ n, r.feed n line = (r', none)) ∧ Listed reader indent (done ++ [name]) r' := by
    rintro done name line _ hpre hline ⟨column, l, hc, rfl, rfl⟩
    have hmem : name ∈ names := hpre.mem (List.mem_append_right _ (List.mem_singleton_self _))
    obtain ⟨l', hfeed, hl'⟩ :=
      step indent name line column l hi hmem hline hc (not_mem_of_isPrefix hnodup hpre)
    exact ⟨_, hfeed, _, l', column_some indent, hl', rfl⟩
  obtain ⟨_, hreads, column, l', -, hl', rfl⟩ :=
    Reads.of_forall₂ hstep hlines ⟨none, l, column_none indent, hl, rfl⟩
  exact ⟨column, l', hreads, hl'⟩

/-- **The terminals of a report** are declared in order. -/
theorem reads_terminals {names lines : List Text} (h : ListingLines names lines)
    (hnodup : names.Nodup) (hok : ∀ t ∈ names, IsName t ∧ t ≠ Symbol.errorName) {r : Reader}
    (hs : r.stretch = .terminals none) (hr : r.symbols.terminals.toList = []) :
    ∃ column l, Reads r lines { r with
        stretch := .terminals column, symbols := { r.symbols with terminals := l } } ∧
      l.toList = names := by
  have hrun := reads_listing (fun column l => { r with
    stretch := .terminals column, symbols := { r.symbols with terminals := l } }) h hnodup
    (fun indent name line column l hi hmem hline hc hnew =>
      feed_terminal hi (hok name hmem).1 hline hc rfl (hok name hmem).2 hnew) hr
  rwa [← hs] at hrun

/-- **The nonterminals of a report** are declared in order. -/
theorem reads_nonterminals {names lines : List Text} (h : ListingLines names lines)
    (hnodup : names.Nodup) (hok : ∀ t ∈ names, IsName t) {r : Reader}
    (hs : r.stretch = .nonterminals none) (hr : r.symbols.nonterminals.toList = []) :
    ∃ column l, Reads r lines { r with
        stretch := .nonterminals column, symbols := { r.symbols with nonterminals := l } } ∧
      l.toList = names := by
  have hrun := reads_listing (fun column l => { r with
    stretch := .nonterminals column, symbols := { r.symbols with nonterminals := l } }) h hnodup
    (fun indent name line column l hi hmem hline hc hnew =>
      feed_nonterminal hi (hok name hmem) hline hc rfl hnew) hr
  rwa [← hs] at hrun

end Reader
end ParserTables
