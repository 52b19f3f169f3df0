import ParserTables.Proofs.Report.Feed

/-! Names and rules are written on one line.

What a reader takes from a line is cut out of it, so it has no characters but those of the
line (`symbolName_subset`, `subset_of_rule?`, `subset_of_mem_all`), and a line has no line feed.
So there is none in the names and rules that are read (`Reader.Unbroken`), wherever they are
printed later. -/
namespace ParserTables

/-! ### Cutting -/

namespace Text

theorem trimStart_subset (t : Text) : trimStart t ⊆ t := (List.dropWhile_sublist _).subset

theorem trim_subset (t : Text) : trim t ⊆ t := fun _ h =>
  trimStart_subset t ((trimEnd_isPrefix _).subset h)

theorem upTo_subset (mark t : Text) : upTo mark t ⊆ t := by
  induction t with
  | nil => exact List.Subset.refl _
  | cons c rest ih =>
    rw [upTo]
    split
    · exact List.nil_subset _
    · exact List.cons_subset_cons c ih

/-- No line holds what ends it. -/
theorem newline_not_mem_of_linesFrom {current rest line : Text} (hc : '\n' ∉ current)
    (h : line ∈ linesFrom current rest) : '\n' ∉ line := by
  induction rest generalizing current with
  | nil =>
    rw [linesFrom] at h
    split at h
    · exact absurd h List.not_mem_nil
    · rw [List.mem_singleton.1 h, List.mem_reverse]
      exact hc
  | cons c rest ih =>
    rw [linesFrom] at h
    split at h
    · rcases List.mem_cons.1 h with rfl | h
      · rw [List.mem_reverse]
        unfold dropReturn
        split
        · exact fun hmem => hc (List.mem_cons_of_mem _ hmem)
        · exact hc
      · exact ih List.not_mem_nil h
    · rename_i hne
      refine ih (fun hmem => ?_) h
      rcases List.mem_cons.1 hmem with heq | hmem
      · exact hne heq.symm
      · exact hc hmem

theorem newline_not_mem_of_lines {source line : Text} (h : line ∈ lines source) : '\n' ∉ line :=
  newline_not_mem_of_linesFrom List.not_mem_nil h

theorem subset_of_leadingNumber? {t rest : Text} {n : Nat}
    (h : leadingNumber? t = some (n, rest)) : rest ⊆ t := by
  unfold leadingNumber? at h
  dsimp only at h
  split at h
  · obtain ⟨_, -, heq⟩ := Option.map_eq_some_iff.1 h
    rw [← (Prod.mk.inj heq).2]
    exact (List.dropWhile_sublist _).subset
  · exact absurd h nofun

end Text

namespace Token
open Text

theorem first_subset (t : Text) : (first t).1 ⊆ t ∧ (first t).2 ⊆ t := by
  have h := first_append t
  constructor
  · intro c hc
    rw [← h]
    exact List.mem_append_left _ hc
  · intro c hc
    rw [← h]
    exact List.mem_append_right _ hc

/-- A token is cut out of its text. -/
theorem subset_of_mem_all {t token : Text} (h : token ∈ all t) : token ⊆ t := by
  fun_induction all t with
  | case1 t _ => exact absurd h List.not_mem_nil
  | case2 t c rest hrest ih =>
    have hsub : c :: rest ⊆ t := hrest ▸ trimStart_subset t
    rcases List.mem_cons.1 h with rfl | h
    · exact fun d hd => hsub ((first_subset _).1 hd)
    · exact fun d hd => hsub ((first_subset _).2 (ih h hd))

end Token

namespace Line
open Text

/-- A listed name is cut out of its line. -/
theorem symbolName_subset (line : Text) : symbolName line ⊆ line := by
  have hcut : ∀ quoted rest : Text, quoted ++ rest = trim line →
      quoted ++ upTo " <".toList (upTo " (".toList rest) ⊆ trim line := by
    intro quoted rest heq
    rw [← heq]
    refine List.append_subset.2 ⟨List.subset_append_left .., fun c hc => ?_⟩
    exact List.mem_append_right _ (upTo_subset _ _ (upTo_subset _ _ hc))
  unfold symbolName
  dsimp only
  refine fun c hc => trim_subset line ?_
  cases hquoted : Token.quoted? (trim line) with
  | none =>
    rw [hquoted] at hc
    exact hcut [] (trim line) rfl ((trimEnd_isPrefix _).subset hc)
  | some parts =>
    rw [hquoted] at hc
    exact hcut parts.1 parts.2 (Token.quoted?_eq_some hquoted) ((trimEnd_isPrefix _).subset hc)

/-- The left side and the right side of a rule are cut out of its line. -/
theorem subset_of_rule? {line : Text} {parsed : RuleLine} (h : rule? line = some parsed) :
    (∀ left, parsed.left = some left → left ⊆ line) ∧ parsed.right ⊆ line := by
  obtain ⟨⟨number, rest⟩, hnumber, h⟩ := Option.bind_eq_some_iff.1 h
  have hrest : trimStart rest ⊆ line := fun c hc =>
    trim_subset line (subset_of_leadingNumber? hnumber (trimStart_subset rest hc))
  dsimp only at h
  split at h
  · rename_i right hbar
    obtain rfl := Option.some.inj h
    refine ⟨nofun, fun c hc => hrest ?_⟩
    rw [hbar]
    exact List.mem_cons_of_mem _ (trim_subset right hc)
  · split at h
    · exact absurd h nofun
    · rename_i colon right hcolon
      split at h
      · exact absurd h nofun
      · obtain rfl := Option.some.inj h
        constructor
        · intro left hleft
          obtain rfl := Option.some.inj hleft
          exact fun c hc => hrest ((List.takeWhile_sublist _).subset (trim_subset _ hc))
        · intro c hc
          have hmem : c ∈ (trimStart rest).dropWhile (· != ':') :=
            hcolon ▸ List.mem_cons_of_mem _ (trim_subset right hc)
          exact hrest ((List.dropWhile_sublist _).subset hmem)

end Line

/-! ### Rules -/

/-- A right-hand side is made of tokens of its text. -/
theorem Symbol.subset_of_mem_ofRight {t : Text} {s : Symbol} (h : s ∈ ofRight t) : s.text ⊆ t := by
  unfold ofRight at h
  dsimp only at h
  split at h
  · exact absurd h List.not_mem_nil
  · obtain ⟨token, htoken, rfl⟩ := List.mem_map.1 h
    rw [text_ofToken]
    exact fun c hc => Text.trim_subset t (Token.subset_of_mem_all htoken hc)

/-- A rule is written on one line if its symbols are. -/
theorem Rule.newline_not_mem_text {r : Rule} (hleft : '\n' ∉ r.left)
    (hright : ∀ s ∈ r.right, '\n' ∉ s.text) : '\n' ∉ r.text := by
  have hwritten : '\n' ∉ rightText r.right := by
    unfold rightText
    split
    · decide
    · intro hc
      obtain ⟨s, hs, hc⟩ := List.mem_flatMap.1 hc
      rcases List.mem_cons.1 hc with heq | hc
      · exact absurd heq (by decide)
      · exact hright s hs hc
  intro hc
  rcases List.mem_append.1 hc with hc | hc
  · exact hleft hc
  · rcases List.mem_cons.1 hc with heq | hc
    · exact absurd heq (by decide)
    · exact hwritten hc

/-! ### Readers -/

namespace Reader

/-- No name and no rule that was read holds a line feed. -/
structure Unbroken (r : Reader) : Prop where
  terminals : ∀ name ∈ r.symbols.terminals.toList, '\n' ∉ name
  nonterminals : ∀ name ∈ r.symbols.nonterminals.toList, '\n' ∉ name
  rules : ∀ rule ∈ r.rules.toList, '\n' ∉ rule.text
  /-- The next rule may have the left side of the last one. -/
  left : ∀ left, r.stretch = .grammar (some left) → '\n' ∉ left

theorem unbroken_start (s : Strictness) : (start s).Unbroken where
  terminals := nofun
  nonterminals := nofun
  rules := by
    rw [show (start s).rules = .empty from rfl]
    simp [RuleSet.toList, RuleSet.empty]
  left := nofun

namespace Unbroken
variable {r : Reader} (h : r.Unbroken)
include h

/-- Where the reader stands does not matter, but for the left side it remembers. -/
theorem of_eq {r' : Reader} (hsymbols : r'.symbols = r.symbols) (hrules : r'.rules = r.rules)
    (hleft : ∀ left, r'.stretch = .grammar (some left) → '\n' ∉ left) : r'.Unbroken where
  terminals := hsymbols ▸ h.terminals
  nonterminals := hsymbols ▸ h.nonterminals
  rules := hrules ▸ h.rules
  left := hleft

theorem addRule {rule : Rule} (hrule : '\n' ∉ rule.text) (n : Nat) :
    (r.addRule n rule).1.Unbroken := by
  unfold Reader.addRule
  rcases hrules : r.rules.insert rule with ⟨rules, _ | refused⟩
  · have hall : ∀ q ∈ rules.toList, '\n' ∉ q.text := by
      intro q hq
      have hget := RuleSet.mem_toList_iff.1 hq
      rw [RuleSet.get?_insert hrules] at hget
      split at hget
      · exact Option.some.inj hget ▸ hrule
      · exact h.rules q (RuleSet.mem_toList_iff.2 hget)
    dsimp only
    split
    · exact ⟨h.terminals, h.nonterminals, hall, h.left⟩
    · exact ⟨h.terminals, h.nonterminals, hall, h.left⟩
  · obtain ⟨rfl, -⟩ := RuleSet.insert_refused hrules
    exact h

theorem grammarLine {left : Option Text} (hs : r.stretch = .grammar left) {line : Text}
    (hline : '\n' ∉ line) (n : Nat) : (r.grammarLine left n line).1.Unbroken := by
  unfold Reader.grammarLine
  split
  · exact h.of_eq rfl rfl h.left
  · rename_i parsed hparsed
    obtain ⟨hown, hright⟩ := Line.subset_of_rule? hparsed
    split
    · exact h
    · rename_i produced hproduced
      have hproduced : '\n' ∉ produced := by
        cases hleft : parsed.left with
        | none =>
          rw [hleft, Option.none_or] at hproduced
          exact h.left produced (hproduced ▸ hs)
        | some own =>
          rw [hleft, Option.some_or] at hproduced
          obtain rfl := Option.some.inj hproduced
          exact fun hc => hline (hown own hleft hc)
      have hnext : Reader.Unbroken { r with stretch := .grammar (some produced) } :=
        h.of_eq rfl rfl fun left hleft => by
          obtain rfl : produced = left := by simpa using hleft
          exact hproduced
      refine hnext.addRule (Rule.newline_not_mem_text hproduced fun s hs hc => ?_) n
      exact hline (hright (Symbol.subset_of_mem_ofRight hs hc))

end Unbroken

theorem newline_not_mem_of_declare {l : Listing} (hl : ∀ name ∈ l.toList, '\n' ∉ name)
    {line : Text} (hline : '\n' ∉ line) :
    ∀ name ∈ (l.declare (Line.symbolName line)).1.toList, '\n' ∉ name := by
  intro name hname
  rw [Listing.toList_declare] at hname
  split at hname
  · exact hl name hname
  · rcases List.mem_append.1 hname with hname | hname
    · exact hl name hname
    · rw [List.mem_singleton.1 hname]
      exact fun hc => hline (Line.symbolName_subset line hc)

theorem listedName?_eq_some {column : Option Nat} {line name : Text}
    (h : listedName? column line = some name) : name = Line.symbolName line := by
  unfold listedName? at h
  split at h
  · exact absurd h nofun
  · exact (Option.some.inj h).symm

/-- **One line** without a line feed leaves none in what is read. -/
theorem Unbroken.feed {r : Reader} (h : r.Unbroken) (n : Nat) {line : Text}
    (hline : '\n' ∉ line) : (r.feed n line).1.Unbroken := by
  have htakes := r.takes_feed n line
  generalize r.feed n line = fed at htakes ⊢
  cases htakes with
  | blank _ => exact h
  | preamble _ _ => exact h
  | enterGrammar _ _ => exact h.of_eq rfl rfl nofun
  | rule hs _ => exact h.grammarLine hs hline n
  | enterTerminals _ _ => exact h.of_eq rfl rfl nofun
  | @terminal column _ _ =>
    unfold terminalLine accept
    split
    · exact h.of_eq rfl rfl nofun
    · rename_i name hname
      obtain rfl := listedName?_eq_some hname
      dsimp only
      split
      · exact h.of_eq rfl rfl nofun
      · exact ⟨newline_not_mem_of_declare h.terminals hline, h.nonterminals, h.rules, nofun⟩
  | enterNonterminals _ _ => exact h.of_eq rfl rfl nofun
  | @nonterminal column _ _ =>
    unfold nonterminalLine accept
    split
    · exact h.of_eq rfl rfl nofun
    · rename_i name hname
      obtain rfl := listedName?_eq_some hname
      exact ⟨h.terminals, newline_not_mem_of_declare h.nonterminals hline, h.rules, nofun⟩
  | enterStates _ _ =>
    obtain ⟨b, -, ha⟩ := beginState_step r _ n _
    exact h.of_eq ha.symbols ha.rules fun left hleft => nomatch ha.stretch.symm.trans hleft
  | beginState _ _ =>
    obtain ⟨b, -, ha⟩ := beginState_step r _ n _
    exact h.of_eq ha.symbols ha.rules fun left hleft => nomatch ha.stretch.symm.trans hleft
  | entry hs _ =>
    obtain ⟨b, -, ha⟩ := stateLine_step hs n line
    exact h.of_eq ha.symbols ha.rules fun left hleft => nomatch ha.stretch.symm.trans hleft

end Reader

/-- **What is read of a report** holds no line feeds. -/
theorem Automaton.newline_not_mem {s : Strictness} {source : Text} {a : Automaton}
    (h : Automaton.read s source = .ok a) :
    (∀ name ∈ a.symbols.terminals.toList, '\n' ∉ name) ∧
      (∀ name ∈ a.symbols.nonterminals.toList, '\n' ∉ name) ∧
      ∀ rule ∈ a.rules.toList, '\n' ∉ rule.text := by
  obtain ⟨r, b, hrun, -, rfl⟩ := exists_of_read h
  have hunbroken : r.Unbroken := Reader.feedAll_preserves_of_mem
    (fun r n line hmem hr _ => hr.feed n (Text.newline_not_mem_of_lines hmem)) hrun
    (Reader.unbroken_start s)
  exact ⟨hunbroken.terminals, hunbroken.nonterminals, hunbroken.rules⟩

end ParserTables
