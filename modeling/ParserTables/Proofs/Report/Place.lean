import ParserTables.Proofs.Report.Listed
import ParserTables.Proofs.Report.Unplaced

/-! Where a reader stands after some lines.

`Report.place` says it from the lines alone: which header they are waiting for, and which lines
came after the last header that counted. A reader that was given lines and rejected none of them
stands where they end (`Reader.standsAt_run`): it awaits that header, it has the column of the
listing those lines begin, and it knows the terminals they list. -/
namespace ParserTables

namespace Report
open Reader

/-- A place in a report. -/
structure Place where
  /-- The section whose header comes next; among the states no other section does. -/
  awaits : Option SectionName
  /-- The lines since the header of this section. -/
  since : List Text

/-- The place after one more line. -/
def Place.next (p : Place) (line : Text) : Place :=
  match p.awaits with
  | none => { p with since := p.since ++ [line] }
  | some name =>
    if opens name line then ⟨name.next, []⟩ else { p with since := p.since ++ [line] }

/-- The place where some lines end. -/
def place (lines : List Text) : Place := lines.foldl Place.next ⟨some .grammar, []⟩

theorem place_concat (lines : List Text) (line : Text) :
    place (lines ++ [line]) = (place lines).next line :=
  List.foldl_concat ..

/-- The header awaited begins the next section. -/
theorem Place.next_of_opens {p : Place} {name : SectionName} (h : p.awaits = some name)
    {line : Text} (ho : opens name line = true) : p.next line = ⟨name.next, []⟩ := by
  rw [Place.next, h]
  exact if_pos ho

/-- Any other line is one more of the section. -/
theorem Place.next_of_not_opens {p : Place} {line : Text}
    (h : ∀ name, p.awaits = some name → opens name line = false) :
    p.next line = { p with since := p.since ++ [line] } := by
  rw [Place.next]
  cases hp : p.awaits with
  | none => rfl
  | some name => exact if_neg (by simp [h name hp])

theorem Place.awaits_next (p : Place) (line : Text) :
    (p.next line).awaits = p.awaits.bind fun name =>
      if opens name line then name.next else some name := by
  rw [Place.next]
  cases p.awaits with
  | none => rfl
  | some name =>
    dsimp only [Option.bind_some]
    split <;> rfl

theorem opens_nonterminals_iff {line : Text} :
    opens .nonterminals line = true ↔ Line.header? line = some .nonterminals := by
  rw [opens]
  cases Line.header? line with
  | none => simp
  | some header => cases header <;> simp [Line.Header.sectionName]

/-- The column of the names of a listing: its first line that is not blank has a name. -/
def column? (listing : List Text) : Option Nat :=
  (listing.find? fun line => !Text.blank line).map indentation

theorem column?_concat (listing : List Text) (line : Text) :
    column? (listing ++ [line]) =
      if Text.blank line then column? listing else some ((column? listing).getD (indentation line))
    := by
  rw [column?, column?, List.find?_append]
  cases listing.find? fun line => !Text.blank line with
  | none => cases hb : Text.blank line <;> simp [hb]
  | some first => simp

/-- A terminal is listed: a line of the listing of the terminals has its name. The error terminal
is not one of them. -/
def Lists (lines : List Text) (token : Text) : Prop :=
  token ≠ Symbol.errorName ∧ ∃ front line back, lines = front ++ line :: back ∧
    (place front).awaits = some .nonterminals ∧ opens .nonterminals line = false ∧
    Text.blank line = false ∧ listedName? (column? (place front).since) line = some token

/-- One more line lists what was listed, and a terminal if it stands among them. -/
theorem lists_concat {lines : List Text} {line token : Text} (h : Lists (lines ++ [line]) token) :
    Lists lines token ∨ (token ≠ Symbol.errorName ∧ (place lines).awaits = some .nonterminals ∧
      opens .nonterminals line = false ∧ Text.blank line = false ∧
      listedName? (column? (place lines).since) line = some token) := by
  obtain ⟨hne, front, line', back, heq, hplace, hopens, hblank, hname⟩ := h
  rcases List.eq_nil_or_concat back with rfl | ⟨back, last, rfl⟩
  · obtain ⟨rfl, hline⟩ := List.append_inj' heq rfl
    obtain rfl := (List.cons.inj hline).1
    exact .inr ⟨hne, hplace, hopens, hblank, hname⟩
  · have heq : lines ++ [line] = (front ++ line' :: back) ++ [last] := by simpa using heq
    obtain ⟨rfl, -⟩ := List.append_inj' heq rfl
    exact .inl ⟨hne, front, line', back, rfl, hplace, hopens, hblank, hname⟩

end Report

/-! ### What no line changes -/

namespace Builder

theorem strictness_record (b : Builder) (entry : Block → Block × Option EntryError) :
    (b.record entry).1.strictness = b.strictness := by
  rw [record]
  split <;> rfl

/-- No effect of a line changes the strictness. -/
theorem Step.strictness {b b' : Builder} (h : b.Step b') : b'.strictness = b.strictness := by
  cases h with
  | stay => rfl
  | beginState => rfl
  | action terminal entry discarded => exact strictness_record ..
  | fallback entry discarded => exact strictness_record ..
  | goto nonterminal target => exact strictness_record ..

end Builder

namespace Reader
open Report

theorem beginState_strictness (r : Reader) (b : Builder) (n found : Nat) :
    (r.beginState b n found).1.strictness = r.strictness := by
  rw [beginState]
  split <;> rfl

theorem stateLine_strictness (r : Reader) (b : Builder) (n : Nat) (line : Text) :
    (r.stateLine b n line).1.strictness = r.strictness := by
  rw [stateLine_eq]
  cases told r.symbols line with
  | call name c =>
    rw [obey, recorded_fst]
  | _ => rfl

theorem strictness_feed (r : Reader) (n : Nat) (line : Text) :
    (r.feed n line).1.strictness = r.strictness := by
  have htakes := r.takes_feed n line
  generalize r.feed n line = fed at htakes ⊢
  cases htakes with
  | rule hs _ =>
    obtain ⟨left', rules, oddities, hline⟩ := grammarLine_eq hs n line
    rw [hline]
  | @terminal column _ _ =>
    obtain ⟨terminals, hline⟩ := terminalLine_eq r column line
    rw [accept, hline]
  | @nonterminal column _ _ =>
    obtain ⟨nonterminals, hline⟩ := nonterminalLine_eq r column line
    rw [accept, hline]
  | enterStates _ _ => exact beginState_strictness ..
  | beginState _ _ => exact beginState_strictness ..
  | entry _ _ => exact stateLine_strictness ..
  | _ => rfl

/-- The builder of a reader is as strict as the reader. -/
def Literal (r : Reader) : Prop := ∀ b, r.stretch = .states b → b.strictness = r.strictness

theorem literal_feed {r : Reader} (h : r.Literal) (n : Nat) (line : Text) :
    (r.feed n line).1.Literal := by
  intro b'' hb''
  rw [strictness_feed]
  rcases feed_cases r n line with hne | ⟨found, hbegin⟩ | ⟨b, b', hs, hstep, ha⟩
  · exact absurd hb'' (hne b'')
  · obtain ⟨b', hstep, ha⟩ := beginState_step r
      (.empty r.strictness r.symbols.terminals.size r.symbols.nonterminals.size) n found
    rw [hbegin] at hb''
    obtain rfl := Stretch.states.inj (ha.stretch.symm.trans hb'')
    exact hstep.strictness
  · obtain rfl := Stretch.states.inj (ha.stretch.symm.trans hb'')
    exact hstep.strictness.trans (h b hs)

/-! ### Columns -/

/-- If the reader stands in a listing, the names of the listing stand in that column. -/
def InColumn (column : Option Nat) (r : Reader) : Prop :=
  ∀ c, r.stretch = .terminals c ∨ r.stretch = .nonterminals c → c = column

/-- Outside of the listings there is no column. -/
theorem inColumn_of_ne {r : Reader} {s : Stretch} (h : r.stretch = s) (ht : ∀ c, s ≠ .terminals c)
    (hn : ∀ c, s ≠ .nonterminals c) (column : Option Nat) : r.InColumn column := by
  rintro c (hc | hc)
  · exact absurd (h.symm.trans hc) (ht c)
  · exact absurd (h.symm.trans hc) (hn c)

theorem inColumn_terminals {r : Reader} {column : Option Nat} (h : r.stretch = .terminals column) :
    r.InColumn column := by
  rintro c (hc | hc)
  · exact (Stretch.terminals.inj (h.symm.trans hc)).symm
  · exact absurd (h.symm.trans hc) nofun

theorem inColumn_nonterminals {r : Reader} {column : Option Nat}
    (h : r.stretch = .nonterminals column) : r.InColumn column := by
  rintro c (hc | hc)
  · exact absurd (h.symm.trans hc) nofun
  · exact (Stretch.nonterminals.inj (h.symm.trans hc)).symm

/-- The first line of a listing that is not blank sets the column of the listing. -/
theorem column?_next {p : Report.Place} {name : SectionName} (h : p.awaits = some name) {line : Text}
    (ho : opens name line = false) (hb : Text.blank line = false) :
    column? (p.next line).since = some (columnAfter (column? p.since) line) := by
  rw [Place.next_of_not_opens fun name' hname' => Option.some.inj (h.symm.trans hname') ▸ ho,
    column?_concat, if_neg (by simp [hb]), columnAfter]

/-- A line keeps the reader in the column of the listing it stands in. -/
theorem inColumn_feed {r : Reader} {p : Report.Place} (hawaits : r.stretch.awaits = p.awaits)
    (h : r.InColumn (column? p.since)) (n : Nat) (line : Text) :
    (r.feed n line).1.InColumn (column? (p.next line).since) := by
  cases hb : Text.blank line with
  | true =>
    rw [feed_blank r n hb, Place.next_of_not_opens fun name _ => not_opens_blank hb name,
      column?_concat, if_pos hb]
    exact h
  | false =>
    cases hs : r.stretch with
    | preamble =>
      rw [feed_preamble n hb hs]
      split
      · exact inColumn_of_ne (s := .grammar none) rfl nofun nofun _
      · exact inColumn_of_ne hs nofun nofun _
    | grammar left =>
      have hp : p.awaits = some .terminals := hawaits ▸ congrArg Stretch.awaits hs
      rw [feed_grammar n hb hs]
      split
      · rename_i hheader
        rw [Place.next_of_opens hp (opens_eq hheader .terminals)]
        exact inColumn_terminals rfl
      · obtain ⟨left', rules, oddities, hline⟩ := grammarLine_eq hs n line
        exact inColumn_of_ne (congrArg Reader.stretch hline) nofun nofun _
    | terminals column =>
      have hp : p.awaits = some .nonterminals := hawaits ▸ congrArg Stretch.awaits hs
      obtain rfl := h column (.inl hs)
      rw [feed_terminals n hb hs]
      split
      · rename_i hheader
        rw [Place.next_of_opens hp (opens_eq hheader .nonterminals)]
        exact inColumn_nonterminals rfl
      · rename_i hheader
        have ho : opens .nonterminals line = false := by
          rw [Bool.eq_false_iff, Ne, opens_nonterminals_iff]
          exact hheader
        obtain ⟨terminals, hline⟩ := terminalLine_eq r (column? p.since) line
        rw [column?_next hp ho hb]
        exact inColumn_terminals (congrArg Reader.stretch hline)
    | nonterminals column =>
      have hp : p.awaits = some .state := hawaits ▸ congrArg Stretch.awaits hs
      obtain rfl := h column (.inr hs)
      rw [feed_nonterminals n hb hs]
      split
      · obtain ⟨b, -, ha⟩ := beginState_step r
          (.empty r.strictness r.symbols.terminals.size r.symbols.nonterminals.size) n _
        exact inColumn_of_ne ha.stretch nofun nofun _
      · rename_i hheader
        have ho : opens .state line = false := by
          rw [Bool.eq_false_iff, Ne, opens_state_iff]
          exact fun ⟨found, he⟩ => hheader found he
        obtain ⟨nonterminals, hline⟩ := nonterminalLine_eq r (column? p.since) line
        rw [column?_next hp ho hb]
        exact inColumn_nonterminals (congrArg Reader.stretch hline)
    | states b =>
      obtain ⟨b', -, ha⟩ := feed_states_step hs n line
      exact inColumn_of_ne ha.stretch nofun nofun _

/-! ### Terminals -/

/-- What was declared stays declared. -/
theorem Declares.subset {before after : Listing} (h : Declares before after) :
    before.toList ⊆ after.toList := by
  rcases h with rfl | ⟨name, -, rfl⟩
  · exact List.Subset.refl _
  · rw [Listing.toList_declare]
    split
    · exact List.Subset.refl _
    · exact List.subset_append_left ..

/-- A line of the listing of the terminals declares the terminal it names. -/
theorem mem_terminals_feed {r : Reader} {column : Option Nat} (hs : r.stretch = .terminals column)
    {line token : Text} (ho : opens .nonterminals line = false) (hb : Text.blank line = false)
    (hname : listedName? column line = some token) (hne : token ≠ Symbol.errorName) (n : Nat) :
    token ∈ (r.feed n line).1.symbols.terminals.toList := by
  have hheader : Line.header? line ≠ some .nonterminals := fun he => by
    rw [opens_nonterminals_iff.2 he] at ho
    exact absurd ho nofun
  rw [feed_terminals n hb hs]
  split
  · exact absurd ‹_› hheader
  · rw [terminalLine, hname]
    dsimp only
    rw [if_neg hne]
    show token ∈ (r.symbols.terminals.declare token).1.toList
    rw [Listing.toList_declare]
    split
    · assumption
    · exact List.mem_append_right _ (List.mem_singleton_self _)

/-! ### Runs -/

theorem Reads.run {r r' : Reader} {lines : List Text} (h : Reads r lines r') :
    r.run lines = .ok r' := by
  induction h with
  | done => rfl
  | line hfeed _ ih =>
    rw [run_cons, hfeed 0]
    exact ih

/-- A reader of some strictness stands where the lines end. -/
structure StandsAt (s : Strictness) (lines : List Text) (r : Reader) : Prop where
  strictness : r.strictness = s
  literal : r.Literal
  awaits : r.stretch.awaits = (place lines).awaits
  column : r.InColumn (Report.column? (place lines).since)
  terminals : ∀ token, Lists lines token → token ∈ r.symbols.terminals.toList
  fits : r.Fits
  begun : r.Begun

theorem standsAt_start (s : Strictness) : StandsAt s [] (start s) where
  strictness := rfl
  literal := nofun
  awaits := rfl
  column := inColumn_of_ne (s := .preamble) rfl nofun nofun _
  terminals := by
    rintro token ⟨-, front, line, back, heq, -⟩
    exact absurd heq.symm (List.append_ne_nil_of_right_ne_nil _ (List.cons_ne_nil _ _))
  fits := fits_start s
  begun := nofun

theorem StandsAt.feed {s : Strictness} {lines : List Text} {r : Reader} (h : StandsAt s lines r)
    (n : Nat) (line : Text) (hok : (r.feed n line).2 = none) :
    StandsAt s (lines ++ [line]) (r.feed n line).1 where
  strictness := (strictness_feed ..).trans h.strictness
  literal := literal_feed h.literal n line
  awaits := by rw [awaits_feed, h.awaits, place_concat, Place.awaits_next]
  column := by
    rw [place_concat]
    exact inColumn_feed h.awaits h.column n line
  terminals token hlists := by
    rcases lists_concat hlists with hbefore | ⟨hne, hplace, ho, hb, hname⟩
    · exact (r.terminals_feed n line).subset (h.terminals token hbefore)
    · cases hs : r.stretch with
      | terminals column =>
        obtain rfl := h.column column (.inl hs)
        exact mem_terminals_feed hs ho hb hname hne n
      | _ => exact absurd (h.awaits.trans hplace) (hs ▸ nofun)
  fits := feed_fits h.fits n line
  begun := feed_begun h.begun n line hok

theorem StandsAt.run {s : Strictness} {before : List Text} {r r' : Reader}
    (h : StandsAt s before r) {lines : List Text} (hrun : r.run lines = .ok r') :
    StandsAt s (before ++ lines) r' := by
  induction lines generalizing before r with
  | nil =>
    rw [List.append_nil]
    exact Except.ok.inj hrun ▸ h
  | cons line rest ih =>
    obtain ⟨hok, hrest⟩ := run_cons_ok hrun
    rw [List.append_cons]
    exact ih (h.feed 0 line hok) hrest

/-- **A reader stands where its lines end.** -/
theorem standsAt_run {s : Strictness} {lines : List Text} {r : Reader}
    (h : (start s).run lines = .ok r) : StandsAt s lines r :=
  (standsAt_start s).run h

end Reader
end ParserTables
