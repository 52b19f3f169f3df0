import ParserTables.Proofs.Emit.Records

/-! The lines of an emitted source.

The lines with the cells of a state or the record of a rule start in a way of their own
(`Target.mark`). A source is made of those lines, in order, and of parts in which no line starts
so, however long their lists are and whatever the names and rules in them look like, as long
as these have no line feeds (`Plan.Unbroken`). So a reader that heeds such lines only reads the
same from the whole source as from those lines (`Target.pick_cpp_lines`,
`Target.pick_rust_lines`). -/
namespace ParserTables

/-! ### Texts on one line -/

namespace Text

/-- A character that begins no literal, no comment and no line. -/
def isPlain (c : Char) : Bool := c != '"' && c != '/' && c != '\n'

/-- A text that is code, on one line. -/
def Plain (t : Text) : Prop := t.all isPlain = true

instance (t : Text) : Decidable (Plain t) := inferInstanceAs (Decidable (_ = true))

theorem Plain.newline_not_mem {t : Text} (h : Plain t) : '\n' ∉ t :=
  fun hc => absurd (List.all_eq_true.1 h _ hc) (by decide)

theorem Plain.append {a b : Text} (ha : Plain a) (hb : Plain b) : Plain (a ++ b) :=
  List.all_append.trans (Bool.and_eq_true_iff.2 ⟨ha, hb⟩)

theorem Plain.cons {c : Char} (hc : isPlain c = true) {t : Text} (ht : Plain t) : Plain (c :: t) :=
  List.all_cons.trans (Bool.and_eq_true_iff.2 ⟨hc, ht⟩)

theorem plain_flatMap {α : Type} {f : α → Text} {l : List α} (h : ∀ x ∈ l, Plain (f x)) :
    Plain (l.flatMap f) :=
  List.all_flatMap.trans (List.all_eq_true.2 h)

/-- So is a text of characters of a kind that has none of the others in it. -/
theorem plain_of_forall {p : Char → Bool} (hp : p '"' = false ∧ p '/' = false ∧ p '\n' = false)
    {t : Text} (h : ∀ c ∈ t, p c = true) : Plain t := by
  have hne : ∀ {c mark : Char}, p c = true → p mark = false → (c != mark) = true := by
    intro c mark hc hmark
    rw [bne_iff_ne]
    rintro rfl
    exact absurd (hc.symm.trans hmark) nofun
  refine List.all_eq_true.2 fun c hc => ?_
  rw [isPlain, hne (h c hc) hp.1, hne (h c hc) hp.2.1, hne (h c hc) hp.2.2]
  rfl

theorem plain_ofNat (n : Nat) : Plain (ofNat n) :=
  plain_of_forall (p := Char.isDigit) (by decide) fun _ => isDigit_of_mem_ofNat

theorem plain_of_continues [IdentifierPart] {t : Text}
    (h : ∀ c ∈ t, continuesIdentifier c = true) : Plain t :=
  plain_of_forall ⟨continuesIdentifier_ascii (by decide), continuesIdentifier_ascii (by decide),
    continuesIdentifier_ascii (by decide)⟩ h

theorem newline_not_mem_flatMap {α : Type} {f : α → Text} {l : List α}
    (h : ∀ x ∈ l, '\n' ∉ f x) : '\n' ∉ l.flatMap f := fun hc => by
  obtain ⟨x, hx, hc⟩ := List.mem_flatMap.1 hc
  exact h x hx hc

end Text

namespace StringLiteral

theorem newline_not_mem_cpp {t : Text} (h : '\n' ∉ t) : '\n' ∉ cpp t := by
  have hbody : '\n' ∉ t.flatMap cppEscape := by
    refine Text.newline_not_mem_flatMap fun c hc => ?_
    have hne : c ≠ '\n' := fun heq => h (heq ▸ hc)
    unfold cppEscape
    split
    · decide
    · split
      · decide
      · simpa using hne.symm
  simpa [cpp] using hbody

theorem newline_not_mem_rustEscape (c : Char) : '\n' ∉ rustEscape c := by
  have hcode : ∀ n, '\n' ∉ Text.ofNatHex n := fun n hc => by
    obtain ⟨d, hd, heq⟩ := Identifier.exists_digitChar_of_mem_ofNatHex hc
    have hall : ∀ d < 16, '\n' ≠ Nat.digitChar d := by decide
    exact hall d hd heq
  fun_cases rustEscape c with
  | case1 => decide
  | case2 => decide
  | case3 => decide
  | case4 => decide
  | case5 => decide
  | case6 => decide
  | case7 _ _ hne =>
    exact fun hc => hne (List.mem_singleton.1 hc).symm
  | case8 =>
    exact List.not_mem_append (List.not_mem_append (by decide) (hcode _)) (by decide)

theorem newline_not_mem_rust (t : Text) : '\n' ∉ rust t :=
  List.not_mem_append (List.not_mem_cons_of_ne_of_not_mem (by decide)
    (Text.newline_not_mem_flatMap fun c _ => newline_not_mem_rustEscape c)) (by decide)

theorem newline_not_mem_comment {t : Text} (h : '\n' ∉ t) : '\n' ∉ comment t := by
  fun_induction comment t with
  | case1 => exact List.not_mem_nil
  | case2 rest ih =>
    have := ih fun hc => h (List.mem_cons_of_mem _ (List.mem_cons_of_mem _ hc))
    simpa using this
  | case3 c rest _ ih =>
    obtain ⟨hc, hrest⟩ := not_or.1 (mt List.mem_cons.2 h)
    exact fun hmem => (List.mem_cons.1 hmem).elim hc (ih hrest)

end StringLiteral

/-! ### Code -/

open Text (Plain)

theorem Identifier.plain_ofSymbol [Text.IdentifierPart] (s : Symbol) : Plain (ofSymbol s) := by
  cases s with
  | literal c => exact Text.plain_of_continues (continues_ofTerminal _)
  | terminal name => exact Text.plain_of_continues (continues_ofTerminal name)
  | nonterminal name => exact Text.plain_of_continues (continues_ofNonterminal name)

theorem Chain.plain_textFrom {spell : Symbol → Text} (h : ∀ s, Plain (spell s)) (depth : Nat)
    (c : Chain) : Plain (c.textFrom spell depth) := by
  induction c generalizing depth with
  | last =>
    have hclosed : Plain ((List.replicate depth "> ".toList).flatMap id) :=
      Text.plain_flatMap fun mark hmark => List.eq_of_mem_replicate hmark ▸ by decide
    rw [List.flatMap_id] at hclosed
    exact Plain.append (by decide) hclosed
  | link s rest ih =>
    exact ((Plain.append (by decide) (h s)).append (by decide)).append (ih (depth + 1))

theorem Plan.plain_descriptorText [Text.IdentifierPart] (r : Rule) : Plain (descriptorText r) := by
  have hspelled := Identifier.plain_ofSymbol
  unfold descriptorText
  generalize Descriptor.ofRule r = d
  cases d with
  | fixed left right =>
    have hright : Plain (right.flatMap fun s => ',' :: Identifier.ofSymbol s) :=
      Text.plain_flatMap fun s _ => .cons rfl (hspelled s)
    have hhead : Plain ('R' :: Text.ofNat right.length) := .cons rfl (Text.plain_ofNat _)
    have hleft : Plain ('(' :: Identifier.ofSymbol (.nonterminal left)) := .cons rfl (hspelled _)
    exact ((hhead.append hleft).append hright).append (by decide)
  | chain left links =>
    have hlinks : Plain (links.textFrom Identifier.ofSymbol 0) := links.plain_textFrom hspelled 0
    have hhead : Plain ("RulePat<".toList ++ Identifier.ofSymbol (.nonterminal left) ++
        ", ".toList) :=
      (Plain.append (by decide) (hspelled _)).append (by decide)
    exact (hhead.append hlinks).append (by decide)

namespace Cpp

theorem plain_nameTable {name count : Text} (hname : Plain name) (hcount : Plain count) (n : Nat) :
    Plain ("static const char ".toList ++ name ++ "[".toList ++ count ++ "][1+".toList ++
      Text.ofNat n ++ "] =".toList) :=
  (((((Plain.append (by decide) hname).append (by decide)).append hcount).append (by decide)).append
    (Text.plain_ofNat n)).append (by decide)

theorem plain_descriptor [Text.IdentifierPart] (r : Rule) : Plain (descriptor r) :=
  (((Plain.append (by decide) (Plan.plain_descriptorText r)).append (by decide)).append
    (Text.plain_ofNat _)).append (by decide)

end Cpp

namespace Rust

theorem plain_count {name : Text} (hname : Plain name) (identifiers : List Text) :
    Plain (count name identifiers) :=
  (((Plain.append (by decide) hname).append (by decide)).append
    (Text.plain_ofNat _)).append (by decide)

theorem plain_nameTable {name count : Text} (hname : Plain name) (hcount : Plain count) :
    Plain ("pub static ".toList ++ name ++ ": [&str; ".toList ++ count ++ "] = [".toList) :=
  (((Plain.append (by decide) hname).append (by decide)).append hcount).append (by decide)

theorem plain_static {opening : Text} (h : Plain opening) (n : Nat) :
    Plain (opening ++ Text.ofNat n ++ "] = [".toList) :=
  (h.append (Text.plain_ofNat n)).append (by decide)

end Rust

/-! ### Quiet texts -/

namespace Target

/-- What the lines with cells or a record start with. -/
def mark : Target → Text
  | .cpp => "  \x7b".toList
  | .rust => "    Bison".toList

/-- A text in which no line starts like one with cells or a record. -/
def Quiet (t : Target) (l : Text) : Prop :=
  ∀ line ∈ l.splitOn '\n', Text.after? t.mark line = none

variable {t : Target}

theorem quiet_of_line {l : Text} (hl : '\n' ∉ l) (h : Text.after? t.mark l = none) :
    t.Quiet l := by
  intro line hline
  rw [List.splitOn_eq_singleton hl, List.mem_singleton] at hline
  rwa [hline]

/-- The lines of a text that is not made from any data can be looked through. -/
theorem quiet_of_all (ls : List Text)
    (h : (ls.all fun l => !l.contains '\n' && (Text.after? t.mark l).isNone) = true) :
    ∀ l ∈ ls, t.Quiet l := by
  intro l hl
  obtain ⟨hline, hmark⟩ := Bool.and_eq_true_iff.1 (List.all_eq_true.1 h l hl)
  refine quiet_of_line (fun hc => ?_) (Option.isNone_iff_eq_none.1 hmark)
  rw [List.contains_iff_mem.2 hc] at hline
  exact absurd hline (by decide)

/-- So can all lines but the last one. -/
theorem quiet_of_dropLast {ls : List Text} {last : Text} (hlast : ls.getLast? = some last)
    (h : (ls.dropLast.all fun l => !l.contains '\n' && (Text.after? t.mark l).isNone) = true)
    (hq : t.Quiet last) : ∀ l ∈ ls, t.Quiet l := by
  rw [← List.dropLast_append_getLast? last hlast]
  intro l hl
  rcases List.mem_append.1 hl with hl | hl
  · exact quiet_of_all _ h l hl
  · exact List.mem_singleton.1 hl ▸ hq

theorem quiet_append {a b : List Text} (ha : ∀ l ∈ a, t.Quiet l) (hb : ∀ l ∈ b, t.Quiet l) :
    ∀ l ∈ a ++ b, t.Quiet l := fun l hl =>
  (List.mem_append.1 hl).elim (ha l) (hb l)

theorem quiet_singleton {l : Text} (h : t.Quiet l) : ∀ l' ∈ [l], t.Quiet l' := fun _ hl =>
  List.mem_singleton.1 hl ▸ h

/-- A text on one line that can stand behind an indent without making a line with data of it. -/
def Tame (x : Text) : Prop := '\n' ∉ x ∧ x.head? ≠ some 'B'

theorem Tame.append {x y : Text} (hx : Tame x) (hy : Tame y) : Tame (x ++ y) := by
  refine ⟨List.not_mem_append hx.1 hy.1, ?_⟩
  rw [List.head?_append]
  cases x with
  | nil => exact hy.2
  | cons c more => exact hx.2

theorem quiet_indented {x : Text} (hx : Tame x) : t.Quiet ("    ".toList ++ x) := by
  refine quiet_of_line (List.not_mem_append (by decide) hx.1) ?_
  cases t with
  | cpp => rfl
  | rust =>
    cases x with
    | nil => rfl
    | cons c more =>
      have hc : 'B' ≠ c := fun heq => hx.2 (heq ▸ rfl)
      exact if_neg hc

/-- A list of tame items is quiet, from any of its items on: each of its lines is indented and
starts with an item. -/
theorem quiet_more {width : Nat} {items : List Text} (hitems : ∀ item ∈ items, Tame item)
    {start rest : Text} (hstart : Tame start) (hrest : Tame rest) (column : Nat) : t.Quiet
      ("    ".toList ++ (start ++ (Wrapped.more "    ".toList width column items ++ rest))) := by
  induction items generalizing start column with
  | nil => exact quiet_indented (hstart.append hrest)
  | cons item items ih =>
    have hitem := hitems item (List.mem_cons_self ..)
    have hnext := fun {start : Text} (hstart : Tame start) (column : Nat) =>
      ih (fun item hmem => hitems item (List.mem_cons_of_mem _ hmem)) hstart column
    rw [Wrapped.more]
    split
    · -- the line ends behind the comma
      intro line hline
      have hcut : "    ".toList ++ (start ++ (",\n".toList ++ "    ".toList ++ item ++
          Wrapped.more "    ".toList width (Text.byteLength item + 1) items ++ rest)) =
          ("    ".toList ++ (start ++ [','])) ++ '\n' :: ("    ".toList ++ (item ++
            (Wrapped.more "    ".toList width (Text.byteLength item + 1) items ++ rest))) := by
        simp
      rw [hcut, List.splitOn_append_cons_self] at hline
      rcases List.mem_append.1 hline with hline | hline
      · exact quiet_indented (hstart.append ⟨by decide, by decide⟩) line hline
      · exact hnext hitem _ line hline
    · have hjoined : start ++ (", ".toList ++ item ++ Wrapped.more "    ".toList width
          (column + 2 + (Text.byteLength item + 1)) items ++ rest) =
          start ++ ", ".toList ++ item ++ (Wrapped.more "    ".toList width
            (column + 2 + (Text.byteLength item + 1)) items ++ rest) := by
        simp
      rw [hjoined]
      exact hnext ((hstart.append ⟨by decide, by decide⟩).append hitem) _

/-- A list of tame items is quiet. -/
theorem quiet_listing {width : Nat} {items : List Text} (hitems : ∀ item ∈ items, Tame item)
    {rest : Text} (hrest : Tame rest) :
    t.Quiet ("    ".toList ++ Wrapped.text "    ".toList width items ++ rest) := by
  rw [List.append_assoc]
  cases items with
  | nil => exact quiet_indented hrest
  | cons item items =>
    rw [Wrapped.text, List.append_assoc]
    exact quiet_more (fun item hmem => hitems item (List.mem_cons_of_mem _ hmem))
      (hitems item (List.mem_cons_self ..)) hrest _

end Target

/-- No name and no rule of a plan holds a line feed. -/
structure Plan.Unbroken (p : Plan) : Prop where
  terminals : ∀ name ∈ p.symbols.terminals.toList, '\n' ∉ name
  nonterminals : ∀ name ∈ p.symbols.nonterminals.toList, '\n' ∉ name
  rules : ∀ r ∈ p.rules, '\n' ∉ r.text
  /-- Identifiers are made of characters that may stand inside one, after a `T` or an `N`. -/
  identifiers : ∀ id ∈ p.terminals ++ p.nonterminals, Target.Tame id

namespace Target

theorem tame_cpp {name : Text} (h : '\n' ∉ name) : Tame (StringLiteral.cpp name) :=
  ⟨StringLiteral.newline_not_mem_cpp h, by simp [StringLiteral.cpp]⟩

theorem tame_rust (name : Text) : Tame (StringLiteral.rust name) :=
  ⟨StringLiteral.newline_not_mem_rust name, by simp [StringLiteral.rust]⟩

/-! ### C++ -/

theorem quiet_cpp_enumeration {name count : Text} {identifiers : List Text} (hname : Plain name)
    (hcount : Tame count) (h : ∀ id ∈ identifiers, Tame id) :
    ∀ l ∈ Cpp.enumeration name count identifiers, Quiet .cpp l := by
  have hopens : Quiet .cpp ("enum ".toList ++ name) :=
    quiet_of_line (Plain.append (by decide) hname).newline_not_mem rfl
  have hlisting : ∀ l ∈ (if identifiers.isEmpty then [] else
      [Cpp.listing identifiers ++ ",".toList]), Quiet .cpp l := by
    split
    · exact fun l hl => absurd hl List.not_mem_nil
    · exact quiet_singleton (quiet_listing h ⟨by decide, by decide⟩)
  unfold Cpp.enumeration
  refine quiet_append (quiet_append ?_ hlisting) ?_
  · exact quiet_append (quiet_singleton hopens) (quiet_of_all ["\x7b".toList] (by decide))
  · exact quiet_append (quiet_singleton (quiet_indented hcount))
      (quiet_of_all ["\x7d;".toList] (by decide))

theorem quiet_cpp_nameTable {name count : Text} {names : List Text} (hname : Plain name)
    (hcount : Plain count) (h : ∀ name ∈ names, '\n' ∉ name) :
    ∀ l ∈ Cpp.nameTable name count names, Quiet .cpp l := by
  have hopens : Quiet .cpp ("static const char ".toList ++ name ++ "[".toList ++ count ++
      "][1+".toList ++ Text.ofNat (Text.longest names) ++ "] =".toList) :=
    quiet_of_line (Cpp.plain_nameTable hname hcount _).newline_not_mem rfl
  have hitems : ∀ item ∈ names.map StringLiteral.cpp, Tame item := by
    intro item hitem
    obtain ⟨name, hname, rfl⟩ := List.mem_map.1 hitem
    exact tame_cpp (h name hname)
  have hlisting : Quiet .cpp (Cpp.listing (names.map StringLiteral.cpp)) := by
    rw [← List.append_nil (Cpp.listing _)]
    exact quiet_listing hitems ⟨by decide, by decide⟩
  exact quiet_append (quiet_append (quiet_singleton hopens)
    (quiet_of_all ["\x7b".toList] (by decide))) (quiet_append (quiet_singleton hlisting)
    (quiet_of_all ["\x7d;".toList] (by decide)))

theorem quiet_cpp_descriptor [Text.IdentifierPart] (r : Rule) : Quiet .cpp (Cpp.descriptor r) :=
  quiet_of_line (Cpp.plain_descriptor r).newline_not_mem rfl

/-! ### Reading -/

/-- What is read from the lines of texts. -/
def pick {α : Type} (read? : Text → Option α) (ls : List Text) : List α :=
  ls.flatMap fun l => (l.splitOn '\n').filterMap read?

/-- Only lines with data are read. -/
def Heeds {α : Type} (t : Target) (read? : Text → Option α) : Prop :=
  ∀ line, Text.after? t.mark line = none → read? line = none

section Pick
variable {α β : Type} {t : Target} {read? : Text → Option α}

theorem pick_append (a b : List Text) : pick read? (a ++ b) = pick read? a ++ pick read? b :=
  List.flatMap_append

theorem pick_flatMap (l : List β) (f : β → List Text) :
    pick read? (l.flatMap f) = l.flatMap fun x => pick read? (f x) :=
  List.flatMap_assoc

/-- Nothing is read from quiet texts. -/
theorem pick_of_quiet (hread : t.Heeds read?) {ls : List Text} (h : ∀ l ∈ ls, t.Quiet l) :
    pick read? ls = [] :=
  List.flatMap_eq_nil_iff.2 fun l hl => List.filterMap_eq_nil_iff.2 fun line hline =>
    hread line (h l hl line hline)

theorem pick_append_quiet (hread : t.Heeds read?) {a b : List Text} (h : ∀ l ∈ b, t.Quiet l) :
    pick read? (a ++ b) = pick read? a := by
  rw [pick_append, pick_of_quiet hread h, List.append_nil]

theorem pick_quiet_append (hread : t.Heeds read?) {a b : List Text} (h : ∀ l ∈ a, t.Quiet l) :
    pick read? (a ++ b) = pick read? b := by
  rw [pick_append, pick_of_quiet hread h, List.nil_append]

/-- Of rows with some numbers above them, only the rows are read. -/
theorem pick_rows (hread : t.Heeds read?) {comment : Nat → Text} (h : ∀ n, t.Quiet (comment n))
    (row : PackedRow → Text) (rows : List PackedRow) :
    pick read? (rows.zipIdx.flatMap fun (r, state) =>
      (if state % 5 = 0 then [comment state] else []) ++ [row r]) = pick read? (rows.map row) := by
  have hrow : ∀ x ∈ rows.zipIdx, pick read? ((if x.2 % 5 = 0 then [comment x.2] else []) ++
      [row x.1]) = pick read? [row x.1] := by
    intro x _
    refine pick_quiet_append hread ?_
    split
    · exact quiet_singleton (h x.2)
    · exact fun l hl => absurd hl List.not_mem_nil
  rw [pick_flatMap, List.flatMap_congr hrow,
    ← List.flatMap_map Prod.fst fun r => pick read? [row r], List.zipIdx_map_fst, ← pick_flatMap,
    List.map_eq_flatMap]

end Pick

/-- The line of the cells of a state. -/
def row : Target → PackedRow → Text
  | .cpp => Cpp.row
  | .rust => Rust.row

/-- The lines with the data of a plan. -/
def dataLines [Text.IdentifierPart] (t : Target) (p : Plan) : List Text :=
  p.rows.map t.row ++ p.rules.flatMap (t.record p)

/-- From a C++ source nothing is read but its data. -/
theorem pick_cpp_lines [Text.IdentifierPart] {α : Type} {read? : Text → Option α}
    (hread : Heeds .cpp read?) {p : Plan} (h : p.Unbroken) :
    pick read? (Cpp.lines p) = pick read? (dataLines .cpp p) := by
  have hterminals : ∀ id ∈ p.terminals, Tame id := fun id hid =>
    h.identifiers id (List.mem_append_left _ hid)
  have hnonterminals : ∀ id ∈ p.nonterminals, Tame id := fun id hid =>
    h.identifiers id (List.mem_append_right _ hid)
  have hstate : ∀ n, Quiet .cpp ("  // state ".toList ++ Text.ofNat n) := fun n =>
    quiet_of_line (List.not_mem_append (by decide) (Text.plain_ofNat n).newline_not_mem) rfl
  have hrecords : p.rules.map (Cpp.record (Cpp.field p)) = p.rules.flatMap (record .cpp p) :=
    List.map_eq_flatMap
  unfold Cpp.lines
  rw [pick_append_quiet hread, pick_append_quiet hread, pick_append_quiet hread, pick_append,
    pick_append_quiet hread, pick_quiet_append hread, Cpp.rows, pick_rows hread hstate, hrecords,
    ← pick_append]
  · rfl
  · refine quiet_append ?_ (quiet_of_all _ (by decide))
    refine quiet_append ?_ (quiet_cpp_nameTable (by decide) (by decide) h.nonterminals)
    refine quiet_append ?_ (quiet_cpp_nameTable (by decide) (by decide) h.terminals)
    refine quiet_append ?_ (quiet_cpp_enumeration (by decide) ⟨by decide, by decide⟩ hnonterminals)
    refine quiet_append ?_ (quiet_cpp_enumeration (by decide) ⟨by decide, by decide⟩ hterminals)
    exact quiet_of_all _ (by decide)
  · exact quiet_of_all _ (by decide)
  · exact quiet_of_all _ (by decide)
  · intro l hl
    obtain ⟨r, -, rfl⟩ := List.mem_map.1 hl
    exact quiet_cpp_descriptor r
  · exact quiet_of_all _ (by decide)

/-! ### Rust -/

theorem quiet_rust_enumeration {name : Text} {identifiers : List Text} (hname : Plain name)
    (h : ∀ id ∈ identifiers, Tame id) :
    ∀ l ∈ Rust.enumeration name identifiers, Quiet .rust l := by
  have hopens : Quiet .rust ("pub enum ".toList ++ name ++ " \x7b".toList) :=
    quiet_of_line ((Plain.append (by decide) hname).append (by decide)).newline_not_mem rfl
  have hlayout : ∀ l ∈ (if identifiers.isEmpty then [] else ["#[repr(u8)]".toList]),
      Quiet .rust l := by
    split
    · exact fun l hl => absurd hl List.not_mem_nil
    · exact quiet_of_all _ (by decide)
  have hitems : ∀ l ∈ identifiers.map (fun id => "    ".toList ++ id ++ ",".toList),
      Quiet .rust l := by
    intro l hl
    obtain ⟨id, hid, rfl⟩ := List.mem_map.1 hl
    rw [List.append_assoc]
    exact quiet_indented ((h id hid).append ⟨by decide, by decide⟩)
  exact quiet_append (quiet_append (quiet_append (quiet_append (quiet_of_all _ (by decide)) hlayout)
    (quiet_singleton hopens)) hitems) (quiet_of_all ["\x7d".toList] (by decide))

theorem quiet_rust_count {name : Text} (hname : Plain name) (identifiers : List Text) :
    ∀ l ∈ [Rust.count name identifiers, []], Quiet .rust l := by
  have hcount : Quiet .rust (Rust.count name identifiers) :=
    quiet_of_line (Rust.plain_count hname identifiers).newline_not_mem rfl
  exact quiet_append (quiet_singleton hcount) (quiet_of_all [[]] (by decide))

theorem quiet_rust_nameTable {name count : Text} (hname : Plain name) (hcount : Plain count)
    (names : List Text) : ∀ l ∈ Rust.nameTable name count names, Quiet .rust l := by
  have hopens : Quiet .rust ("pub static ".toList ++ name ++ ": [&str; ".toList ++ count ++
      "] = [".toList) :=
    quiet_of_line (Rust.plain_nameTable hname hcount).newline_not_mem rfl
  have hitems : ∀ item ∈ names.map StringLiteral.rust, Tame item := by
    intro item hitem
    obtain ⟨name, -, rfl⟩ := List.mem_map.1 hitem
    exact tame_rust name
  have hlisting : Quiet .rust ("    ".toList ++ Wrapped.text "    ".toList Rust.width
      (names.map StringLiteral.rust)) := by
    rw [← List.append_nil (_ ++ _)]
    exact quiet_listing hitems ⟨by decide, by decide⟩
  exact quiet_append (quiet_singleton hopens) (quiet_append (quiet_singleton hlisting)
    (quiet_of_all ["];".toList] (by decide)))

theorem quiet_rust_static (opening : Text) (n : Nat) (hopening : Plain opening)
    (hhead : opening.head? = some 'p') :
    Quiet .rust (opening ++ Text.ofNat n ++ "] = [".toList) := by
  obtain ⟨more, rfl⟩ : ∃ more, opening = 'p' :: more := List.head?_eq_some_iff.1 hhead
  exact quiet_of_line (Rust.plain_static hopening n).newline_not_mem rfl

theorem quiet_rust_descriptor [Text.IdentifierPart] (r : Rule) :
    Quiet .rust (Rust.descriptor r) := by
  unfold Rust.descriptor
  rw [List.append_assoc]
  exact quiet_indented ((tame_rust _).append ⟨by decide, by decide⟩)

/-- From a Rust source nothing is read but its data. -/
theorem pick_rust_lines [Text.IdentifierPart] {α : Type} {read? : Text → Option α}
    (hread : Heeds .rust read?) {p : Plan} (h : p.Unbroken) :
    pick read? (Rust.lines p) = pick read? (dataLines .rust p) := by
  have hterminals : ∀ id ∈ p.terminals, Tame id := fun id hid =>
    h.identifiers id (List.mem_append_left _ hid)
  have hnonterminals : ∀ id ∈ p.nonterminals, Tame id := fun id hid =>
    h.identifiers id (List.mem_append_right _ hid)
  have hstate : ∀ n, Quiet .rust ("    // state ".toList ++ Text.ofNat n) := fun n =>
    quiet_of_line (List.not_mem_append (by decide) (Text.plain_ofNat n).newline_not_mem) rfl
  unfold Rust.lines
  rw [pick_append_quiet hread, pick_append_quiet hread, pick_append_quiet hread, pick_append,
    pick_append_quiet hread, pick_quiet_append hread, Rust.rows, pick_rows hread hstate,
    ← pick_append]
  · rfl
  · refine quiet_append ?_ (quiet_of_dropLast rfl rfl
      (quiet_rust_static "pub static STATES: [BisonState; ".toList _ (by decide) (by decide)))
    refine quiet_append ?_ (quiet_rust_nameTable (by decide) (by decide) _)
    refine quiet_append ?_ (quiet_rust_nameTable (by decide) (by decide) _)
    refine quiet_append ?_ (quiet_rust_count (by decide) _)
    refine quiet_append ?_ (quiet_rust_enumeration (by decide) hnonterminals)
    refine quiet_append ?_ (quiet_rust_count (by decide) _)
    refine quiet_append ?_ (quiet_rust_enumeration (by decide) hterminals)
    exact quiet_of_all _ (by decide)
  · exact quiet_of_dropLast rfl rfl
      (quiet_rust_static "pub static GRAMMAR: [BisonReduce; ".toList _ (by decide) (by decide))
  · exact quiet_of_dropLast rfl rfl
      (quiet_rust_static "pub static RULE_PATTERNS: [&str; ".toList _ (by decide) (by decide))
  · intro l hl
    obtain ⟨r, -, rfl⟩ := List.mem_map.1 hl
    exact quiet_rust_descriptor r
  · exact quiet_of_all _ (by decide)

end Target
end ParserTables
