import ParserTables.Proofs.Emit.Lines
import ParserTables.Proofs.Report.Unbroken

/-! Reading the tables of an emitted source back.

The cells of a state and the record of a rule each stand on one line of an emitted source, and a
reader that looks at nothing but the lines gets them back (`Target.readRows`,
`Target.readRecords`): a line is read as what was printed into it (`readRow?_row`,
`filterMap_readRecord?_record`), and no other line is read as anything (`filterMap_splitOn_text`).
So the rows of a plan and the records of its rules are read back, all of them and in their order
(`readRows_text`, `readRecords_text`). -/
namespace ParserTables

/-! ### Numbers -/

namespace Text

/-- The integer that a text is, blanks around it aside. -/
def integer? (t : Text) : Option Int :=
  match trim t with
  | '-' :: digits => (number? digits).map fun n => -Int.ofNat n
  | digits => (number? digits).map Int.ofNat

/-- The integers of a list with commas between them. -/
def integers? (t : Text) : Option (List Int) :=
  if blank t then some [] else (t.splitOn ',').mapM integer?

theorem solid_ofInt (i : Int) : Solid (ofInt i) := by
  cases i with
  | ofNat n => exact solid_ofNat n
  | negSucc n =>
    refine Solid.of_forall (List.cons_ne_nil _ _) fun c hc => ?_
    rcases List.mem_cons.1 hc with rfl | hc
    · decide
    · exact not_isBlank_of_isDigit (isDigit_of_mem_ofNat hc)

theorem mem_ofInt {i : Int} {c : Char} (h : c ∈ ofInt i) : c = '-' ∨ c.isDigit = true := by
  cases i with
  | ofNat n => exact .inr (isDigit_of_mem_ofNat h)
  | negSucc n =>
    rcases List.mem_cons.1 h with rfl | h
    · exact .inl rfl
    · exact .inr (isDigit_of_mem_ofNat h)

/-- An integer is read back, whatever blanks are before it. -/
theorem integer?_append_ofInt {gap : Text} (hgap : blank gap = true) {i : Int}
    (hi : i.natAbs < numberLimit) : integer? (gap ++ ofInt i) = some i := by
  rw [integer?, (solid_ofInt i).trim_after hgap]
  cases i with
  | ofNat n =>
    rw [ofInt]
    split
    · rename_i digits heq
      have hdigit := isDigit_of_mem_ofNat (heq ▸ List.mem_cons_self ..)
      exact absurd hdigit (by decide)
    · rw [show number? (ofNat n) = some n from number?_ofNat hi]
      rfl
  | negSucc n =>
    show (number? (ofNat (n + 1))).map _ = _
    rw [show number? (ofNat (n + 1)) = some (n + 1) from number?_ofNat hi]
    rfl

/-- Pieces with a comma and a gap between them are cut apart again at the commas. -/
theorem splitOn_join {gap : Text} (hgap : ',' ∉ gap) {t : Text} {ts : List Text}
    (h : ∀ piece ∈ t :: ts, ',' ∉ piece) :
    (join (',' :: gap) (t :: ts)).splitOn ',' = t :: ts.map (gap ++ ·) := by
  have hall : join (',' :: gap) (t :: ts) = join [','] (t :: ts.map (gap ++ ·)) := by
    rw [join_cons, join_cons, List.flatMap_map]
    rfl
  rw [hall]
  refine List.splitOn_intercalate ',' ?_ (List.cons_ne_nil _ _)
  intro piece hpiece
  rcases List.mem_cons.1 hpiece with rfl | hpiece
  · exact h piece (List.mem_cons_self ..)
  · obtain ⟨u, hu, rfl⟩ := List.mem_map.1 hpiece
    exact fun hc => (List.mem_append.1 hc).elim hgap (h u (List.mem_cons_of_mem t hu))

theorem mapM_eq_some {α β : Type} {f : α → Option β} {g : β → α} {l : List β}
    (h : ∀ b ∈ l, f (g b) = some b) : (l.map g).mapM f = some l := by
  induction l with
  | nil => rfl
  | cons b l ih =>
    rw [List.map_cons, List.mapM_cons, h b (List.mem_cons_self ..),
      ih fun b hb => h b (List.mem_cons_of_mem _ hb)]
    rfl

/-- **A list of integers** is read back, whatever blanks are after its commas and before its
integers. -/
theorem integers?_join {gap : Text} (hgap : blank gap = true) (hcomma : ',' ∉ gap) (width : Nat)
    {cells : List Int} (h : ∀ i ∈ cells, i.natAbs < numberLimit) :
    integers? (join (',' :: gap) (cells.map fun i => padLeft width (ofInt i))) = some cells := by
  cases cells with
  | nil => rfl
  | cons i rest =>
    have hpiece : ∀ piece ∈ (i :: rest).map (fun i => padLeft width (ofInt i)), ',' ∉ piece := by
      intro piece hpiece
      obtain ⟨i, -, rfl⟩ := List.mem_map.1 hpiece
      intro hc
      rcases List.mem_append.1 hc with hc | hc
      · exact absurd (List.eq_of_mem_replicate hc) (by decide)
      · exact absurd (mem_ofInt hc) (by decide)
    have hread : ∀ (before : Text) (i : Int), blank before = true → i.natAbs < numberLimit →
        integer? (before ++ padLeft width (ofInt i)) = some i := by
      intro before i hbefore hi
      rw [padLeft, ← List.append_assoc]
      exact integer?_append_ofInt (by rw [blank_append, hbefore, blank_replicate]; rfl) hi
    have hsolid : blank (join (',' :: gap) ((i :: rest).map fun i => padLeft width (ofInt i))) =
        false := by
      rw [List.map_cons, join_cons, padLeft, blank_append, blank_append, (solid_ofInt i).not_blank,
        Bool.and_false, Bool.false_and]
    rw [integers?, hsolid, if_neg (by decide), List.map_cons, splitOn_join hcomma hpiece,
      List.map_map, List.mapM_cons]
    have hfirst := hread [] i rfl (h i (List.mem_cons_self ..))
    have hrest := mapM_eq_some (f := integer?)
      (g := (gap ++ ·) ∘ fun i => padLeft width (ofInt i)) (l := rest)
      fun i hi => hread gap i hgap (h i (List.mem_cons_of_mem _ hi))
    rw [List.nil_append] at hfirst
    rw [hfirst, hrest]
    rfl

/-- What is no character of a number, of a gap or a comma does not get into a list of integers. -/
theorem not_mem_join_ofInt {c : Char} (hc : c ≠ ' ' ∧ c ≠ ',' ∧ c ≠ '-' ∧ c.isDigit = false)
    {gap : Text} (hgap : c ∉ gap) (width : Nat) (cells : List Int) :
    c ∉ join (',' :: gap) (cells.map fun i => padLeft width (ofInt i)) := by
  obtain ⟨hblank, hcomma, hminus, hdigit⟩ := hc
  have hcell : ∀ i, c ∉ padLeft width (ofInt i) := by
    intro i hmem
    rcases List.mem_append.1 hmem with hmem | hmem
    · exact hblank (List.eq_of_mem_replicate hmem)
    · rcases mem_ofInt hmem with heq | hd
      · exact hminus heq
      · exact absurd (hdigit.symm.trans hd) nofun
  cases cells with
  | nil => exact List.not_mem_nil
  | cons i rest =>
    rw [List.map_cons, join_cons, List.flatMap_map]
    refine List.not_mem_append (hcell i) fun hmem => ?_
    obtain ⟨i, -, hmem⟩ := List.mem_flatMap.1 hmem
    exact List.not_mem_append (List.not_mem_cons_of_ne_of_not_mem hcomma hgap) (hcell i) hmem

theorem plain_ofInt (i : Int) : Plain (ofInt i) := by
  cases i with
  | ofNat n => exact plain_ofNat n
  | negSucc n => exact .cons rfl (plain_ofNat (n + 1))

theorem plain_replicate (n : Nat) : Plain (List.replicate n ' ') :=
  plain_of_forall (p := (· == ' ')) (by decide) fun _ hc =>
    beq_iff_eq.2 (List.eq_of_mem_replicate hc)

theorem plain_join_ofInt {mark : Text} (hmark : Plain mark) (width : Nat) (cells : List Int) :
    Plain (join mark (cells.map fun i => padLeft width (ofInt i))) := by
  have hcell : ∀ i, Plain (padLeft width (ofInt i)) := fun i =>
    (plain_replicate _).append (plain_ofInt i)
  cases cells with
  | nil => exact rfl
  | cons i rest =>
    rw [List.map_cons, join_cons, List.flatMap_map]
    exact (hcell i).append (plain_flatMap fun i _ => hmark.append (hcell i))

/-- A field of no width is the integer itself. -/
theorem map_padLeft_zero (cells : List Int) :
    (cells.map fun i => padLeft 0 (ofInt i)) = cells.map ofInt := by
  refine List.map_congr_left fun i _ => ?_
  rw [padLeft, Nat.zero_sub]
  rfl

end Text

/-! ### Lines -/

/-- The row that a line shows: its cells in two lists, each up to the mark that closes it. -/
def rowBy (opening : Text) (close : Char) (between closing line : Text) : Option PackedRow :=
  (Text.after? opening line).bind fun rest =>
  (Text.integers? (rest.takeWhile (· != close))).bind fun actions =>
  (Text.after? between (rest.dropWhile (· != close))).bind fun rest =>
  (Text.integers? (rest.takeWhile (· != close))).bind fun gotos =>
  if rest.dropWhile (· != close) = closing then some ⟨actions, gotos⟩ else none

/-- The arity and the identifier that a line shows: digits after blanks, and an identifier. -/
def recordBy [Text.IdentifierPart] (opening between : Text) (closes : Text → Bool) (line : Text) :
    Option (Nat × Text) :=
  (Text.after? opening line).bind fun rest =>
  let rest := rest.dropWhile (· == ' ')
  (Text.valueOf? (rest.takeWhile Char.isDigit)).bind fun arity =>
  (Text.after? between (rest.dropWhile Char.isDigit)).bind fun rest =>
  if closes (rest.dropWhile Text.continuesIdentifier) then
    some (arity, rest.takeWhile Text.continuesIdentifier)
  else none

theorem rowBy_append {opening between closing actions gotos : Text} {close : Char}
    {row : PackedRow} (hbetween : between.head? = some close) (hclosing : closing.head? = some close)
    (hactions : Text.integers? actions = some row.actions)
    (hgotos : Text.integers? gotos = some row.gotos) (ha : close ∉ actions) (hg : close ∉ gotos) :
    rowBy opening close between closing
      (opening ++ (actions ++ (between ++ (gotos ++ closing)))) = some row := by
  have hcut : ∀ {t rest : Text}, close ∉ t → rest.head? = some close →
      (t ++ rest).takeWhile (· != close) = t ∧ (t ++ rest).dropWhile (· != close) = rest := by
    intro t rest ht hrest
    refine Text.cut_append (fun c hc => ?_) (by simp [hrest])
    rw [bne_iff_ne]
    rintro rfl
    exact ht hc
  have hfirst : (between ++ (gotos ++ closing)).head? = some close := by
    rw [List.head?_append, hbetween, Option.some_or]
  obtain ⟨htake, hdrop⟩ := hcut ha hfirst
  obtain ⟨htake', hdrop'⟩ := hcut hg hclosing
  rw [rowBy, Text.after?_append, Option.bind_some, htake, hdrop, hactions, Option.bind_some,
    Text.after?_append, Option.bind_some, htake', hdrop', hgotos, Option.bind_some, if_pos rfl]

theorem recordBy_append [Text.IdentifierPart] {opening between name rest : Text}
    {closes : Text → Bool} (blanks : Nat) {n : Nat} (hn : n < Text.numberLimit)
    (hbetween : between.head? = some ',')
    (hname : ∀ c ∈ name, Text.continuesIdentifier c = true)
    (hrest : rest.head?.any Text.continuesIdentifier = false) (hcloses : closes rest = true) :
    recordBy opening between closes
      (opening ++ (List.replicate blanks ' ' ++ (Text.ofNat n ++ (between ++ (name ++ rest))))) =
      some (n, name) := by
  have hdigits : ∀ c ∈ Text.ofNat n, c.isDigit = true := fun c hc => Text.isDigit_of_mem_ofNat hc
  have hblanks : ∀ c ∈ List.replicate blanks ' ', (c == ' ') = true := fun c hc => by
    rw [List.eq_of_mem_replicate hc]
    rfl
  have hstart : (Text.ofNat n ++ (between ++ (name ++ rest))).head?.any (· == ' ') = false := by
    obtain ⟨d, more, hd⟩ := List.exists_cons_of_ne_nil (Text.ofNat_ne_nil n)
    have hdigit := hdigits d (hd ▸ List.mem_cons_self ..)
    rw [hd, List.cons_append, List.head?_cons, Option.any_some, beq_eq_false_iff_ne]
    rintro rfl
    exact absurd hdigit (by decide)
  have hcomma : (between ++ (name ++ rest)).head?.any Char.isDigit = false := by
    rw [List.head?_append, hbetween, Option.some_or]
    rfl
  obtain ⟨-, hpadded⟩ := Text.cut_append hblanks hstart
  obtain ⟨hnumber, hafter⟩ := Text.cut_append hdigits hcomma
  obtain ⟨hid, hend⟩ := Text.cut_append hname hrest
  rw [recordBy, Text.after?_append, Option.bind_some, hpadded]
  dsimp only
  rw [hnumber, hafter, Text.valueOf?_ofNat hn, Option.bind_some, Text.after?_append,
    Option.bind_some, hend, hid, if_pos hcloses]

/-! ### Readers -/

/-- The cells of a row are small enough to be read. -/
def PackedRow.Readable (r : PackedRow) : Prop :=
  ∀ cell ∈ r.actions ++ r.gotos, cell.natAbs < Text.numberLimit

/-- What follows the identifier in a C++ record: its field, the end and a comment. -/
def Cpp.closesRecord (rest : Text) : Bool :=
  (Text.after? "\x7d, /* ".toList (rest.dropWhile (· == ' '))).any " */".toList.isSuffixOf

namespace Target

/-- The cells that a line shows, if it is that of a state. -/
def readRow? : Target → Text → Option PackedRow
  | .cpp => rowBy "  \x7b \x7b ".toList '\x7d' "\x7d, \x7b ".toList "\x7d \x7d,".toList
  | .rust => rowBy "    BisonState \x7b actions: [".toList ']' "], gotos: [".toList
      "] \x7d,".toList

/-- The arity and the identifier that a line shows, if it is a record. -/
def readRecord? [Text.IdentifierPart] : Target → Text → Option (Nat × Text)
  | .cpp => recordBy "  \x7b".toList ", ".toList Cpp.closesRecord
  | .rust => recordBy "    BisonReduce \x7b n_reduce: ".toList
      ", produced_nonterminal: Nonterminal::".toList (· == " \x7d,".toList)

/-- The rows that a source shows, line by line. -/
def readRows (t : Target) (source : Text) : List PackedRow :=
  (source.splitOn '\n').filterMap t.readRow?

/-- The records that a source shows, line by line. -/
def readRecords [Text.IdentifierPart] (t : Target) (source : Text) : List (Nat × Text) :=
  (source.splitOn '\n').filterMap t.readRecord?

theorem after?_append_of_none {mark line : Text} (h : Text.after? mark line = none)
    (more : Text) : Text.after? (mark ++ more) line = none := by
  rw [Option.eq_none_iff_forall_ne_some]
  intro rest hrest
  rw [Text.after?_eq_some_iff.1 hrest, List.append_assoc, Text.after?_append] at h
  exact absurd h nofun

theorem heeds_readRow? (t : Target) : t.Heeds t.readRow? := by
  intro line hline
  cases t with
  | cpp =>
    have hopens : Text.after? "  \x7b \x7b ".toList line = none :=
      after?_append_of_none hline " \x7b ".toList
    rw [readRow?, rowBy, hopens, Option.bind_none]
  | rust =>
    have hopens : Text.after? "    BisonState \x7b actions: [".toList line = none :=
      after?_append_of_none hline "State \x7b actions: [".toList
    rw [readRow?, rowBy, hopens, Option.bind_none]

theorem heeds_readRecord? [Text.IdentifierPart] (t : Target) : t.Heeds t.readRecord? := by
  intro line hline
  cases t with
  | cpp =>
    have hopens : Text.after? "  \x7b".toList line = none := hline
    rw [readRecord?, recordBy, hopens, Option.bind_none]
  | rust =>
    have hopens : Text.after? "    BisonReduce \x7b n_reduce: ".toList line = none :=
      after?_append_of_none hline "Reduce \x7b n_reduce: ".toList
    rw [readRecord?, recordBy, hopens, Option.bind_none]

/-! ### Rows -/

theorem cpp_row_eq (r : PackedRow) : Cpp.row r = "  \x7b \x7b ".toList ++
    (Text.join [','] (r.actions.map fun cell => Text.padLeft 3 (Text.ofInt cell)) ++
    ("\x7d, \x7b ".toList ++
    (Text.join [','] (r.gotos.map fun cell => Text.padLeft 0 (Text.ofInt cell)) ++
    "\x7d \x7d,".toList))) := by
  rw [Text.map_padLeft_zero]
  unfold Cpp.row
  simp only [List.append_assoc]
  rfl

theorem rust_row_eq (r : PackedRow) : Rust.row r = "    BisonState \x7b actions: [".toList ++
    (Text.join (',' :: [' ']) (r.actions.map fun cell => Text.padLeft 0 (Text.ofInt cell)) ++
    ("], gotos: [".toList ++
    (Text.join (',' :: [' ']) (r.gotos.map fun cell => Text.padLeft 0 (Text.ofInt cell)) ++
    "] \x7d,".toList))) := by
  have hopening : "    BisonState \x7b actions: [".toList =
      "    BisonState \x7b actions: ".toList ++ "[".toList := rfl
  have hbetween : "], gotos: [".toList = "]".toList ++ (", gotos: ".toList ++ "[".toList) := rfl
  have hclosing : "] \x7d,".toList = "]".toList ++ " \x7d,".toList := rfl
  rw [Text.map_padLeft_zero, Text.map_padLeft_zero, hopening, hbetween, hclosing]
  unfold Rust.row Rust.cells
  simp only [List.append_assoc]
  rfl

theorem plain_row (t : Target) (r : PackedRow) : Text.Plain (t.row r) := by
  cases t with
  | cpp =>
    rw [row, cpp_row_eq]
    exact .append (by decide) (.append (Text.plain_join_ofInt (by decide) 3 _)
      (.append (by decide) (.append (Text.plain_join_ofInt (by decide) 0 _) (by decide))))
  | rust =>
    rw [row, rust_row_eq]
    exact .append (by decide) (.append (Text.plain_join_ofInt (by decide) 0 _)
      (.append (by decide) (.append (Text.plain_join_ofInt (by decide) 0 _) (by decide))))

/-- **A row is read back** from its line. -/
theorem readRow?_row (t : Target) {r : PackedRow} (h : r.Readable) :
    t.readRow? (t.row r) = some r := by
  have hactions : ∀ cell ∈ r.actions, cell.natAbs < Text.numberLimit := fun cell hmem =>
    h cell (List.mem_append_left _ hmem)
  have hgotos : ∀ cell ∈ r.gotos, cell.natAbs < Text.numberLimit := fun cell hmem =>
    h cell (List.mem_append_right _ hmem)
  cases t with
  | cpp =>
    rw [readRow?, row, cpp_row_eq]
    exact rowBy_append rfl rfl (Text.integers?_join rfl List.not_mem_nil 3 hactions)
      (Text.integers?_join rfl List.not_mem_nil 0 hgotos)
      (Text.not_mem_join_ofInt (by decide) List.not_mem_nil 3 _)
      (Text.not_mem_join_ofInt (by decide) List.not_mem_nil 0 _)
  | rust =>
    rw [readRow?, row, rust_row_eq]
    exact rowBy_append rfl rfl (Text.integers?_join rfl (by decide) 0 hactions)
      (Text.integers?_join rfl (by decide) 0 hgotos)
      (Text.not_mem_join_ofInt (by decide) (by decide) 0 _)
      (Text.not_mem_join_ofInt (by decide) (by decide) 0 _)

/-- A row is no record. -/
theorem readRecord?_row [Text.IdentifierPart] (t : Target) (r : PackedRow) :
    t.readRecord? (t.row r) = none := by
  cases t with
  | cpp =>
    rw [readRecord?, row, cpp_row_eq]
    rfl
  | rust =>
    rw [readRecord?, row, rust_row_eq]
    rfl

/-! ### Records -/

theorem plain_produced [Text.IdentifierPart] (r : Rule) : Text.Plain (Plan.produced r) :=
  Text.plain_of_continues (continues_produced r)

theorem newline_not_mem_record [Text.IdentifierPart] (t : Target) (p : Plan) {r : Rule}
    (h : '\n' ∉ r.text) : ∀ line ∈ t.record p r, '\n' ∉ line := by
  have hblanks : ∀ n, '\n' ∉ List.replicate n ' ' := fun n hc =>
    absurd (List.eq_of_mem_replicate hc) (by decide)
  have harity := (Text.plain_ofNat r.arity).newline_not_mem
  have hproduced := (plain_produced r).newline_not_mem
  intro line hline
  cases t with
  | cpp =>
    rw [List.mem_singleton.1 hline, cpp_record_eq]
    exact List.not_mem_append (by decide) (List.not_mem_append (hblanks _)
      (List.not_mem_append harity (List.not_mem_append (by decide)
      (List.not_mem_append hproduced (List.not_mem_append (hblanks _)
      (List.not_mem_append (by decide)
      (List.not_mem_append (StringLiteral.newline_not_mem_comment h) (by decide))))))))
  | rust =>
    rw [record, rust_record_eq] at hline
    rcases List.mem_cons.1 hline with rfl | hline
    · exact List.not_mem_append (by decide) h
    · rw [List.mem_singleton.1 hline]
      exact List.not_mem_append (by decide) (List.not_mem_append (hblanks 0)
        (List.not_mem_append harity (List.not_mem_append (by decide)
        (List.not_mem_append hproduced (by decide)))))

/-- Where a row has its second mark, a record has a blank or a digit. -/
theorem after?_row_cpp_record [Text.IdentifierPart] (field : Nat) (r : Rule) :
    Text.after? "  \x7b \x7b ".toList (Cpp.record field r) = none := by
  rw [Option.eq_none_iff_forall_ne_some]
  intro rest hrest
  have hline := Text.after?_eq_some_iff.1 hrest
  rw [cpp_record_eq, show "  \x7b \x7b ".toList = "  \x7b".toList ++ " \x7b ".toList from rfl,
    List.append_assoc, List.append_cancel_left_eq, ← List.append_assoc] at hline
  generalize hnumber : List.replicate (3 - (Text.ofNat r.arity).length) ' ' ++
    Text.ofNat r.arity = number at hline
  have hlength : 1 < number.length := by
    rw [← hnumber, List.length_append, List.length_replicate]
    omega
  have hsecond : number[1]? = some '\x7b' := by
    rw [← List.getElem?_append_left hlength, hline]
    rfl
  have hmem : '\x7b' ∈ number := List.mem_of_getElem? hsecond
  rw [← hnumber] at hmem
  rcases List.mem_append.1 hmem with hmem | hmem
  · exact absurd (List.eq_of_mem_replicate hmem) (by decide)
  · exact absurd (Text.isDigit_of_mem_ofNat hmem) (by decide)

/-- A record is no row. -/
theorem readRow?_record [Text.IdentifierPart] (t : Target) (p : Plan) (r : Rule) :
    ∀ line ∈ t.record p r, t.readRow? line = none := by
  intro line hline
  cases t with
  | cpp =>
    rw [List.mem_singleton.1 hline, readRow?, rowBy, after?_row_cpp_record, Option.bind_none]
  | rust =>
    rw [record, rust_record_eq] at hline
    rcases List.mem_cons.1 hline with rfl | hline
    · rfl
    · rw [List.mem_singleton.1 hline]
      rfl

/-- The end of a C++ record is recognized. -/
theorem closesRecord_append (blanks : Nat) (remark : Text) :
    Cpp.closesRecord
      (List.replicate blanks ' ' ++ ("\x7d, /* ".toList ++ (remark ++ " */".toList))) = true := by
  have hblanks : ∀ c ∈ List.replicate blanks ' ', (c == ' ') = true := fun c hc => by
    rw [List.eq_of_mem_replicate hc]
    rfl
  have hstart : ("\x7d, /* ".toList ++ (remark ++ " */".toList)).head?.any (· == ' ') = false := rfl
  rw [Cpp.closesRecord, (Text.cut_append hblanks hstart).2, Text.after?_append, Option.any_some,
    List.isSuffixOf_iff_suffix]
  exact List.suffix_append ..

/-- **The arity and the left side of a rule** are read back from the last line of its record, and
nothing is read from the others. -/
theorem filterMap_readRecord?_record [Text.IdentifierPart] (t : Target) (p : Plan) {r : Rule}
    (h : r.arity ≤ Plan.largestArity) :
    (t.record p r).filterMap t.readRecord? = [(r.arity, Plan.produced r)] := by
  have hn : r.arity < Text.numberLimit := Nat.lt_of_le_of_lt h (by decide)
  cases t with
  | cpp =>
    have hread : readRecord? .cpp (Cpp.record (Cpp.field p) r) =
        some (r.arity, Plan.produced r) := by
      rw [readRecord?, cpp_record_eq]
      exact recordBy_append _ hn rfl (continues_produced r)
        (head?_endsRecord _ _) (closesRecord_append _ _)
    rw [record, List.filterMap_cons_some hread]
    rfl
  | rust =>
    rw [record, rust_record_eq]
    rw [List.filterMap_cons_none rfl, List.filterMap_cons_some]
    · rfl
    rw [readRecord?]
    exact recordBy_append 0 hn rfl (continues_produced r)
      (Text.not_continues_cons (c := ' ') (by decide) rfl _) rfl

/-! ### Sources -/

section Sources
variable {α : Type} {t : Target} {read? : Text → Option α}

/-- The lines of a source are those of the texts it is made of, and an empty one. -/
theorem filterMap_splitOn_unlines (hnone : read? [] = none) (ls : List Text) :
    ((Text.unlines ls).splitOn '\n').filterMap read? = pick read? ls := by
  induction ls with
  | nil => exact List.filterMap_cons_none hnone
  | cons l ls ih =>
    have hcut : Text.unlines (l :: ls) = l ++ '\n' :: Text.unlines ls := by
      rw [Text.unlines, List.flatMap_cons, List.append_assoc]
      rfl
    rw [hcut, List.splitOn_append_cons_self, List.filterMap_append, ih]
    rfl

theorem pick_eq_filterMap {ls : List Text} (h : ∀ l ∈ ls, '\n' ∉ l) :
    pick read? ls = ls.filterMap read? := by
  have hline : ∀ l ∈ ls, (l.splitOn '\n').filterMap read? = [l].filterMap read? := fun l hl => by
    rw [List.splitOn_eq_singleton (h l hl)]
  rw [pick, List.flatMap_congr hline, ← List.filterMap_flatMap, List.flatMap_singleton']

theorem newline_not_mem_dataLines [Text.IdentifierPart] {p : Plan} (h : p.Unbroken) :
    ∀ l ∈ t.dataLines p, '\n' ∉ l := by
  intro l hl
  rcases List.mem_append.1 hl with hl | hl
  · obtain ⟨r, -, rfl⟩ := List.mem_map.1 hl
    exact (plain_row t r).newline_not_mem
  · obtain ⟨r, hr, hl⟩ := List.mem_flatMap.1 hl
    exact newline_not_mem_record t p (h.rules r hr) l hl

/-- **Only the data of a plan are read** from its source. -/
theorem filterMap_splitOn_text [Text.IdentifierPart] (hread : t.Heeds read?) {p : Plan}
    (h : p.Unbroken) :
    ((t.text p).splitOn '\n').filterMap read? = (t.dataLines p).filterMap read? := by
  have hnone : read? [] = none := hread [] (by cases t <;> rfl)
  rw [← pick_eq_filterMap (newline_not_mem_dataLines h)]
  cases t with
  | cpp => rw [text, Cpp.text, filterMap_splitOn_unlines hnone, pick_cpp_lines hread h]
  | rust => rw [text, Rust.text, filterMap_splitOn_unlines hnone, pick_rust_lines hread h]

end Sources

/-- The rows of a plan are read back from its source. -/
theorem readRows_text [Text.IdentifierPart] (t : Target) {p : Plan} (h : p.Unbroken)
    (hrows : ∀ r ∈ p.rows, r.Readable) : t.readRows (t.text p) = p.rows := by
  have hrecords : (p.rules.flatMap (t.record p)).filterMap t.readRow? = [] :=
    List.filterMap_eq_nil_iff.2 fun l hl => by
      obtain ⟨r, -, hl⟩ := List.mem_flatMap.1 hl
      exact readRow?_record t p r l hl
  have hread : (p.rows.map t.row).filterMap t.readRow? = p.rows := by
    have hrow : ∀ r ∈ p.rows, (t.readRow? ∘ t.row) r = some r := fun r hr =>
      readRow?_row t (hrows r hr)
    rw [List.filterMap_map, List.filterMap_congr hrow, List.filterMap_some]
  rw [readRows, filterMap_splitOn_text (heeds_readRow? t) h, dataLines, List.filterMap_append,
    hrecords, hread, List.append_nil]

/-- The records of a plan are read back from its source. -/
theorem readRecords_text [Text.IdentifierPart] (t : Target) {p : Plan} (h : p.Unbroken)
    (harity : ∀ r ∈ p.rules, r.arity ≤ Plan.largestArity) :
    t.readRecords (t.text p) = p.rules.map fun r => (r.arity, Plan.produced r) := by
  have hrows : (p.rows.map t.row).filterMap t.readRecord? = [] :=
    List.filterMap_eq_nil_iff.2 fun l hl => by
      obtain ⟨r, -, rfl⟩ := List.mem_map.1 hl
      exact readRecord?_row t r
  have hread : ∀ r ∈ p.rules, (t.record p r).filterMap t.readRecord? =
      [(r.arity, Plan.produced r)] := fun r hr => filterMap_readRecord?_record t p (harity r hr)
  rw [readRecords, filterMap_splitOn_text (heeds_readRecord? t) h, dataLines,
    List.filterMap_append, hrows, List.nil_append, List.filterMap_flatMap,
    List.flatMap_congr hread, ← List.map_eq_flatMap]

end Target
end ParserTables
