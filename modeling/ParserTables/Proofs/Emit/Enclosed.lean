import ParserTables.Proofs.Emit.Emitted
import ParserTables.Proofs.Emit.Scan

/-! What the names and rules of a report become in a source.

Whatever a name or the text of a rule looks like, it stays in the literal or the comment that it was
put into. So the pieces of a source are those that its plan asks for (`Cpp.pieces`, `Rust.pieces`):
a literal for each name and a comment for each rule, among comments that every source has
(`Cpp.shows_lines`, `Rust.shows_lines`), and the arrays of a C++ source have room for their names
(`Cpp.declares_names`). `Automaton.emitted_encloses` says so for reports. -/
namespace ParserTables

open Text (Plain)

/-! ### Code -/

theorem Text.Plain.scans {t : Text} (h : Plain t) : Scans t [] :=
  scans_code (List.all_eq_true.2 fun c hc =>
    (Bool.and_eq_true_iff.1 (List.all_eq_true.1 h c hc)).1)

theorem Scans.after_code {a b : Text} {pieces : List Piece} (ha : Scans a [])
    (hb : Scans b pieces) : Scans (a ++ b) pieces :=
  ha.append hb

theorem Scans.before_code {a b : Text} {pieces : List Piece} (ha : Scans a pieces)
    (hb : Scans b []) : Scans (a ++ b) pieces := by
  simpa using ha.append hb

theorem flatMap_no_pieces {α : Type} (l : List α) : l.flatMap (fun _ => ([] : List Piece)) = [] :=
  List.flatMap_eq_nil_iff.2 fun _ _ => rfl

/-! ### Lines -/

/-- Lines that begin and end with code, with their pieces. -/
def Shows (ls : List Text) (pieces : List Piece) : Prop := Scans (Text.unlines ls) pieces

theorem Shows.append {a b : List Text} {p q : List Piece} (ha : Shows a p) (hb : Shows b q) :
    Shows (a ++ b) (p ++ q) := by
  unfold Shows Text.unlines
  rw [List.flatMap_append]
  exact Scans.append ha hb

theorem Shows.before_code {a b : List Text} {pieces : List Piece} (ha : Shows a pieces)
    (hb : Shows b []) : Shows (a ++ b) pieces := by
  simpa using ha.append hb

theorem shows_nil : Shows [] [] := scans_nil

theorem shows_flatMap {α : Type} {f : α → List Text} {g : α → List Piece} {l : List α}
    (h : ∀ x ∈ l, Shows (f x) (g x)) : Shows (l.flatMap f) (l.flatMap g) := by
  unfold Shows Text.unlines
  rw [List.flatMap_assoc]
  exact scans_flatMap h

theorem shows_singleton {l : Text} {pieces : List Piece} (h : Scans l pieces) :
    Shows [l] pieces := by
  unfold Shows Text.unlines
  rw [List.flatMap_singleton]
  exact h.before_code (scans_code rfl)

theorem shows_plain {l : Text} (h : Plain l) : Shows [l] [] := shows_singleton h.scans

theorem shows_map {α : Type} {f : α → Text} {g : α → List Piece} {l : List α}
    (h : ∀ x ∈ l, Scans (f x) (g x)) : Shows (l.map f) (l.flatMap g) := by
  rw [List.map_eq_flatMap]
  exact shows_flatMap fun x hx => shows_singleton (h x hx)

/-- Lines that are not made from any data can be looked through, but for the last one. -/
theorem shows_of_dropLast {ls : List Text} {last : Text} {pieces : List Piece}
    (hlast : ls.getLast? = some last) (h : pieces? (Text.unlines ls.dropLast) = some pieces)
    (hplain : Plain last) : Shows ls pieces := by
  rw [← List.dropLast_append_getLast? last hlast, ← List.append_nil pieces]
  exact Shows.append (scans_iff.2 h) (shows_plain hplain)

/-- A line that is a comment, whatever stands in it. -/
theorem shows_remark {indent : Text} (hindent : Plain indent) {t : Text} (ht : '\n' ∉ t) :
    Shows [indent ++ ("//".toList ++ t)] [.line t] := by
  unfold Shows Text.unlines
  rw [List.flatMap_singleton, List.append_assoc]
  exact hindent.scans.after_code (scans_line ht)

/-- The lines of a list. -/
theorem scans_listing {width : Nat} {items : List Text} {pieces : Text → List Piece}
    (h : ∀ item ∈ items, Scans item (pieces item)) :
    Scans ("    ".toList ++ Wrapped.text "    ".toList width items) (items.flatMap pieces) :=
  (scans_code rfl).after_code (scans_wrapped rfl h)

/-- A list of literals. -/
theorem scans_literals {width : Nat} {spell : Text → Text} {names : List Text}
    (h : ∀ name ∈ names, Scans (spell name) [.literal (spell name)]) :
    Scans ("    ".toList ++ Wrapped.text "    ".toList width (names.map spell))
      (names.map fun name => .literal (spell name)) := by
  have hitems : ∀ item ∈ names.map spell, Scans item [.literal item] := List.forall_mem_map.2 h
  have hpieces : (names.map spell).flatMap (fun item => [Piece.literal item]) =
      names.map fun name => .literal (spell name) := by
    rw [← List.map_eq_flatMap, List.map_map]
    rfl
  exact hpieces ▸ scans_listing hitems

/-- The comments with the numbers of so many states. -/
def statePieces (states : Nat) : List Piece :=
  (List.range states).flatMap fun state =>
    if state % 5 = 0 then [.line (" state ".toList ++ Text.ofNat state)] else []

theorem newline_not_mem_state (n : Nat) : '\n' ∉ " state ".toList ++ Text.ofNat n :=
  List.not_mem_append (by decide) (Text.plain_ofNat n).newline_not_mem

theorem shows_rows {comment : Nat → Text}
    (hcomment : ∀ n, Shows [comment n] [.line (" state ".toList ++ Text.ofNat n)])
    {row : PackedRow → Text} (hrow : ∀ r, Plain (row r)) (rows : List PackedRow) :
    Shows (rows.zipIdx.flatMap fun (r, state) =>
      (if state % 5 = 0 then [comment state] else []) ++ [row r]) (statePieces rows.length) := by
  have hpieces : statePieces rows.length = rows.zipIdx.flatMap fun x =>
      if x.2 % 5 = 0 then [.line (" state ".toList ++ Text.ofNat x.2)] else [] := by
    rw [statePieces, List.range_eq_range', ← List.zipIdx_map_snd, List.flatMap_map]
  rw [hpieces]
  refine shows_flatMap fun (r, state) _ => ?_
  rw [← List.append_nil (ite ..)]
  refine Shows.append ?_ (shows_plain (hrow r))
  split
  · exact hcomment state
  · exact shows_nil

/-! ### C++ -/

namespace Cpp

/-- The comment with a rule. -/
def rulePiece (r : Rule) : Piece :=
  .block (" ".toList ++ StringLiteral.comment r.text ++ " ".toList)

/-- The pieces of a C++ source. -/
def pieces (p : Plan) : List Piece :=
  [.block " This file was generated by bisontab. Do not edit. ".toList] ++
    (p.symbols.terminals.toList ++ p.symbols.nonterminals.toList).map
      (fun name => .literal (StringLiteral.cpp name)) ++
    statePieces p.rows.length ++
    [.block (" One record per rule in ascending rule number; a reduce cell -R selects\n".toList ++
      "   record R when the numbers have no gaps. ".toList)] ++
    p.rules.map rulePiece

theorem shows_enumeration {name count : Text} {identifiers : List Text} (hname : Plain name)
    (hcount : Plain count) (h : ∀ id ∈ identifiers, Plain id) :
    Shows (enumeration name count identifiers) [] := by
  have hlisting : Shows (if identifiers.isEmpty then [] else
      [listing identifiers ++ ",".toList]) [] := by
    split
    · exact shows_nil
    · have hitems : Scans (listing identifiers) (identifiers.flatMap fun _ => []) :=
        scans_listing fun id hid => (h id hid).scans
      rw [flatMap_no_pieces] at hitems
      exact shows_singleton (hitems.before_code (scans_code rfl))
  have hopens : Shows ["enum ".toList ++ name, "\x7b".toList] [] :=
    (shows_plain (.append (by decide) hname)).append (shows_plain (by decide))
  have hends : Shows ["    ".toList ++ count, "\x7d;".toList] [] :=
    (shows_plain (.append (by decide) hcount)).append (shows_plain (by decide))
  exact (hopens.append hlisting).append hends

theorem shows_nameTable {name count : Text} {names : List Text} (hname : Plain name)
    (hcount : Plain count) (h : ∀ name ∈ names, '\n' ∉ name) :
    Shows (nameTable name count names)
      (names.map fun name => .literal (StringLiteral.cpp name)) := by
  have hlisting : Shows [listing (names.map StringLiteral.cpp)]
      (names.map fun name => .literal (StringLiteral.cpp name)) :=
    shows_singleton (scans_literals fun name hname => scans_cpp (h name hname))
  have hopens : Shows _ [] :=
    (shows_plain (plain_nameTable hname hcount (Text.longest names))).append
      (shows_plain (l := "\x7b".toList) (by decide))
  exact hopens.append (hlisting.before_code (shows_plain (by decide)))

theorem scans_record [Text.IdentifierPart] (field : Nat) (r : Rule) :
    Scans (record field r) [rulePiece r] := by
  have hcomment : ¬ "*/".toList <:+: " ".toList ++ StringLiteral.comment r.text := by
    intro h
    rcases List.infix_cons_iff.1 h with h | h
    · exact absurd (List.cons_prefix_cons.1 h).1 (by decide)
    · exact StringLiteral.not_infix_comment _ h
  have hblock : Scans ("\x7d, /* ".toList ++ (StringLiteral.comment r.text ++ " */".toList))
      [rulePiece r] := by
    have hscan := (scans_code (t := "\x7d, ".toList) rfl).after_code (scans_block hcomment)
    rw [List.append_assoc "/*".toList, List.append_assoc " ".toList] at hscan
    rwa [rulePiece, List.append_assoc]
  rw [Target.cpp_record_eq]
  exact (scans_code rfl).after_code ((Text.plain_replicate _).scans.after_code
    ((Text.plain_ofNat _).scans.after_code ((scans_code rfl).after_code
    ((Target.plain_produced r).scans.after_code
    ((Text.plain_replicate _).scans.after_code hblock)))))

/-- The lines before the arrays of names. -/
theorem shows_front {p : Plan}
    (hidentifiers : ∀ id ∈ p.terminals ++ p.nonterminals, Plain id) :
    Shows (["/* This file was generated by bisontab. Do not edit. */".toList] ++
      enumeration "Terminals".toList "NUM_TERMINALS".toList p.terminals ++
      enumeration "NonTerminals".toList "NUM_NONTERMINALS".toList p.nonterminals)
      [.block " This file was generated by bisontab. Do not edit. ".toList] := by
  refine Shows.before_code (Shows.before_code (scans_iff.2 (by decide +kernel)) ?_) ?_
  · exact shows_enumeration (by decide) (by decide) fun id hid =>
      hidentifiers id (List.mem_append_left _ hid)
  · exact shows_enumeration (by decide) (by decide) fun id hid =>
      hidentifiers id (List.mem_append_right _ hid)

theorem shows_terminalNames {p : Plan} (h : p.Unbroken) :
    Shows (nameTable "TerminalNames".toList "NUM_TERMINALS".toList p.symbols.terminals.toList)
      (p.symbols.terminals.toList.map fun name => .literal (StringLiteral.cpp name)) :=
  shows_nameTable (by decide) (by decide) h.terminals

/-- **The pieces of a C++ source** are a literal for each name, a comment for each rule, and
comments that every source has. -/
theorem shows_lines [Text.IdentifierPart] {p : Plan} (h : p.Unbroken)
    (hidentifiers : ∀ id ∈ p.terminals ++ p.nonterminals, Plain id) :
    Shows (lines p) (pieces p) := by
  have hstate : ∀ n, Shows ["  // state ".toList ++ Text.ofNat n]
      [.line (" state ".toList ++ Text.ofNat n)] := fun n =>
    shows_remark (show Plain "  ".toList by decide) (newline_not_mem_state n)
  have hrows : Shows (rows p.rows) (statePieces p.rows.length) :=
    shows_rows hstate (Target.plain_row .cpp) p.rows
  have hrecords : Shows (p.rules.map (record (field p))) (p.rules.map rulePiece) := by
    rw [List.map_eq_flatMap (f := rulePiece)]
    exact shows_map fun r _ => scans_record (field p) r
  have hdescriptors : Shows (p.rules.map descriptor) [] :=
    flatMap_no_pieces p.rules ▸ shows_map fun r _ => (plain_descriptor r).scans
  have hnonterminals : Shows (nameTable "NonTerminalNames".toList "NUM_NONTERMINALS".toList _) _ :=
    shows_nameTable (by decide) (by decide) h.nonterminals
  unfold lines pieces
  rw [List.map_append, ← List.append_assoc]
  refine Shows.before_code ?_ (shows_singleton (scans_code rfl))
  refine Shows.before_code (Shows.before_code ?_ (scans_code rfl)) hdescriptors
  refine Shows.append (Shows.append (Shows.append ?_ hrows) (scans_iff.2 ?_)) hrecords
  · refine Shows.before_code ?_ (scans_code rfl)
    exact ((shows_front hidentifiers).append (shows_terminalNames h)).append hnonterminals
  · decide +kernel

/-- A source declares an array in code: for each of its literals a row with one byte more than
`longest`. -/
def Declares (source name count : Text) (longest : Nat) (literals : List Text) : Prop :=
  ∃ before list after pieces, source = before ++ ("static const char ".toList ++ name ++
      "[".toList ++ count ++ "][1+".toList ++ Text.ofNat longest ++ "] =\n\x7b\n".toList ++
      list ++ "\n\x7d;\n".toList) ++ after ∧
    Scans before pieces ∧ Scans list (literals.map .literal)

theorem declares_nameTable {front : List Text} {pieces : List Piece} (hfront : Shows front pieces)
    (name count : Text) {names : List Text} (h : ∀ name ∈ names, '\n' ∉ name) :
    Declares (Text.unlines (front ++ nameTable name count names)) name count (Text.longest names)
      (names.map StringLiteral.cpp) := by
  refine ⟨Text.unlines front, listing (names.map StringLiteral.cpp), [], pieces, ?_, hfront, ?_⟩
  · simp [nameTable, Text.unlines]
  · rw [List.map_map]
    exact scans_literals fun name hname => scans_cpp (h name hname)

theorem Declares.append {lines : List Text} {name count : Text} {longest : Nat}
    {literals : List Text} (h : Declares (Text.unlines lines) name count longest literals)
    (more : List Text) : Declares (Text.unlines (lines ++ more)) name count longest literals := by
  obtain ⟨before, list, after, pieces, hsource, hbefore, hlist⟩ := h
  refine ⟨before, list, after ++ Text.unlines more, pieces, ?_, hbefore, hlist⟩
  unfold Text.unlines at hsource ⊢
  rw [List.flatMap_append, hsource, List.append_assoc]

/-- **The arrays of names** of a C++ source. -/
theorem declares_names [Text.IdentifierPart] {p : Plan} (h : p.Unbroken)
    (hidentifiers : ∀ id ∈ p.terminals ++ p.nonterminals, Plain id) :
    Declares (text p) "TerminalNames".toList "NUM_TERMINALS".toList
      (Text.longest p.symbols.terminals.toList)
      (p.symbols.terminals.toList.map StringLiteral.cpp) ∧
    Declares (text p) "NonTerminalNames".toList "NUM_NONTERMINALS".toList
      (Text.longest p.symbols.nonterminals.toList)
      (p.symbols.nonterminals.toList.map StringLiteral.cpp) := by
  have hfront := shows_front hidentifiers
  constructor
  · iterate 8 refine Declares.append ?_ _
    exact declares_nameTable hfront _ _ h.terminals
  · iterate 7 refine Declares.append ?_ _
    exact declares_nameTable (hfront.append (shows_terminalNames h)) _ _ h.nonterminals

end Cpp

/-! ### Rust -/

namespace Rust

/-- The pieces of a Rust source. -/
def pieces [Text.IdentifierPart] (p : Plan) : List Piece :=
  [.line " This file was generated by bisontab. Do not edit.".toList] ++
    (p.symbols.terminals.toList ++ p.symbols.nonterminals.toList).map
      (fun name => .literal (StringLiteral.rust name)) ++
    ["/ Action and goto cells of a single state.".toList,
      "/".toList,
      "/ An action is `+K` to shift to state `K`, `-R` to reduce by rule `R`,".toList,
      "/ `127` to accept and `0` to reject the lookahead.".toList].map .line ++
    statePieces p.rows.length ++
    ["/ Arity and produced nonterminal of a rule.".toList,
      "/".toList,
      "/ `GRAMMAR` and `RULE_PATTERNS` hold one entry per rule in ascending rule".toList,
      "/ number; a reduce cell `-R` selects entry `R` when the numbers have no gaps.".toList].map
        .line ++
    p.rules.map (fun r => .line (" ".toList ++ r.text)) ++
    p.rules.map fun r => .literal (StringLiteral.rust (Plan.descriptorText r))

theorem shows_enumeration {name : Text} {identifiers : List Text} (hname : Plain name)
    (h : ∀ id ∈ identifiers, Plain id) : Shows (enumeration name identifiers) [] := by
  have hopens : Plain ("pub enum ".toList ++ name ++ " \x7b".toList) :=
    (Plain.append (by decide) hname).append (by decide)
  have hlayout : Shows (if identifiers.isEmpty then [] else ["#[repr(u8)]".toList]) [] := by
    split
    · exact shows_nil
    · exact shows_plain (by decide)
  have hitems : Shows (identifiers.map fun id => "    ".toList ++ id ++ ",".toList) [] :=
    flatMap_no_pieces identifiers ▸ shows_map fun id hid =>
      ((Plain.append (by decide) (h id hid)).append (by decide)).scans
  exact (((Shows.append (scans_code rfl) hlayout).append (shows_plain hopens)).append
    hitems).append (shows_plain (by decide))

theorem shows_count {name : Text} (hname : Plain name) (identifiers : List Text) :
    Shows [count name identifiers, []] [] :=
  (shows_plain (plain_count hname identifiers)).append (shows_plain rfl)

theorem shows_nameTable {name count : Text} (hname : Plain name) (hcount : Plain count)
    (names : List Text) : Shows (nameTable name count names)
      (names.map fun name => .literal (StringLiteral.rust name)) := by
  have hlisting : Shows ["    ".toList ++ Wrapped.text "    ".toList width
      (names.map StringLiteral.rust)] (names.map fun name => .literal (StringLiteral.rust name)) :=
    shows_singleton (scans_literals fun name _ => scans_rust name)
  exact Shows.append (p := []) (shows_plain (plain_nameTable hname hcount))
    (hlisting.before_code (shows_plain (by decide)))

theorem shows_record [Text.IdentifierPart] {r : Rule} (h : '\n' ∉ r.text) :
    Shows (record r) [.line (" ".toList ++ r.text)] := by
  have hremark : Shows ["    // ".toList ++ r.text] [.line (" ".toList ++ r.text)] :=
    shows_remark (show Plain "    ".toList by decide)
      (List.not_mem_cons_of_ne_of_not_mem (by decide) h)
  refine hremark.before_code (shows_plain ?_)
  exact (((Plain.append (by decide) (Text.plain_ofNat _)).append (by decide)).append
    (Target.plain_produced r)).append (by decide)

theorem scans_descriptor [Text.IdentifierPart] (r : Rule) :
    Scans (descriptor r) [.literal (StringLiteral.rust (Plan.descriptorText r))] :=
  ((scans_code rfl).after_code (scans_rust _)).before_code (scans_code rfl)

/-- The lines before the arrays of names. -/
theorem shows_front {p : Plan}
    (hidentifiers : ∀ id ∈ p.terminals ++ p.nonterminals, Plain id) :
    Shows (["// This file was generated by bisontab. Do not edit.".toList, []] ++
      enumeration "Terminal".toList p.terminals ++
      [count "NUM_TERMINALS".toList p.terminals, []] ++
      enumeration "Nonterminal".toList p.nonterminals ++
      [count "NUM_NONTERMINALS".toList p.nonterminals, []])
      [.line " This file was generated by bisontab. Do not edit.".toList] := by
  refine Shows.before_code (Shows.before_code (Shows.before_code (Shows.before_code
    (scans_iff.2 (by decide +kernel)) ?_) ?_) ?_) ?_
  · exact shows_enumeration (by decide) fun id hid =>
      hidentifiers id (List.mem_append_left _ hid)
  · exact shows_count (by decide) _
  · exact shows_enumeration (by decide) fun id hid =>
      hidentifiers id (List.mem_append_right _ hid)
  · exact shows_count (by decide) _

/-- **The pieces of a Rust source** are a literal for each name, a comment and a literal for each
rule, and comments that every source has. -/
theorem shows_lines [Text.IdentifierPart] {p : Plan} (h : p.Unbroken)
    (hidentifiers : ∀ id ∈ p.terminals ++ p.nonterminals, Plain id) :
    Shows (lines p) (pieces p) := by
  have hstate : ∀ n, Shows ["    // state ".toList ++ Text.ofNat n]
      [.line (" state ".toList ++ Text.ofNat n)] := fun n =>
    shows_remark (show Plain "    ".toList by decide) (newline_not_mem_state n)
  have hrows : Shows (rows p.rows) (statePieces p.rows.length) :=
    shows_rows hstate (Target.plain_row .rust) p.rows
  have hrecords : Shows (p.rules.flatMap record)
      (p.rules.map fun r => .line (" ".toList ++ r.text)) := by
    rw [List.map_eq_flatMap]
    exact shows_flatMap fun r hr => shows_record (h.rules r hr)
  have hdescriptors : Shows (p.rules.map descriptor)
      (p.rules.map fun r => .literal (StringLiteral.rust (Plan.descriptorText r))) := by
    rw [List.map_eq_flatMap (l := p.rules) (f := fun r => Piece.literal _)]
    exact shows_map fun r _ => scans_descriptor r
  unfold lines pieces
  rw [List.map_append, ← List.append_assoc]
  refine Shows.before_code ?_ (shows_singleton (scans_code rfl))
  refine Shows.append (Shows.before_code (Shows.append ?_ hrecords) ?_) hdescriptors
  · refine Shows.append (Shows.append (Shows.append (Shows.append (Shows.append
      (shows_front hidentifiers) ?_) ?_) ?_) hrows) ?_
    · exact shows_nameTable (by decide) (by decide) _
    · exact shows_nameTable (by decide) (by decide) _
    · refine shows_of_dropLast rfl ?_ (plain_static (by decide) _)
      dsimp only [List.dropLast]
      decide +kernel
    · refine shows_of_dropLast rfl ?_ (plain_static (by decide) _)
      dsimp only [List.dropLast]
      decide +kernel
  · refine shows_of_dropLast rfl ?_ (plain_static (by decide) _)
    dsimp only [List.dropLast]
    decide +kernel

end Rust

/-! ### Reports -/

theorem Text.byteLength_le_longest {t : Text} {ts : List Text} (h : t ∈ ts) :
    byteLength t ≤ longest ts := by
  unfold longest
  induction ts with
  | nil => exact absurd h List.not_mem_nil
  | cons u ts ih =>
    rw [List.map_cons, List.foldr_cons]
    rcases List.mem_cons.1 h with rfl | h
    · exact Nat.le_max_left ..
    · exact Nat.le_trans (ih h) (Nat.le_max_right ..)

/-- **Nothing in a report breaks out of an emitted source.** Cut into literals, comments and code as
a compiler does it, a C++ source has the literals of the names and the comments of the rules that
its plan asks for, and a Rust source has them, too. A C++ literal is read back as its name, up to
its last character and no further, and the array that it stands in has room for more bytes than the
name has. No rule holds the end of the comment around it. -/
theorem Automaton.emitted_encloses [Text.IdentifierPart] {s : Strictness} {source : Text}
    {a : Automaton} {p : Plan} (h : Automaton.compile s source = .ok a)
    (hp : Plan.ofAutomaton a = .ok p) :
    (p.symbols = a.symbols ∧ p.rules = a.rules.toList) ∧
    (∀ text, a.emit .cpp = .ok text → pieces? text = some (Cpp.pieces p) ∧
      Cpp.Declares text "TerminalNames".toList "NUM_TERMINALS".toList
        (Text.longest p.symbols.terminals.toList)
        (p.symbols.terminals.toList.map StringLiteral.cpp) ∧
      Cpp.Declares text "NonTerminalNames".toList "NUM_NONTERMINALS".toList
        (Text.longest p.symbols.nonterminals.toList)
        (p.symbols.nonterminals.toList.map StringLiteral.cpp)) ∧
    (∀ names ∈ [p.symbols.terminals.toList, p.symbols.nonterminals.toList], ∀ name ∈ names,
      (∀ after, StringLiteral.readCpp? (StringLiteral.cpp name ++ after) = some (name, after)) ∧
      Text.byteLength name < 1 + Text.longest names) ∧
    (∃ text, a.emit .rust = .ok text ∧ pieces? text = some (Rust.pieces p)) ∧
    ∀ r ∈ p.rules, ¬ "*/".toList <:+: StringLiteral.comment r.text ∧ '\n' ∉ r.text := by
  have hunbroken := Plan.unbroken (read_of_compile h) hp
  have hidentifiers : ∀ id ∈ p.terminals ++ p.nonterminals, Plain id := fun id hid =>
    Text.plain_of_continues (Plan.continues_identifiers hp id hid)
  obtain ⟨hsymbols, hrules, -, -, -⟩ := Plan.ofAutomaton_eq_ok hp
  refine ⟨⟨hsymbols, hrules⟩, fun text hemit => ?_, fun names _ name hname => ⟨?_, ?_⟩, ?_,
    fun r hr => ⟨StringLiteral.not_infix_comment r.text, hunbroken.rules r hr⟩⟩
  · obtain ⟨p', hp', rfl⟩ := exists_of_emit hemit
    obtain rfl := Except.ok.inj (hp'.symm.trans hp)
    exact ⟨scans_iff.1 (Cpp.shows_lines hunbroken hidentifiers),
      Cpp.declares_names hunbroken hidentifiers⟩
  · exact StringLiteral.readCpp?_cpp name
  · rw [Nat.add_comm]
    exact Nat.lt_succ_of_le (Text.byteLength_le_longest hname)
  · obtain ⟨text, hemit⟩ := (exists_emit_iff hp .rust).2 rfl
    obtain ⟨p', hp', rfl⟩ := exists_of_emit hemit
    obtain rfl := Except.ok.inj (hp'.symm.trans hp)
    exact ⟨_, hemit, scans_iff.1 (Rust.shows_lines hunbroken hidentifiers)⟩

/-- A report with the ends of literals and of comments in its names. -/
def quotingReport : Text := Text.unlines <| List.map String.toList
  ["Grammar", "    0 s: \"*/\" \"\\\"//\" A", "Terminals, with rules where they appear",
    "    \"*/\" (258) 0", "    \"\\\"//\" (259) 0", "    A (260) 0",
    "Nonterminals, with rules where they appear", "    s (4)", "state 0",
    "    \"*/\"  shift, and go to state 1", "    s  go to state 1", "state 1",
    "    $default  reduce using rule 0 (s)"]

/-- They end nothing in its sources. -/
theorem Automaton.emitted_encloses_quotingReport : ∃ a p cpp rust,
    Automaton.compile .strict quotingReport = .ok a ∧ Plan.ofAutomaton a = .ok p ∧
    a.emit .cpp = .ok cpp ∧ a.emit .rust = .ok rust ∧ pieces? cpp = some (Cpp.pieces p) ∧
    pieces? rust = some (Rust.pieces p) ∧
    p.symbols.terminals.toList = ["\"*/\"".toList, "\"\\\"//\"".toList, "A".toList] ∧
    p.rules.map Cpp.rulePiece = [.block " s: \"*\\/\" \"\\\"//\" A ".toList] := by
  obtain ⟨a, ha, hcheck⟩ := exists_ok_of_any (x := Automaton.compile .strict quotingReport)
    (p := fun a => (Plan.ofAutomaton a).toOption.any fun p : Plan =>
      decide (Text.longest p.nonterminals ≤ 65535 ∧
        p.symbols.terminals.toList = ["\"*/\"".toList, "\"\\\"//\"".toList, "A".toList] ∧
        p.rules.map Cpp.rulePiece = [.block " s: \"*\\/\" \"\\\"//\" A ".toList]))
    (by decide +kernel)
  obtain ⟨p, hp, hfacts⟩ := exists_ok_of_any hcheck
  obtain ⟨hnarrow, hterminals, hrules⟩ := of_decide_eq_true hfacts
  obtain ⟨-, hcpp, -, ⟨rust, hrust, hscan⟩, -⟩ := emitted_encloses ha hp
  obtain ⟨cpp, hemit⟩ := (exists_emit_iff hp .cpp).2 (Cpp.obstacle?_eq_none_iff.2 (.inr hnarrow))
  exact ⟨a, p, cpp, rust, ha, hp, hemit, hrust, (hcpp cpp hemit).1, hscan, hterminals, hrules⟩

end ParserTables
