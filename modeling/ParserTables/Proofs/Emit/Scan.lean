import ParserTables.Emit.Wrapped
import ParserTables.Proofs.Emit.Lines

/-! The literals and comments of a source.

A compiler cuts them out of a source character by character, and what cuts a text off too early
would be read as code. `Scan.step` is that scan, the same for both languages as far as they are
used, and `Scans` says what it makes of a text in the midst of code. A literal is one piece if all
in it is escaped that could end it (`scans_cpp`, `scans_rust`), a block comment if its end is not in
it (`scans_block`) and a line comment if no line feed is (`scans_line`). -/
namespace ParserTables

/-- A part of a source that is no code. -/
inductive Piece where
  /-- A string literal, with its quotes. -/
  | literal (t : Text)
  /-- A comment that ends with a star and a slash, without its marks. -/
  | block (t : Text)
  /-- A comment that ends with its line, without the slashes before it. -/
  | line (t : Text)
deriving DecidableEq

/-- Where a scan stands, with what it has read of a piece, backwards. -/
inductive Scan.Mode where
  | code
  /-- After a slash that may begin a comment. -/
  | slash
  | literal (read : Text)
  /-- After a backslash in a literal. -/
  | escaped (read : Text)
  | block (read : Text)
  /-- After a star that may end a block comment. -/
  | star (read : Text)
  | line (read : Text)
  /-- A line ended in a literal. -/
  | broken
deriving DecidableEq

/-- A scan of a source, with the pieces found, the last one first. -/
structure Scan where
  mode : Scan.Mode
  pieces : List Piece
deriving DecidableEq

namespace Scan

/-- The scan after one more character. -/
def step (s : Scan) (c : Char) : Scan :=
  match s.mode with
  | .code =>
    if c = '"' then { s with mode := .literal ['"'] }
    else if c = '/' then { s with mode := .slash }
    else s
  | .slash =>
    if c = '/' then { s with mode := .line [] }
    else if c = '*' then { s with mode := .block [] }
    else if c = '"' then { s with mode := .literal ['"'] }
    else { s with mode := .code }
  | .literal read =>
    if c = '"' then ⟨.code, .literal ('"' :: read).reverse :: s.pieces⟩
    else if c = '\\' then { s with mode := .escaped ('\\' :: read) }
    else if c = '\n' then { s with mode := .broken }
    else { s with mode := .literal (c :: read) }
  | .escaped read => { s with mode := .literal (c :: read) }
  | .block read =>
    if c = '*' then { s with mode := .star read } else { s with mode := .block (c :: read) }
  | .star read =>
    if c = '/' then ⟨.code, .block read.reverse :: s.pieces⟩
    else if c = '*' then { s with mode := .star ('*' :: read) }
    else { s with mode := .block (c :: '*' :: read) }
  | .line read =>
    if c = '\n' then ⟨.code, .line read.reverse :: s.pieces⟩
    else { s with mode := .line (c :: read) }
  | .broken => s

def run (s : Scan) (t : Text) : Scan := t.foldl step s

theorem run_append (s : Scan) (a b : Text) : s.run (a ++ b) = (s.run a).run b :=
  List.foldl_append

theorem run_cons (s : Scan) (c : Char) (t : Text) : s.run (c :: t) = (s.step c).run t := rfl

end Scan

/-- The pieces of a source, if it ends with code. -/
def pieces? (t : Text) : Option (List Piece) :=
  match Scan.run ⟨.code, []⟩ t with
  | ⟨.code, pieces⟩ => some pieces.reverse
  | _ => none

/-- A text that begins and ends with code, with its pieces. -/
def Scans (t : Text) (pieces : List Piece) : Prop :=
  ∀ before, Scan.run ⟨.code, before⟩ t = ⟨.code, pieces.reverse ++ before⟩

/-- The pieces found before do not matter to a scan. -/
theorem Scan.run_before (mode : Mode) (before : List Piece) (t : Text) : run ⟨mode, before⟩ t =
    ⟨(run ⟨mode, []⟩ t).mode, (run ⟨mode, []⟩ t).pieces ++ before⟩ := by
  have hstep : ∀ mode before c, step ⟨mode, before⟩ c =
      ⟨(step ⟨mode, []⟩ c).mode, (step ⟨mode, []⟩ c).pieces ++ before⟩ := by
    intro mode before c
    cases mode <;> (unfold step; dsimp only; repeat' split) <;> rfl
  induction t generalizing mode before with
  | nil => rfl
  | cons c t ih =>
    rw [run_cons, run_cons, hstep mode before c, ih, ih _ (step ⟨mode, []⟩ c).pieces,
      List.append_assoc]

theorem scans_iff {t : Text} {pieces : List Piece} :
    Scans t pieces ↔ pieces? t = some pieces := by
  constructor
  · intro h
    rw [pieces?, h, List.append_nil]
    exact congrArg some pieces.reverse_reverse
  · intro h before
    rw [Scan.run_before]
    unfold pieces? at h
    split at h
    · rename_i found hrun
      rw [hrun, ← Option.some.inj h, List.reverse_reverse]
    · exact absurd h nofun

theorem Scans.append {a b : Text} {p q : List Piece} (ha : Scans a p) (hb : Scans b q) :
    Scans (a ++ b) (p ++ q) := by
  intro before
  rw [Scan.run_append, ha, hb, List.reverse_append, List.append_assoc]

theorem scans_nil : Scans [] [] := fun _ => rfl

theorem scans_flatMap {α : Type} {f : α → Text} {g : α → List Piece} {l : List α}
    (h : ∀ x ∈ l, Scans (f x) (g x)) : Scans (l.flatMap f) (l.flatMap g) := by
  induction l with
  | nil => exact scans_nil
  | cons x l ih =>
    obtain ⟨hx, hl⟩ := List.forall_mem_cons.1 h
    exact hx.append (ih hl)

/-! ### Code -/

/-- A character that begins neither a literal nor a comment. -/
def isCode (c : Char) : Bool := c != '"' && c != '/'

theorem scans_code {t : Text} (h : t.all isCode = true) : Scans t [] := by
  intro before
  induction t with
  | nil => rfl
  | cons c t ih =>
    rw [List.all_cons, Bool.and_eq_true] at h
    obtain ⟨hquote, hslash⟩ := Bool.and_eq_true_iff.1 h.1
    have hc : Scan.step ⟨.code, before⟩ c = ⟨.code, before⟩ := by
      rw [Scan.step]
      dsimp only
      rw [if_neg (by simpa using hquote), if_neg (by simpa using hslash)]
    rw [Scan.run_cons, hc]
    exact ih h.2

/-! ### Literals -/

/-- A text that stays in a literal. -/
def Inside (t : Text) : Prop := ∀ read before,
  Scan.run ⟨.literal read, before⟩ t = ⟨.literal (t.reverse ++ read), before⟩

theorem inside_flatMap {f : Char → Text} {t : Text} (h : ∀ c ∈ t, Inside (f c)) :
    Inside (t.flatMap f) := by
  intro read before
  induction t generalizing read with
  | nil => rfl
  | cons c t ih =>
    obtain ⟨hc, ht⟩ := List.forall_mem_cons.1 h
    rw [List.flatMap_cons, Scan.run_append, hc, ih ht, List.reverse_append, List.append_assoc]

/-- A character that stands for itself. -/
theorem inside_singleton {c : Char} (hquote : c ≠ '"') (hbackslash : c ≠ '\\')
    (hnewline : c ≠ '\n') : Inside [c] := by
  intro read before
  show Scan.step ⟨.literal read, before⟩ c = _
  rw [Scan.step]
  dsimp only
  rw [if_neg hquote, if_neg hbackslash, if_neg hnewline]
  rfl

/-- An escaped character, whatever it is. -/
theorem inside_escape (c : Char) : Inside ['\\', c] := fun _ _ => rfl

theorem Inside.append {a b : Text} (ha : Inside a) (hb : Inside b) : Inside (a ++ b) := by
  intro read before
  rw [Scan.run_append, ha, hb, List.reverse_append, List.append_assoc]

/-- **A literal** in which nothing ends it. -/
theorem Inside.scans {t : Text} (h : Inside t) :
    Scans ('"' :: t ++ ['"']) [.literal ('"' :: t ++ ['"'])] := by
  intro before
  have hopen : Scan.step ⟨.code, before⟩ '"' = ⟨.literal ['"'], before⟩ := rfl
  rw [List.cons_append, Scan.run_cons, hopen, Scan.run_append, h]
  show Scan.mk .code (.literal ('"' :: (t.reverse ++ ['"'])).reverse :: before) = _
  simp

theorem scans_cpp {name : Text} (h : '\n' ∉ name) :
    Scans (StringLiteral.cpp name) [.literal (StringLiteral.cpp name)] := by
  refine Inside.scans (inside_flatMap fun c hc => ?_)
  unfold StringLiteral.cppEscape
  split
  · exact inside_escape '"'
  · split
    · exact inside_escape '\\'
    · exact inside_singleton ‹_› ‹_› fun heq => h (heq ▸ hc)

theorem scans_rust (t : Text) : Scans (StringLiteral.rust t) [.literal (StringLiteral.rust t)] := by
  refine Inside.scans (inside_flatMap fun c _ => ?_)
  have hdigit : ∀ n, ∀ d ∈ Text.ofNatHex n, Inside [d] := fun n d hd => by
    obtain ⟨k, hk, rfl⟩ := Identifier.exists_digitChar_of_mem_ofNatHex hd
    have hall : ∀ k < 16, Nat.digitChar k ≠ '"' ∧ Nat.digitChar k ≠ '\\' ∧
        Nat.digitChar k ≠ '\n' := by decide
    obtain ⟨hquote, hbackslash, hnewline⟩ := hall k hk
    exact inside_singleton hquote hbackslash hnewline
  fun_cases StringLiteral.rustEscape c with
  | case1 => exact inside_escape '0'
  | case2 => exact inside_escape 't'
  | case3 => exact inside_escape 'n'
  | case4 => exact inside_escape 'r'
  | case5 => exact inside_escape '"'
  | case6 => exact inside_escape '\\'
  | case7 => exact inside_singleton ‹_› ‹_› ‹_›
  | case8 =>
    have hdigits : Inside (Text.ofNatHex c.toNat) := by
      simpa using inside_flatMap (f := fun d => [d]) (hdigit c.toNat)
    exact Inside.append (Inside.append (fun _ _ => rfl) hdigits) (fun _ _ => rfl)

/-! ### Comments -/

/-- A star in a comment that no slash follows is like any other character. -/
theorem step_star {c : Char} (hc : c ≠ '/') (read : Text) (before : List Piece) :
    Scan.step ⟨.star read, before⟩ c = Scan.step ⟨.block ('*' :: read), before⟩ c := by
  rw [Scan.step, Scan.step]
  dsimp only
  rw [if_neg hc]

/-- A text that does not hold the end of a comment, and does not begin it before a blank, stays in
the comment. -/
theorem run_block {t : Text} (h : ¬ "*/".toList <:+: t) (read rest : Text) (before : List Piece) :
    Scan.run ⟨.block read, before⟩ (t ++ ' ' :: rest) =
      Scan.run ⟨.block (' ' :: t.reverse ++ read), before⟩ rest := by
  induction t generalizing read with
  | nil => rfl
  | cons c t ih =>
    have ht : ¬ "*/".toList <:+: t := fun hin => h (List.infix_cons hin)
    rw [List.cons_append, Scan.run_cons]
    by_cases hc : c = '*'
    · subst hc
      obtain ⟨d, more, hmore⟩ := List.exists_cons_of_ne_nil (l := t ++ ' ' :: rest) (by simp)
      have hd : d ≠ '/' := by
        rintro rfl
        cases t with
        | nil => exact absurd (List.cons.inj hmore).1 (by decide)
        | cons e t =>
          obtain rfl := (List.cons.inj hmore).1
          exact h ⟨[], t, rfl⟩
      have hstar : Scan.step ⟨.block read, before⟩ '*' = ⟨.star read, before⟩ := rfl
      have hnext := ih ht ('*' :: read)
      rw [hmore, Scan.run_cons] at hnext
      rw [hstar, hmore, Scan.run_cons, step_star hd, hnext]
      simp
    · have hstep : Scan.step ⟨.block read, before⟩ c = ⟨.block (c :: read), before⟩ := by
        rw [Scan.step]
        dsimp only
        rw [if_neg hc]
      rw [hstep, ih ht]
      simp

/-- **A block comment** in which its end is not. -/
theorem scans_block {t : Text} (h : ¬ "*/".toList <:+: t) :
    Scans ("/*".toList ++ t ++ " */".toList) [.block (t ++ " ".toList)] := by
  intro before
  have hopen : Scan.run ⟨.code, before⟩ "/*".toList = ⟨.block [], before⟩ := rfl
  rw [List.append_assoc, Scan.run_append, hopen]
  refine (run_block h [] "*/".toList before).trans ?_
  show Scan.mk .code (.block (' ' :: t.reverse ++ []).reverse :: before) = _
  simp

/-- **A line comment** up to the end of its line. -/
theorem scans_line {t : Text} (h : '\n' ∉ t) :
    Scans ("//".toList ++ t ++ "\n".toList) [.line t] := by
  have hrun : ∀ read before, Scan.run ⟨.line read, before⟩ (t ++ ['\n']) =
      ⟨.code, .line (read.reverse ++ t) :: before⟩ := by
    intro read before
    induction t generalizing read with
    | nil => simp [Scan.run, Scan.step]
    | cons c t ih =>
      obtain ⟨hc, ht⟩ := not_or.1 (mt List.mem_cons.2 h)
      have hstep : Scan.step ⟨.line read, before⟩ c = ⟨.line (c :: read), before⟩ := by
        rw [Scan.step]
        dsimp only
        rw [if_neg (Ne.symm hc)]
      rw [List.cons_append, Scan.run_cons, hstep, ih ht]
      simp
  intro before
  have hopen : Scan.run ⟨.code, before⟩ "//".toList = ⟨.line [], before⟩ := rfl
  rw [List.append_assoc, Scan.run_append, hopen]
  exact hrun [] before

/-! ### Texts of comments -/

namespace StringLiteral

theorem head?_comment (t : Text) : (comment t).head? = t.head? := by
  fun_cases comment t <;> rfl

/-- **The text of a block comment** does not hold the end of one. -/
theorem not_infix_comment (t : Text) : ¬ "*/".toList <:+: comment t := by
  fun_induction comment t with
  | case1 => decide
  | case2 rest ih =>
    intro h
    rcases List.infix_cons_iff.1 h with h | h
    · exact absurd (List.cons_prefix_cons.1 (List.cons_prefix_cons.1 h).2).1 (by decide)
    rcases List.infix_cons_iff.1 h with h | h
    · exact absurd (List.cons_prefix_cons.1 h).1 (by decide)
    rcases List.infix_cons_iff.1 h with h | h
    · exact absurd (List.cons_prefix_cons.1 h).1 (by decide)
    exact ih h
  | case3 c rest hnot ih =>
    intro h
    rcases List.infix_cons_iff.1 h with h | h
    · obtain ⟨rfl, more, hmore⟩ := List.cons_prefix_cons.1 h
      have hhead : rest.head? = some '/' := by
        rw [← head?_comment, ← hmore]
        rfl
      obtain ⟨more, rfl⟩ := List.head?_eq_some_iff.1 hhead
      exact hnot more rfl rfl
    · exact ih h

end StringLiteral

/-! ### Lists -/

/-- The pieces of a list are those of its items. -/
theorem scans_more {indent : Text} (hindent : indent.all isCode = true) {width : Nat}
    {items : List Text} {pieces : Text → List Piece} (h : ∀ item ∈ items, Scans item (pieces item))
    (column : Nat) : Scans (Wrapped.more indent width column items) (items.flatMap pieces) := by
  induction items generalizing column with
  | nil => exact scans_nil
  | cons item items ih =>
    obtain ⟨hitem, hitems⟩ := List.forall_mem_cons.1 h
    rw [Wrapped.more]
    split
    · have hcomma : Scans (",\n".toList ++ indent) [] := scans_code (by simp [hindent]; decide)
      exact (hcomma.append hitem).append (ih hitems _)
    · have hcomma : Scans ", ".toList [] := scans_code (by decide)
      exact (hcomma.append hitem).append (ih hitems _)

theorem scans_wrapped {indent : Text} (hindent : indent.all isCode = true) {width : Nat}
    {items : List Text} {pieces : Text → List Piece}
    (h : ∀ item ∈ items, Scans item (pieces item)) :
    Scans (Wrapped.text indent width items) (items.flatMap pieces) := by
  cases items with
  | nil => exact scans_nil
  | cons item items =>
    obtain ⟨hitem, hitems⟩ := List.forall_mem_cons.1 h
    exact hitem.append (scans_more hindent hitems _)

end ParserTables
