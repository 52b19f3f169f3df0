/-! Texts: blanks, trimming, lines and lengths.

A text is the list of its characters, so every scanner of this library is a
recursion on a list. `trim_trim` and `after?_eq_some_iff` are the laws the scanners
lean on: trimming once is enough, and cutting a leading mark off a text loses
nothing else. `lines_unlines` says that lines can be told apart again. -/
namespace ParserTables

/-- A text is the list of its characters. -/
abbrev Text := List Char

namespace Text

/-! ### Blanks -/

/-- The characters with the White_Space property. -/
def isBlank (c : Char) : Bool :=
  let n := c.toNat
  (0x09 ≤ n && n ≤ 0x0D) || n == 0x20 || n == 0x85 || n == 0xA0 || n == 0x1680 ||
    (0x2000 ≤ n && n ≤ 0x200A) || n == 0x2028 || n == 0x2029 || n == 0x202F ||
    n == 0x205F || n == 0x3000

/-- A text with nothing to read in it. -/
def blank (t : Text) : Bool := t.all isBlank

def trimStart (t : Text) : Text := t.dropWhile isBlank

def trimEnd (t : Text) : Text := (t.reverse.dropWhile isBlank).reverse

/-- A text without the blanks at its two ends. -/
def trim (t : Text) : Text := trimEnd (trimStart t)

/-- The first word of a text: all of it before its first blank. -/
def word (t : Text) : Text := t.takeWhile (!isBlank ·)

/-- What follows the first word, blanks included. -/
def afterWord (t : Text) : Text := t.dropWhile (!isBlank ·)

theorem word_append_afterWord (t : Text) : word t ++ afterWord t = t :=
  List.takeWhile_append_dropWhile

theorem length_trimStart_le (t : Text) : (trimStart t).length ≤ t.length :=
  (List.dropWhile_sublist _).length_le

/-- What is left after trimming starts with no blank. -/
theorem isBlank_of_trimStart_eq_cons {t r : Text} {c : Char} (h : trimStart t = c :: r) :
    isBlank c = false := by
  have := List.head?_dropWhile_not isBlank t
  rw [show t.dropWhile isBlank = c :: r from h] at this
  simpa using this

theorem trimStart_eq_self {t : Text} (h : ∀ c ∈ t.head?, isBlank c = false) :
    trimStart t = t := by
  cases t with
  | nil => rfl
  | cons c rest => simp [trimStart, h c rfl]

theorem trimEnd_isPrefix (t : Text) : trimEnd t <+: t := by
  have : t.reverse.dropWhile isBlank <:+ t.reverse := List.dropWhile_suffix _
  simpa [trimEnd] using List.reverse_prefix.2 this

@[simp] theorem trimEnd_trimEnd (t : Text) : trimEnd (trimEnd t) = trimEnd t := by
  rw [trimEnd, trimEnd, List.reverse_reverse]
  congr 1
  exact trimStart_eq_self fun c hc => by
    have := List.head?_dropWhile_not isBlank t.reverse
    rw [Option.mem_def.1 hc] at this
    simpa using this

@[simp] theorem trimStart_trim (t : Text) : trimStart (trim t) = trim t :=
  trimStart_eq_self fun c hc => by
    obtain ⟨rest, hr⟩ := trimEnd_isPrefix (trimStart t)
    cases ht : trim t with
    | nil => simp [ht] at hc
    | cons d more =>
      obtain rfl : d = c := by simpa [ht] using hc
      rw [show trimEnd (trimStart t) = d :: more from ht] at hr
      exact isBlank_of_trimStart_eq_cons hr.symm

@[simp] theorem trim_trim (t : Text) : trim (trim t) = trim t := by
  rw [trim, trimStart_trim, trim, trimEnd_trimEnd]

/-! ### Marks -/

/-- The rest of a text that starts with `mark`, its first argument. -/
def after? : Text → Text → Option Text
  | [], t => some t
  | _ :: _, [] => none
  | m :: mark, c :: t => if m = c then after? mark t else none

theorem after?_eq_some_iff {mark t rest : Text} :
    after? mark t = some rest ↔ t = mark ++ rest := by
  induction mark generalizing t with
  | nil => simp [after?]
  | cons m mark ih =>
    cases t with
    | nil => simp [after?]
    | cons c t =>
      by_cases h : m = c
      · simp [after?, h, ih]
      · simp [after?, h, Ne.symm h]

/-- A text up to the first place where `mark` starts. -/
def upTo (mark : Text) : Text → Text
  | [] => []
  | c :: rest => if mark.isPrefixOf (c :: rest) then [] else c :: upTo mark rest

/-! ### Lines -/

/-- A line read backwards, without the carriage return that ended it. -/
def dropReturn : Text → Text
  | '\r' :: rest => rest
  | line => line

/-- The lines of a text whose first characters, read backwards, are `current`. -/
def linesFrom (current : Text) : Text → List Text
  | [] => if current.isEmpty then [] else [current.reverse]
  | c :: rest =>
    if c = '\n' then (dropReturn current).reverse :: linesFrom [] rest
    else linesFrom (c :: current) rest

/-- The lines of a text. A line ends in a line feed or in a carriage return and a line
feed; the last line needs no end, and a text that ends in a line feed has no empty
line after it. -/
def lines (t : Text) : List Text := linesFrom [] t

/-- The text with the given lines, each ended by a line feed. -/
def unlines (ls : List Text) : Text := ls.flatMap (· ++ ['\n'])

theorem linesFrom_append {line : Text} (h : '\n' ∉ line) (current rest : Text) :
    linesFrom current (line ++ '\n' :: rest) =
      (dropReturn (line.reverse ++ current)).reverse :: linesFrom [] rest := by
  induction line generalizing current with
  | nil => simp [linesFrom]
  | cons c line ih =>
    have hc : c ≠ '\n' := fun e => h (by simp [e])
    have hl : '\n' ∉ line := fun e => h (by simp [e])
    simp [linesFrom, hc, ih hl]

/-- Lines that hold no line feed and end in no carriage return are told apart again. -/
theorem lines_unlines {ls : List Text} (h : ∀ l ∈ ls, '\n' ∉ l ∧ l.getLast? ≠ some '\r') :
    lines (unlines ls) = ls := by
  induction ls with
  | nil => rfl
  | cons l ls ih =>
    obtain ⟨hl, hr⟩ := h l (List.mem_cons_self ..)
    have keep : dropReturn l.reverse = l.reverse := by
      rw [← List.head?_reverse] at hr
      unfold dropReturn
      split <;> simp_all
    have := ih fun l' hl' => h l' (List.mem_cons_of_mem _ hl')
    rw [unlines, List.flatMap_cons, List.append_assoc, List.singleton_append, lines,
      linesFrom_append hl, List.append_nil, keep, List.reverse_reverse]
    exact congrArg _ this

/-- Texts one after the other, with a mark between neighbours. -/
def join (mark : Text) (ts : List Text) : Text := mark.intercalate ts

theorem join_singleton (mark t : Text) : join mark [t] = t := List.intercalate_singleton

theorem join_cons_cons (mark t u : Text) (ts : List Text) :
    join mark (t :: u :: ts) = t ++ (mark ++ join mark (u :: ts)) := by
  rw [join, List.intercalate_cons_cons, List.append_assoc]
  rfl

theorem join_cons (mark t : Text) (ts : List Text) :
    join mark (t :: ts) = t ++ ts.flatMap (mark ++ ·) := by
  induction ts generalizing t with
  | nil => rw [join_singleton, List.flatMap_nil, List.append_nil]
  | cons u us ih => rw [join_cons_cons, ih, List.flatMap_cons, List.append_assoc]

/-! ### Lengths -/

/-- The number of bytes of a text in UTF-8. -/
def byteLength (t : Text) : Nat := (t.map Char.utf8Size).foldr (· + ·) 0

@[simp] theorem byteLength_nil : byteLength [] = 0 := rfl

@[simp] theorem byteLength_append (a b : Text) :
    byteLength (a ++ b) = byteLength a + byteLength b := by
  induction a with
  | nil => simp
  | cons c a ih =>
    simp only [byteLength, List.cons_append, List.map_cons, List.foldr_cons] at ih ⊢
    omega

/-- The bytes of the longest of some texts. -/
def longest (ts : List Text) : Nat := (ts.map byteLength).foldr max 0

/-- A text in a field of at least `width` characters, at its left end. -/
def padRight (width : Nat) (t : Text) : Text := t ++ List.replicate (width - t.length) ' '

/-- A text in a field of at least `width` characters, at its right end. -/
def padLeft (width : Nat) (t : Text) : Text := List.replicate (width - t.length) ' ' ++ t

end Text
end ParserTables
