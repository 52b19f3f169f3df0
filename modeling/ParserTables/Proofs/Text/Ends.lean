import Mathlib.Data.List.TakeWhile
import ParserTables.Text.Decimal

/-! Texts whose ends are known.

Every scanner trims before it looks, so what it sees of a written text depends on the
two ends only. A text is `Solid` when neither of them is a blank: trimming leaves such a
text alone (`Solid.trim_eq`), also when blanks are put around it (`Solid.trim_around`).
Numbers are solid, and they are read back as they were written (`number?_ofNat`,
`leadingNumber?_ofNat`). -/
namespace ParserTables.Text

/-! ### Blanks at the ends -/

theorem blank_append (a b : Text) : blank (a ++ b) = (blank a && blank b) := List.all_append

/-- Blanks before a text are none of its start. -/
theorem trimStart_append {b : Text} (hb : blank b = true) (t : Text) :
    trimStart (b ++ t) = trimStart t :=
  List.dropWhile_append_of_pos fun c hc => List.all_eq_true.1 hb c hc

/-- The last character that is no blank stays, with all before it. -/
theorem trimEnd_append_cons (a : Text) {c : Char} (hc : isBlank c = false) (b : Text) :
    trimEnd (a ++ c :: b) = a ++ c :: trimEnd b := by
  have hrev : (a ++ c :: b).reverse = b.reverse ++ c :: a.reverse := by simp
  rw [trimEnd, hrev, List.dropWhile_append]
  split
  · rename_i hb
    have hend : trimEnd b = [] := by rw [trimEnd, List.isEmpty_iff.1 hb, List.reverse_nil]
    simp [hc, hend]
  · simp [trimEnd]

theorem trimEnd_blank {b : Text} (hb : blank b = true) : trimEnd b = [] := by
  have : b.reverse.dropWhile isBlank = [] := by
    rw [List.dropWhile_eq_nil_iff]
    exact fun c hc => List.all_eq_true.1 hb c (List.mem_reverse.1 hc)
  rw [trimEnd, this, List.reverse_nil]

theorem trim_blank {b : Text} (hb : blank b = true) : trim b = [] := by
  have hstart : trimStart b = [] :=
    List.dropWhile_eq_nil_iff.2 fun c hc => List.all_eq_true.1 hb c hc
  rw [trim, hstart]
  rfl

/-- Trimming the start of a text takes blanks off. -/
theorem exists_trimStart (t : Text) : ∃ gap, blank gap = true ∧ t = gap ++ trimStart t := by
  refine ⟨t.takeWhile isBlank, List.all_eq_true.2 fun c hc => ?_, ?_⟩
  · exact List.all_eq_true.1 List.all_takeWhile c hc
  · exact List.takeWhile_append_dropWhile.symm

/-- Trimming the end of a text takes blanks off. -/
theorem exists_trimEnd (t : Text) : ∃ gap, blank gap = true ∧ t = trimEnd t ++ gap := by
  obtain ⟨gap, hblank, heq⟩ := exists_trimStart t.reverse
  refine ⟨gap.reverse, ?_, ?_⟩
  · rwa [blank, List.all_reverse]
  · have := congrArg List.reverse heq
    rwa [List.reverse_append, List.reverse_reverse] at this

theorem blank_replicate (n : Nat) : blank (List.replicate n ' ') = true :=
  List.all_eq_true.2 fun c hc => by rw [List.eq_of_mem_replicate hc]; rfl

/-- A text is cut where the first character stands that is not of a kind. -/
theorem cut_append {p : Char → Bool} {t rest : Text} (ht : ∀ c ∈ t, p c = true)
    (hrest : rest.head?.any p = false) :
    (t ++ rest).takeWhile p = t ∧ (t ++ rest).dropWhile p = rest := by
  rw [List.takeWhile_append_of_pos ht, List.dropWhile_append_of_pos ht]
  cases rest with
  | nil => exact ⟨List.append_nil t, rfl⟩
  | cons c rest =>
    have hc : ¬ p c = true := by simpa using hrest
    rw [List.takeWhile_cons_of_neg hc, List.dropWhile_cons_of_neg hc, List.append_nil]
    exact ⟨rfl, rfl⟩

/-- A text with no blank at either end, and something in between. -/
structure Solid (t : Text) : Prop where
  head : ∃ c rest, t = c :: rest ∧ isBlank c = false
  last : ∃ front c, t = front ++ [c] ∧ isBlank c = false

namespace Solid

theorem singleton {c : Char} (hc : isBlank c = false) : Solid [c] :=
  ⟨⟨c, [], rfl, hc⟩, ⟨[], c, rfl, hc⟩⟩

theorem ne_nil {t : Text} (h : Solid t) : t ≠ [] := by
  obtain ⟨c, rest, rfl, -⟩ := h.head
  exact List.cons_ne_nil c rest

/-- Only the ends count: anything may stand between two solid texts. -/
theorem append {a b : Text} (ha : Solid a) (middle : Text) (hb : Solid b) :
    Solid (a ++ middle ++ b) := by
  obtain ⟨c, rest, rfl, hc⟩ := ha.head
  obtain ⟨front, d, rfl, hd⟩ := hb.last
  exact ⟨⟨c, rest ++ middle ++ (front ++ [d]), by simp, hc⟩,
    ⟨c :: rest ++ middle ++ front, d, by simp, hd⟩⟩

theorem of_forall {t : Text} (hne : t ≠ []) (h : ∀ c ∈ t, isBlank c = false) : Solid t := by
  constructor
  · obtain ⟨c, rest, rfl⟩ := List.exists_cons_of_ne_nil hne
    exact ⟨c, rest, rfl, h c (List.mem_cons_self ..)⟩
  · refine ⟨t.dropLast, t.getLast hne, (List.dropLast_concat_getLast hne).symm, ?_⟩
    exact h _ (List.getLast_mem hne)

theorem not_blank {t : Text} (h : Solid t) : blank t = false := by
  obtain ⟨c, rest, rfl, hc⟩ := h.head
  simp [blank, hc]

theorem trimStart_append {t : Text} (h : Solid t) (rest : Text) :
    trimStart (t ++ rest) = t ++ rest := by
  obtain ⟨c, more, rfl, hc⟩ := h.head
  exact trimStart_eq_self fun d hd => by simp_all

/-- Blanks after a solid text are cut off, and nothing else is. -/
theorem trimEnd_append {t : Text} (h : Solid t) {b : Text} (hb : blank b = true) :
    trimEnd (t ++ b) = t := by
  obtain ⟨front, c, rfl, hc⟩ := h.last
  rw [List.append_assoc, List.singleton_append, trimEnd_append_cons front hc, trimEnd_blank hb]

theorem trimEnd_eq {t : Text} (h : Solid t) : trimEnd t = t := by
  simpa using h.trimEnd_append (b := []) rfl

/-- Blanks around a solid text are cut off, and nothing else is. -/
theorem trim_around {t : Text} (h : Solid t) {a b : Text} (ha : blank a = true)
    (hb : blank b = true) : trim (a ++ (t ++ b)) = t := by
  rw [trim, Text.trimStart_append ha, h.trimStart_append, h.trimEnd_append hb]

theorem trim_after {t : Text} (h : Solid t) {a : Text} (ha : blank a = true) :
    trim (a ++ t) = t := by
  simpa using h.trim_around ha (b := []) rfl

theorem trim_eq {t : Text} (h : Solid t) : trim t = t := h.trim_after (a := []) rfl

theorem isEmpty_eq_false {t : Text} (h : Solid t) : t.isEmpty = false := by
  simpa using h.ne_nil

end Solid

/-! ### Numbers -/

/-- The code points of digits. -/
theorem isDigit_iff {c : Char} : c.isDigit = true ↔ 48 ≤ c.toNat ∧ c.toNat ≤ 57 := by
  show (decide (48 ≤ c.val) && decide (c.val ≤ 57)) = true ↔ _
  simp only [Bool.and_eq_true, decide_eq_true_eq, UInt32.le_iff_toNat_le]
  rfl

/-- No visible character of ASCII is a blank. -/
theorem isBlank_eq_false {c : Char} (lo : 33 ≤ c.toNat) (hi : c.toNat ≤ 126) :
    isBlank c = false := by
  simp only [isBlank, Bool.or_eq_false_iff, Bool.and_eq_false_iff, decide_eq_false_iff_not,
    beq_eq_false_iff_ne]
  omega

theorem not_isBlank_of_isDigit {c : Char} (h : c.isDigit = true) : isBlank c = false := by
  rw [isDigit_iff] at h
  exact isBlank_eq_false (by omega) (by omega)

theorem isDigit_of_mem_ofNat {n : Nat} {c : Char} (h : c ∈ ofNat n) : c.isDigit = true :=
  Nat.isDigit_of_mem_toDigits (by decide) (by decide) h

theorem ofNat_ne_nil (n : Nat) : ofNat n ≠ [] := Nat.toDigits_ne_nil

theorem solid_ofNat (n : Nat) : Solid (ofNat n) :=
  .of_forall (ofNat_ne_nil n) fun _ hc => not_isBlank_of_isDigit (isDigit_of_mem_ofNat hc)

/-- The digits of a number have it as their value. -/
theorem valueOf?_ofNat {n : Nat} (h : n < numberLimit) : valueOf? (ofNat n) = some n := by
  have hval : Nat.ofDigitChars 10 (ofNat n) 0 = n := Nat.ofDigitChars_ten_toDigits
  have hne : (ofNat n).isEmpty = false := (solid_ofNat n).isEmpty_eq_false
  simp only [valueOf?, hval, hne, Bool.false_or, decide_eq_true_eq]
  exact if_neg (Nat.not_le.2 h)

/-- A written number is read back. -/
theorem number?_ofNat {n : Nat} (h : n < numberLimit) : number? (ofNat n) = some n := by
  have hall : (ofNat n).all Char.isDigit = true :=
    List.all_eq_true.2 fun _ hc => isDigit_of_mem_ofNat hc
  simp only [number?, (solid_ofNat n).trim_eq, hall, if_true, valueOf?_ofNat h]

/-- Digits at the start of a text are cut off if a blank or the end follows them. -/
theorem leadingNumber?_digits {digits rest : Text} (hd : ∀ c ∈ digits, c.isDigit = true)
    (hr : rest.head?.all isBlank = true) :
    leadingNumber? (digits ++ rest) = (valueOf? digits).map fun n => (n, rest) := by
  have hend : rest.head?.any Char.isDigit = false := by
    cases rest with
    | nil => rfl
    | cons c more =>
      have hb : isBlank c = true := by simpa using hr
      rw [List.head?_cons, Option.any_some, Bool.eq_false_iff]
      exact fun hc => absurd (hb.symm.trans (not_isBlank_of_isDigit hc)) nofun
  obtain ⟨htake, hdrop⟩ := cut_append hd hend
  simp only [leadingNumber?, htake, hdrop, hr, if_true]

/-- A number is read back from the start of a text if a blank or the end follows it. -/
theorem leadingNumber?_ofNat {n : Nat} (h : n < numberLimit) {rest : Text}
    (hr : rest.head?.all isBlank = true) : leadingNumber? (ofNat n ++ rest) = some (n, rest) := by
  rw [leadingNumber?_digits (fun c hc => isDigit_of_mem_ofNat hc) hr, valueOf?_ofNat h]
  rfl

/-- A text that starts with no digit starts with no number. -/
theorem leadingNumber?_cons {c : Char} (hc : c.isDigit = false) (rest : Text) :
    leadingNumber? (c :: rest) = none := by
  simp [leadingNumber?, hc, valueOf?]

/-! ### Marks -/

@[simp] theorem after?_append (mark rest : Text) : after? mark (mark ++ rest) = some rest :=
  after?_eq_some_iff.2 rfl

theorem upTo_mark {mark : Text} (hm : mark ≠ []) (rest : Text) : upTo mark (mark ++ rest) = [] := by
  obtain ⟨m, more, rfl⟩ := List.exists_cons_of_ne_nil hm
  have : (m :: more).isPrefixOf (m :: (more ++ rest)) = true :=
    List.isPrefixOf_iff_prefix.2 ⟨rest, rfl⟩
  simp [upTo, this]

/-- A text without the first character of a mark has no mark in it. -/
theorem upTo_append {m : Char} {t : Text} (h : m ∉ t) (more rest : Text) :
    upTo (m :: more) (t ++ rest) = t ++ upTo (m :: more) rest := by
  induction t with
  | nil => rfl
  | cons c t ih =>
    have hc : (m :: more).isPrefixOf (c :: (t ++ rest)) = false := by
      simp [List.isPrefixOf, show m ≠ c from fun e => h (e ▸ List.mem_cons_self ..)]
    rw [List.cons_append, upTo, hc]
    simp [ih fun hm => h (List.mem_cons_of_mem c hm)]

theorem upTo_of_not_mem {m : Char} {more t : Text} (h : m ∉ t) : upTo (m :: more) t = t := by
  simpa [upTo] using upTo_append h more []

end ParserTables.Text
