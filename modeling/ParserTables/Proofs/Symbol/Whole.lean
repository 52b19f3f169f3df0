import ParserTables.Proofs.Symbol.Quoted
import ParserTables.Proofs.Text.Ends
import ParserTables.Report.Line
import ParserTables.Symbol.Basic

/-! Tokens that every scanner takes whole.

A report is cut up by three scanners: one for the names of a listing, one for the
right-hand sides of rules, one for the lines of a state. They differ in what ends a
token, but each of them first looks for a quoted token. A token is `Whole` if it is one
quoted token, or if it has no blank in it and is taken for no quoted token whatever
follows. Such a token is cut off the same by all three: `Whole.symbolName`,
`Whole.all_join` and `Whole.state`. A right-hand side asks for less (`Separable`). -/
namespace ParserTables.Token
open Text

theorem word_append {w rest : Text} (hw : ∀ c ∈ w, isBlank c = false)
    (hr : rest.head?.all isBlank = true) : word (w ++ rest) = w ∧ afterWord (w ++ rest) = rest := by
  have hall : ∀ c ∈ w, (!isBlank c) = true := fun c hc => by simp [hw c hc]
  rw [word, afterWord, List.takeWhile_append_of_pos hall, List.dropWhile_append_of_pos hall]
  cases rest with
  | nil => simp
  | cons c more =>
    have hc : isBlank c = true := by simpa using hr
    simp [hc]

/-- In a string alias, a character that is neither a quote nor a backslash stands for itself. -/
theorem alias?_cons {c : Char} (hq : c ≠ '"') (hb : c ≠ '\\') (rest : Text) :
    alias? (c :: rest) = (alias? rest).map fun (body, after) => (c :: body, after) := by
  rw [alias?]
  · exact fun he _ => hb he
  · exact fun d more he _ => hb he
  · exact hq

/-- A token that starts with no quote is not taken for a quoted one. -/
theorem quoted?_cons {c : Char} (h₁ : c ≠ '\'') (h₂ : c ≠ '"') (rest : Text) :
    quoted? (c :: rest) = none := by
  rw [quoted?]
  · exact fun d more he => h₁ (List.cons.inj he).1
  · exact fun more he => h₂ (List.cons.inj he).1

theorem not_mem_join {c : Char} (hc : c ≠ ' ') {ts : List Text} (h : ∀ t ∈ ts, c ∉ t) :
    c ∉ join [' '] ts := by
  induction ts with
  | nil => exact List.not_mem_nil
  | cons t ts ih =>
    have ht := h t (List.mem_cons_self ..)
    have hts := ih fun u hu => h u (List.mem_cons_of_mem t hu)
    cases ts with
    | nil => rwa [join_singleton]
    | cons u more =>
      rw [join_cons_cons]
      simp [ht, hc, hts]

/-- A token that is cut off the same by every scanner. -/
inductive Whole : Text → Prop where
  | quoted {t : Text} : quoted? t = some (t, []) → Whole t
  | bare {c : Char} {rest : Text} : c.isDigit = false → (∀ d ∈ c :: rest, isBlank d = false) →
      (∀ after, quoted? (c :: rest ++ after) = none) → Whole (c :: rest)

namespace Whole

theorem quoted?_append {t : Text} (h : quoted? t = some (t, [])) (after : Text) :
    quoted? (t ++ after) = some (t, after) := by
  simpa using Token.quoted?_append h after

theorem solid {t : Text} (h : Whole t) : Solid t := by
  cases h with
  | quoted h =>
    obtain ⟨q, front, hq, rfl⟩ := exists_of_quoted? h
    have hb : isBlank q = false := by rcases hq with rfl | rfl <;> rfl
    exact (Solid.singleton hb).append front (.singleton hb)
  | bare _ hb _ => exact .of_forall (List.cons_ne_nil _ _) hb

theorem starts {t : Text} (h : Whole t) : ∃ c rest, t = c :: rest ∧ c.isDigit = false := by
  cases h with
  | quoted h =>
    obtain ⟨q, front, hq, rfl⟩ := exists_of_quoted? h
    refine ⟨q, front ++ [q], rfl, ?_⟩
    rcases hq with rfl | rfl <;> rfl
  | bare hd _ _ => exact ⟨_, _, rfl, hd⟩

/-- The first token of a text that starts with a whole one. -/
theorem first_append {t rest : Text} (h : Whole t) (hr : rest.head?.all isBlank = true) :
    first (t ++ rest) = (t, rest) := by
  cases h with
  | quoted h => rw [first, quoted?_append h, Option.getD_some]
  | bare _ hb hq =>
    obtain ⟨hw, ha⟩ := word_append hb hr
    rw [first, hq, Option.getD_none, hw, ha]

/-! ### In a listing -/

/-- The name of a listing's line, whatever the code and the uses after it are. -/
theorem symbolName {t : Text} (h : Whole t) {indent : Text} (hi : blank indent = true)
    (more : Text) : Line.symbolName (indent ++ (t ++ " (".toList ++ more)) = t := by
  have htrim : trim (indent ++ (t ++ " (".toList ++ more)) = t ++ " (".toList ++ trimEnd more := by
    rw [trim, Text.trimStart_append hi, List.append_assoc, h.solid.trimStart_append,
      show t ++ (" (".toList ++ more) = (t ++ [' ']) ++ '(' :: more by simp,
      trimEnd_append_cons _ rfl]
    simp
  have hmark : upTo " (".toList (" (".toList ++ trimEnd more) = [] :=
    upTo_mark (List.cons_ne_nil _ _) _
  rw [Line.symbolName, htrim, List.append_assoc]
  cases h with
  | quoted hq =>
    simp only [quoted?_append hq, Option.getD_some, hmark, upTo, List.append_nil]
    exact (Whole.quoted hq).solid.trimEnd_eq
  | bare hd hb hq =>
    have hspace : ' ' ∉ _ := fun hm => Bool.noConfusion (hb ' ' hm)
    have hcut := upTo_append hspace ['('] (" (".toList ++ trimEnd more)
    rw [show [' ', '('] = " (".toList from rfl, hmark, List.append_nil] at hcut
    simp only [hq, Option.getD_none, hcut, List.nil_append]
    rw [show " <".toList = ' ' :: ['<'] from rfl, upTo_of_not_mem hspace]
    exact (Whole.bare hd hb hq).solid.trimEnd_eq

end Whole

/-! ### On a right-hand side -/

/-- A token that is cut off a right-hand side where a blank follows it. -/
structure Separable (t : Text) : Prop where
  solid : Solid t
  cut : ∀ rest : Text, rest.head?.all isBlank = true → first (t ++ rest) = (t, rest)

theorem Whole.separable {t : Text} (h : Whole t) : Separable t :=
  ⟨h.solid, fun _ hr => h.first_append hr⟩

theorem all_append_blank {b : Text} (hb : blank b = true) (t : Text) : all (b ++ t) = all t := by
  rw [all, all, Text.trimStart_append hb]

namespace Separable

/-- The tokens of a text that starts with a separable one. -/
theorem all_append {t rest : Text} (h : Separable t) (hr : rest.head?.all isBlank = true) :
    all (t ++ rest) = t :: all rest := by
  rw [all]
  split
  · rename_i hnil
    rw [h.solid.trimStart_append] at hnil
    exact absurd (List.append_eq_nil_iff.1 hnil).1 h.solid.ne_nil
  · rename_i c more hcons
    rw [h.solid.trimStart_append] at hcons
    rw [← hcons, h.cut rest hr]

/-- Separable tokens with a space after each are the first tokens of a text, whatever follows. -/
theorem all_join_append {ts : List Text} (h : ∀ t ∈ ts, Separable t) (rest : List Text) :
    all (join [' '] (ts ++ rest)) = ts ++ all (join [' '] rest) := by
  induction ts with
  | nil => rfl
  | cons t ts ih =>
    have ht := h t (List.mem_cons_self ..)
    have hts := ih fun u hu => h u (List.mem_cons_of_mem t hu)
    rw [List.cons_append, List.cons_append, ← hts]
    cases ts ++ rest with
    | nil =>
      have hone : all (t ++ []) = t :: all [] := ht.all_append rfl
      rw [List.append_nil] at hone
      rw [join_singleton, hone]
      rfl
    | cons u more => rw [join_cons_cons, ht.all_append rfl, all_append_blank rfl]

/-- **Separable tokens are told apart again** when a space stands between them. -/
theorem all_join {ts : List Text} (h : ∀ t ∈ ts, Separable t) : all (join [' '] ts) = ts := by
  have := all_join_append h []
  rw [List.append_nil, show all (join [' '] []) = [] by rw [all]; rfl, List.append_nil] at this
  exact this

end Separable

theorem Whole.all_join {ts : List Text} (h : ∀ t ∈ ts, Whole t) : all (join [' '] ts) = ts :=
  Separable.all_join fun t ht => (h t ht).separable

theorem solid_join {ts : List Text} (h : ∀ t ∈ ts, Solid t) (hne : ts ≠ []) :
    Solid (join [' '] ts) := by
  induction ts with
  | nil => exact absurd rfl hne
  | cons t ts ih =>
    have ht := h t (List.mem_cons_self ..)
    cases ts with
    | nil => rwa [join_singleton]
    | cons u more =>
      have hrest := ih (fun v hv => h v (List.mem_cons_of_mem t hv)) (List.cons_ne_nil _ _)
      rw [join_cons_cons, ← List.append_assoc]
      exact ht.append [' '] hrest

/-- The symbols of a written right-hand side are those of its tokens. -/
theorem ofRight_join {ts : List Text} (h : ∀ t ∈ ts, Solid t)
    (hm : ts ≠ [] → join [' '] ts ∉ Symbol.emptyMarks) :
    Symbol.ofRight (join [' '] ts) = (all (join [' '] ts)).map Symbol.ofToken := by
  by_cases hne : ts = []
  · subst hne
    rw [show join [' '] [] = [] from rfl, all]
    rfl
  · simp only [Symbol.ofRight, (solid_join h hne).trim_eq, if_neg (hm hne)]

/-! ### In a state -/

/-- The line of a state that says something about a symbol, by what it says. -/
def lineOf (token : Text) : Line.Phrase → Line.StateLine
  | .action a => .action token a false
  | .goto target => .goto token target

namespace Whole

/-- A line is no remark on a conflict if what it says starts otherwise. -/
theorem after?_conflict {t gap said : Text} (h : Whole t) (hg : blank gap = true) (hne : gap ≠ [])
    (hs : Solid said) (hb : said.head? ≠ some 'b') :
    after? "Conflict between ".toList (t ++ (gap ++ said)) = none := by
  rw [Option.eq_none_iff_forall_ne_some]
  intro rest hrest
  have heq := after?_eq_some_iff.1 hrest
  -- both sides are one token and a rest that starts with a blank
  have hgap : (gap ++ said).head?.all isBlank = true := by
    obtain ⟨c, more, rfl⟩ := List.exists_cons_of_ne_nil hne
    simp_all [blank]
  have hletters : "Conflict".toList.all (fun c => !isBlank c) = true := rfl
  have hmark : Whole "Conflict".toList :=
    .bare rfl (fun d hd => by simpa using List.all_eq_true.1 hletters d hd) fun _ => rfl
  have hcut := h.first_append hgap
  have hcut' : first ("Conflict".toList ++ (" between ".toList ++ rest)) =
      ("Conflict".toList, " between ".toList ++ rest) := hmark.first_append rfl
  rw [heq, show "Conflict between ".toList ++ rest =
    "Conflict".toList ++ (" between ".toList ++ rest) from rfl, hcut'] at hcut
  have hsaid := congrArg (fun p => trimStart p.2) hcut
  have hstart := hs.trimStart_append []
  rw [List.append_nil] at hstart
  simp only [Text.trimStart_append hg, hstart] at hsaid
  exact hb (by rw [← hsaid]; rfl)

/-- **The line of a state** that says something about a whole token. -/
theorem state {t indent gap said : Text} (h : Whole t) (hi : blank indent = true)
    (hg : blank gap = true) (hne : gap ≠ []) (hs : Solid said) (hb : said.head? ≠ some 'b')
    (hbr : said.head? ≠ some '[') {p : Line.Phrase} (hp : Line.phrase? said = some p) :
    Line.state (indent ++ (t ++ (gap ++ said))) = lineOf t p := by
  have htrim : trim (indent ++ (t ++ (gap ++ said))) = t ++ (gap ++ said) := by
    have := (h.solid.append gap hs).trim_after hi
    rwa [List.append_assoc] at this
  have hnum : leadingNumber? (t ++ (gap ++ said)) = none := by
    obtain ⟨c, rest, rfl, hc⟩ := h.starts
    exact leadingNumber?_cons hc _
  have hgap : (gap ++ said).head?.all isBlank = true := by
    obtain ⟨c, more, rfl⟩ := List.exists_cons_of_ne_nil hne
    simp_all [blank]
  have hun : Line.unbracket said = (said, false) := by
    rw [Line.unbracket]
    exact fun inner he => hbr (by rw [he]; rfl)
  simp only [Line.state, htrim, hnum, Option.isSome_none, Bool.false_eq_true, if_false,
    h.after?_conflict hg hne hs hb, h.first_append hgap, hs.trim_after hg,
    h.solid.isEmpty_eq_false, hs.isEmpty_eq_false, Bool.or_self, hun, hp]
  cases p <;> rfl

end Whole

end ParserTables.Token
