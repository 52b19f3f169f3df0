import Mathlib.Data.List.Forall2
import ParserTables.Proofs.Report.Resumed

/-! Headers in their order.

A report has all its sections if their headers stand in it in order, whatever stands between
them (`Report.Reaches`). A reader takes the first line that is the header it awaits, and this loses
nothing: where the headers of some sections are found at all, they are found from the first one on
(`Report.ordered_cons`). So after any lines, rejected ones included, it has met as many headers as
there are (`Reader.exists_met`), and what it finds missing in the end is the first section that the
lines do not reach (`Reader.finish_feedEach`). -/
namespace ParserTables

/-! ### The order of the sections -/

namespace SectionName

/-- The sections in their order. -/
def order : List SectionName := [.grammar, .terminals, .nonterminals, .state]

/-- The sections that come before this one. -/
def before (name : SectionName) : List SectionName := order.takeWhile (· != name)

/-- This section and those after it. -/
def onward (name : SectionName) : List SectionName := order.dropWhile (· != name)

/-- The sections still to come when the header of one is awaited, or none. -/
def toCome (awaited : Option SectionName) : List SectionName := (awaited.map onward).getD []

theorem order_eq (name : SectionName) : order = name.before ++ name.onward :=
  List.takeWhile_append_dropWhile.symm

theorem toCome_some (name : SectionName) : toCome (some name) = name :: toCome name.next := by
  cases name <;> rfl

/-- Of two sections, one comes before the other. -/
theorem before_total (a b : SectionName) : a = b ∨ a ∈ b.before ∨ b ∈ a.before := by
  cases a <;> cases b <;> decide

/-- What leads up to an earlier section leads up to a later one. -/
theorem upTo_isPrefix_before {earlier name : SectionName} (h : earlier ∈ name.before) :
    earlier.before ++ [earlier] <+: name.before := by
  revert h
  cases name <;> cases earlier <;> decide

theorem upTo_isPrefix (name : SectionName) : name.before ++ [name] <+: order := by
  cases name <;> decide

end SectionName

/-! ### Headers among the lines -/

namespace Report
open SectionName

/-- Headers of these sections stand among the lines, in this order. -/
def Ordered (names : List SectionName) (lines : List Text) : Prop :=
  ∃ headers, headers.Sublist lines ∧
    List.Forall₂ (fun name line => opens name line = true) names headers

/-- Among the lines stand the headers of the sections up to this one, in order. -/
def Reaches (name : SectionName) (lines : List Text) : Prop := Ordered (name.before ++ [name]) lines

theorem ordered_nil (lines : List Text) : Ordered [] lines := ⟨[], List.nil_sublist _, .nil⟩

/-- Fewer headers are easier to find. -/
theorem Ordered.of_isPrefix {some all : List SectionName} {lines : List Text}
    (h : Ordered all lines) (hpart : some <+: all) : Ordered some lines := by
  obtain ⟨more, rfl⟩ := hpart
  obtain ⟨headers, hsub, hopens⟩ := h
  refine ⟨headers.take some.length, (List.take_sublist _ _).trans hsub, ?_⟩
  have htake := List.forall₂_take some.length hopens
  rwa [List.take_left] at htake

/-- **The first header is the one to take.** Where it stands at the front of the lines, the others
are looked for behind it; any other line is passed over. -/
theorem ordered_cons (name : SectionName) (later : List SectionName) (line : Text)
    (rest : List Text) : Ordered (name :: later) (line :: rest) ↔
      if opens name line then Ordered later rest else Ordered (name :: later) rest := by
  split
  · rename_i hopens
    constructor
    · -- whichever line the first header was, the others stand behind this one
      rintro ⟨headers, hsub, hall⟩
      cases hall with
      | @cons _ first _ others hfirst hothers =>
        cases hsub with
        | cons _ hsub => exact ⟨others, (List.sublist_cons_self first others).trans hsub, hothers⟩
        | cons_cons _ hsub => exact ⟨others, hsub, hothers⟩
    · rintro ⟨headers, hsub, hall⟩
      exact ⟨line :: headers, hsub.cons_cons line, .cons hopens hall⟩
  · rename_i hopens
    constructor
    · rintro ⟨headers, hsub, hall⟩
      cases hall with
      | @cons _ first _ others hfirst hothers =>
        cases hsub with
        | cons _ hsub => exact ⟨first :: others, hsub, .cons hfirst hothers⟩
        | cons_cons _ hsub => exact absurd hfirst hopens
    · rintro ⟨headers, hsub, hall⟩
      exact ⟨headers, hsub.cons line, hall⟩

theorem not_ordered_nil (name : SectionName) (later : List SectionName) :
    ¬ Ordered (name :: later) [] := by
  rintro ⟨headers, hsub, hall⟩
  obtain rfl := List.sublist_nil.1 hsub
  cases hall

/-- A line in front takes away no header. -/
theorem Ordered.cons {names : List SectionName} {lines : List Text} (h : Ordered names lines)
    (line : Text) : Ordered names (line :: lines) := by
  obtain ⟨headers, hsub, hopens⟩ := h
  exact ⟨headers, hsub.cons line, hopens⟩

end Report

/-! ### What a reader meets -/

namespace Reader
open Report SectionName

/-- **A reader meets as many headers as there are.** After any lines, those of the sections it
awaited and awaits no more stand among the lines in order, and there is none of the next section
behind them. -/
theorem exists_met (r : Reader) (fed : List (Nat × Text)) : ∃ met,
    toCome r.stretch.awaits = met ++ toCome (r.feedEach fed).stretch.awaits ∧
    Ordered met (fed.map Prod.snd) ∧
    ∀ name, (r.feedEach fed).stretch.awaits = some name →
      ¬ Ordered (met ++ [name]) (fed.map Prod.snd) := by
  induction fed generalizing r with
  | nil => exact ⟨[], rfl, ordered_nil _, fun name _ => not_ordered_nil name []⟩
  | cons numbered rest ih =>
    obtain ⟨n, line⟩ := numbered
    obtain ⟨met, hmet, hordered, hnext⟩ := ih (r.feed n line).1
    rw [feedEach, List.map_cons]
    cases hawaits : r.stretch.awaits with
    | none =>
      rw [awaits_feed, hawaits] at hmet
      exact ⟨met, hmet, hordered.cons line, fun name hname => by
        rw [hname, toCome_some] at hmet
        exact absurd hmet (by simp [toCome])⟩
    | some awaited =>
      cases hopens : opens awaited line with
      | true =>
        rw [awaits_feed_of_opens hawaits hopens n] at hmet
        refine ⟨awaited :: met, by rw [toCome_some, hmet]; rfl, ?_, fun name hname => ?_⟩
        · rw [ordered_cons, if_pos hopens]
          exact hordered
        · rw [List.cons_append, ordered_cons, if_pos hopens]
          exact hnext name hname
      | false =>
        rw [awaits_feed_of_not_opens hawaits hopens n] at hmet
        refine ⟨met, hmet, hordered.cons line, fun name hname hreached => ?_⟩
        -- the next header to be met is the one awaited, and this line is no such header
        obtain ⟨later, hlater⟩ : ∃ later, met ++ [name] = awaited :: later := by
          rw [hname, toCome_some, toCome_some] at hmet
          cases met with
          | nil => exact ⟨[], by rw [(List.cons.inj hmet).1]; rfl⟩
          | cons first met => exact ⟨met ++ [name], by rw [(List.cons.inj hmet).1]; rfl⟩
        rw [hlater, ordered_cons, if_neg (by simp [hopens]), ← hlater] at hreached
        exact hnext name hname hreached

/-- A reader that is fed from the start and gets to the states was fed all the headers. -/
theorem reaches_of_awaits_none {s : Strictness} {fed : List (Nat × Text)}
    (h : ((start s).feedEach fed).stretch.awaits = none) (name : SectionName) :
    Reaches name (fed.map Prod.snd) := by
  obtain ⟨met, hmet, hordered, -⟩ := exists_met (start s) fed
  have hall : order = met := by
    rw [h] at hmet
    exact hmet.trans (List.append_nil met)
  subst hall
  exact hordered.of_isPrefix name.upTo_isPrefix

/-- A reader that is fed from the start and stops at a section was fed the headers before it, and
that of the section itself was not behind them. -/
theorem missing_of_awaits {s : Strictness} {fed : List (Nat × Text)} {name : SectionName}
    (h : ((start s).feedEach fed).stretch.awaits = some name) :
    ¬ Reaches name (fed.map Prod.snd) ∧
      ∀ earlier ∈ name.before, Reaches earlier (fed.map Prod.snd) := by
  obtain ⟨met, hmet, hordered, hnext⟩ := exists_met (start s) fed
  have hbefore : met = name.before := by
    rw [h] at hmet
    have hall : name.before ++ name.onward = met ++ name.onward := (order_eq name).symm.trans hmet
    exact (List.append_cancel_right hall).symm
  subst hbefore
  exact ⟨hnext name h, fun earlier hearlier =>
    hordered.of_isPrefix (upTo_isPrefix_before hearlier)⟩

/-- **A report is complete if its headers stand in order**, rejected lines or not. Otherwise the
first section whose header is not found behind those of the sections before it is reported
missing. -/
theorem finish_feedEach (s : Strictness) (fed : List (Nat × Text)) :
    ((∃ a, ((start s).feedEach fed).finish = .ok a) ↔ Reaches .state (fed.map Prod.snd)) ∧
    ∀ e, ((start s).feedEach fed).finish = .error e ↔ ∃ name, e = .missingSection name ∧
      ¬ Reaches name (fed.map Prod.snd) ∧
      ∀ earlier ∈ name.before, Reaches earlier (fed.map Prod.snd) := by
  cases hawaits : ((start s).feedEach fed).stretch.awaits with
  | none =>
    have hreached := reaches_of_awaits_none hawaits
    obtain ⟨b, hs⟩ := Stretch.awaits_eq_none_iff.1 hawaits
    rw [finish_of_states hs]
    refine ⟨iff_of_true ⟨_, rfl⟩ (hreached .state), fun e => iff_of_false nofun ?_⟩
    rintro ⟨name, -, hmissing, -⟩
    exact hmissing (hreached name)
  | some name =>
    obtain ⟨hmissing, hearlier⟩ := missing_of_awaits hawaits
    rw [finish_of_awaits hawaits]
    refine ⟨iff_of_false nofun fun hreached => hmissing (hreached.of_isPrefix ?_), fun e => ?_⟩
    · exact name.upTo_isPrefix
    constructor
    · intro he
      exact ⟨name, (Except.error.inj he).symm, hmissing, hearlier⟩
    · rintro ⟨other, rfl, hother, hbefore⟩
      rcases before_total name other with rfl | hname | hname
      · rfl
      · exact absurd (hbefore name hname) hmissing
      · exact absurd (hearlier other hname) hother

end Reader
end ParserTables
