import ParserTables.Symbol.Token

/-! Where a quoted token ends.

A string alias is scanned with its escapes: a backslash takes the next character along. Seen from
its end the alias is simpler. Its closing quote is the first quote with an even number of
backslashes right before it (`alias?_eq_some_iff`), and a text without such a quote is no alias
(`alias?_eq_none_iff`). The backslashes of a run cancel in pairs, so a scan that has passed an
escape sees the same parity as before it (`even_backslashes_escape`). Whether a text starts with a
quoted token is thus a matter of the token alone (`quoted?_eq_some_iff`), and the token has its
length whatever follows it (`quotedLength?_stable`). -/
namespace ParserTables.Token
open Text

/-! ### Backslashes -/

/-- The number of backslashes that a text ends in. -/
def backslashes (t : Text) : Nat := (t.reverse.takeWhile (· = '\\')).length

theorem backslashes_le_length (t : Text) : backslashes t ≤ t.length := by
  have h := (List.takeWhile_prefix (l := t.reverse) (· = '\\')).length_le
  rwa [List.length_reverse] at h

/-- One more character at the front counts only if nothing but backslashes follows it. -/
theorem backslashes_cons (c : Char) (t : Text) :
    backslashes (c :: t) =
      if backslashes t = t.length then t.length + backslashes [c] else backslashes t := by
  unfold backslashes
  rw [List.reverse_cons, List.takeWhile_append, List.length_reverse, apply_ite List.length,
    List.length_append, List.length_reverse]
  rfl

theorem backslashes_singleton (c : Char) : backslashes [c] = if c = '\\' then 1 else 0 := by
  by_cases h : c = '\\' <;> simp [backslashes, h]

theorem backslashes_cons_of_ne {c : Char} (hc : c ≠ '\\') (t : Text) :
    backslashes (c :: t) = backslashes t := by
  rw [backslashes_cons, backslashes_singleton, if_neg hc]
  split
  · omega
  · rfl

/-- An escape at the front changes nothing about which quotes are escaped behind it. -/
theorem even_backslashes_escape (c : Char) (t : Text) :
    2 ∣ backslashes ('\\' :: c :: t) ↔ 2 ∣ backslashes t := by
  have hle := backslashes_le_length t
  by_cases hc : c = '\\'
  · subst hc
    rw [backslashes_cons, backslashes_cons, backslashes_singleton, if_pos rfl, List.length_cons]
    split <;> split <;> omega
  · rw [backslashes_cons, backslashes_cons_of_ne hc, List.length_cons, if_neg (by omega)]

/-! ### The closing quote -/

/-- At the start of a text stands `front` and then a quote that no backslash of `front` escapes. -/
structure Closes (t front : Text) : Prop where
  quote : front ++ ['"'] <+: t
  even : 2 ∣ backslashes front

/-- The first quote that is not escaped. -/
structure ClosesFirst (t front : Text) : Prop extends Closes t front where
  first : ∀ other, Closes t other → front.length ≤ other.length

theorem not_closes_nil (front : Text) : ¬ Closes [] front := fun h =>
  List.append_ne_nil_of_right_ne_nil front (List.cons_ne_nil _ _) (List.prefix_nil.1 h.quote)

theorem closes_quote (rest : Text) : Closes ('"' :: rest) [] :=
  ⟨⟨rest, rfl⟩, Nat.dvd_zero 2⟩

/-- Behind a character that is no quote and no backslash. -/
theorem closes_cons_iff {c : Char} (hq : c ≠ '"') (hb : c ≠ '\\') {rest front : Text} :
    Closes (c :: rest) front ↔ ∃ more, front = c :: more ∧ Closes rest more := by
  constructor
  · rintro ⟨hquote, heven⟩
    cases front with
    | nil => exact absurd (List.cons_prefix_cons.1 hquote).1.symm hq
    | cons d more =>
      obtain ⟨rfl, hmore⟩ := List.cons_prefix_cons.1 hquote
      rw [backslashes_cons_of_ne hb] at heven
      exact ⟨more, rfl, hmore, heven⟩
  · rintro ⟨more, rfl, hquote, heven⟩
    exact ⟨List.cons_prefix_cons.2 ⟨rfl, hquote⟩, by rwa [backslashes_cons_of_ne hb]⟩

/-- Behind an escape. -/
theorem closes_escape_iff {c : Char} {rest front : Text} :
    Closes ('\\' :: c :: rest) front ↔ ∃ more, front = '\\' :: c :: more ∧ Closes rest more := by
  constructor
  · rintro ⟨hquote, heven⟩
    match front with
    | [] => exact absurd (List.cons_prefix_cons.1 hquote).1 (by decide)
    | [d] =>
      -- the quote is the escaped character
      obtain ⟨rfl, -⟩ := List.cons_prefix_cons.1 hquote
      exact absurd heven (by decide)
    | d :: e :: more =>
      obtain ⟨rfl, htail⟩ := List.cons_prefix_cons.1 hquote
      obtain ⟨rfl, hmore⟩ := List.cons_prefix_cons.1 htail
      exact ⟨more, rfl, hmore, (even_backslashes_escape e more).1 heven⟩
  · rintro ⟨more, rfl, hquote, heven⟩
    exact ⟨List.cons_prefix_cons.2 ⟨rfl, List.cons_prefix_cons.2 ⟨rfl, hquote⟩⟩,
      (even_backslashes_escape c more).2 heven⟩

/-- Behind a backslash that escapes nothing. -/
theorem not_closes_backslash (front : Text) : ¬ Closes ['\\'] front := by
  rintro ⟨hquote, -⟩
  cases front with
  | nil => exact absurd (List.cons_prefix_cons.1 hquote).1 (by decide)
  | cons d more =>
    have htail := (List.cons_prefix_cons.1 hquote).2
    exact List.append_ne_nil_of_right_ne_nil more (List.cons_ne_nil _ _) (List.prefix_nil.1 htail)

/-- There is only one first quote. -/
theorem ClosesFirst.unique {t front other : Text} (h : ClosesFirst t front)
    (ho : ClosesFirst t other) : front = other := by
  have hlength : front.length = other.length :=
    Nat.le_antisymm (h.first other ho.toCloses) (ho.first front h.toCloses)
  have hbefore := List.prefix_of_prefix_length_le h.quote ho.quote (by simp [hlength])
  exact List.append_cancel_right (hbefore.eq_of_length (by simp [hlength]))

/-- What follows the first quote may be anything. -/
theorem ClosesFirst.append_right {t front : Text} (h : ClosesFirst t front) (more : Text) :
    ClosesFirst (front ++ ['"'] ++ more) front := by
  refine ⟨⟨List.prefix_append _ more, h.even⟩, fun other hother => Nat.not_lt.1 fun hlt => ?_⟩
  -- a quote before it would be one of the first text
  have hbefore : other ++ ['"'] <+: front ++ ['"'] :=
    List.prefix_of_prefix_length_le hother.quote (List.prefix_append _ more) (by simp; omega)
  exact Nat.not_lt.2 (h.first other ⟨hbefore.trans h.quote, hother.even⟩) hlt

/-- The first quote of a text that goes on with what no quote starts in. -/
theorem ClosesFirst.append (mark : Text) {rest front : Text} (h : ClosesFirst rest front)
    (hmark : ∀ other, Closes (mark ++ rest) other ↔ ∃ more, other = mark ++ more ∧ Closes rest more) :
    ClosesFirst (mark ++ rest) (mark ++ front) := by
  refine ⟨(hmark _).2 ⟨front, rfl, h.toCloses⟩, fun other hother => ?_⟩
  obtain ⟨more, rfl, hmore⟩ := (hmark other).1 hother
  have hle := h.first more hmore
  rw [List.length_append, List.length_append]
  omega

/-! ### The scan of a string alias -/

/-- A string alias ends at the first quote that is not escaped. -/
theorem closesFirst_of_alias? {t body after : Text} (h : alias? t = some (body, after)) :
    ∃ front, body = front ++ ['"'] ∧ ClosesFirst t front := by
  fun_induction alias? t generalizing body after with
  | case1 => simp at h
  | case2 => simp at h
  | case3 c rest ih =>
    obtain ⟨⟨b, a⟩, hb, he⟩ := Option.map_eq_some_iff.1 h
    obtain ⟨rfl, rfl⟩ := Prod.mk.inj he
    obtain ⟨front, rfl, hfirst⟩ := ih hb
    exact ⟨'\\' :: c :: front, rfl, hfirst.append ['\\', c] fun _ => closes_escape_iff⟩
  | case4 rest =>
    obtain ⟨rfl, rfl⟩ := Prod.mk.inj (Option.some.inj h)
    exact ⟨[], rfl, closes_quote rest, fun other _ => Nat.zero_le _⟩
  | case5 c rest hlast hescape hquote ih =>
    obtain ⟨⟨b, a⟩, hb, he⟩ := Option.map_eq_some_iff.1 h
    obtain ⟨rfl, rfl⟩ := Prod.mk.inj he
    obtain ⟨front, rfl, hfirst⟩ := ih hb
    have hc := ne_backslash hlast hescape
    exact ⟨c :: front, rfl, hfirst.append [c] fun _ => closes_cons_iff hquote hc⟩

/-- A text that is no string alias has no quote but escaped ones. -/
theorem not_closes_of_alias? {t : Text} (h : alias? t = none) (front : Text) : ¬ Closes t front := by
  fun_induction alias? t generalizing front with
  | case1 => exact not_closes_nil front
  | case2 => exact not_closes_backslash front
  | case3 c rest ih =>
    intro hcloses
    obtain ⟨more, rfl, hmore⟩ := closes_escape_iff.1 hcloses
    exact ih (Option.map_eq_none_iff.1 h) more hmore
  | case4 rest => simp at h
  | case5 c rest hlast hescape hquote ih =>
    intro hcloses
    have hc := ne_backslash hlast hescape
    obtain ⟨more, rfl, hmore⟩ := (closes_cons_iff hquote hc).1 hcloses
    exact ih (Option.map_eq_none_iff.1 h) more hmore

/-- **A text is a string alias just up to its first quote that is not escaped.** -/
theorem alias?_eq_some_iff {t body after : Text} :
    alias? t = some (body, after) ↔
      ∃ front, body = front ++ ['"'] ∧ body ++ after = t ∧ ClosesFirst t front := by
  constructor
  · intro h
    obtain ⟨front, hbody, hfirst⟩ := closesFirst_of_alias? h
    exact ⟨front, hbody, alias?_eq_some h, hfirst⟩
  · rintro ⟨front, rfl, hcut, hfirst⟩
    cases h : alias? t with
    | none => exact absurd hfirst.toCloses (not_closes_of_alias? h front)
    | some p =>
      obtain ⟨body, rest⟩ := p
      obtain ⟨other, rfl, hother⟩ := closesFirst_of_alias? h
      obtain rfl := hother.unique hfirst
      rw [List.append_cancel_left ((alias?_eq_some h).trans hcut.symm)]

theorem alias?_eq_none_iff {t : Text} : alias? t = none ↔ ∀ front, ¬ Closes t front := by
  refine ⟨not_closes_of_alias?, fun h => Option.eq_none_iff_forall_ne_some.2 fun p hp => ?_⟩
  obtain ⟨front, -, hfirst⟩ := closesFirst_of_alias? hp
  exact h front hfirst.toCloses

/-! ### Quoted tokens -/

/-- One character between single quotes, or a string alias: its last character is its first quote
that is not escaped. -/
inductive Quoted : Text → Prop where
  | character (c : Char) : Quoted ['\'', c, '\'']
  | stringAlias {front : Text} :
      ClosesFirst (front ++ ['"']) front → Quoted ('"' :: front ++ ['"'])

/-- **A quoted token is cut off a text just if the text starts with one.** -/
theorem quoted?_eq_some_iff {t token after : Text} :
    quoted? t = some (token, after) ↔ token ++ after = t ∧ Quoted token := by
  constructor
  · intro h
    refine ⟨quoted?_eq_some h, ?_⟩
    fun_cases quoted? t with
    | case1 c rest =>
      obtain ⟨rfl, rfl⟩ := Prod.mk.inj (Option.some.inj h)
      exact .character c
    | case2 rest =>
      obtain ⟨⟨b, a⟩, hb, he⟩ := Option.map_eq_some_iff.1 h
      obtain ⟨rfl, rfl⟩ := Prod.mk.inj he
      obtain ⟨front, rfl, hfirst⟩ := closesFirst_of_alias? hb
      have hself := hfirst.append_right []
      rw [List.append_nil] at hself
      exact .stringAlias hself
    | case3 => simp_all [quoted?]
  · rintro ⟨rfl, htoken⟩
    cases htoken with
    | character c => rfl
    | @stringAlias front hfirst =>
      have hafter := alias?_eq_some_iff.2 ⟨front, rfl, rfl, hfirst.append_right after⟩
      rw [List.cons_append, List.cons_append, quoted?, hafter, Option.map_some]

/-- A quoted token starts and ends with one and the same quote. -/
theorem exists_of_quoted? {t token after : Text} (h : quoted? t = some (token, after)) :
    ∃ q front, (q = '\'' ∨ q = '"') ∧ token = q :: front ++ [q] := by
  cases (quoted?_eq_some_iff.1 h).2 with
  | character c => exact ⟨'\'', [c], .inl rfl, rfl⟩
  | @stringAlias front _ => exact ⟨'"', front, .inr rfl, rfl⟩

/-- A quoted token is cut off any text that starts with it. -/
theorem quoted?_append_right {s token after : Text} (h : quoted? s = some (token, after))
    (more : Text) : quoted? (token ++ more) = some (token, more) :=
  quoted?_eq_some_iff.2 ⟨rfl, (quoted?_eq_some_iff.1 h).2⟩

/-! ### The length of a quoted token -/

/-- The bytes of the quoted token at the start of a text, quotes included. -/
def quotedLength? (t : Text) : Option Nat := (quoted? t).map fun p => byteLength p.1

theorem quotedLength?_eq_some_iff {t : Text} {n : Nat} : quotedLength? t = some n ↔
    ∃ token after, quoted? t = some (token, after) ∧ byteLength token = n := by
  rw [quotedLength?, Option.map_eq_some_iff, Prod.exists]

theorem quotedLength?_alias_eq_some_iff {body : Text} {n : Nat} :
    quotedLength? ('"' :: body) = some n ↔
      ∃ front, ClosesFirst body front ∧ byteLength ('"' :: front ++ ['"']) = n := by
  constructor
  · intro h
    obtain ⟨token, after, hq, rfl⟩ := quotedLength?_eq_some_iff.1 h
    obtain ⟨⟨b, a⟩, hb, he⟩ := Option.map_eq_some_iff.1 hq
    obtain ⟨rfl, rfl⟩ := Prod.mk.inj he
    obtain ⟨front, rfl, hfirst⟩ := closesFirst_of_alias? hb
    exact ⟨front, hfirst, rfl⟩
  · rintro ⟨front, hfirst, rfl⟩
    obtain ⟨after, hafter⟩ := hfirst.quote
    have hb := alias?_eq_some_iff.2 ⟨front, rfl, hafter, hfirst⟩
    exact quotedLength?_eq_some_iff.2 ⟨_, after, Option.map_eq_some_iff.2 ⟨_, hb, rfl⟩, rfl⟩

theorem quotedLength?_alias_eq_none_iff {body : Text} :
    quotedLength? ('"' :: body) = none ↔ ∀ front, ¬ Closes body front := by
  rw [quotedLength?, Option.map_eq_none_iff, quoted?, Option.map_eq_none_iff, alias?_eq_none_iff]

/-- **Where a quoted token ends is settled by the token.** It ends on a character, it stands between
two quotes of one kind, and it has its length whatever follows it. A string alias ends behind the
first quote that an even number of backslashes precedes, and a text that starts like one and has no
such quote has no length. -/
theorem quotedLength?_stable (s : Text) :
    (∀ n, quotedLength? s = some n →
      ∃ token, token <+: s ∧ byteLength token = n ∧
        (∃ q inner, (q = '\'' ∨ q = '"') ∧ token = q :: inner ++ [q]) ∧
        ∀ t, quotedLength? (token ++ t) = some n) ∧
    ∀ body, s = '"' :: body →
      (∀ n, quotedLength? s = some n ↔
        ∃ front, ClosesFirst body front ∧ byteLength ('"' :: front ++ ['"']) = n) ∧
      (quotedLength? s = none ↔ ∀ front, ¬ Closes body front) := by
  constructor
  · intro n h
    obtain ⟨token, after, hq, hn⟩ := quotedLength?_eq_some_iff.1 h
    refine ⟨token, ⟨after, quoted?_eq_some hq⟩, hn, exists_of_quoted? hq, fun t => ?_⟩
    exact quotedLength?_eq_some_iff.2 ⟨token, t, quoted?_append_right hq t, hn⟩
  · rintro body rfl
    exact ⟨fun n => quotedLength?_alias_eq_some_iff, quotedLength?_alias_eq_none_iff⟩

/-- A string alias with a letter of two bytes, an escaped quote and an escaped backslash. -/
def escapedAlias : Text := "\"é\\\"\\\\\" (258)".toList

/-- The escaped quote does not end it, and the quote behind the escaped backslash does. -/
theorem quotedLength?_stable_escapedAlias :
    quotedLength? escapedAlias = some 8 ∧ escapedAlias = '"' :: escapedAlias.tail ∧
      (∃ token, token <+: escapedAlias ∧ byteLength token = 8 ∧
        (∃ q inner, (q = '\'' ∨ q = '"') ∧ token = q :: inner ++ [q]) ∧
        ∀ t, quotedLength? (token ++ t) = some 8) ∧
      ∃ front, ClosesFirst escapedAlias.tail front ∧ byteLength ('"' :: front ++ ['"']) = 8 := by
  have hlength : quotedLength? escapedAlias = some 8 := by decide
  obtain ⟨hstable, halias⟩ := quotedLength?_stable escapedAlias
  exact ⟨hlength, rfl, hstable 8 hlength, ((halias escapedAlias.tail rfl).1 8).1 hlength⟩

end ParserTables.Token
