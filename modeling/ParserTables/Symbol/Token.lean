import ParserTables.Text.Basic

/-! The tokens a report writes for its symbols.

A symbol is written as a bare word, as a quoted character or as a string alias, and
only the last two may hold blanks. `quoted?` cuts a quoted token off a text; it looks
no further than the closing quote (`quoted?_append`) and loses nothing
(`quoted?_eq_some`). `first` cuts off the first token of any kind. -/
namespace ParserTables.Token
open Text

/-! ### Quoted tokens -/

/-- The rest of a string alias up to its closing quote, and what follows it. A
backslash takes the character after it along, whatever it is. -/
def alias? : Text → Option (Text × Text)
  | [] => none
  | ['\\'] => none
  | '\\' :: c :: rest => (alias? rest).map fun (body, after) => ('\\' :: c :: body, after)
  | '"' :: rest => some (['"'], rest)
  | c :: rest => (alias? rest).map fun (body, after) => (c :: body, after)

/-- The quoted character or string alias at the start of a text, quotes included, and
what follows it. -/
def quoted? : Text → Option (Text × Text)
  | '\'' :: c :: '\'' :: rest => some (['\'', c, '\''], rest)
  | '"' :: rest => (alias? rest).map fun (body, after) => ('"' :: body, after)
  | _ => none

theorem alias?_eq_some {t body after : Text} (h : alias? t = some (body, after)) :
    body ++ after = t := by
  fun_induction alias? t generalizing body after with
  | case1 => simp at h
  | case2 => simp at h
  | case3 c rest ih =>
    obtain ⟨⟨b, a⟩, hb, he⟩ := Option.map_eq_some_iff.1 h
    obtain ⟨rfl, rfl⟩ := Prod.mk.inj he
    simp [ih hb]
  | case4 rest =>
    obtain ⟨rfl, rfl⟩ := Prod.mk.inj (Option.some.inj h)
    rfl
  | case5 c rest _ _ _ ih =>
    obtain ⟨⟨b, a⟩, hb, he⟩ := Option.map_eq_some_iff.1 h
    obtain ⟨rfl, rfl⟩ := Prod.mk.inj he
    simp [ih hb]

/-- Nothing is lost: a quoted token and its rest are the text. -/
theorem quoted?_eq_some {t token after : Text} (h : quoted? t = some (token, after)) :
    token ++ after = t := by
  fun_cases quoted? t with
  | case1 c rest =>
    obtain ⟨rfl, rfl⟩ := Prod.mk.inj (Option.some.inj h)
    rfl
  | case2 rest =>
    obtain ⟨⟨b, a⟩, hb, he⟩ := Option.map_eq_some_iff.1 h
    obtain ⟨rfl, rfl⟩ := Prod.mk.inj he
    simp [alias?_eq_some hb]
  | case3 => simp_all [quoted?]

/-- The scan takes a character for itself only if it is no backslash. -/
theorem ne_backslash {c : Char} {rest : Text} (hlast : c = '\\' → rest = [] → False)
    (hescape : ∀ d more, c = '\\' → rest = d :: more → False) : c ≠ '\\' := by
  intro hc
  cases rest with
  | nil => exact hlast hc rfl
  | cons d more => exact hescape d more hc rfl

theorem alias?_append {t body after : Text} (h : alias? t = some (body, after)) (more : Text) :
    alias? (t ++ more) = some (body, after ++ more) := by
  fun_induction alias? t generalizing body after with
  | case1 => simp at h
  | case2 => simp at h
  | case3 c rest ih =>
    obtain ⟨⟨b, a⟩, hb, he⟩ := Option.map_eq_some_iff.1 h
    obtain ⟨rfl, rfl⟩ := Prod.mk.inj he
    simp [alias?, ih hb]
  | case4 rest =>
    obtain ⟨rfl, rfl⟩ := Prod.mk.inj (Option.some.inj h)
    rfl
  | case5 c rest hlast hescape hquote ih =>
    obtain ⟨⟨b, a⟩, hb, he⟩ := Option.map_eq_some_iff.1 h
    obtain ⟨rfl, rfl⟩ := Prod.mk.inj he
    have hc := ne_backslash hlast hescape
    rw [List.cons_append, alias?.eq_5] <;> simp_all

/-- What follows a quoted token has no part in where it ends. -/
theorem quoted?_append {t token after : Text} (h : quoted? t = some (token, after))
    (more : Text) : quoted? (t ++ more) = some (token, after ++ more) := by
  fun_cases quoted? t with
  | case1 c rest =>
    obtain ⟨rfl, rfl⟩ := Prod.mk.inj (Option.some.inj h)
    rfl
  | case2 rest =>
    obtain ⟨⟨b, a⟩, hb, he⟩ := Option.map_eq_some_iff.1 h
    obtain ⟨rfl, rfl⟩ := Prod.mk.inj he
    simp [quoted?, alias?_append hb]
  | case3 => simp_all [quoted?]

/-- A quoted token holds its quotes. -/
theorem ne_nil_of_quoted?_eq_some {t token after : Text}
    (h : quoted? t = some (token, after)) : token ≠ [] := by
  fun_cases quoted? t with
  | case1 c rest =>
    obtain ⟨rfl, rfl⟩ := Prod.mk.inj (Option.some.inj h)
    simp
  | case2 rest =>
    obtain ⟨⟨b, a⟩, hb, he⟩ := Option.map_eq_some_iff.1 h
    obtain ⟨rfl, rfl⟩ := Prod.mk.inj he
    simp
  | case3 => simp_all [quoted?]

/-- Is this text one quoted character or string alias, and nothing else? -/
def isQuoted (t : Text) : Bool := (quoted? t).any (·.2.isEmpty)

/-! ### Any token -/

/-- The token at the start of a text and what follows it: the quoted token there, or else
the text up to its first blank. -/
def first (t : Text) : Text × Text := (quoted? t).getD (word t, afterWord t)

theorem first_append (t : Text) : (first t).1 ++ (first t).2 = t := by
  unfold first
  cases h : quoted? t with
  | none => simp [word_append_afterWord]
  | some p => simpa using quoted?_eq_some h

/-- The first token of a text that starts with no blank has something in it. -/
theorem first_ne_nil {c : Char} (hc : isBlank c = false) (rest : Text) :
    (first (c :: rest)).1 ≠ [] := by
  unfold first
  cases hq : quoted? (c :: rest) with
  | none => simp [word, hc]
  | some p => simpa using ne_nil_of_quoted?_eq_some hq

/-- A token takes at least one character of a text that starts with no blank. -/
theorem length_first_lt {t rest : Text} {c : Char} (h : t = c :: rest) (hc : isBlank c = false) :
    (first t).2.length < t.length := by
  have hne : (first t).1 ≠ [] := h ▸ first_ne_nil hc rest
  have := congrArg List.length (first_append t)
  simp only [List.length_append] at this
  have := List.length_pos_iff.2 hne
  omega

/-- The tokens of a text, with any blanks around them. -/
def all (t : Text) : List Text :=
  match _h : trimStart t with
  | [] => []
  | c :: rest => (first (c :: rest)).1 :: all (first (c :: rest)).2
termination_by t.length
decreasing_by
  have := length_first_lt (rfl : c :: rest = c :: rest) (isBlank_of_trimStart_eq_cons _h)
  have := length_trimStart_le t
  simp only [_h] at this
  omega

end ParserTables.Token
