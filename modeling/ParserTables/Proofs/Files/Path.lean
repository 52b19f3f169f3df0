import ParserTables.Files.Tree

/-! Where paths lead.

A path is followed name by name from the top of a tree or from a home directory, and `Path.locate`
says where it ends. The path of something below a directory leads below the place of the directory,
whichever way that one is written (`locate_join`), and its extension is that of its last name
(`extension?_join`, `withExtension_join`). -/
namespace ParserTables

namespace Path

/-- A name that a directory can have for something in it. -/
def IsEntry (name : Text) : Prop := name ≠ [] ∧ name ≠ ['.'] ∧ name ≠ ['.', '.'] ∧ '/' ∉ name

instance : DecidablePred IsEntry := fun _ => inferInstanceAs (Decidable (_ ∧ _ ∧ _ ∧ _))

/-! ### Parts -/

theorem parts_cons (c : Char) (path : Text) :
    parts (c :: path) =
      if c = '/' then [] :: parts path
      else
        match parts path with
        | [] => [[c]]
        | p :: rest => (c :: p) :: rest :=
  List.foldr_cons ..

/-- A path is cut at its slashes. -/
theorem parts_eq_splitOn (path : Text) : parts path = path.splitOn '/' := by
  induction path with
  | nil => rfl
  | cons c path ih =>
    rw [parts_cons, ih, List.splitOn_cons_eq_if_modifyHead]
    by_cases hc : c = '/'
    · rw [if_pos hc, if_pos (beq_iff_eq.2 hc)]
    · rw [if_neg hc, if_neg (by simpa using hc)]
      cases hparts : path.splitOn '/' with
      | nil => exact absurd hparts (List.splitOn_ne_nil '/' path)
      | cons p rest => rfl

theorem parts_append (before after : Text) :
    parts (before ++ '/' :: after) = parts before ++ parts after := by
  simp only [parts_eq_splitOn, List.splitOn_append_cons_self]

/-- Names with slashes between them are the parts of their path. -/
theorem parts_join {names : Place} (hne : names ≠ []) (h : ∀ name ∈ names, IsEntry name) :
    parts (Text.join ['/'] names) = names := by
  rw [parts_eq_splitOn]
  exact List.splitOn_intercalate '/' (fun name hname => (h name hname).2.2.2) hne

/-- Such a path is not empty, as no name is. -/
theorem join_ne_nil {names : Place} (hne : names ≠ []) (h : ∀ name ∈ names, IsEntry name) :
    Text.join ['/'] names ≠ [] := by
  intro hnil
  have hparts := parts_join hne h
  rw [hnil] at hparts
  exact (h [] (hparts ▸ List.mem_cons_self)).1 rfl

/-- It does not start at the top of the tree. -/
theorem head?_join {names : Place} (h : ∀ name ∈ names, IsEntry name) :
    (Text.join ['/'] names).head? ≠ some '/' := by
  intro hhead
  by_cases hne : names = []
  · rw [hne] at hhead
    exact absurd hhead nofun
  · obtain ⟨rest, hrest⟩ := List.head?_eq_some_iff.1 hhead
    have hparts := parts_join hne h
    rw [hrest, parts_cons, if_pos rfl] at hparts
    exact (h [] (hparts ▸ List.mem_cons_self)).1 rfl

/-! ### Places -/

/-- The place that one part of a path leads to. -/
def enter (here : Place) (part : Text) : Place :=
  if part = [] || part = ['.'] then here
  else if part = ['.', '.'] then here.dropLast
  else here ++ [part]

/-- The place that a path leads to. -/
def locate (home : Place) (path : Text) : Place :=
  (parts path).foldl enter (if path.head? = some '/' then [] else home)

theorem foldl_enter {names : Place} (h : ∀ name ∈ names, IsEntry name) (here : Place) :
    names.foldl enter here = here ++ names := by
  induction names generalizing here with
  | nil => rw [List.append_nil]; rfl
  | cons name rest ih =>
    obtain ⟨⟨hne, hdot, hup, -⟩, hrest⟩ := List.forall_mem_cons.1 h
    have hname : enter here name = here ++ [name] := by simp [enter, hne, hdot, hup]
    rw [List.foldl_cons, hname, ih hrest, List.append_assoc, List.singleton_append]

/-- What stands before the path of something below a directory. -/
def within (directory : Text) : Text :=
  if directory.isEmpty then []
  else if directory.getLast? = some '/' then directory
  else directory ++ ['/']

theorem join_eq {path : Text} (h : path.head? ≠ some '/') (directory : Text) :
    join directory path = within directory ++ path := by
  unfold join within
  by_cases hempty : directory.isEmpty
  · rw [if_pos (by simp [hempty]), if_pos hempty]
    rfl
  · rw [if_neg (by simp [h, hempty]), if_neg hempty]
    split <;> simp

/-- The path of a directory, with the slash at its end that it may have or lack. -/
theorem exists_within {directory : Text} (h : directory ≠ []) :
    ∃ before, within directory = before ++ ['/'] ∧
      (directory = before ++ ['/'] ∨ directory = before) := by
  unfold within
  rw [if_neg (by simpa using h)]
  split
  · rename_i hlast
    obtain ⟨before, rfl⟩ := List.getLast?_eq_some_iff.1 hlast
    exact ⟨before, rfl, .inl rfl⟩
  · exact ⟨directory, rfl, .inr rfl⟩

/-- **Something below a directory** is below the place of the directory. -/
theorem locate_join {names : Place} (hne : names ≠ []) (h : ∀ name ∈ names, IsEntry name)
    (home : Place) (directory : Text) :
    locate home (join directory (Text.join ['/'] names)) = locate home directory ++ names := by
  rw [join_eq (head?_join h)]
  by_cases hdirectory : directory = []
  · rw [hdirectory]
    show locate home (Text.join ['/'] names) = home ++ names
    rw [locate, if_neg (head?_join h), parts_join hne h, foldl_enter h]
  · obtain ⟨before, hwithin, hbefore⟩ := exists_within hdirectory
    have hhead : (within directory ++ Text.join ['/'] names).head? = directory.head? := by
      obtain ⟨c, more, rfl⟩ := List.exists_cons_of_ne_nil hdirectory
      rcases hbefore with hbefore | hbefore
      · rw [hwithin, ← hbefore]
        rfl
      · rw [hwithin, ← hbefore]
        rfl
    have hparts : ∀ here, (parts directory).foldl enter here = (parts before).foldl enter here := by
      intro here
      rcases hbefore with rfl | rfl
      · rw [parts_append, List.foldl_append]
        rfl
      · rfl
    rw [locate, hhead, hwithin, List.append_assoc, List.singleton_append, parts_append,
      parts_join hne h, List.foldl_append, foldl_enter h, ← hparts, locate]

/-! ### Extensions -/

/-- What may stand before the last name of a path. -/
def Leads (before : Text) : Prop := before = [] ∨ ∃ more, before = more ++ ['/']

theorem leads_within (directory : Text) : Leads (within directory) := by
  by_cases h : directory = []
  · exact .inl (by rw [h]; rfl)
  · obtain ⟨before, hwithin, -⟩ := exists_within h
    exact .inr ⟨before, hwithin⟩

theorem Leads.append {a b : Text} (ha : Leads a) (hb : Leads b) : Leads (a ++ b) := by
  rcases hb with rfl | ⟨more, rfl⟩
  · rwa [List.append_nil]
  · exact .inr ⟨a ++ more, (List.append_assoc ..).symm⟩

/-- The last of some names stands at the end of their path. -/
theorem exists_join_concat (folder : Place) :
    ∃ before, Leads before ∧ ∀ name, Text.join ['/'] (folder ++ [name]) = before ++ name := by
  induction folder with
  | nil => exact ⟨[], .inl rfl, fun name => by simp [Text.join]⟩
  | cons first rest ih =>
    obtain ⟨before, hleads, hjoin⟩ := ih
    refine ⟨first ++ ['/'] ++ before, ?_, fun name => ?_⟩
    · exact Leads.append (.inr ⟨first, rfl⟩) hleads
    · obtain ⟨second, more, hmore⟩ := List.exists_cons_of_ne_nil (l := rest ++ [name]) (by simp)
      have hrest := hjoin name
      rw [List.cons_append, hmore, Text.join_cons_cons, ← hmore, hrest, List.append_assoc,
        List.append_assoc]

/-- A path that ends with a name is read backwards from that name. -/
theorem fromLast_append {backwards : Text} (hne : backwards ≠ []) (hdot : backwards ≠ ['.'])
    (hslash : '/' ∉ backwards) (rest : Text) :
    fromLast (backwards ++ rest) = backwards ++ rest := by
  cases backwards with
  | nil => exact absurd rfl hne
  | cons c more =>
    have hc : c ≠ '/' := fun hc => hslash (hc ▸ List.mem_cons_self)
    unfold fromLast
    split
    · rename_i heq
      exact absurd (List.cons.inj heq).1 hc
    · rename_i tail heq
      obtain ⟨rfl, hmore⟩ := List.cons.inj heq
      cases more with
      | nil => exact absurd rfl hdot
      | cons d more =>
        obtain rfl := (List.cons.inj hmore).1
        exact absurd (List.mem_cons_of_mem _ List.mem_cons_self) hslash
    · rfl

/-- A path ends with its last name. -/
theorem split?_append {before name : Text} (hbefore : Leads before) (hname : IsEntry name) :
    split? (before ++ name) = some (before, name) := by
  obtain ⟨hne, hdot, hup, hslash⟩ := hname
  have hlast : fromLast (before ++ name).reverse = name.reverse ++ before.reverse := by
    rw [List.reverse_append]
    exact fromLast_append (by simpa using hne) (by simpa [List.reverse_eq_iff] using hdot)
      (by simpa using hslash) _
  have hin : ∀ c ∈ name.reverse, (c != '/') = true := fun c hc => by
    rw [bne_iff_ne]
    rintro rfl
    exact hslash (List.mem_reverse.1 hc)
  have htake : (name.reverse ++ before.reverse).takeWhile (· != '/') = name.reverse := by
    rw [List.takeWhile_append_of_pos hin]
    rcases hbefore with rfl | ⟨more, rfl⟩
    · simp
    · simp
  have hdrop : (name.reverse ++ before.reverse).dropWhile (· != '/') = before.reverse := by
    rw [List.dropWhile_append_of_pos hin]
    rcases hbefore with rfl | ⟨more, rfl⟩
    · simp
    · simp
  unfold split?
  dsimp only
  rw [hlast, htake, hdrop, List.reverse_reverse, List.reverse_reverse]
  simp [hne, hdot, hup]

/-- A name with an extension. -/
theorem splitExtension_append {stem extension : Text} (hstem : stem ≠ [])
    (hextension : '.' ∉ extension) :
    splitExtension (stem ++ '.' :: extension) = (stem, some extension) := by
  have hin : ∀ c ∈ extension.reverse, (c != '.') = true := fun c hc => by
    rw [bne_iff_ne]
    rintro rfl
    exact hextension (List.mem_reverse.1 hc)
  obtain ⟨c, more, hrev⟩ := List.exists_cons_of_ne_nil (l := stem.reverse) (by simpa using hstem)
  have hname : (stem ++ '.' :: extension).reverse = extension.reverse ++ '.' :: c :: more := by
    rw [List.reverse_append, List.reverse_cons, hrev]
    simp
  have hdrop : (extension.reverse ++ '.' :: c :: more).dropWhile (· != '.') = '.' :: c :: more := by
    rw [List.dropWhile_append_of_pos hin]
    simp
  have htake : (extension.reverse ++ '.' :: c :: more).takeWhile (· != '.') = extension.reverse := by
    rw [List.takeWhile_append_of_pos hin]
    simp
  unfold splitExtension
  dsimp only
  rw [hname, hdrop, htake]
  show ((c :: more).reverse, some extension.reverse.reverse) = _
  rw [← hrev, List.reverse_reverse, List.reverse_reverse]

/-- The extension of a name stands after a dot and something before it. -/
theorem exists_stem {name extension : Text} (h : (splitExtension name).2 = some extension) :
    ∃ stem, stem ≠ [] ∧ '.' ∉ extension ∧ name = stem ++ '.' :: extension := by
  unfold splitExtension at h
  dsimp only at h
  split at h
  · rename_i d c stem hdrop
    have hext := Option.some.inj h
    have hdot : d = '.' := by
      have := List.head?_dropWhile_not (· != '.') name.reverse
      rw [hdrop] at this
      simpa using this
    have hsplit := List.takeWhile_append_dropWhile (p := (· != '.')) (l := name.reverse)
    refine ⟨(c :: stem).reverse, by simp, ?_, ?_⟩
    · rw [← hext, List.mem_reverse]
      intro hmem
      exact absurd (List.all_eq_true.1 List.all_takeWhile '.' hmem) (by simp)
    · rw [← List.reverse_reverse name, ← hsplit, hdrop, hdot, ← hext]
      simp
  · exact absurd h nofun

section Below
variable {folder : Place} {name : Text} (hfolder : ∀ n ∈ folder, IsEntry n) (hname : IsEntry name)
include hfolder hname

/-- The last name of something below a directory. -/
theorem split?_join (directory : Text) :
    ∃ before, Leads before ∧ split? (join directory (Text.join ['/'] (folder ++ [name]))) =
      some (before, name) ∧ ∀ other, IsEntry other →
        join directory (Text.join ['/'] (folder ++ [other])) = before ++ other := by
  have hall : ∀ other, IsEntry other → ∀ n ∈ folder ++ [other], IsEntry n := by
    intro other hother n hn
    rcases List.mem_append.1 hn with hn | hn
    · exact hfolder n hn
    · exact List.mem_singleton.1 hn ▸ hother
  obtain ⟨before, hleads, hjoin⟩ := exists_join_concat folder
  have hwhole : ∀ other, IsEntry other → join directory (Text.join ['/'] (folder ++ [other])) =
      (within directory ++ before) ++ other := by
    intro other hother
    rw [join_eq (head?_join (hall other hother)), hjoin, List.append_assoc]
  have hleads' := (leads_within directory).append hleads
  exact ⟨within directory ++ before, hleads',
    by rw [hwhole name hname, split?_append hleads' hname], hwhole⟩

/-- **The extension** of something below a directory is that of its name. -/
theorem extension?_join (directory : Text) :
    extension? (join directory (Text.join ['/'] (folder ++ [name]))) = (splitExtension name).2 := by
  obtain ⟨before, -, hsplit, -⟩ := split?_join hfolder hname directory
  rw [extension?, hsplit]
  rfl

end Below

/-- **Another extension** gives a path in the same directory. -/
theorem withExtension_join {folder : Place} (hfolder : ∀ n ∈ folder, IsEntry n)
    {stem old new : Text} (hstem : stem ≠ []) (hold : '.' ∉ old) (hname : IsEntry (stem ++ '.' :: old))
    (hnew : IsEntry (stem ++ '.' :: new)) (directory : Text) :
    withExtension (join directory (Text.join ['/'] (folder ++ [stem ++ '.' :: old]))) new =
      join directory (Text.join ['/'] (folder ++ [stem ++ '.' :: new])) := by
  obtain ⟨before, -, hsplit, hwhole⟩ := split?_join hfolder hname directory
  rw [withExtension, hsplit, hwhole _ hnew]
  dsimp only
  rw [splitExtension_append hstem hold, List.append_assoc]

end Path
end ParserTables
