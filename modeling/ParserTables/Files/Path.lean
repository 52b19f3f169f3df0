import ParserTables.Text.Basic

/-! Paths as texts.

A path is names with slashes between them. Slashes at its end, and dots that stand for
the directory itself, do not count when its last name is looked for. -/
namespace ParserTables.Path

/-- The parts of a path between its slashes. -/
def parts (path : Text) : List Text :=
  path.foldr
    (fun c ps =>
      if c = '/' then [] :: ps
      else
        match ps with
        | [] => [[c]]
        | p :: rest => (c :: p) :: rest)
    [[]]

/-- The path of something below a directory. -/
def join (directory path : Text) : Text :=
  if path.head? = some '/' || directory.isEmpty then path
  else if directory.getLast? = some '/' then directory ++ path
  else directory ++ '/' :: path

/-- A path read backwards, from its last name on. -/
def fromLast : Text → Text
  | '/' :: rest => fromLast rest
  | '.' :: '/' :: rest => fromLast rest
  | path => path

/-- What stands before the last name of a path, and that name. -/
def split? (path : Text) : Option (Text × Text) :=
  let backwards := fromLast path.reverse
  let name := (backwards.takeWhile (· != '/')).reverse
  if name = "".toList ∨ name = ".".toList ∨ name = "..".toList then none
  else some ((backwards.dropWhile (· != '/')).reverse, name)

/-- The path of the directory that holds a path. -/
def parent? (path : Text) : Option Text :=
  match fromLast path.reverse with
  | [] => none
  | backwards =>
    let before := backwards.dropWhile (· != '/')
    match fromLast before with
    | [] => some (before.take 1)
    | holder => some holder.reverse

theorem length_fromLast_le (path : Text) : (fromLast path).length ≤ path.length := by
  fun_induction fromLast path with
  | case1 rest ih => exact Nat.le_succ_of_le ih
  | case2 rest ih => exact Nat.le_succ_of_le (Nat.le_succ_of_le ih)
  | case3 => exact Nat.le_refl _

theorem head?_fromLast (path : Text) : (fromLast path).head? ≠ some '/' := by
  fun_induction fromLast path with
  | case1 rest ih => exact ih
  | case2 rest ih => exact ih
  | case3 path h => cases path <;> simp_all

/-- The directory that holds a path has a shorter path. -/
theorem length_lt_of_parent? {path above : Text} (h : parent? path = some above) :
    above.length < path.length := by
  have hle := length_fromLast_le path.reverse
  have hhead := head?_fromLast path.reverse
  unfold parent? at h
  split at h
  · simp at h
  · rename_i backwards hne
    generalize fromLast path.reverse = backwards at *
    cases backwards with
    | nil => exact absurd rfl hne
    | cons c rest =>
      have hc : c ≠ '/' := by simpa using hhead
      have hdrop : ((c :: rest).dropWhile (· != '/')).length ≤ rest.length := by
        rw [List.dropWhile_cons_of_pos (by simpa using hc)]
        exact (List.dropWhile_sublist _).length_le
      have hbefore := length_fromLast_le ((c :: rest).dropWhile (· != '/'))
      rw [List.length_reverse, List.length_cons] at hle
      dsimp only at h
      split at h
      · rw [← Option.some.inj h, List.length_take]
        omega
      · rw [← Option.some.inj h, List.length_reverse]
        omega

/-- A path and those of the directories above it, as far as it names them. -/
def ancestors (path : Text) : List Text :=
  if path.isEmpty then []
  else
    match _h : parent? path with
    | none => [path]
    | some above => path :: ancestors above
termination_by path.length
decreasing_by exact length_lt_of_parent? _h

/-- A name without its extension, and the extension: what follows the last dot, unless the
name starts with that dot. -/
def splitExtension (name : Text) : Text × Option Text :=
  let backwards := name.reverse
  match backwards.dropWhile (· != '.') with
  | _ :: c :: stem => ((c :: stem).reverse, some (backwards.takeWhile (· != '.')).reverse)
  | _ => (name, none)

/-- The extension of a path's last name. -/
def extension? (path : Text) : Option Text :=
  (split? path).bind fun (_, name) => (splitExtension name).2

/-- A path whose last name has another extension. A path with no last name stays. -/
def withExtension (path extension : Text) : Text :=
  match split? path with
  | none => path
  | some (before, name) => before ++ (splitExtension name).1 ++ '.' :: extension

end ParserTables.Path
