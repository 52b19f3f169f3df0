import Mathlib.Data.List.Nodup
import Mathlib.Logic.Function.Basic
import ParserTables.Proofs.Files.Path

/-! Files as a map from places to contents.

A `Disk` is what file operations act on if nothing but a write changes a file and a file is found
under every path that leads to its place. `DirectoryAccess.ActsOn` says of some operations that
their states stand for disks in this way, and `Disk.Visits` that a walk below a directory comes by
every file of a kind once. A tree of files satisfies both (`Tree.actsOn`, `Tree.WellFormed.visits`). -/
namespace ParserTables

/-- What is in the files at some places, and where relative paths start. -/
structure Disk where
  home : Place
  files : Place → Option Content

namespace Disk

/-- The place that a path leads to. -/
def place (d : Disk) (path : Text) : Place := Path.locate d.home path

/-- The disk with a content in the file at a path, new or not. -/
def put (d : Disk) (path : Text) (c : Content) : Disk :=
  { d with files := Function.update d.files (d.place path) (some c) }

theorem files_put_self (d : Disk) (path : Text) (c : Content) :
    (d.put path c).files (d.place path) = some c :=
  Function.update_self ..

theorem files_put_of_ne {d : Disk} {path : Text} {q : Place} (h : q ≠ d.place path) (c : Content) :
    (d.put path c).files q = d.files q :=
  Function.update_of_ne h ..

/-- A walk visits the files below a directory that are wanted, each of them once. What else it comes
by is left open: there may be files among it that were not there when the walk began. -/
structure Visits (d : Disk) (directory : Text) (wanted : Text → Bool) (paths : List Text) : Prop
    where
  once : (paths.filter wanted).Nodup
  mem_iff : ∀ path, wanted path = true → (path ∈ paths ↔
    ∃ names, names ≠ [] ∧ (∀ name ∈ names, Path.IsEntry name) ∧
      path = Text.join ['/'] names ∧ d.files (d.place directory ++ names) ≠ none)

end Disk

/-- The operations act on a disk: what they come to, if they do not fail, is read from the disk and
known of it. -/
structure DirectoryAccess.ActsOn {σ : Type} (fs : DirectoryAccess (StateM σ)) (disk : σ → Disk) :
    Prop where
  read : ∀ {path text s s'}, fs.read path s = (.ok text, s') →
    (disk s).files ((disk s).place path) = some (.text text) ∧ disk s' = disk s
  write : ∀ {path text s s'}, fs.write path text s = (.ok (), s') →
    disk s' = (disk s).put path (.text text)
  makeDirectories : ∀ {path s s'}, fs.makeDirectories path s = (.ok (), s') → disk s' = disk s
  below : ∀ {path walk s s'}, fs.below path s = (walk, s') → disk s' = disk s

/-! ### A tree of files -/

namespace Tree

/-- The files of a tree, by place. -/
def disk (t : Tree) : Disk where
  home := t.home
  files := t.file?

/-- The place of a destination. -/
def Destination.place : Destination → Place
  | .file p _ _ => p
  | .directory p => p
  | .vacant p _ => p

/-- What is looked up at a destination. -/
def Destination.Found (t : Tree) : Destination → Prop
  | .file p c _ => t.file? p = some c
  | _ => True

/-- Empty parts of a path lead nowhere else. -/
theorem foldl_enter_isEmpty {parts : List Text} (h : parts.all (·.isEmpty) = true) (here : Place) :
    parts.foldl Path.enter here = here := by
  induction parts with
  | nil => rfl
  | cons part rest ih =>
    rw [List.all_cons, Bool.and_eq_true] at h
    rw [List.foldl_cons, List.isEmpty_iff.1 h.1]
    exact ih h.2

/-- **Where a path ends** in a tree is where it leads to. -/
theorem follow_eq_ok {t : Tree} {here : Place} {parts : List Text} {d : Destination}
    (h : t.follow here parts = .ok d) : d.place = parts.foldl Path.enter here ∧ d.Found t := by
  induction parts generalizing here with
  | nil =>
    unfold follow at h
    rw [← Except.ok.inj h]
    exact ⟨rfl, trivial⟩
  | cons part rest ih =>
    unfold follow at h
    rw [List.foldl_cons]
    by_cases hstay : part = [] ∨ part = ['.']
    · rw [if_pos (by simpa using hstay)] at h
      rw [show Path.enter here part = here from if_pos (by simpa using hstay)]
      exact ih h
    · rw [if_neg (by simpa using hstay)] at h
      rw [Path.enter, if_neg (by simpa using hstay)]
      by_cases hup : part = ['.', '.']
      · rw [if_pos hup] at h ⊢
        exact ih h
      · rw [if_neg hup] at h ⊢
        split at h
        · cases h
        · dsimp only at h
          split at h
          · rename_i c hfile
            split at h
            · rename_i hlast
              rw [← Except.ok.inj h, foldl_enter_isEmpty hlast]
              exact ⟨rfl, hfile⟩
            · cases h
          · split at h
            · exact ih h
            · split at h
              · rename_i hlast
                rw [← Except.ok.inj h, foldl_enter_isEmpty hlast]
                exact ⟨rfl, trivial⟩
              · cases h

theorem destination_eq_ok {t : Tree} {path : Text} {d : Destination}
    (h : t.destination path = .ok d) : d.place = t.disk.place path ∧ d.Found t := by
  unfold destination at h
  split at h
  · exact absurd h nofun
  · split at h
    · exact absurd h nofun
    · split at h
      · exact absurd h nofun
      · exact follow_eq_ok h

/-! ### What the operations on a tree do to it -/

theorem content_eq_ok {t : Tree} {path : Text} {c : Content} (h : t.content path = .ok (some c)) :
    t.file? (t.disk.place path) = some c := by
  unfold content at h
  cases hd : t.destination path with
  | error e => exact absurd (hd ▸ h) nofun
  | ok d =>
    obtain ⟨hplace, hfound⟩ := destination_eq_ok hd
    rw [hd] at h
    cases d with
    | file p c' closed =>
      cases closed with
      | true => exact absurd h nofun
      | false =>
        obtain rfl := Option.some.inj (Except.ok.inj h)
        exact hplace ▸ hfound
    | directory p => exact absurd h nofun
    | vacant p closed => exact absurd h nofun

theorem read_eq_ok {t : Tree} {path text : Text} (h : t.read path = .ok text) :
    t.file? (t.disk.place path) = some (.text text) := by
  unfold read at h
  cases hc : t.content path with
  | error e => exact absurd (hc ▸ h) nofun
  | ok c =>
    rw [hc] at h
    cases c with
    | none => exact absurd h nofun
    | some c =>
      cases c with
      | text text' =>
        obtain rfl : text' = text := Except.ok.inj h
        exact content_eq_ok hc
      | bytes b => exact absurd h nofun

/-- A file that is put somewhere is the only one that changes. -/
theorem file?_put (t : Tree) (p : Place) (c : Content) :
    (t.put p c).file? = Function.update t.file? p (some c) := by
  funext q
  show ((p, c) :: t.files.filter (·.1 != p)).lookup q = _
  rw [List.lookup_cons]
  by_cases hq : q = p
  · subst hq
    rw [beq_self_eq_true, Function.update_self]
  · rw [beq_false_of_ne hq, Function.update_of_ne hq]
    show (t.files.filter (·.1 != p)).lookup q = t.files.lookup q
    induction t.files with
    | nil => rfl
    | cons file rest ih =>
      obtain ⟨p', c'⟩ := file
      by_cases hp : p' = p
      · subst hp
        rw [List.filter_cons_of_neg (by simp), List.lookup_cons, beq_false_of_ne hq]
        exact ih
      · rw [List.filter_cons_of_pos (by simpa using hp), List.lookup_cons, List.lookup_cons, ih]

theorem store_eq_ok {t t' : Tree} {path : Text} {c : Content} (h : t.store path c = .ok t') :
    t'.disk = t.disk.put path c := by
  have hput : ∀ {p}, p = t.disk.place path → (t.put p c).disk = t.disk.put path c := by
    rintro p rfl
    exact congrArg (Disk.mk t.home) (file?_put t _ c)
  unfold store at h
  cases hd : t.destination path with
  | error e => exact absurd (hd ▸ h) nofun
  | ok d =>
    obtain ⟨hplace, -⟩ := destination_eq_ok hd
    rw [hd] at h
    cases d with
    | directory p => exact absurd h nofun
    | file p c' closed =>
      cases closed with
      | true => exact absurd h nofun
      | false => exact Except.ok.inj h ▸ hput hplace
    | vacant p closed =>
      cases closed with
      | true => exact absurd h nofun
      | false => exact Except.ok.inj h ▸ hput hplace

/-- A directory that is made changes no file. -/
theorem makeDirectory_eq_ok {t t' : Tree} {path : Text} (h : t.makeDirectory path = .ok t') :
    t'.disk = t.disk := by
  unfold makeDirectory at h
  cases hd : t.destination path with
  | error e => exact absurd (hd ▸ h) nofun
  | ok d =>
    rw [hd] at h
    cases d with
    | vacant p closed => exact Except.ok.inj h ▸ rfl
    | file p c closed => exact absurd h nofun
    | directory p => exact absurd h nofun

theorem ensureDirectory_eq_ok {t t' : Tree} {path : Text} (h : t.ensureDirectory path = .ok t') :
    t'.disk = t.disk := by
  unfold ensureDirectory at h
  split at h
  · split at h
    · exact Except.ok.inj h ▸ rfl
    · exact absurd h nofun
  · exact makeDirectory_eq_ok h

theorem ensureChain_eq_ok {t t' : Tree} {paths : List Text} (h : t.ensureChain paths = .ok t') :
    t'.disk = t.disk := by
  induction paths generalizing t' with
  | nil => exact Except.ok.inj h ▸ rfl
  | cons path above ih =>
    rw [ensureChain] at h
    split at h
    · cases hchain : t.ensureChain above with
      | error e => exact absurd (hchain ▸ h) nofun
      | ok t'' =>
        rw [hchain] at h
        exact (ensureDirectory_eq_ok h).trans (ih hchain)
    · exact ensureDirectory_eq_ok h

theorem change_eq_ok {f : Tree → Except FileError Tree} {t t' : Tree}
    (h : change f t = (.ok (), t')) : f t = .ok t' := by
  unfold change at h
  split at h
  · rename_i t'' hf
    rw [hf, (Prod.mk.inj h).2]
  · exact absurd (Prod.mk.inj h).1 nofun

/-- **The operations on a tree** act on its files as on a map. -/
theorem actsOn : access.ActsOn disk where
  read h := by
    obtain ⟨hread, rfl⟩ := Prod.mk.inj h
    exact ⟨read_eq_ok hread, rfl⟩
  write {path text _ _} h := store_eq_ok (change_eq_ok (f := (·.store path (.text text))) h)
  makeDirectories {path _ _} h := ensureChain_eq_ok (change_eq_ok (f := (·.makeDirectories path)) h)
  below h := congrArg disk (Prod.mk.inj h).2.symm

/-! ### What a walk in a tree visits -/

/-- Every file has a place of its own and names that a directory can have. -/
structure WellFormed (t : Tree) : Prop where
  nodup : (t.files.map Prod.fst).Nodup
  entries : ∀ file ∈ t.files, ∀ name ∈ file.1, Path.IsEntry name

theorem file?_ne_none_iff {t : Tree} {p : Place} :
    t.file? p ≠ none ↔ p ∈ t.files.map Prod.fst := by
  rw [file?, Ne, List.lookup_eq_none_iff]
  simp

/-- The names below a place that lead to its files. -/
def namesBelow (t : Tree) (p : Place) : List Place :=
  (t.files.map Prod.fst).filterMap fun q => if p.isPrefixOf q then some (q.drop p.length) else none

theorem mem_namesBelow_iff {t : Tree} {p names : Place} :
    names ∈ t.namesBelow p ↔ t.file? (p ++ names) ≠ none := by
  rw [file?_ne_none_iff, namesBelow, List.mem_filterMap]
  constructor
  · rintro ⟨q, hq, hnames⟩
    split at hnames
    · rename_i hprefix
      obtain ⟨rest, rfl⟩ := List.isPrefixOf_iff_prefix.1 hprefix
      rw [List.drop_left] at hnames
      exact Option.some.inj hnames ▸ hq
    · exact absurd hnames nofun
  · intro hq
    refine ⟨p ++ names, hq, ?_⟩
    rw [if_pos (List.isPrefixOf_iff_prefix.2 (List.prefix_append ..)), List.drop_left]

theorem WellFormed.nodup_namesBelow {t : Tree} (h : t.WellFormed) (p : Place) :
    (t.namesBelow p).Nodup := by
  refine h.nodup.filterMap fun q q' names hq hq' => ?_
  split at hq
  · split at hq'
    · rename_i hprefix hprefix'
      obtain ⟨rest, rfl⟩ := List.isPrefixOf_iff_prefix.1 hprefix
      obtain ⟨rest', rfl⟩ := List.isPrefixOf_iff_prefix.1 hprefix'
      rw [List.drop_left] at hq hq'
      rw [Option.some.inj (Option.mem_def.1 hq), Option.some.inj (Option.mem_def.1 hq')]
    · exact absurd hq' nofun
  · exact absurd hq nofun

/-- The walk below a directory finds the names below its place. -/
theorem below_eq_ok {t : Tree} {directory : Text} {paths : List Text}
    (h : t.below directory = .ok paths) (hdirectory : t.file? (t.disk.place directory) = none) :
    paths.Perm ((t.namesBelow (t.disk.place directory)).map (Text.join ['/'])) := by
  unfold below at h
  cases hd : t.destination directory with
  | error e => exact absurd (hd ▸ h) nofun
  | ok d =>
    obtain ⟨hplace, hfound⟩ := destination_eq_ok hd
    rw [hd] at h
    cases d with
    | file p c closed =>
      have hfile : t.file? (t.disk.place directory) = some c := hplace ▸ hfound
      exact absurd (hdirectory.symm.trans hfile) nofun
    | directory p =>
      obtain rfl : p = t.disk.place directory := hplace
      rw [← Except.ok.inj h, namesBelow, List.filterMap_map]
      exact (List.mergeSort_perm ..).map _
    | vacant p closed => exact absurd h nofun

/-- **A walk in a tree** visits the files below a directory, whichever are wanted, each of them
once. -/
theorem WellFormed.visits {t : Tree} (h : t.WellFormed) {directory : Text}
    (hdirectory : t.file? (t.disk.place directory) = none) {paths : List Text}
    (hwalk : t.walk directory = ⟨paths, none⟩) (wanted : Text → Bool) :
    t.disk.Visits directory wanted paths := by
  have hpaths : t.below directory = .ok paths := by
    unfold walk at hwalk
    split at hwalk
    · obtain ⟨rfl, -⟩ := Walk.mk.inj hwalk
      assumption
    · exact absurd (Walk.mk.inj hwalk).2 nofun
  have hperm := below_eq_ok hpaths hdirectory
  have hnames : ∀ names ∈ t.namesBelow (t.disk.place directory),
      names ≠ [] ∧ ∀ name ∈ names, Path.IsEntry name := by
    intro names hmem
    have hfile := mem_namesBelow_iff.1 hmem
    refine ⟨fun hnil => hfile (by rw [hnil, List.append_nil, hdirectory]), fun name hname => ?_⟩
    obtain ⟨file, hmem, heq⟩ := List.mem_map.1 (file?_ne_none_iff.1 hfile)
    exact h.entries file hmem name (heq ▸ List.mem_append_right _ hname)
  have honce : paths.Nodup := by
    refine hperm.nodup_iff.2 ((h.nodup_namesBelow _).map_on fun a ha b hb heq => ?_)
    rw [← Path.parts_join (hnames a ha).1 (hnames a ha).2, heq,
      Path.parts_join (hnames b hb).1 (hnames b hb).2]
  refine ⟨honce.filter wanted, fun path _ => ?_⟩
  rw [hperm.mem_iff, List.mem_map]
  constructor
  · rintro ⟨names, hmem, rfl⟩
    exact ⟨names, (hnames names hmem).1, (hnames names hmem).2, rfl, mem_namesBelow_iff.1 hmem⟩
  · rintro ⟨names, -, -, rfl, hfile⟩
    exact ⟨names, mem_namesBelow_iff.2 hfile, rfl⟩

end Tree
end ParserTables
