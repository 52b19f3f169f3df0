import ParserTables.Files.Access
import ParserTables.Files.Path

/-! A tree of files as a value.

`Tree.access` gives the file operations on a tree. The tree is all there is: a path that
starts with a slash is followed from its top, which is its own parent, and any other from
the tree's home directory. -/
namespace ParserTables

/-- What a file holds. -/
inductive Content where
  | text (t : Text)
  /-- Bytes that are no text. -/
  | bytes (b : List UInt8)
deriving DecidableEq

/-- The names that lead from the top of a tree to one of its entries. -/
abbrev Place := List Text

/-- Does a text come before another one in a dictionary? -/
def textBefore (a b : Text) : Bool := List.lex a b fun c d => c.toNat < d.toNat

/-- Does a place come no later than another one? Places are compared name by name. -/
def Place.notAfter (p q : Place) : Bool := !List.lex q p textBefore

/-- Files and directories by place. A directory that holds something need not be
listed. -/
structure Tree where
  files : List (Place × Content)
  directories : List Place
  /-- The directory that relative paths start from. -/
  home : Place

namespace Tree

/-- The tree with nothing but a directory to start from. -/
def empty (home : Place) : Tree := { files := [], directories := [home], home }

/-- What is in the file at a place. -/
def file? (t : Tree) (p : Place) : Option Content := t.files.lookup p

/-- Is there a directory at this place? -/
def isDirectory (t : Tree) (p : Place) : Bool :=
  p.isEmpty || t.directories.any p.isPrefixOf || t.files.any fun (q, _) => p.isPrefixOf q && p != q

/-- The tree with another file at a place. -/
def put (t : Tree) (p : Place) (c : Content) : Tree :=
  { t with files := (p, c) :: t.files.filter (·.1 != p) }

/-- Where a path ends. A path that is `closed` has a slash at its end, which asks for a
directory. -/
inductive Destination where
  | file (p : Place) (c : Content) (closed : Bool)
  | directory (p : Place)
  /-- Nowhere yet, in a directory that is there. -/
  | vacant (p : Place) (closed : Bool)

/-- The bytes of the longest name. -/
def longestName : Nat := 255

/-- The bytes of the longest path. -/
def longestPath : Nat := 4095

/-- Follow the parts of a path from a directory. -/
def follow (t : Tree) (here : Place) : List Text → Except FileError Destination
  | [] => .ok (.directory here)
  | part :: rest =>
    if part = [] || part = ['.'] then t.follow here rest
    else if part = ['.', '.'] then t.follow here.dropLast rest
    else if longestName < Text.byteLength part then .error .nameTooLong
    else
      let next := here ++ [part]
      let last := rest.all (·.isEmpty)
      match t.file? next with
      | some c => if last then .ok (.file next c !rest.isEmpty) else .error .notADirectory
      | none =>
        if t.isDirectory next then t.follow next rest
        else if last then .ok (.vacant next !rest.isEmpty)
        else .error .notFound

/-- Where a path ends; an empty one ends nowhere. -/
def destination (t : Tree) (path : Text) : Except FileError Destination :=
  if path.contains '\x00' then .error .nulInPath
  else if path.isEmpty then .error .notFound
  else if longestPath < Text.byteLength path then .error .nameTooLong
  else t.follow (if path.head? = some '/' then [] else t.home) (Path.parts path)

/-! ### Files -/

/-- What is in the file at a path. -/
def content (t : Tree) (path : Text) : Except FileError (Option Content) := do
  match ← t.destination path with
  | .file _ c closed => if closed then throw .notADirectory else return some c
  | .directory _ => return none
  | .vacant .. => throw .notFound

def read (t : Tree) (path : Text) : Except FileError Text := do
  match ← t.content path with
  | some (.text text) => return text
  | some (.bytes _) => throw .notText
  | none => throw .isADirectory

def present (t : Tree) (path : Text) : Bool := (t.content path).toBool

/-- The tree with a content in the file at a path. A new file cannot have a slash after its
name, and it makes no difference whether there is such a file. -/
def store (t : Tree) (path : Text) (c : Content) : Except FileError Tree := do
  match ← t.destination path with
  | .directory _ => throw .isADirectory
  | .file p _ closed => if closed then throw .isADirectory else return t.put p c
  | .vacant p closed => if closed then throw .isADirectory else return t.put p c

def copy (t : Tree) (source path : Text) : Except FileError Tree := do
  match ← t.content source with
  | some c => t.store path c
  | none => throw .notAFile

/-! ### Directories -/

/-- The tree with a directory at a path where there is nothing. -/
def makeDirectory (t : Tree) (path : Text) : Except FileError Tree := do
  match ← t.destination path with
  | .vacant p _ => return { t with directories := p :: t.directories }
  | .file .. => throw .alreadyExists
  | .directory _ => throw .alreadyExists

/-- Is there a directory at a path? -/
def directoryAt (t : Tree) (path : Text) : Bool :=
  match t.destination path with
  | .ok (.directory _) => true
  | _ => false

/-- The tree with a directory at a path, new or not. -/
def ensureDirectory (t : Tree) (path : Text) : Except FileError Tree :=
  match t.makeDirectory path with
  | .error .alreadyExists => if t.directoryAt path then .ok t else .error .alreadyExists
  | result => result

/-- The tree with directories at the first of some paths and, as far as it needs them to be
there, at the others, each of which holds the one before it. -/
def ensureChain (t : Tree) : List Text → Except FileError Tree
  | [] => .ok t
  | path :: above =>
    match t.ensureDirectory path with
    | .error .notFound => do (← t.ensureChain above).ensureDirectory path
    | result => result

/-- The tree with the directory at a path and those above it. -/
def makeDirectories (t : Tree) (path : Text) : Except FileError Tree :=
  t.ensureChain (Path.ancestors path)

/-- The paths of the files in and below the directory at a path, in the order of their
names. -/
def below (t : Tree) (path : Text) : Except FileError (List Text) := do
  match ← t.destination path with
  | .file _ _ closed => if closed then throw .notADirectory else return [[]]
  | .directory p =>
    let places := t.files.filterMap fun (q, _) =>
      if p.isPrefixOf q then some (q.drop p.length) else none
    return (places.mergeSort Place.notAfter).map (Text.join ['/'])
  | .vacant .. => throw .notFound

/-- A walk in and below the directory at a path. It comes by everything, or there is nothing
at the path to begin with. -/
def walk (t : Tree) (path : Text) : Walk :=
  match t.below path with
  | .ok paths => ⟨paths, none⟩
  | .error e => ⟨[], some (path, e)⟩

/-- An operation that changes the tree, if it succeeds. -/
def change (f : Tree → Except FileError Tree) : StateM Tree (Except FileError Unit) := fun t =>
  match f t with
  | .ok t' => (.ok (), t')
  | .error e => (.error e, t)

/-- The file operations on a tree. -/
def access : DirectoryAccess (StateM Tree) where
  read path := fun t => (t.read path, t)
  present path := fun t => (t.present path, t)
  copy source path := change (·.copy source path)
  write path text := change (·.store path (.text text))
  makeDirectories path := change (·.makeDirectories path)
  below path := fun t => (t.walk path, t)

end Tree
end ParserTables
