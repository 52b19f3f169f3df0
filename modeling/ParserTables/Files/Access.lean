import ParserTables.Text.Decimal

/-! What a program needs of the files around it.

The operations are a record over a monad, so that one program runs on the files of a
machine and on a value that stands for them. -/
namespace ParserTables

/-- Why a file operation failed. -/
inductive FileError where
  | notFound
  | alreadyExists
  | notADirectory
  | isADirectory
  /-- The content is no text. -/
  | notText
  /-- Only a file can be copied. -/
  | notAFile
  | nameTooLong
  /-- A path holds a NUL, which no name can. -/
  | nulInPath
  | other (message : Text)
deriving DecidableEq

def FileError.message : FileError → Text
  | .notFound => "No such file or directory (os error 2)".toList
  | .alreadyExists => "File exists (os error 17)".toList
  | .notADirectory => "Not a directory (os error 20)".toList
  | .isADirectory => "Is a directory (os error 21)".toList
  | .notText => "stream did not contain valid UTF-8".toList
  | .notAFile =>
    "the source path is neither a regular file nor a symlink to a regular file".toList
  | .nameTooLong => "File name too long (os error 36)".toList
  | .nulInPath => "file name contained an unexpected NUL byte".toList
  | .other message => message

/-- Operations on files, by path. -/
structure FileAccess (m : Type → Type) where
  /-- The text in a file. -/
  read : Text → m (Except FileError Text)
  /-- Is there a file or directory? -/
  present : Text → m Bool
  /-- Copy a file to a second path, replacing what is there. -/
  copy : Text → Text → m (Except FileError Unit)
  /-- Put a text into a file, new or not. -/
  write : Text → Text → m (Except FileError Unit)

/-- What a walk in and below a directory comes by. -/
structure Walk where
  /-- The paths of files, as seen from the directory, in the order of the walk. A file is below
  itself, at the empty path. The walk may go on while files are written, and so some of them
  may be new. -/
  paths : List Text
  /-- The path at which the walk ended before it was through, and why. -/
  failure : Option (Text × FileError)

/-- Operations on files and directories, by path. -/
structure DirectoryAccess (m : Type → Type) extends FileAccess m where
  /-- Make a directory and those above it, as far as they are missing. -/
  makeDirectories : Text → m (Except FileError Unit)
  /-- Walk in and below a directory. -/
  below : Text → m Walk

end ParserTables
