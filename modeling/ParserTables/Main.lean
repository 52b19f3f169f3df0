import ParserTables.CommandLine
import ParserTables.Text.XidContinue

/-! The program: the command line on the files of this machine. -/
namespace ParserTables.Main

/-- The cause of a failed file operation. -/
def errorOf : IO.Error → FileError
  | .noFileOrDirectory .. => .notFound
  | .alreadyExists .. => .alreadyExists
  | .inappropriateType _ 20 _ => .notADirectory
  | .inappropriateType .. => .isADirectory
  | .invalidArgument _ 36 _ => .nameTooLong
  | e => .other (toString e).toList

def attempt (action : IO α) : IO (Except FileError α) := do
  try return .ok (← action)
  catch e => return .error (errorOf e)

def bytesOf (path : Text) : IO ByteArray := IO.FS.readBinFile (String.ofList path)

/-- The file operations of this machine. -/
def access : FileAccess IO where
  read path := do
    match ← attempt (bytesOf path) with
    | .error e => return .error e
    | .ok bytes =>
      match String.fromUTF8? bytes with
      | some t => return .ok t.toList
      | none => return .error .notText
  present path := do
    match ← attempt (bytesOf path) with
    | .ok _ => return true
    | .error .isADirectory => return true
    | .error _ => return false
  copy source path := do
    match ← attempt (bytesOf source) with
    | .ok bytes => attempt (IO.FS.writeBinFile (String.ofList path) bytes)
    | .error .isADirectory => return .error .notAFile
    | .error e => return .error e
  write path t := attempt (IO.FS.writeFile (String.ofList path) (String.ofList t))

end ParserTables.Main

def main (args : List String) : IO UInt32 := do
  let outcome ← ParserTables.runCommand ParserTables.Main.access (args.map String.toList)
  IO.print (String.ofList outcome.output)
  IO.eprint (String.ofList outcome.errors)
  return UInt32.ofNat outcome.code
