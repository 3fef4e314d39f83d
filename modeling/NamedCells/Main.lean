import NamedCells.CommandLine

/-!
# The program

The program itself: it looks at the arguments, the environment, the files and the input, lets
`CommandLine` say what to write, and writes it.
-/

namespace NamedCells

/-- The number and the description of an error of the operating system. -/
def osErrorOf : IO.Error → UInt32 × String
  | .noFileOrDirectory _ code text => (code, text)
  | .permissionDenied _ code text => (code, text)
  | .inappropriateType _ code text => (code, text)
  | .invalidArgument _ code text => (code, text)
  | .resourceExhausted _ code text => (code, text)
  | .otherError code text => (code, text)
  | e => (0, toString e)

/-- What is found at a path that cannot be read.  Some system calls give the number of an error
negated.  Only why the reading failed is known here: what gives no content counts as empty, and a
path to which access is denied as one where there is something. -/
def entryOfError (e : IO.Error) : FileEntry :=
  let (code, text) := osErrorOf e
  let number := (if 0x80000000 ≤ code then 0 - code else code).toNat
  if number = OsError.notFound.code then .absent .notFound
  else if number = OsError.notDirectory.code then .absent .notDirectory
  else if number = OsError.nameTooLong.code then .absent .nameTooLong
  else if number = OsError.isDirectory.code then .unreadable 0 .isDirectory
  else if number = OsError.permissionDenied.code then .unreadable 0 .permissionDenied
  else .unreadable 0 (.other number text)

/-- Look at a path. -/
def readEntry (path : String) : IO FileEntry := do
  try
    return .file (← IO.FS.readBinFile path)
  catch e =>
    return entryOfError e

/-- Write to the two streams. -/
def write (written : List Emission) : IO Unit := do
  for emission in written do
    match emission with
    | .out text => IO.println text
    | .err text => IO.eprintln text
  (← IO.getStdout).flush

/-- Carry out the lines of an input as they come, after the bytes of a line that is not complete. -/
partial def pump (input : IO.FS.Stream) (g : Engine) (pending : List UInt8) : IO UInt32 := do
  let chunk ← input.read 65536
  let bytes := pending ++ chunk.data.toList
  let rest := if chunk.isEmpty then [] else (bytes.reverse.takeWhile (· ≠ 10)).reverse
  let complete := bytes.take (bytes.length - rest.length)
  let (written, left) := CommandLine.runInput [] g (CommandLine.inputLines complete)
  write written
  match left with
  | some g => if chunk.isEmpty then return 0 else pump input g rest
  | none => return 1

end NamedCells

open NamedCells

def main (arguments : List String) : IO UInt32 := do
  -- the list of users of the system is not looked at where no home directory is set
  let home := (← IO.getEnv "HOME").filter (· ≠ "")
  let user : UserDirectories := { configHome := ← IO.getEnv "XDG_CONFIG_HOME", home }
  let env : Environment :=
    { readDocument := Toml.parse?
      settingsPath := user.settingsPath
      logFilter := ← IO.getEnv logVariable }
  let entries ← (CommandLine.paths env arguments).mapM fun path => do
    return (path, ← readEntry path)
  let files (path : String) : FileEntry := (entries.lookup path).getD (.absent .notFound)
  match CommandLine.begin env files arguments with
  | .stop written code =>
    write written
    return code.toUInt32
  | .batch written g text =>
    write written
    let (more, code) := CommandLine.runBatch g text
    write more
    return code.toUInt32
  | .input written g =>
    write written
    pump (← IO.getStdin) g []
