import NamedCells.Text.Utf8

/-!
# Files

What a program learns when it looks at a path: whether there is anything, how large it is, and what
it holds.  Each of these is a question of its own to the operating system, and nothing keeps the
answers in step: what is there may not be readable, and a file may go while it is looked at.

## Main definitions

* `FileEntry` — what is found at a path.
* `FileEntry.file`, `FileEntry.unreadable`, `FileEntry.absent` — a file that stays as it is,
  something that gives no content, and nothing.
* `FileEntry.readText` — the text of a file.
-/

namespace NamedCells

/-- Why the operating system does not give access to a path. -/
inductive OsError where
  | notFound
  | permissionDenied
  | notDirectory
  | isDirectory
  | nameTooLong
  /-- Any other reason, by its number and its description. -/
  | other (code : Nat) (text : String)
  deriving DecidableEq, Repr

namespace OsError

/-- The number of an error. -/
def code : OsError → Nat
  | .notFound => 2
  | .permissionDenied => 13
  | .notDirectory => 20
  | .isDirectory => 21
  | .nameTooLong => 36
  | .other code _ => code

/-- The description of an error. -/
def text : OsError → String
  | .notFound => "No such file or directory"
  | .permissionDenied => "Permission denied"
  | .notDirectory => "Not a directory"
  | .isDirectory => "Is a directory"
  | .nameTooLong => "File name too long"
  | .other _ text => text

/-- An error in words. -/
def message (e : OsError) : String := e.text ++ s!" (os error {e.code})"

end OsError

/-- Why no text can be read. -/
inductive ReadFault where
  /-- The operating system does not give the bytes. -/
  | os (e : OsError)
  /-- The bytes are no text. -/
  | notUtf8
  deriving DecidableEq, Repr

/-- The fault in words. -/
def ReadFault.message : ReadFault → String
  | .os e => e.message
  | .notUtf8 => "stream did not contain valid UTF-8"

/-- What is found at a path. -/
structure FileEntry where
  /-- Whether there is anything. -/
  isThere : Bool
  /-- The number of bytes, as the operating system tells it. -/
  size : Except OsError Nat
  /-- The bytes. -/
  content : Except OsError ByteArray

/-- The text that bytes encode. -/
def decodeText (bytes : List UInt8) : Except ReadFault String :=
  match Utf8.decode? bytes with
  | some cs => .ok (String.ofList cs)
  | none => .error .notUtf8

namespace FileEntry

/-- A file with its content. -/
def file (content : ByteArray) : FileEntry := ⟨true, .ok content.size, .ok content⟩

/-- Something whose content is not given, as of a directory. -/
def unreadable (bytes : Nat) (e : OsError) : FileEntry := ⟨true, .ok bytes, .error e⟩

/-- Nothing. -/
def absent (e : OsError) : FileEntry := ⟨false, .error e, .error e⟩

/-- The text of a file. -/
def readText (entry : FileEntry) : Except ReadFault String :=
  match entry.content with
  | .ok content => decodeText content.data.toList
  | .error e => .error (.os e)

end FileEntry

end NamedCells
