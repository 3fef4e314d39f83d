import NamedCells.Binary64.Reading
import NamedCells.Command.Segment
import NamedCells.Command.Token

/-!
# Commands

A command is a keyword, in any mixture of cases, followed by the arguments that the keyword takes:
a name, a name and a number, or nothing.

## Main definitions

* `Command` — what a segment of a script asks for.
* `CommandError` — why a segment is no command.
* `Command.parse` — the command of a segment.
-/

namespace NamedCells

/-- What a segment of a script asks for. -/
inductive Command where
  | create (name : String) (value : Binary64)
  | set (name : String) (value : Binary64)
  | get (name : String)
  /-- Print the record of a cell. -/
  | inspect (name : String)
  | remove (name : String)
  | has (name : String)
  | count
  | list
  | reset
  /-- Print what the error channel holds. -/
  | error
  deriving DecidableEq, Repr

/-- Why a segment is no command. -/
inductive CommandError where
  /-- The first word is no keyword. -/
  | unknown (word : String)
  /-- The keyword does not take these arguments. -/
  | usage (synopsis : String)
  /-- The word in the place of a number is none. -/
  | invalidNumber (word : String)
  /-- A quote is left open. -/
  | unterminatedQuote
  deriving DecidableEq, Repr

/-- The error in words. -/
def CommandError.message : CommandError → String
  | .unknown word => "unknown command: " ++ word
  | .usage synopsis => "usage: " ++ synopsis
  | .invalidNumber word => "invalid number: " ++ word
  | .unterminatedQuote => "unterminated quote"

/-- The keywords. -/
inductive Keyword where
  | create
  | set
  | get
  | inspect
  | remove
  | has
  | count
  | list
  | reset
  | error
  deriving DecidableEq, Repr

namespace Keyword

/-- The keyword that a word in lower case is. -/
def ofLower? (word : String) : Option Keyword :=
  match word with
  | "create" => some .create
  | "set" => some .set
  | "get" => some .get
  | "show" => some .inspect
  | "remove" => some .remove
  | "rm" => some .remove
  | "has" => some .has
  | "count" => some .count
  | "list" => some .list
  | "ls" => some .list
  | "reset" => some .reset
  | "error" => some .error
  | _ => none

/-- The keyword that a word is.  Only the ASCII letters have two cases here. -/
def ofWord? (word : List Char) : Option Keyword := ofLower? (String.ofList (word.map Char.toLower))

/-- How a keyword is used, for a caller that used it otherwise. -/
def synopsis : Keyword → String
  | .create => "create NAME VALUE"
  | .set => "set NAME VALUE"
  | .get => "get NAME"
  | .inspect => "show NAME"
  | .remove => "remove NAME"
  | .has => "has NAME"
  | .count | .list | .reset | .error => "command takes no arguments"

end Keyword

namespace Command

/-- The number that a word denotes. -/
def number (word : List Char) : Except CommandError Binary64 :=
  match Binary64.ofChars? word with
  | some value => .ok value
  | none => .error (.invalidNumber (String.ofList word))

/-- The command of a keyword with its arguments. -/
def ofKeyword (keyword : Keyword) (arguments : List (List Char)) : Except CommandError Command :=
  match keyword, arguments with
  | .create, [name, value] => (number value).map (.create (String.ofList name))
  | .set, [name, value] => (number value).map (.set (String.ofList name))
  | .get, [name] => .ok (.get (String.ofList name))
  | .inspect, [name] => .ok (.inspect (String.ofList name))
  | .remove, [name] => .ok (.remove (String.ofList name))
  | .has, [name] => .ok (.has (String.ofList name))
  | .count, [] => .ok .count
  | .list, [] => .ok .list
  | .reset, [] => .ok .reset
  | .error, [] => .ok .error
  | keyword, _ => .error (.usage keyword.synopsis)

/-- A keyword refuses its arguments because it does not take them, or one of them is no number. -/
theorem error_of_ofKeyword {k : Keyword} {arguments : List (List Char)} {e : CommandError}
    (refused : ofKeyword k arguments = .error e) :
    e = .usage k.synopsis ∨ ∃ word ∈ arguments, e = .invalidNumber (String.ofList word) := by
  have badNumber {word : List Char} {make : Binary64 → Command} (mem : word ∈ arguments)
      (refused : (number word).map make = .error e) :
      ∃ word ∈ arguments, e = .invalidNumber (String.ofList word) := by
    unfold number at refused
    split at refused
    · cases refused
    · exact ⟨word, mem, (Except.error.inj refused).symm⟩
  unfold ofKeyword at refused
  split at refused
  · exact .inr (badNumber (by simp) refused)
  · exact .inr (badNumber (by simp) refused)
  all_goals cases refused
  exact .inl rfl

/-- The command that words form. -/
def ofWords : List (List Char) → Except CommandError Command
  | [] => .error (.usage "empty command")
  | head :: arguments =>
    match Keyword.ofWord? head with
    | some keyword => ofKeyword keyword arguments
    | none => .error (.unknown (String.ofList head))

/-- The command of a segment. -/
def parse (segment : String) : Except CommandError Command :=
  match Token.words? segment.toList with
  | some words => ofWords words
  | none => .error .unterminatedQuote

end Command

end NamedCells
