import NamedCells.Error

/-!
# The error channel

An engine keeps the status and the message of its latest operation for callers that ask
afterwards.  The channel has no history: each operation overwrites what the one before it left.

## Main definitions

* `Channel` — a status and a message.
* `Channel.clear`, `Channel.ofMessage`, `Channel.ofError` — the channel after a success, with a
  given message, and after a refusal.
-/

namespace NamedCells

/-- The status and the message of the latest operation. -/
structure Channel where
  /-- How the operation ended. -/
  status : Status
  /-- What there is to say about it, which is nothing after a success. -/
  message : String
  deriving DecidableEq, Repr

namespace Channel

/-- The channel of an engine that has nothing to report. -/
def clear : Channel := ⟨.ok, ""⟩

/-- The channel with a message.  Callers may read the message up to the first NUL, so NULs are
left out. -/
def ofMessage (status : Status) (message : String) : Channel :=
  ⟨status, String.ofList (message.toList.filter (· ≠ '\x00'))⟩

/-- The channel after a refusal. -/
def ofError (e : EngineError) : Channel := ofMessage e.status e.message

/-- The channel after an operation that succeeds silently or is refused. -/
def ofResult {α : Type} : Except EngineError α → Channel
  | .ok _ => clear
  | .error e => ofError e

end Channel

end NamedCells
