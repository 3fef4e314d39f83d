import NamedCells.Engine
import NamedCells.Text.Utf8

/-!
# Engines behind handles

Callers from outside hold engines by handles, which are numbers and never addresses, and pass
names as bytes that end at the first NUL.  A handle may be null, may never have been given out, or
may have been destroyed; every call checks this before anything else, and a call on such a handle
changes nothing.  On a live handle a call is the operation of the engine, except that an argument
that cannot be passed on is reported to the engine as an error.

Handles are given out in ascending order and never twice, so a destroyed one stays dead.

## Main definitions

* `HandleTable` — the live engines by handle, and the next handle.
* `Call`, `HandleTable.perform`, `HandleTable.run` — the calls, and sequences of them.
* `EngineOptions.config?` — the policy that a caller's numbers denote.
-/

namespace NamedCells

/-- A handle of an engine. -/
abbrev Handle := Nat

/-- The handle of no engine. -/
def Handle.null : Handle := 0

/-! ### Arguments -/

/-- A name as a caller passes it: no pointer, or bytes of which those before the first NUL
count. -/
abbrev NameArgument := Option (List UInt8)

/-- The name that a caller passed, or the error to report. -/
def NameArgument.decode : NameArgument → Except EngineError String
  | none => .error (.invalidName "" .missing)
  | some bytes =>
    let bytes := bytes.takeWhile (· ≠ 0)
    match Utf8.decode? bytes with
    | some cs => .ok (String.ofList cs)
    | none => .error (.invalidName (String.ofList (Utf8.decodeLossy bytes)) .notUtf8)

/-- The numeric code for overwriting. -/
def redefineOverwrite : Int := 0

/-- The numeric code for rejecting. -/
def redefineReject : Int := 1

/-- The version of the interface that the calls form. -/
def interfaceVersion : Nat := 1

/-- A policy in the numbers of a caller. -/
structure EngineOptions where
  /-- The numeric code of what creating a cell does whose name is taken. -/
  redefinition : Int := redefineOverwrite
  /-- Whether cells may hold infinities and NaNs. -/
  allowNonFinite : Bool := false
  /-- How many cells there may be at most. -/
  maxCells : Nat := defaultMaxCells
  deriving DecidableEq, Repr

/-- The policy that a code denotes. -/
def Redefinition.ofCode? (code : Int) : Option Redefinition :=
  if code = redefineOverwrite then some .overwrite
  else if code = redefineReject then some .reject
  else none

/-- The sound policy that a caller's numbers denote, if they denote one. -/
def EngineOptions.config? (options : EngineOptions) : Option EngineConfig := do
  let redefinition ← Redefinition.ofCode? options.redefinition
  let config : EngineConfig := ⟨redefinition, options.allowNonFinite, options.maxCells⟩
  if config.fault?.isNone then some config else none

/-! ### The table -/

/-- The live engines by handle. -/
structure HandleTable where
  /-- The handle that the next engine gets. -/
  next : Handle
  /-- The live engines. -/
  live : Std.ExtTreeMap Handle Engine

/-- The calls of the interface. -/
inductive Call where
  | createEngine
  | createEngineWithOptions (options : Option EngineOptions)
  | destroy (handle : Handle)
  | create (handle : Handle) (name : NameArgument) (value : Binary64)
  | set (handle : Handle) (name : NameArgument) (value : Binary64)
  | get (handle : Handle) (name : NameArgument) (hasOut : Bool)
  | remove (handle : Handle) (name : NameArgument)
  | reset (handle : Handle)
  | has (handle : Handle) (name : NameArgument)
  | count (handle : Handle)
  | lastError (handle : Handle)
  | lastErrorCode (handle : Handle)
  | describe (code : Int)
  /-- Install the log.  Whether this could be done is up to the process, which may have a log of its
  own; later calls find what the first one found. -/
  | initLogging (installed : Bool)
  deriving DecidableEq, Repr

/-- What a call gives back. -/
inductive CallReply where
  /-- Nothing. -/
  | nothing
  /-- A new handle, which is null if no engine was made. -/
  | handle (handle : Handle)
  /-- A status code. -/
  | code (status : Status)
  /-- A status code, and the value written to the caller's place for it, if one was. -/
  | codeAndOut (status : Status) (out : Option Binary64)
  /-- A truth value. -/
  | flag (holds : Bool)
  /-- A number of cells. -/
  | count (n : Nat)
  /-- A text. -/
  | text (text : String)
  deriving DecidableEq, Repr

namespace HandleTable

/-- The table before any call. -/
def empty : HandleTable := ⟨Handle.null + 1, ∅⟩

/-- The engine of a live handle. -/
def resolve? (t : HandleTable) (h : Handle) : Option Engine := t.live[h]?

/-- Give an engine the next handle. -/
def register (t : HandleTable) (g : Engine) : Handle × HandleTable :=
  (t.next, ⟨t.next + 1, t.live.insert t.next g⟩)

/-- Make a handle dead. -/
def release (t : HandleTable) (h : Handle) : HandleTable := { t with live := t.live.erase h }

/-- Make an engine with a policy, if the policy is sound. -/
def createEngine (t : HandleTable) (config : Option EngineConfig) : Handle × HandleTable :=
  match config.map Engine.make with
  | some (.ok g) => t.register g
  | _ => (Handle.null, t)

/-- Let the engine of a handle act; for a dead handle the answer is `dead`. -/
def onEngine {α : Type} (t : HandleTable) (h : Handle) (dead : α) (act : Engine → α × Engine) :
    α × HandleTable :=
  match t.resolve? h with
  | none => (dead, t)
  | some g =>
    let (answer, g) := act g
    (answer, { t with live := t.live.insert h g })

/-- The status of an answer that has no status of its own. -/
def statusOf {α : Type} : Except EngineError α → Status
  | .ok _ => .ok
  | .error e => e.status

/-- The status of a creation. -/
def writeStatus : Except EngineError Write → Status
  | .ok write => write.status
  | .error e => e.status

/-- Let the engine of a handle act on a name; a name that cannot be passed on is reported. -/
def onName (t : HandleTable) (h : Handle) (name : NameArgument)
    (act : Engine → String → Status × Engine) : Status × HandleTable :=
  t.onEngine h .invalidEngineHandle fun g =>
    match name.decode with
    | .ok name => act g name
    | .error e => g.report e

/-- Create a cell. -/
def create (t : HandleTable) (h : Handle) (name : NameArgument) (value : Binary64) :
    Status × HandleTable :=
  t.onName h name fun g name => let (a, g) := g.create name value; (writeStatus a, g)

/-- Give an existing cell a new value. -/
def set (t : HandleTable) (h : Handle) (name : NameArgument) (value : Binary64) :
    Status × HandleTable :=
  t.onName h name fun g name => let (a, g) := g.set name value; (statusOf a, g)

/-- Remove a cell. -/
def remove (t : HandleTable) (h : Handle) (name : NameArgument) : Status × HandleTable :=
  t.onName h name fun g name => let (a, g) := g.remove name; (statusOf a, g)

/-- Remove all cells. -/
def reset (t : HandleTable) (h : Handle) : Status × HandleTable :=
  t.onEngine h .invalidEngineHandle fun g => (.ok, g.reset.2)

/-- What is reported if there is no place to write a value to. -/
def missingOut : EngineError := .invalidArgument "value out-pointer is null"

/-- Read a cell.  The value is written to the caller's place for it, if there is a value and a
place; the name is checked before the place. -/
def get (t : HandleTable) (h : Handle) (name : NameArgument) (hasOut : Bool) :
    (Status × Option Binary64) × HandleTable :=
  t.onEngine h (.invalidEngineHandle, none) fun g =>
    match name.decode with
    | .error e => let (s, g) := g.report e; ((s, none), g)
    | .ok name =>
      if hasOut then
        match g.get name with
        | (.ok value, g) => ((.ok, some value), g)
        | (.error e, g) => ((e.status, none), g)
      else let (s, g) := g.report missingOut; ((s, none), g)

/-- Whether a cell has the name; no cell has a name that cannot be passed on. -/
def has (t : HandleTable) (h : Handle) (name : NameArgument) : Bool :=
  match t.resolve? h, name.decode with
  | some g, .ok name => g.contains name
  | _, _ => false

/-- How many cells there are. -/
def count (t : HandleTable) (h : Handle) : Nat :=
  match t.resolve? h with
  | some g => g.size
  | none => 0

/-- What there is to say about the latest operation on a handle. -/
def lastError (t : HandleTable) (h : Handle) : String :=
  match t.resolve? h with
  | some g => g.lastError
  | none => Status.invalidEngineHandle.description

/-- How the latest operation on a handle ended. -/
def lastErrorCode (t : HandleTable) (h : Handle) : Status :=
  match t.resolve? h with
  | some g => g.lastStatus
  | none => .invalidEngineHandle

/-- Perform a call. -/
def perform (t : HandleTable) : Call → CallReply × HandleTable
  | .createEngine => let (h, t) := t.createEngine (some {}); (.handle h, t)
  | .createEngineWithOptions options =>
    let (h, t) := t.createEngine (options.getD {}).config?
    (.handle h, t)
  | .destroy h => (.nothing, t.release h)
  | .create h name value => let (s, t) := t.create h name value; (.code s, t)
  | .set h name value => let (s, t) := t.set h name value; (.code s, t)
  | .get h name hasOut => let ((s, out), t) := t.get h name hasOut; (.codeAndOut s out, t)
  | .remove h name => let (s, t) := t.remove h name; (.code s, t)
  | .reset h => let (s, t) := t.reset h; (.code s, t)
  | .has h name => (.flag (t.has h name), t)
  | .count h => (.count (t.count h), t)
  | .lastError h => (.text (t.lastError h), t)
  | .lastErrorCode h => (.code (t.lastErrorCode h), t)
  | .describe code => (.text (Status.describe code), t)
  | .initLogging installed => (.code (if installed then .ok else .internal), t)

/-- Perform calls one after the other. -/
def run (t : HandleTable) : List Call → List CallReply × HandleTable
  | [] => ([], t)
  | call :: calls =>
    let (reply, t) := t.perform call
    let (replies, t) := t.run calls
    (reply :: replies, t)

end HandleTable

end NamedCells
