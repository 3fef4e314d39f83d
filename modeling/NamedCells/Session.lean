import NamedCells.Binary64.Shown
import NamedCells.Command
import NamedCells.Engine

/-!
# Sessions

A session carries out commands on an engine and says what a reader is to see: nothing, a text, a
notice about a success, or the message of a refusal.  Each line of output goes to one of two
streams; everything that a program needs to follow is on the first, notices are on the second.

## Main definitions

* `Outcome` — what came of a command.
* `Session.execute` — carry out a command.
* `Session.runSegment`, `Session.runAll`, `Session.runUntilFailure` — read and carry out segments.
-/

namespace NamedCells

/-- What came of a command. -/
inductive Outcome where
  /-- It succeeded and there is nothing to print. -/
  | done
  /-- It succeeded and a text is to be printed. -/
  | output (text : String)
  /-- It succeeded and the reader is to be told something about it. -/
  | advisory (text : String)
  /-- It was refused. -/
  | failed (text : String)
  deriving DecidableEq, Repr

/-- A change in words. -/
def Change.word : Change → String
  | .created => "created"
  | .redefined => "redefined"
  | .assigned => "assigned"

/-- The record of a cell in one line. -/
def Cell.summary (cell : Cell) : String :=
  cell.name ++ " = " ++ cell.value.shown ++ " (revision " ++ toString cell.revision ++ ", " ++
    cell.lastChange.word ++ ")"

/-- The channel in one line. -/
def Channel.summary (channel : Channel) : String :=
  if channel.status.isOk then channel.status.name
  else channel.status.name ++ ": " ++ channel.message

/-- The outcome of an operation whose answer becomes an outcome. -/
def Outcome.ofAnswer {α : Type} (onOk : α → Outcome) : Except EngineError α → Outcome
  | .ok a => onOk a
  | .error e => .failed e.message

namespace Session

/-- Carry out a command. -/
def execute (g : Engine) : Command → Outcome × Engine
  | .create name value =>
    match g.create name value with
    | (.ok .inserted, g) => (.done, g)
    | (.ok (.redefined _), g) => (.advisory g.lastError, g)
    | (.error e, g) => (.failed e.message, g)
  | .set name value => let (a, g) := g.set name value; (.ofAnswer (fun _ => .done) a, g)
  | .get name => let (a, g) := g.get name; (.ofAnswer (fun x => .output x.shown) a, g)
  | .inspect name => let (a, g) := g.cell name; (.ofAnswer (fun c => .output c.summary) a, g)
  | .remove name => let (a, g) := g.remove name; (.ofAnswer (fun _ => .done) a, g)
  | .has name => (.output (if g.contains name then "true" else "false"), g)
  | .count => (.output (toString g.size), g)
  | .list => (if g.names.isEmpty then .done else .output ("\n".intercalate g.names), g)
  | .reset => (.done, g.reset.2)
  | .error => (.output g.channel.summary, g)

end Session

/-! ### Output -/

/-- A text written to one of the streams, where a line end follows it. -/
inductive Emission where
  /-- To the stream that programs follow. -/
  | out (text : String)
  /-- To the stream of notices. -/
  | err (text : String)
  deriving DecidableEq, Repr

/-- The text, if it goes to the stream that programs follow. -/
def Emission.output? : Emission → Option String
  | .out text => some text
  | .err _ => none

/-- The text, if it goes to the stream of notices. -/
def Emission.notice? : Emission → Option String
  | .err text => some text
  | .out _ => none

/-- What an outcome writes. -/
def Outcome.emission : Outcome → Option Emission
  | .done => none
  | .output text => some (.out text)
  | .advisory text => some (.err ("warning: " ++ text))
  | .failed text => some (.out ("#ERR " ++ text))

/-- Whether a command was refused. -/
def Outcome.isFailure : Outcome → Bool
  | .failed _ => true
  | _ => false

namespace Session

/-- Read a segment and carry out its command.  A segment that is no command fails like a command
that is refused, and leaves the engine alone. -/
def runSegment (g : Engine) (segment : String) : Outcome × Engine :=
  match Command.parse segment with
  | .ok command => execute g command
  | .error e => (.failed e.message, g)

/-- Run all segments after those with the outcomes `done`, which are in reverse order. -/
def runAllFrom (done : List Outcome) (g : Engine) : List String → List Outcome × Engine
  | [] => (done.reverse, g)
  | segment :: rest =>
    let (outcome, g) := runSegment g segment
    runAllFrom (outcome :: done) g rest

/-- Run all segments.  The outcomes are those of the segments in order. -/
def runAll (g : Engine) (segments : List String) : List Outcome × Engine :=
  runAllFrom [] g segments

/-- Run segments up to the first failure, after those with the outcomes `done`, which are in
reverse order. -/
def runUntilFailureFrom (done : List Outcome) (g : Engine) : List String → List Outcome × Engine
  | [] => (done.reverse, g)
  | segment :: rest =>
    let (outcome, g) := runSegment g segment
    if outcome.isFailure then ((outcome :: done).reverse, g)
    else runUntilFailureFrom (outcome :: done) g rest

/-- Run segments up to the first failure, which is the last outcome if there is one. -/
def runUntilFailure (g : Engine) (segments : List String) : List Outcome × Engine :=
  runUntilFailureFrom [] g segments

/-- Run the segments of a line of input. -/
def runLine (g : Engine) (line : String) : List Outcome × Engine :=
  runAll g (Script.segments line)

end Session

end NamedCells
