import Conveyor.Condition
import Conveyor.Stage
import Conveyor.Text.Quoted

/-!
# The stages at hand

The stages that chains are assembled from: gates over conditions, stages that multiply, extend or
mark messages, and stages with acts fixed in advance for trying chains out. Drop switches that
carry one name share one flag, which lies outside the stages.
-/

namespace Conveyor

/-- The flags of the drop switches; a switch that was never set passes messages through. -/
abbrev Switches := Dict Bool

def Switches.isDropping (s : Switches) (switch : String) : Bool := (s.get? switch).getD false

/-- A verdict fixed in advance. -/
inductive Act
  | pass
  | discard
  | reject (reason : String)
  | fail (reason : String)
  /-- The message is turned away with a failure. -/
  | refuse (failure : Failure)
  /-- Other messages go on in its place. -/
  | replace (messages : List Message)
  | panic (text : String)
deriving DecidableEq, Inhabited

def Act.perform : Act → Message → Verdict
  | .pass, message       => .pass [message]
  | .discard, _          => .pass []
  | .reject reason, _    => .reject (.rejected reason)
  | .fail reason, _      => .reject (.stage reason)
  | .refuse failure, _   => .reject failure
  | .replace messages, _ => .pass messages
  | .panic text, _       => .panic text

/-- A stage of the catalogue. -/
inductive Stage
  | identity (name : String)
  /-- Rejects the messages that do not meet a condition. -/
  | gate (name : String) (condition : Condition)
  /-- Replaces every message by `count` messages `test0`, `test1` and so on. -/
  | fanOut (count : Nat)
  /-- Rejects every message while the flag of its switch is set. -/
  | dropSwitch (switch : String)
  /-- Passes on `count` copies of the message, each with its number as an additional last part. -/
  | split (name : String) (count : Nat)
  | append (name : String) (part : Part)
  /-- Notes the lane in the metadata of every part. -/
  | tagLane (name : String) (lane : Nat)
  /-- Performs an act on messages whose first part has this content and passes the others on. -/
  | onFirst (name : String) (content : Bytes) (act : Act)
  /-- Performs its acts in turn, one for each message, round and round. -/
  | cycle (name : String) (acts : List Act) (next : Nat)
deriving DecidableEq, Inhabited

namespace Stage

def name : Stage → String
  | .identity name    => name
  | .gate name _      => name
  | .fanOut _         => "fan_out"
  | .dropSwitch _     => "drop_switch"
  | .split name _     => name
  | .append name _    => name
  | .tagLane name _   => name
  | .onFirst name _ _ => name
  | .cycle name _ _   => name

def gateReason (name : String) : String := "condition of stage '" ++ name ++ "' not met"

/-- Give a message to a stage. A cycle moves on even if its act panics. -/
def process (switches : Switches) : Behaviour Stage
  | .gate name condition, message =>
    let (holds, condition) := condition.check message
    (if holds then .pass [message] else .reject (.rejected (gateReason name)),
      .gate name condition)
  | .cycle name acts next, message =>
    match acts[next]? with
    | none     => (.pass [message], .cycle name acts next)
    | some act => (act.perform message, .cycle name acts ((next + 1) % acts.length))
  | stage@(.identity _), message => (.pass [message], stage)
  | stage@(.fanOut count), _ =>
    (.pass ((List.range count).map fun i => .ofStrings ["test" ++ toString i]), stage)
  | stage@(.dropSwitch switch), message =>
    (if switches.isDropping switch then .reject (.rejected "message dropped")
      else .pass [message], stage)
  | stage@(.split _ count), message =>
    (.pass ((List.range count).map fun i => message.push (.ofString (toString i))), stage)
  | stage@(.append _ part), message => (.pass [message.push part], stage)
  | stage@(.tagLane _ lane), message =>
    (.pass [message.map fun part => part.setMetadata "lane" (toString lane)], stage)
  | stage@(.onFirst _ content act), message =>
    (if message.startsWith content then act.perform message else .pass [message], stage)

/-- The diagnostic text of a stage that is made of a function. -/
def describe (s : Stage) : String := "FnStage \x7b name: " ++ Text.quoted s.name ++ " \x7d"

end Stage

end Conveyor
