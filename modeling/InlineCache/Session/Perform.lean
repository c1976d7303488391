/-
# InlineCache.Session.Perform -- how the routines of a session run

Most routines only look at what their activation gives them.  `yield` enters the block
of the activation; a block has no block of its own, so the routine behind it cannot
yield again.  `run` plays a script, and a hook that notices a write plays one in a
context of its own; scripts nest at most `deepestNesting` times, after which they are
left out.
-/
import InlineCache.Session.Play

namespace InlineCache

set_option autoImplicit false

/-- Scripts that may be under way at once. -/
def deepestNesting : Nat := 5

/-- Play the steps of a script, and note each answer in the trace when it is there. -/
def playScript (perform : Perform) (context : ContextRef) : List Step → Stage → Stage
  | [], stage => stage
  | step :: rest, stage =>
      let (answer, stage) := step.answer perform context stage
      let host := { stage.host with trace := stage.host.trace.push answer }
      playScript perform context rest { stage with host }

/-- Play the script of a name in a context, if there is one and scripts may nest any
deeper.  Answers how many steps it has.  What was given up on the way here is gone
before the script starts. -/
def runScript (nested : Option Perform) (context : ContextRef) (name : Option String)
    (stage : Stage) : Value × Stage :=
  match nested, name.bind (NameMap.get? stage.host.scripts) with
  | some perform, some steps =>
      (.int (Int64.ofNat steps.length), playScript perform context steps stage.settle)
  | _, _ => (.nil, stage)

/-- Note a write to a global and play a script in a context made for it. -/
def noticeWrite (nested : Option Perform) (script : String) (activation : Activation)
    (stage : Stage) : Outcome × Stage :=
  let shown := match activation.args with
    | [.symbol name, value] =>
        Answer.record [("traced", .text name), ("value", stage.host.answer value)]
    | _ => .null
  let host := { stage.host with trace := stage.host.trace.push shown }
  let (context, stage) := World.createContext { stage with host }
  let (result, stage) := runScript nested context (some script) stage
  (.ok result, stage.releaseContext context)

namespace Activation

/-- The argument of a place as a number; zero if it is none. -/
def numberAt (activation : Activation) (place : Nat) : Nat :=
  match activation.args[place]? with
  | some (.int n) => n.toUInt64.toNat
  | _ => 0

def scriptName? (activation : Activation) : Option String :=
  match activation.args.head? with
  | some (.symbol name) | some (.string name) => some name
  | _ => none

def scope? (activation : Activation) : Option ScopeRef :=
  match activation.entrance with
  | .block binding => binding.scope
  | _ => none

def sum (activation : Activation) : Int64 :=
  activation.args.foldl (fun total value => total + (value.int?.getD 0)) 0

def add (activation : Activation) : Outcome :=
  let first := activation.args.headD .nil
  match activation.receiver, first with
  | .int a, .int b => .ok (.int (a + b))
  | _, _ => .error (.typeMismatch (first.render ++ " can't be coerced into Integer"))

end Activation

namespace Frame

def describe (frame : Frame) : Value :=
  .array [frame.self, (frame.owner.map Value.type).getD .nil,
    (frame.name.map Value.symbol).getD .nil]

end Frame

namespace Entrance

def kindName : Entrance → String
  | native => "native"
  | handle => "handle"
  | compiled .. => "compiled"
  | block _ => "block"
  | trace => "trace"

def describe : Entrance → List Value
  | compiled scope owner name => [.string scope.place, .type owner, .symbol name]
  | block binding =>
      [(binding.frame.map Frame.describe).getD .nil, .bool binding.scope.isSome]
  | _ => []

end Entrance

namespace Activation

def describeBlock (activation : Activation) : Value :=
  match activation.block with
  | none => .nil
  | some .null => .symbol "null"
  | some block => .proc block

def describe (activation : Activation) (stage : Stage) : Value :=
  let state := match activation.context with
    | none => [.nil]
    | some context =>
        let state := stage.context context
        [.int (Int64.ofNat state.frames.depth), state.frames.current.describe, .bool state.kwargs]
  .array (.symbol activation.entrance.kindName :: activation.receiver :: .array activation.args ::
    activation.describeBlock :: state ++ activation.entrance.describe)

def inContext (activation : Activation) (run : ContextRef → Stage → Outcome × Stage)
    (stage : Stage) : Outcome × Stage :=
  match activation.context with
  | some context => run context stage
  | none => (.error (.typeMismatch "no context"), stage)

def getLocal (activation : Activation) (stage : Stage) : Value :=
  match activation.scope? with
  | some scope =>
      (stage.scopes.value scope (activation.numberAt 0) (activation.numberAt 1)).getD .nil
  | none => .nil

def setLocal (activation : Activation) (stage : Stage) : Value × Stage :=
  match activation.scope? with
  | some scope =>
      let (reached, scopes) := stage.scopes.setValue scope (activation.numberAt 0)
        (activation.numberAt 1) ((activation.args[2]?).getD .nil)
      (.bool reached, { stage with scopes })
  | none => (.nil, stage)

end Activation

namespace Routine

/-- Run a routine that enters no block. -/
def performInBlock (nested : Option Perform) : Perform :=
  fun routine activation stage =>
    match routine with
    | args => (.ok (.array activation.args), stage)
    | count => (.ok (.int (Int64.ofNat activation.args.length)), stage)
    | first => (.ok (activation.args.headD .nil), stage)
    | self => (.ok activation.receiver, stage)
    | constant n => (.ok (.int n), stage)
    | sum => (.ok (.int activation.sum), stage)
    | add => (activation.add, stage)
    | typeName => (.ok (.string activation.receiver.typeOf.name), stage)
    | raise => (.error (.raised (activation.args.headD activation.receiver)), stage)
    | typeError => (.error (.typeMismatch "boom"), stage)
    | yield => activation.inContext (fun _ stage => (.error .noBlock, stage)) stage
    | reason =>
        activation.inContext
          (fun context stage =>
            let (taken, stage) := stage.takeMissingReason context
            (.ok (.string taken.name), stage))
          stage
    | missing =>
        activation.inContext
          (fun context stage =>
            stage.raiseMissing context activation.receiver activation.args)
          stage
    | getLocal => (.ok (activation.getLocal stage), stage)
    | setLocal =>
        let (result, stage) := activation.setLocal stage
        (.ok result, stage)
    | run =>
        activation.inContext
          (fun context stage =>
            let (result, stage) := runScript nested context activation.scriptName? stage
            (.ok result, stage))
          stage
    | describe => (.ok (activation.describe stage), stage)
    | notice script => noticeWrite nested script activation stage

def perform (nested : Option Perform) : Perform :=
  fun routine activation stage =>
    match routine, activation.block with
    | yield, some block =>
        activation.inContext
          (fun context =>
            World.callBlock (performInBlock nested) context block activation.args)
          stage
    | routine, _ => performInBlock nested routine activation stage

end Routine

/-- How routines run where scripts may nest so many times more. -/
def performNested : Nat → Perform
  | 0 => Routine.perform none
  | more + 1 => Routine.perform (some (performNested more))

end InlineCache
