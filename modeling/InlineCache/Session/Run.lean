/-
# InlineCache.Session.Run -- running a session

A session starts with a fresh world and one context, `main`, and plays its steps in
order, each in the latest context of the name it gives.  A step that makes or finishes a
context is played also when that one is finished.  The answer to a step also tells what was logged
and what was traced while it was played, if anything was.
-/
import InlineCache.Session.Perform

namespace InlineCache

set_option autoImplicit false

inductive LookupChoice where
  | hierarchy
  /-- only the handler of missing methods is seen -/
  | missingOnly
  | nothing
  | ownOnly
deriving DecidableEq, Repr

structure SessionSetup where
  options : OptionsSpec := {}
  lookup : LookupChoice := .hierarchy
  /-- whether coverage is recorded, and if so whether each marker reports once -/
  coverage : Option Bool := none

namespace LookupChoice

def rule {Code : Type} : LookupChoice → LookupRule Code
  | hierarchy => .hierarchy
  | missingOnly => .only World.methodMissing
  | nothing => .nothing
  | ownOnly => .own

end LookupChoice

namespace SessionSetup

/-- The context a session starts with, and runs in unless a step says otherwise. -/
def mainContext : String := "main"

def stage (setup : SessionSetup) : Stage :=
  let coverage := setup.coverage.map fun oneShot => ({ oneShot } : Coverage)
  let stage : Stage := World.create setup.options.options setup.lookup.rule coverage {}
  let (context, stage) := stage.createContext
  let names := [(mainContext, context)]
  { stage with host := { stage.host with contexts := names, contextIds := names } }

end SessionSetup

namespace TopStep

/-- Play a step, and tell what was logged and traced meanwhile. -/
def answer (step : TopStep) (stage : Stage) : Answer × Stage :=
  let stage : Stage := { stage with log := #[], host := { stage.host with trace := #[] } }
  let (answer, stage) := match NameMap.get? stage.host.contextIds step.context with
    | some context => step.step.answer (performNested deepestNesting) context stage
    | none => (.badStep, stage)
  let logs := if stage.log.isEmpty then []
    else [("logs", Answer.list (stage.log.toList.map fun line => .text line.render))]
  let trace := if stage.host.trace.isEmpty then []
    else [("trace", Answer.list stage.host.trace.toList)]
  (answer.extend (logs ++ trace), stage)

end TopStep

def playTopSteps : List TopStep → Stage → List Answer
  | [], _ => []
  | step :: rest, stage =>
      let (answer, stage) := step.answer stage
      answer :: playTopSteps rest stage

/-- **Run a session**: the answers to its steps. -/
def runSession (setup : SessionSetup) (steps : List TopStep) : List Answer :=
  playTopSteps steps setup.stage

/-- The answer to a single step in a session of its own. -/
def runStep (step : Step) : Answer :=
  (TopStep.answer ⟨SessionSetup.mainContext, step⟩ (SessionSetup.stage {})).1

end InlineCache
