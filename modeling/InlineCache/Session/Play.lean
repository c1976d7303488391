/-
# InlineCache.Session.Play -- playing a step of any family

`Step.play` hands a step to its family.  The steps that contain others play them one
after another in the context they are in; a step that cannot be played answers so and
the others go on.  After each step the session takes note of the types that are gone.
-/
import InlineCache.Session.Arity
import InlineCache.Session.Blocks
import InlineCache.Session.Cells
import InlineCache.Session.Contexts
import InlineCache.Session.Coverage
import InlineCache.Session.Globals
import InlineCache.Session.Liveness
import InlineCache.Session.Sends
import InlineCache.Session.Tables
import InlineCache.Session.Tokens
import InlineCache.Session.Values

namespace InlineCache

set_option autoImplicit false

namespace Play

def settled (play : Play Answer) : Play Answer := do
  let answer ← play <|> pure .badStep
  modify World.settle
  pure answer

/-- What steps answer in the last of several rounds. -/
def rounds (round : Play (List Answer)) : Nat → Play (List Answer)
  | 0 => pure []
  | 1 => round
  | times + 2 => do
      let _ ← round
      rounds round (times + 1)

/-- Play steps while a reader has the cell of a name pinned. -/
def withCell (name : String) (body : Play (List Answer)) : Play Answer := do
  let (index, found) ← cell name
  modifyCell index DispatchCell.pin
  onBench fun bench => { bench with pinnedCells := index :: bench.pinnedCells }
  let answers ← body
  modifyCell index DispatchCell.unpin
  onBench fun bench => { bench with pinnedCells := bench.pinnedCells.erase index }
  pure (.ok (.record [("seen", .number found.load.value), ("body", .list answers)]))

end Play

mutual

def Step.play (perform : Perform) (context : ContextRef) : Step → Play Answer
  | .value step => step.play
  | .arity step => step.play
  | .type step => step.play
  | .send step => step.play perform context
  | .context step => step.play context
  | .global step => step.play perform
  | .coverage step => step.play
  | .scope step => step.play
  | .block step => step.play perform context
  | .token step => step.play
  | .cell step => step.play
  | .table step => step.play
  | .cellWith name body => Play.withCell name (playSteps perform context body)
  | .script keepAs steps => do
      Play.onBench fun bench => { bench with scripts := NameMap.insert bench.scripts keepAs steps }
      pure (.ok (.bool true))
  | .rounds times steps => do
      pure (.ok (.list (← Play.rounds (playSteps perform context steps) times)))
  | .unreadable => failure

def playSteps (perform : Perform) (context : ContextRef) : List Step → Play (List Answer)
  | [] => pure []
  | step :: rest => do
      let answer ← Play.settled (step.play perform context)
      let answers ← playSteps perform context rest
      pure (answer :: answers)

end

def Step.answer (perform : Perform) (context : ContextRef) (step : Step) (stage : Stage) :
    Answer × Stage :=
  let settled := Play.settled (step.play perform context)
  let (answer?, stage) := StateT.run (OptionT.run settled) stage
  (answer?.getD .badStep, stage)

end InlineCache
