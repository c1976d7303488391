/-
# InlineCache.Session.Blocks -- playing steps about blocks
-/
import InlineCache.Send.Block
import InlineCache.Session.Scopes

namespace InlineCache

set_option autoImplicit false

namespace Binding

/-- What a closure captured as data; its frame is shown by its name. -/
def answer (binding : Binding) (bench : Bench) : Answer :=
  .record [("self", bench.answer binding.self), ("frame", .ofText? (binding.frame.bind Frame.name)),
    ("has_frame", .bool binding.frame.isSome), ("has_scope", .bool binding.scope.isSome)]

end Binding

namespace World

def blockPortrait (stage : Stage) (block : BlockRef) : Answer :=
  let closure := stage.closure? block
  let given (shown : Closure Routine → Answer) : Answer := (closure.map shown).getD .null
  .record [("given", .bool block.isGiven), ("lambda", .bool (closure.any Closure.isLambda)),
    ("debug", .text (stage.renderBlock block)),
    ("sig", given fun closure => .signature closure.body.scope.signature),
    ("vars", given fun closure => .ofNat closure.body.scope.locals.length),
    ("binding", given fun closure => closure.binding.answer stage.host)]

end World

namespace Play

def keepBlock (name : String) (block : BlockRef) : Play Unit :=
  onBench fun bench => { bench with blocks := NameMap.insert bench.blocks name block }

/-- A block site after a closure was made from it, as data. -/
def shownBlockSite (site : BlockSite Routine) (block : BlockRef) : Play Answer := do
  let body := ((← getThe Stage).closure? block).map Closure.bodyRef
  pure (.record [("prepared", .ofNat site.prepared),
    ("strategy", .ofText? (site.strategy.map CaptureStrategy.name)),
    ("same_body", .bool (body.isSome && body == site.bodyRef)),
    ("requirements", .ofNat site.plan.requirements.bits), ("built", .ofNat site.built)])

end Play

def BlockStep.play (perform : Perform) (context : ContextRef) : BlockStep → Play Answer
  | .strategy requirements => do
      let strategy := CaptureStrategy.select requirements
      pure (.ok (.list [.text strategy.name, .bool strategy.capturesFrame,
        .bool strategy.capturesScope]))
  | .block keepAs entry scope self dynamic requirements isLambda => do
      let scope ← Play.staticScope scope
      let self ← Play.value self
      let dynamic ← Play.dynamicScope? dynamic
      let body : BlockBody Routine := { entry, scope, requirements }
      let made ← Play.run fun stage =>
        let frame := (stage.context context).frames.current
        let binding := (CaptureStrategy.select requirements).capture frame self dynamic
        let (bodyRef, stage) := stage.createBody
        stage.createClosure { bodyRef, body, binding, isLambda }
      Play.keepBlock keepAs made
      pure (.ok (.bool true))
  | .site keepAs entry scope requirements => do
      let scope ← Play.staticScope scope
      let made : BlockSite Routine := { plan := { entry, scope, requirements } }
      Play.onBench fun bench =>
        { bench with blockSites := NameMap.insert bench.blockSites keepAs made }
      pure (.ok (.ofNat made.built))
  | .prepare name keepAs self dynamic => do
      let before ← Play.named Bench.blockSites name
      let self ← Play.value self
      let dynamic ← Play.dynamicScope? dynamic
      let (made, after) ← Play.run fun stage =>
        let (made, after, stage) := stage.prepareBlock before context self dynamic
        ((made, after), stage)
      Play.onBench fun bench =>
        { bench with blockSites := NameMap.insert bench.blockSites name after }
      Play.keepBlock keepAs made
      pure (.ok (← Play.shownBlockSite after made))
  | .call name args => do
      let called ← Play.block name
      let args ← Play.values args
      let outcome ← Play.runHolding (.block called :: args.map .value)
        (World.callBlock perform context called args)
      Play.shownOutcome outcome
  | .info name => do
      let asked ← Play.block name
      pure (.ok ((← getThe Stage).blockPortrait asked))
  | .same a b => do
      let a ← Play.block a
      let b ← Play.block b
      pure (.ok (.bool (a == b)))

end InlineCache
