/-
# InlineCache.Send.Block -- making and calling closures, and writing globals

A closure is made from a body and the binding captured in the running activation, and
called with a list of arguments.  Writing a global stores the value, runs the hooks on
the variable, and only then flips the switch point of cached reads.
-/
import InlineCache.World.Basic

namespace InlineCache.World

set_option autoImplicit false

variable {Code Host : Type}

/-! ## Closures -/

def createBody (world : World Code Host) : BodyRef × World Code Host :=
  (⟨world.bodies⟩, { world with bodies := world.bodies + 1 })

def createClosure (world : World Code Host) (closure : Closure Code) :
    BlockRef × World Code Host :=
  (.closure world.closures.size, { world with closures := world.closures.push closure })

/-- The closure a block stands for; the null block stands for none. -/
def closure? (world : World Code Host) (block : BlockRef) : Option (Closure Code) :=
  match block with
  | .null => none
  | .closure id => world.closures[id]?

def renderBlock (world : World Code Host) (block : BlockRef) : String :=
  match world.closure? block with
  | some closure => closure.render
  | none => "Block(null)"

def runBlock (exec : Exec Code Host) (context : ContextRef) (closure : Closure Code)
    (args : List Value) (world : World Code Host) : Outcome × World Code Host :=
  exec closure.body.entry
    { context := some context
      receiver := closure.binding.self
      args
      block := none
      entrance := .block closure.binding }
    world

/-- **Yield to a block.**  A lambda refuses arguments that do not fit, a proc adapts
them, and nobody can yield to the null block. -/
def callBlock (exec : Exec Code Host) (context : ContextRef) (block : BlockRef)
    (args : List Value) (world : World Code Host) : Outcome × World Code Host :=
  match world.closure? block with
  | none => (.error .noBlock, world)
  | some closure =>
      let signature := closure.body.scope.signature
      if closure.isLambda then
        match signature.checkArguments args false with
        | .ok () => runBlock exec context closure args world
        | .error fault => (.error fault, world)
      else runBlock exec context closure (signature.procArguments args) world

/-- The body of a block site, built on first use, and the strategy it calls for. -/
def settleBlockSite (world : World Code Host) (site : BlockSite Code) :
    BodyRef × CaptureStrategy × BlockSite Code × World Code Host :=
  let (bodyRef, site, world) := match site.bodyRef with
    | some bodyRef => (bodyRef, site, world)
    | none =>
        let (bodyRef, world) := world.createBody
        (bodyRef, { site with bodyRef := some bodyRef, built := site.built + 1 }, world)
  let strategy := site.strategy.getD (.select site.plan.requirements)
  (bodyRef, strategy, { site with strategy := some strategy }, world)

def prepareBlock (world : World Code Host) (site : BlockSite Code) (context : ContextRef)
    (self : Value) (scope : Option ScopeRef) :
    BlockRef × BlockSite Code × World Code Host :=
  let (bodyRef, strategy, site, world) := world.settleBlockSite site
  let world := if site.prepared = 0 then
      world.sayBinding ("block at " ++ site.plan.scope.place ++ " captures " ++ strategy.name)
    else world
  let binding := strategy.capture (world.context context).frames.current self scope
  let (block, world) := world.createClosure { bodyRef, body := site.plan, binding, isLambda := false }
  (block, { site with prepared := site.prepared + 1 }, world)

/-! ## Globals -/

def runTraces (exec : Exec Code Host) (name : String) (value : Value) :
    List Code → World Code Host → World Code Host
  | [], world => world
  | hook :: rest, world =>
      let (_, world) := exec hook
        { context := none
          receiver := .nil
          args := [.symbol name, value]
          block := none
          entrance := .trace }
        world
      runTraces exec name value rest world

/-- **Write a global**: store, run the hooks, then revoke cached reads. -/
def setGlobal (exec : Exec Code Host) (name : String) (value : Value)
    (world : World Code Host) : Outcome × World Code Host :=
  let (globals, points) := world.globals.mention name world.points
  let world := { world with globals := globals.assign name value, points }
  let hooks := match NameMap.get? world.globals name with
    | some variable_ => variable_.traces
    | none => []
  let world := runTraces exec name value hooks world
  let (globals, points) := world.globals.invalidate name world.points
  (.ok value, { world with globals, points })

end InlineCache.World
