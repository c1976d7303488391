/-
# InlineCache.Demo.Basic -- a world for the demonstration scenarios

The scenarios run in one world with three small pieces of code.  A scenario is a
computation that changes the world, prints lines, and stops at the first fault; what
it printed before stays printed.
-/
import InlineCache.Send.Block
import InlineCache.Send.Site
import InlineCache.World.Safepoints

namespace InlineCache

set_option autoImplicit false

inductive DemoCode where
  /-- the sum of two numbers -/
  | add
  /-- how many corners a shape has -/
  | corners
  /-- the arguments, as an array -/
  | echo
deriving DecidableEq, Repr

abbrev DemoWorld := World DemoCode Unit

structure DemoState where
  world : DemoWorld
  printed : Array String := #[]

abbrev Demo := ExceptT Fault (StateM DemoState)

namespace DemoCode

/-- The sum of two numbers, wrapping. -/
def sum (receiver argument : Value) : Outcome :=
  match receiver, argument with
  | .int a, .int b => .ok (.int (a + b))
  | _, other => .error (.typeMismatch (other.render ++ " can't be coerced into Integer"))

/-- A square has four corners, any other shape three. -/
def cornerCount (shape : Value) : Int64 :=
  match shape.object? with
  | some target => if target.type.name = "Square" then 4 else 3
  | none => 3

def perform : Exec DemoCode Unit :=
  fun code activation world =>
    match code with
    | add => (sum activation.receiver (activation.args.headD .nil), world)
    | corners => (.ok (.int (cornerCount activation.receiver)), world)
    | echo => (.ok (.array activation.args), world)

end DemoCode

namespace Demo

def print (line : String) : Demo Unit :=
  modify fun state => { state with printed := state.printed.push line }

def change (operation : DemoWorld → DemoWorld) : Demo Unit :=
  modify fun state => { state with world := operation state.world }

def run {α : Type} (operation : DemoWorld → α × DemoWorld) : Demo α := do
  let state ← get
  let (result, world) := operation state.world
  set { state with world }
  pure result

/-- So many rounds, numbered upward from the first, each with what the one before came to. -/
@[specialize] def roundsFrom {α : Type} (round : Nat → α → Demo α) : Nat → Nat → α → Demo α
  | _, 0, value => pure value
  | first, more + 1, value => do roundsFrom round (first + 1) more (← round first value)

/-- A round for each number below a bound, upward, each with what the one before came to. -/
def countUp {α : Type} (count : Nat) (round : Nat → α → Demo α) (start : α) : Demo α :=
  roundsFrom round 0 count start

def withContext (body : ContextRef → Demo Unit) : Demo Unit := do
  let context ← run World.createContext
  body context
  change fun world => world.releaseContext context

def define (type : TypeRef) (name : String) (implementation : Implementation DemoCode) :
    Demo Unit :=
  change fun world =>
    let (method, world) := world.createMethod name false implementation
    world.define type method

/-- The class of a name, under a parent if it is new. -/
def openClass (name : String) (parent? : Option TypeRef) : Demo TypeRef :=
  run fun world => world.openClass name parent? World.defaultFieldCapacity

def object (type : TypeRef) : Demo Value := do
  let made ← run fun world => world.createObject type
  pure (.object made)

/-- A new site for calls with a written receiver; without a count the arguments come as
one list. -/
def site (name : String) (count? : Option Nat) : Demo SiteRef :=
  run fun world =>
    world.createSite (.create name { argCount := (count?.map Int.ofNat).getD (-1) } .normal)

def call (context : ContextRef) (site : SiteRef) (receiver : Value) (args : List Value) :
    Demo Value := do
  match ← run (World.callSite DemoCode.perform context site { receiver, args }) with
  | .ok value => pure value
  | .error fault => throw fault

end Demo

def padded (width : Nat) (text : String) : String :=
  text ++ String.ofList (List.replicate (width - text.length) ' ')

namespace CallSite

def report {Code : Type} (site : CallSite Code) (label : String) : String :=
  let stats := site.stats
  padded 16 label ++ " " ++ padded 12 site.render ++
    " links=" ++ padded 4 (toString stats.links) ++
    " failures=" ++ padded 4 (toString stats.failures) ++
    " depth=" ++ toString stats.depth ++ " kind=" ++ stats.kind.name

end CallSite

namespace Demo

def report (label : String) (site : SiteRef) : Demo Unit := do
  match (← getThe DemoState).world.site? site with
  | some state => print (state.report label)
  | none => pure ()

end Demo

end InlineCache
