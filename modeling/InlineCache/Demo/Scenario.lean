/-
# InlineCache.Demo.Scenario -- what the scenarios do

* *monomorphic*: one site, one receiver type;
* *polymorphic*: one site, two receiver types in turn;
* *attributes*: a reader and a writer of an instance variable;
* *method missing*: a handler, and a receiver without one;
* *globals*: a global that stays and one that changes on each round;
* *safepoint*: several threads, each stopped by an interrupt.

Scenarios of one run share their world, so classes and globals of one are there for
the next.
-/
import InlineCache.Demo.Basic
import InlineCache.Global.Site

namespace InlineCache

set_option autoImplicit false

inductive Scenario where
  | monomorphic
  | polymorphic
  | attributes
  | methodMissing
  | globals
  | safepoint
deriving DecidableEq, Repr

namespace Demo

/-- The method of a compiled body without arguments. -/
def cornersMethod : Implementation DemoCode :=
  .compiled
    { entry := .corners
      scope := { kind := .method, locals := [], parent := none, file := "shapes.rb", line := 1 } }

/-- Add the numbers below a bound through one site. -/
def sumUp (iterations : Int) : Demo Unit :=
  withContext fun context => do
    define TypeRef.integer "+" (.native (.create (.code .add) [.value]))
    let plus ← site "+" (some 1)
    let total ← countUp iterations.toNat (fun i sum =>
      call context plus sum [.int (Int64.ofNat i)]) (.int 0)
    print ("sum of 0.." ++ toString iterations ++ " = " ++ total.render)
    report "monomorphic" plus

/-- Count the corners of a triangle and a square in turn through one site. -/
def countCorners (iterations : Int) : Demo Unit :=
  withContext fun context => do
    let shape ← openClass "Shape" none
    define shape "corners" cornersMethod
    let triangle ← object (← openClass "Triangle" (some shape))
    let square ← object (← openClass "Square" (some shape))
    let corners ← site "corners" (some 0)
    let total ← countUp iterations.toNat (fun i sum => do
      let count ← call context corners (if i % 2 = 0 then triangle else square) []
      pure (sum + count.int?.getD 0)) 0
    print ("corners counted = " ++ renderInt total)
    report "polymorphic" corners

/-- Write and read an instance variable through an attribute. -/
def readAndWrite (iterations : Int) : Demo Unit :=
  withContext fun context => do
    let point ← openClass "Point" none
    define point "x" (.attrReader "@x")
    define point "x=" (.attrWriter "@x")
    let receiver ← object point
    let reader ← site "x" (some 0)
    let writer ← site "x=" (some 1)
    print ("unset x = " ++ (← call context reader receiver []).render)
    countUp iterations.toNat (fun i _ => do
      let _ ← call context writer receiver [.int (Int64.ofNat i)]) ()
    print ("x = " ++ (← call context reader receiver []).render)
    report "attr reader" reader
    report "attr writer" writer

def sendUndefined : Demo Unit :=
  withContext fun context => do
    let ghost ← openClass "Ghost" none
    define ghost World.methodMissing (.native (.create (.code .echo) [.values]))
    let receiver ← object ghost
    let boo ← site "boo" none
    let received ← call context boo receiver [.int 1, .string "two"]
    print ("method_missing received " ++ received.render)
    report "method_missing" boo
    let plain ← object (← openClass "Plain" none)
    tryCatch (do let _ ← call context boo plain []) fun fault =>
      print ("without a handler: " ++ fault.message)

def setGlobal (name : String) (value : Value) : Demo Unit := do
  let _ ← run (World.setGlobal DemoCode.perform name value)

def readGlobal (site : GlobalSite) : Demo (Value × GlobalSite) :=
  run fun world =>
    let result := site.get world.options world.globals world.points
    let world := { world with globals := result.globals, points := result.points }
    ((result.value, result.site), world.say result.log)

def reportGlobal (site : GlobalSite) : Demo Unit := do
  let (value, site) ← readGlobal site
  print (padded 28 site.render ++ " value=" ++ value.render ++
    " failures=" ++ toString site.failures ++ " demoted=" ++ toString site.demoted)

/-- Read one global that stays as it is and one that changes each time. -/
def readGlobals (iterations : Int) : Demo Unit :=
  withContext fun _ => do
    let stable : GlobalSite := { name := "$config", file := "globals.rb", line := 1 }
    let churn : GlobalSite := { name := "$counter", file := "globals.rb", line := 2 }
    setGlobal stable.name (.string "production")
    let (stable, churn) ← countUp iterations.toNat (fun i (stable, churn) => do
      let (_, stable) ← readGlobal stable
      setGlobal churn.name (.int (Int64.ofNat i))
      let (_, churn) ← readGlobal churn
      pure (stable, churn)) (stable, churn)
    reportGlobal stable
    reportGlobal churn

/-- Poll until a fault is raised, at most so many times.  Answers how many polls went
well before it. -/
def spin (context : ContextRef) (site : CheckpointSite) :
    Nat → Demo (Nat × Option Fault × CheckpointSite)
  | 0 => pure (0, none, site)
  | more + 1 => do
      let (outcome, site) ← run fun world =>
        let (outcome, site, world) := world.poll site context
        ((outcome, site), world)
      match outcome with
      | .error fault => pure (0, some fault, site)
      | .ok () => do
          let (polls, fault, site) ← spin context site more
          pure (polls + 1, fault, site)

/-- Let a thread poll until it is stopped.  It has been interrupted, so the first poll
stops it. -/
def stopThread (site : CheckpointSite) (context : ContextRef) : Demo CheckpointSite := do
  let (polls, fault, site) ← spin context site 1
  change fun world => world.releaseContext context
  match fault with
  | some fault =>
      print (context.render ++ " stopped after " ++ toString polls ++ " polls: " ++ fault.message)
  | none => pure ()
  pure site

/-- Start threads that poll at one site, interrupt each, and see them stop. -/
def stopThreads (threads : Nat) : Demo Unit := do
  let contexts ← countUp threads (fun _ contexts => do
    let context ← run World.createContext
    pure (contexts.push context)) (#[] : Array ContextRef)
  for context in contexts do
    change fun world => world.interrupt context (.raised (.string "stop"))
  let site ← contexts.foldlM stopThread ({} : CheckpointSite)
  print ("checkpoint slow paths = " ++ toString site.slowPaths)

end Demo

namespace Scenario

/-- All scenarios, in the order in which they run by default. -/
def all : List Scenario :=
  [monomorphic, polymorphic, attributes, methodMissing, globals, safepoint]

def name : Scenario → String
  | monomorphic => "monomorphic"
  | polymorphic => "polymorphic"
  | attributes => "attribute"
  | methodMissing => "method-missing"
  | globals => "globals"
  | safepoint => "safepoint"

def title : Scenario → String
  | monomorphic => "Monomorphic"
  | polymorphic => "Polymorphic"
  | attributes => "Attribute"
  | methodMissing => "MethodMissing"
  | globals => "Globals"
  | safepoint => "Safepoint"

def ofName? (text : String) : Option Scenario :=
  all.find? fun scenario => scenario.name == text

theorem ofName?_name (scenario : Scenario) : ofName? scenario.name = some scenario := by
  cases scenario <;> decide

def run (iterations : Int) (threads : Nat) (scenario : Scenario) : Demo Unit := do
  Demo.print ("== " ++ scenario.title ++ " ==")
  match scenario with
  | monomorphic => Demo.sumUp iterations
  | polymorphic => Demo.countCorners iterations
  | attributes => Demo.readAndWrite iterations
  | methodMissing => Demo.sendUndefined
  | globals => Demo.readGlobals iterations
  | safepoint => Demo.stopThreads threads

end Scenario

end InlineCache
