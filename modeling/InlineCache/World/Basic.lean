/-
# InlineCache.World.Basic -- everything the threads of a program share

A `World` holds the tables that sends read and write: types, objects, scopes, closures,
call sites, contexts, globals and their switch points, together with the settings of
linking, the log, and a field for whoever runs programs in it (`host`).  Code is a
parameter; how code runs is given to the engine as a function (`Exec`), so the engine
never looks inside.

`World.create` starts a world with the built-in types and the one method every
receiver has: a private `method_missing` on the root type, which raises.
-/
import InlineCache.Block
import InlineCache.CallSite.Basic
import InlineCache.Coverage
import InlineCache.Global.Table
import InlineCache.Log
import InlineCache.Objects
import InlineCache.Options

namespace InlineCache

set_option autoImplicit false

structure SiteRef where
  index : Nat
deriving DecidableEq, Repr

structure World (Code Host : Type) where
  options : Options := {}
  rule : LookupRule Code := .hierarchy
  points : SwitchPoints := {}
  types : Types Code := {}
  /-- the named classes -/
  classes : NameMap TypeRef := []
  objects : Objects := {}
  scopes : DynamicScopes := {}
  /-- how many block bodies have been built -/
  bodies : Nat := 0
  closures : Array (Closure Code) := #[]
  sites : Array (CallSite Code) := #[]
  contexts : Contexts := {}
  /-- guards that nobody has asked for a safepoint -/
  checkpoint : Invalidator
  globals : Globals Code := []
  coverage : Option Coverage := none
  /-- the serial number of the next method -/
  nextSerial : Nat := 1
  log : Array LogLine := #[]
  host : Host

inductive Entrance where
  | native
  | handle
  /-- a compiled body with its scope, defining type and name -/
  | compiled (scope : StaticScope) (owner : TypeRef) (name : String)
  | block (binding : Binding)
  /-- a hook on a write to a global -/
  | trace

structure Activation where
  /-- the running context, when the code is given one -/
  context : Option ContextRef
  receiver : Value
  args : List Value
  /-- the caller's block, when the code is given one -/
  block : Option BlockRef
  entrance : Entrance

structure Call where
  receiver : Value
  args : List Value := []
  block : BlockRef := .null

abbrev Exec (Code Host : Type) :=
  Code → Activation → World Code Host → Outcome × World Code Host

namespace World

variable {Code Host : Type}

def methodMissing : String := "method_missing"

/-- Instance variables a type lays out as fields unless told otherwise. -/
def defaultFieldCapacity : Nat := 4

def say (world : World Code Host) (lines : List LogLine) : World Code Host :=
  { world with log := world.log ++ lines.toArray }

def sayBinding (world : World Code Host) (text : String) : World Code Host :=
  if world.options.logBinding then world.say [⟨.info, text⟩] else world

/-! ## Contexts -/

def context (world : World Code Host) (context : ContextRef) : Context :=
  world.contexts.get context

def modifyContext (world : World Code Host) (context : ContextRef) (change : Context → Context) :
    World Code Host :=
  { world with contexts := world.contexts.modify context change }

def setKwargs (world : World Code Host) (context : ContextRef) (kwargs : Bool) :
    World Code Host :=
  world.modifyContext context fun state => { state with kwargs }

/-- Read and clear the facts set for the call being entered. -/
def takeKwargs (world : World Code Host) (context : ContextRef) : Bool × World Code Host :=
  ((world.context context).kwargs, world.setKwargs context false)

def setMissingReason (world : World Code Host) (context : ContextRef) (reason : MissingReason) :
    World Code Host :=
  world.modifyContext context fun state => { state with missingReason := reason }

/-- Read and clear the reason why the latest send went missing. -/
def takeMissingReason (world : World Code Host) (context : ContextRef) :
    MissingReason × World Code Host :=
  ((world.context context).missingReason, world.setMissingReason context .normal)

def pushFrame (world : World Code Host) (context : ContextRef) (frame : Frame) :
    World Code Host :=
  world.modifyContext context fun state => state.pushFrame frame

def popFrame (world : World Code Host) (context : ContextRef) : World Code Host :=
  world.modifyContext context Context.popFrame

/-! ## Types and methods -/

def createType (world : World Code Host) (name : String) (parent? : Option TypeRef)
    (fieldCapacity : Nat) : TypeRef × World Code Host :=
  let (ref, types, points) := world.types.create name parent? fieldCapacity world.points
  (ref, { world with types, points })

/-- A new type for each of these names, the first without a parent and the second under
the first, the others under the second; each is a named class. -/
def createBuiltins (world : World Code Host) : List TypeRef → World Code Host
  | [] => world
  | builtin :: rest =>
      let parent? := if builtin = TypeRef.basicObject then none
        else if builtin = TypeRef.object then some TypeRef.basicObject
        else some TypeRef.object
      let (ref, world) := world.createType builtin.name parent? defaultFieldCapacity
      { world with classes := NameMap.insert world.classes builtin.name ref }.createBuiltins rest

def class? (world : World Code Host) (name : String) : Option TypeRef :=
  NameMap.get? world.classes name

/-- The class of a name, made under a parent if it is new.  An open class keeps its
parent and its layout. -/
def openClass (world : World Code Host) (name : String) (parent? : Option TypeRef)
    (fieldCapacity : Nat) : TypeRef × World Code Host :=
  match world.class? name with
  | some ref => (ref, world)
  | none =>
      let (ref, world) := world.createType name (some (parent?.getD TypeRef.object)) fieldCapacity
      (ref, { world with classes := NameMap.insert world.classes name ref })

/-- A new method with the next serial number. -/
def createMethod (world : World Code Host) (name : String) (isPrivate : Bool)
    (implementation : Implementation Code) : Method Code × World Code Host :=
  ({ serial := world.nextSerial, name, isPrivate, implementation },
    { world with nextSerial := world.nextSerial + 1 })

def define (world : World Code Host) (type : TypeRef) (method : Method Code) : World Code Host :=
  let (types, points) := world.types.define type method world.points
  { world with types, points }

def lookup (world : World Code Host) (type : TypeRef) (name : String) : LookupResult Code :=
  world.types.lookup world.rule type name

/-! ## Objects and their variables -/

def createObject (world : World Code Host) (type : TypeRef) : ObjectRef × World Code Host :=
  let (ref, objects) := world.objects.create type (world.types.fieldCount type)
  (ref, { world with objects })

def getVariable (world : World Code Host) (object : ObjectRef) (name : String) : Option Value :=
  world.objects.get? object (world.types.accessorForRead object.type name)

/-- Where to write a variable of a type's objects; a new name may take a field. -/
def accessorForWrite (world : World Code Host) (type : TypeRef) (name : String) :
    VariableAccessor × World Code Host :=
  let (accessor, types) := world.types.accessorForWrite type name
  (accessor, { world with types })

def writeObject (world : World Code Host) (object : ObjectRef) (accessor : VariableAccessor)
    (value : Value) : World Code Host :=
  { world with objects := world.objects.set object accessor value }

def setVariable (world : World Code Host) (object : ObjectRef) (name : String) (value : Value) :
    World Code Host :=
  let (accessor, world) := world.accessorForWrite object.type name
  world.writeObject object accessor value

/-! ## Call sites -/

def createSite (world : World Code Host) (site : CallSite Code) : SiteRef × World Code Host :=
  (⟨world.sites.size⟩, { world with sites := world.sites.push site })

def site? (world : World Code Host) (site : SiteRef) : Option (CallSite Code) :=
  world.sites[site.index]?

def modifySite (world : World Code Host) (site : SiteRef)
    (change : CallSite Code → CallSite Code) : World Code Host :=
  { world with sites := world.sites.modify site.index change }

/-! ## A fresh world -/

/-- The method every receiver has: raise what fits the reason of the miss. -/
def defaultMissing : Implementation Code :=
  .native (.create .raiseMissing [.context, .values])

def blank (options : Options) (rule : LookupRule Code) (coverage : Option Coverage) (host : Host) :
    World Code Host :=
  let (checkpoint, points) := Invalidator.create .checkpoint true {}
  let (globals, points) := Globals.initial points
  { options, rule, points, checkpoint, globals, coverage, host }

theorem types_blank (options : Options) (rule : LookupRule Code) (coverage : Option Coverage)
    (host : Host) : (blank options rule coverage host).types = {} := rfl

/-- A blank world guards its checkpoint by a valid switch point. -/
theorem isValid_checkpoint_blank (options : Options) (rule : LookupRule Code)
    (coverage : Option Coverage) (host : Host) :
    (blank options rule coverage host).points.isValid
      (blank options rule coverage host).checkpoint.current = true := by
  simp only [blank, Invalidator.create, Globals.initial]
  exact Globals.isValid_defineAll uncachedGlobals [] (SwitchPoints.isValid_mint_self {} 0)

def create (options : Options) (rule : LookupRule Code) (coverage : Option Coverage) (host : Host) :
    World Code Host :=
  let world := (blank options rule coverage host).createBuiltins TypeRef.builtins
  let (method, world) := world.createMethod methodMissing true defaultMissing
  world.define TypeRef.basicObject method

/-- What holds of a blank world and is kept by named types and one method holds of a
fresh world. -/
theorem create_induction {motive : World Code Host → Prop} {options : Options}
    {rule : LookupRule Code} {coverage : Option Coverage} {host : Host}
    (empty : motive (blank options rule coverage host))
    (named : ∀ (world : World Code Host) (name : String) (parent? : Option TypeRef)
      (classes : NameMap TypeRef), motive world →
        motive { (world.createType name parent? defaultFieldCapacity).2 with classes })
    (defined : ∀ (world : World Code Host), motive world →
      let (method, world) := world.createMethod methodMissing true defaultMissing
      motive (world.define TypeRef.basicObject method)) :
    motive (create options rule coverage host) := by
  have builtins : ∀ (refs : List TypeRef) (world : World Code Host), motive world →
      motive (world.createBuiltins refs) := by
    intro refs
    induction refs with
    | nil => exact fun _ holds => holds
    | cons builtin rest ih => exact fun world holds => ih _ (named world _ _ _ holds)
  exact defined _ (builtins _ _ empty)

end World

end InlineCache
