/-
# InlineCache.Session.Bench -- what a session keeps under names

A session keeps what its steps make under names, one namespace for each kind of thing.
The `Bench` holds those names beside the world, together with the scripts, the trace of
nested answers, and what the calls under way hold on to.

`Play` is the computation of a step: it changes the world with its bench and fails when
a step refers to something that is not there.
-/
import InlineCache.CallSite.Basic
import InlineCache.Global.Site
import InlineCache.Interning
import InlineCache.Safepoint
import InlineCache.Scope.Local
import InlineCache.Session.Answer
import InlineCache.Session.Step
import InlineCache.Value.Literal

namespace InlineCache

set_option autoImplicit false

/-- A number that cells hold, told from every other by the order in which it was made. -/
structure CellTarget where
  id : Nat
  value : Int
deriving DecidableEq, Repr

/-- Something that a call holds on to while it is under way, whatever becomes of the
names it was found under. -/
inductive Holding where
  | value (value : Value)
  | block (block : BlockRef)
  | type (type : TypeRef)
  /-- a call site, with the chain it has from time to time -/
  | site (site : SiteRef)
  /-- a global site by its place, with the value it keeps from time to time -/
  | globalSite (index : Nat)

structure Bench where
  /-- the live contexts -/
  contexts : NameMap ContextRef := []
  /-- the latest context of each name, finished ones included -/
  contextIds : NameMap ContextRef := []
  types : NameMap TypeRef := []
  objects : NameMap ObjectRef := []
  blocks : NameMap BlockRef := []
  methods : NameMap (Method Routine) := []
  tokens : NameMap SwitchPoint := []
  invalidators : NameMap Invalidator := []
  sites : NameMap SiteRef := []
  bounds : NameMap (BoundThunk Routine) := []
  chains : NameMap (Thunk Routine) := []
  callInfos : NameMap Bool := []
  checkpoints : NameMap CheckpointSite := []
  /-- global sites by the order in which they were made -/
  globalSites : Array GlobalSite := #[]
  globalSiteNames : NameMap Nat := []
  coverSites : NameMap CoverLineSite := []
  coverages : NameMap Coverage := []
  staticScopes : NameMap StaticScope := []
  dynamicScopes : NameMap ScopeRef := []
  locals : NameMap LocalSite := []
  blockSites : NameMap (BlockSite Routine) := []
  /-- cells by the order in which they were made -/
  cells : Array (DispatchCell CellTarget) := #[]
  cellNames : NameMap Nat := []
  /-- cells that a reader has pinned, with repetition -/
  pinnedCells : List Nat := []
  held : NameMap CellTarget := []
  /-- the number of the next cell target -/
  nextTarget : Nat := 0
  tables : NameMap SymbolTable := []
  scripts : NameMap (List Step) := []
  /-- answers of steps in scripts, and writes noticed by hooks -/
  trace : Array Answer := #[]
  /-- what the calls under way hold on to, the latest call first -/
  underWay : List Holding := []
  /-- a type made for itself has lost its name, so types may be gone -/
  typesMayBeGone : Bool := false

abbrev Stage := World Routine Bench

abbrev Perform := Exec Routine Bench

abbrev Play := OptionT (StateM Stage)

namespace Play

/-- What a name stands for; the step fails when it stands for nothing. -/
def named {α : Type} (names : Bench → NameMap α) (name : String) : Play α := do
  match NameMap.get? (names (← get).host) name with
  | some found => pure found
  | none => failure

def onBench (change : Bench → Bench) : Play Unit :=
  modify fun stage => { stage with host := change stage.host }

def run {α : Type} (operation : Stage → α × Stage) : Play α := do
  let (result, stage) := operation (← get)
  set stage
  pure result

/-- Run a computation of the world while a call holds on to things. -/
def runHolding {α : Type} (holdings : List Holding) (operation : Stage → α × Stage) :
    Play α := do
  let outer := (← get).host.underWay
  onBench fun bench => { bench with underWay := holdings ++ outer }
  let result ← run operation
  onBench fun bench => { bench with underWay := outer }
  pure result

/-- The type of a name: first those made for themselves, then the classes. -/
def type (name : String) : Play TypeRef := do
  let stage ← get
  match NameMap.get? stage.host.types name with
  | some ref => pure ref
  | none =>
      match stage.class? name with
      | some ref => pure ref
      | none => failure

def block : Option String → Play BlockRef
  | some name => named Bench.blocks name
  | none => pure .null

mutual

def value : Literal → Play Value
  | .nil => pure .nil
  | .bool b => pure (.bool b)
  | .int n => pure (.int n)
  | .symbol name => pure (.symbol name)
  | .string text => pure (.string text)
  | .array items => do pure (.array (← values items))
  | .hash entries => do pure (.ofPairs (← pairs entries))
  | .type name => do pure (.type (← type name))
  | .object name => do pure (.object (← named Bench.objects name))
  | .proc none => pure (.proc .null)
  | .proc (some name) => do pure (.proc (← named Bench.blocks name))

def values : List Literal → Play (List Value)
  | [] => pure []
  | item :: rest => do
      let head ← value item
      let tail ← values rest
      pure (head :: tail)

def pairs : List (Literal × Literal) → Play (List (Value × Value))
  | [] => pure []
  | (key, item) :: rest => do
      let key ← value key
      let item ← value item
      let tail ← pairs rest
      pure ((key, item) :: tail)

end

def fault : FaultSpec → Play Fault
  | .argumentCount given expected => pure (.argumentCount given expected)
  | .undefinedMethod name receiver => pure (.undefinedMethod name receiver)
  | .privateMethod name receiver => pure (.privateMethod name receiver)
  | .undefinedName name receiver => pure (.undefinedName name receiver)
  | .typeMismatch text => pure (.typeMismatch text)
  | .noBlock => pure .noBlock
  | .raised literal => do pure (.raised (← value literal))

def call (spec : CallSpec) : Play Call := do
  let receiver ← value spec.receiver
  let args ← values spec.args
  let block ← block spec.block
  pure { receiver, args, block }

def staticScope : ScopeSpec → Play StaticScope
  | .kept name => named Bench.staticScopes name
  | .fresh kind locals parentName signature place => do
      let parent ← match parentName with
        | some name => some <$> named Bench.staticScopes name
        | none => pure none
      let scope : StaticScope := { kind, locals, parent }
      let scope := match signature with
        | some signature => { scope with signature }
        | none => scope
      pure (match place with
        | some (file, line) => { scope with file, line }
        | none => scope)

end Play

namespace Bench

/-- The first name under which something is kept. -/
def nameOf? {α : Type} (map : NameMap α) (is_ : α → Bool) : Option String :=
  (map.find? fun entry => is_ entry.2).map Prod.fst

/-- The name an object is kept under. -/
def objectName? (bench : Bench) (object : ObjectRef) : Option String :=
  nameOf? bench.objects fun kept => kept.id == object.id

/-- The name a block is kept under; the null block has none. -/
def blockName? (bench : Bench) (block : BlockRef) : Option String :=
  if block.isGiven then nameOf? bench.blocks (· == block) else none

mutual

/-- A value as data; objects and blocks are shown by the names they are kept under. -/
def answer (bench : Bench) : Value → Answer
  | .nil => .null
  | .bool b => .bool b
  | .int n => .number n.toInt
  | .symbol name => .record [("sym", .text name)]
  | .string text => .text text
  | .array items => .list (answers bench items)
  | .hash entries => .record [("hash", .list (entryAnswers bench entries))]
  | .object target => .record [("obj", .ofText? (bench.objectName? target))]
  | .type target => .record [("class", .text target.name)]
  | .proc block => .record [("proc", .ofText? (bench.blockName? block))]

def answers (bench : Bench) : List Value → List Answer
  | [] => []
  | value :: rest => answer bench value :: answers bench rest

def entryAnswers (bench : Bench) : List (Value × Value) → List Answer
  | [] => []
  | (key, value) :: rest =>
      .list [answer bench key, answer bench value] :: entryAnswers bench rest

end

def optional (bench : Bench) : Option Value → Answer
  | some value => .list [bench.answer value]
  | none => .text "unset"

def outcome (bench : Bench) : Outcome → Answer
  | .ok value => .ok (bench.answer value)
  | .error cause => .fault cause

end Bench

namespace Play

def shown (value : Value) : Play Answer := do pure ((← get).host.answer value)

def shownOptional (value : Option Value) : Play Answer := do
  pure ((← get).host.optional value)

def shownOutcome (outcome : Outcome) : Play Answer := do pure ((← get).host.outcome outcome)

end Play

end InlineCache
