/-
# InlineCache.Send.Specialize -- binding a resolved method for a call shape

For each kind of method `specialize` builds the tightest invoker it can for the shape
of the call, or none, which leaves the site with the generic calling convention.
Binding an attribute lays the variable out in the receiver's type.

`invoke` runs a bound thunk.
-/
import InlineCache.Send.Method

namespace InlineCache

set_option autoImplicit false

variable {Code Host : Type}

namespace Invoker

def ofNative? (shape : CallShape) (method : NativeMethod Code) : Option (Invoker Code) :=
  match method.arity? with
  | none => none
  | some arity =>
      if 0 ≤ arity ∧ shape.argCount = arity ∧
          method.signature.checkShape shape.argCount = .accepted then
        some (.native method)
      else if arity = -1 then some (.nativeList method)
      else none

/-- The entry for the count of the shape, or the whole table if it takes every count. -/
def ofHandle? (shape : CallShape) (method : HandleMethod Code) : Option (Invoker Code) :=
  let specific :=
    if 0 ≤ shape.argCount then EntryTable.get? method.handles shape.argCount.toNat else none
  match specific with
  | some entry => some (.handleEntry entry)
  | none => if method.variadic.isSome then some (.handleTable method) else none

/-- The entry of a compiled body for the shape, when the shape settles the count. -/
def ofCompiled (shape : CallShape) (method : CompiledMethod Code) : Invoker Code :=
  match method.signature.checkShape shape.argCount with
  | .accepted =>
      .compiledEntry method
        ((EntryTable.get? method.specific shape.argCount.toNat).getD method.entry)
  | _ => .compiledChecked method

end Invoker

namespace Types

/-- The tightest invoker for a method and a shape, and the types after it is built. -/
def specialize (table : Types Code) (options : Options) (shape : CallShape)
    (receiverType : TypeRef) (method : Method Code) : Option (Invoker Code) × Types Code :=
  match method.implementation with
  | .native native =>
      (if options.nativeBinding then Invoker.ofNative? shape native else none, table)
  | .handle handle =>
      (if options.nativeBinding then Invoker.ofHandle? shape handle else none, table)
  | .compiled compiled =>
      (if options.compiledBinding then some (Invoker.ofCompiled shape compiled) else none, table)
  | .mixed _ =>
      (if options.compiledBinding then
          (table.promoted? method).map (Invoker.ofCompiled shape)
        else none, table)
  | .attrReader variable_ =>
      if options.attrBinding ∧ shape.argCount = 0 ∧ ¬ shape.hasBlock then
        let (accessor, table) := table.accessorForWrite receiverType variable_
        (some (.readVariable accessor), table)
      else (none, table)
  | .attrWriter variable_ =>
      if options.attrBinding ∧ shape.argCount = 1 ∧ ¬ shape.hasBlock then
        let (accessor, table) := table.accessorForWrite receiverType variable_
        (some (.writeVariable accessor), table)
      else (none, table)
  | .undefined => (none, table)

end Types

namespace BoundThunk

def generic (name : String) (entry : CacheEntry Code) : BoundThunk Code :=
  { name, entry, invoker := .generic }

def missing (name : String) (reason : MissingReason) (handler : CacheEntry Code) :
    BoundThunk Code :=
  { name, entry := handler, invoker := .missing reason }

end BoundThunk

/-- What `method_missing` is given for any call: the name sent, then the arguments. -/
def missingArguments (name : String) (args : List Value) : List Value :=
  .symbol name :: args

namespace World

def specialize (world : World Code Host) (options : Options) (name : String) (shape : CallShape)
    (receiverType : TypeRef) (entry : CacheEntry Code) :
    Option (BoundThunk Code) × World Code Host :=
  let (invoker, types) := world.types.specialize options shape receiverType entry.method
  (invoker.map fun invoker => { name, entry, invoker }, { world with types })

def callMissing (exec : Exec Code Host) (context : ContextRef) (handler : Method Code)
    (owner : TypeRef) (reason : MissingReason) (name : String) (call : Call)
    (world : World Code Host) : Outcome × World Code Host :=
  callMethod exec context handler owner handler.name
    { call with args := missingArguments name call.args }
    (world.setMissingReason context reason)

def invoke (exec : Exec Code Host) (context : ContextRef) (bound : BoundThunk Code) (call : Call)
    (world : World Code Host) : Outcome × World Code Host :=
  let owner := bound.entry.owner
  match bound.invoker with
  | .native method => runNative exec context method owner bound.name call world
  | .nativeList method => callNative exec context method owner bound.name call world
  | .handleEntry entry => runHandle exec context entry call world
  | .handleTable method => callHandle exec context method call world
  | .compiledEntry method entry =>
      enterCompiled exec context method entry owner bound.name call (world.setKwargs context false)
  | .compiledChecked method => callCompiled exec context method owner bound.name call world
  | .readVariable accessor =>
      let world := world.setKwargs context false
      (.ok (world.readThrough accessor call.receiver), world)
  | .writeVariable accessor =>
      (world.setKwargs context false).writeThrough accessor call.receiver (call.args.headD .nil)
  | .generic => callMethod exec context bound.entry.method owner bound.name call world
  | .missing reason =>
      callMissing exec context bound.entry.method owner reason bound.name call world

end World

end InlineCache
