/-
# InlineCache.Send.Method -- running a method

`callMethod` is the generic calling convention: it takes the call's facts, checks the
argument count against the signature, and runs the method's code with what that kind
of method is given.  Every bound thunk is meant to do exactly this.

A compiled body and a framed primitive run under a frame of their own, which is taken
off again whatever they come to.
-/
import InlineCache.World.Basic

namespace InlineCache.World

set_option autoImplicit false

variable {Code Host : Type}

/-- Raise what fits the reason of a miss.  The arguments start with the name sent. -/
def raiseMissing (world : World Code Host) (context : ContextRef) (receiver : Value)
    (args : List Value) : Outcome × World Code Host :=
  let (reason, world) := world.takeMissingReason context
  match args with
  | .symbol name :: _ =>
      let receiver := receiver.describe
      let fault := match reason with
        | .hidden => Fault.privateMethod name receiver
        | .variableLike => Fault.undefinedName name receiver
        | .normal | .functional => Fault.undefinedMethod name receiver
      (.error fault, world)
  | _ => (.error (.argumentCount 0 "1+"), world)

def underFrame (context : ContextRef) (frame : Frame)
    (run : World Code Host → Outcome × World Code Host) (world : World Code Host) :
    Outcome × World Code Host :=
  let (outcome, world) := run (world.pushFrame context frame)
  (outcome, world.popFrame context)

def runNativeBody (exec : Exec Code Host) (context : ContextRef) (method : NativeMethod Code)
    (call : Call) (world : World Code Host) : Outcome × World Code Host :=
  match method.body with
  | .raiseMissing =>
      if method.wantsContext then world.raiseMissing context call.receiver call.args
      else (.error (.typeMismatch "method_missing called without a thread context"), world)
  | .code code =>
      exec code
        { context := if method.wantsContext then some context else none
          receiver := call.receiver
          args := call.args
          block := if method.wantsBlock then some call.block else none
          entrance := .native }
        world

/-- Run a primitive whose argument count is settled. -/
def runNative (exec : Exec Code Host) (context : ContextRef) (method : NativeMethod Code)
    (owner : TypeRef) (name : String) (call : Call) (world : World Code Host) :
    Outcome × World Code Host :=
  let world := world.setKwargs context false
  let run := runNativeBody exec context method call
  if method.framed then underFrame context ⟨call.receiver, some owner, some name⟩ run world
  else run world

/-- Check the argument count of a call against a signature and go on if it fits. -/
def checked (context : ContextRef) (signature : Signature) (args : List Value)
    (run : World Code Host → Outcome × World Code Host) (world : World Code Host) :
    Outcome × World Code Host :=
  let (kwargs, world) := world.takeKwargs context
  match signature.checkArguments args kwargs with
  | .ok () => run world
  | .error fault => (.error fault, world)

def callNative (exec : Exec Code Host) (context : ContextRef) (method : NativeMethod Code)
    (owner : TypeRef) (name : String) (call : Call) (world : World Code Host) :
    Outcome × World Code Host :=
  checked context method.signature call.args (runNative exec context method owner name call) world

/-- Run an entry of a compiled body under a frame of its own. -/
def enterCompiled (exec : Exec Code Host) (context : ContextRef) (method : CompiledMethod Code)
    (entry : Code) (owner : TypeRef) (name : String) (call : Call) (world : World Code Host) :
    Outcome × World Code Host :=
  underFrame context ⟨call.receiver, some owner, some name⟩
    (exec entry
      { context := some context
        receiver := call.receiver
        args := call.args
        block := some (if method.wantsBlock then call.block else .null)
        entrance := .compiled method.scope owner name })
    world

def callCompiled (exec : Exec Code Host) (context : ContextRef) (method : CompiledMethod Code)
    (owner : TypeRef) (name : String) (call : Call) (world : World Code Host) :
    Outcome × World Code Host :=
  checked context method.signature call.args
    (enterCompiled exec context method method.entry owner name call) world

def runHandle (exec : Exec Code Host) (context : ContextRef) (entry : Code) (call : Call)
    (world : World Code Host) : Outcome × World Code Host :=
  exec entry
    { context := some context
      receiver := call.receiver
      args := call.args
      block := some call.block
      entrance := .handle }
    (world.setKwargs context false)

/-- Choose an entry of a handle table by the count of the call, or the entry for every
count if the signature allows it. -/
def callHandle (exec : Exec Code Host) (context : ContextRef) (method : HandleMethod Code)
    (call : Call) (world : World Code Host) : Outcome × World Code Host :=
  match EntryTable.get? method.handles call.args.length with
  | some entry => runHandle exec context entry call world
  | none =>
      let world := world.setKwargs context false
      match method.variadic with
      | some entry =>
          match method.signature.check call.args.length with
          | .ok () => runHandle exec context entry call world
          | .error fault => (.error fault, world)
      | none =>
          (.error (.argumentCount call.args.length method.signature.expected), world)

def cannotSet (variable_ : String) (receiver : Value) : Fault :=
  .typeMismatch ("can't set " ++ variable_ ++ " on " ++ receiver.render)

/-- Read a variable through an accessor; unassigned reads as nil. -/
def readThrough (world : World Code Host) (accessor : VariableAccessor) (receiver : Value) :
    Value :=
  match receiver with
  | .object target => (world.objects.get? target accessor).getD .nil
  | _ => .nil

/-- How a refused write through an accessor names the variable. -/
def accessorName : VariableAccessor → String
  | .field _ => "instance variable"
  | .dictionary name => name

def writeThrough (world : World Code Host) (accessor : VariableAccessor) (receiver value : Value) :
    Outcome × World Code Host :=
  match receiver with
  | .object target => (.ok value, world.writeObject target accessor value)
  | _ => (.error (cannotSet (accessorName accessor) receiver), world)

def readAttribute (world : World Code Host) (name : String) (receiver : Value) : Value :=
  match receiver with
  | .object target => (world.getVariable target name).getD .nil
  | _ => .nil

def writeAttribute (world : World Code Host) (name : String) (receiver value : Value) :
    Outcome × World Code Host :=
  match receiver with
  | .object target => (.ok value, world.setVariable target name value)
  | _ => (.error (cannotSet name receiver), world)

def callReader (context : ContextRef) (name : String) (call : Call) (world : World Code Host) :
    Outcome × World Code Host :=
  let world := world.setKwargs context false
  match call.args with
  | [] => (.ok (world.readAttribute name call.receiver), world)
  | args => (.error (.argumentCount args.length Signature.noArguments.expected), world)

def callWriter (context : ContextRef) (name : String) (call : Call) (world : World Code Host) :
    Outcome × World Code Host :=
  let world := world.setKwargs context false
  match call.args with
  | [value] => world.writeAttribute name call.receiver value
  | args => (.error (.argumentCount args.length Signature.oneArgument.expected), world)

/-- **The generic calling convention.**  The method runs as defined on `owner` under
`name`. -/
def callMethod (exec : Exec Code Host) (context : ContextRef) (method : Method Code)
    (owner : TypeRef) (name : String) (call : Call) (world : World Code Host) :
    Outcome × World Code Host :=
  match method.implementation with
  | .native native => callNative exec context native owner name call world
  | .compiled compiled => callCompiled exec context compiled owner name call world
  | .mixed interpreted =>
      callCompiled exec context (world.types.activeBody method interpreted) owner name call world
  | .handle handle => callHandle exec context handle call world
  | .attrReader variable_ => callReader context variable_ call world
  | .attrWriter variable_ => callWriter context variable_ call world
  | .undefined => (.error (.undefinedMethod name call.receiver.describe), world)

/-- A call that goes through its check runs with the call's facts cleared. -/
theorem checked_of_accepts {context : ContextRef} {signature : Signature} {args : List Value}
    {run : World Code Host → Outcome × World Code Host} {world : World Code Host}
    (fits : signature.checkArguments args (world.context context).kwargs = .ok ()) :
    checked context signature args run world = run (world.setKwargs context false) := by
  simp [checked, takeKwargs, fits]

/-- A call that does not fit runs nothing. -/
theorem checked_of_refused {context : ContextRef} {signature : Signature} {args : List Value}
    {run : World Code Host → Outcome × World Code Host} {world : World Code Host} {fault : Fault}
    (unfit : signature.checkArguments args (world.context context).kwargs = .error fault) :
    checked context signature args run world = (.error fault, world.setKwargs context false) := by
  simp [checked, takeKwargs, unfit]

end InlineCache.World
