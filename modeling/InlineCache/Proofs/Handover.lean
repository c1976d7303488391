/-
# InlineCache.Proofs.Handover -- where a call hands over to code

A call goes in two stages.  In the first the engine is by itself: it links, looks the name
up, counts arguments, takes the facts of the call and notes why a send went missing.  In
the second it answers, raises what fits a miss, or enters one piece of code, under a frame
of its own or under its caller's.

`Calling.handover` is the first stage of every way to call, as a function that no code has
a part in.  `run_handover` is the main statement: a call is its first stage, and then what
that hands over to, which is entered once or not at all.
-/
import InlineCache.Proofs.Opening

namespace InlineCache

set_option autoImplicit false

variable {Code Host : Type}

/-- What the first stage of a call comes to. -/
inductive Handover (Code Host : Type) where
  | answers (outcome : Outcome) (after : World Code Host)
  /-- what fits a miss is raised -/
  | raises (frame? : Option Frame) (receiver : Value) (args : List Value)
      (before : World Code Host)
  | enters (frame? : Option Frame) (code : Code) (activation : Activation)
      (before : World Code Host)

def Handover.run (exec : Exec Code Host) (context : ContextRef) :
    Handover Code Host → Outcome × World Code Host
  | answers outcome after => (outcome, after)
  | raises frame? receiver args before =>
      World.within context frame? (fun world => world.raiseMissing context receiver args) before
  | enters frame? code activation before =>
      World.within context frame? (exec code activation) before

/-! ## What code is given -/

/-- What a primitive is given: a context and a block only if it declares them. -/
def NativeMethod.activation (native : NativeMethod Code) (context : ContextRef) (call : Call) :
    Activation where
  context := if native.wantsContext then some context else none
  receiver := call.receiver
  args := call.args
  block := if native.wantsBlock then some call.block else none
  entrance := .native

/-- What a compiled body is given, with no block if it never yields. -/
def CompiledMethod.activation (body : CompiledMethod Code) (context : ContextRef) (owner : TypeRef)
    (name : String) (call : Call) : Activation where
  context := some context
  receiver := call.receiver
  args := call.args
  block := some (if body.wantsBlock then call.block else .null)
  entrance := .compiled body.scope owner name

/-- What an entry of a handle table is given. -/
def Call.handled (call : Call) (context : ContextRef) : Activation where
  context := some context
  receiver := call.receiver
  args := call.args
  block := some call.block
  entrance := .handle

/-- What the body of a closure is given. -/
def Closure.activation (closure : Closure Code) (context : ContextRef) (args : List Value) :
    Activation where
  context := some context
  receiver := closure.binding.self
  args := args
  block := none
  entrance := .block closure.binding

/-! ## The first stage -/

/-- Go on if the arguments fit. -/
def Signature.handover (signature : Signature) (context : ContextRef) (args : List Value)
    (next : World Code Host → Handover Code Host) (world : World Code Host) :
    Handover Code Host :=
  match signature.checkArguments args (world.context context).kwargs with
  | .ok () => next (world.setKwargs context false)
  | .error fault => .answers (.error fault) (world.setKwargs context false)

/-- A primitive whose argument count is settled. -/
def NativeMethod.handover (native : NativeMethod Code) (context : ContextRef) (owner : TypeRef)
    (name : String) (call : Call) (world : World Code Host) : Handover Code Host :=
  let world := world.setKwargs context false
  let frame? := native.frame? owner name call.receiver
  match native.body with
  | .code code => .enters frame? code (native.activation context call) world
  | .raiseMissing =>
      if native.wantsContext then .raises frame? call.receiver call.args world
      else .answers (.error (.typeMismatch "method_missing called without a thread context"))
        ((world.enter context frame?).leave context frame?)

/-- An entry of a compiled body whose argument count is settled. -/
def CompiledMethod.handover (body : CompiledMethod Code) (context : ContextRef) (entry : Code)
    (owner : TypeRef) (name : String) (call : Call) (world : World Code Host) :
    Handover Code Host :=
  .enters (some ⟨call.receiver, some owner, some name⟩) entry
    (body.activation context owner name call) (world.setKwargs context false)

/-- The entry of a handle table for the count of the call, or the one for every count if the
signature allows it. -/
def HandleMethod.handover (handle : HandleMethod Code) (context : ContextRef) (call : Call)
    (world : World Code Host) : Handover Code Host :=
  let world := world.setKwargs context false
  match EntryTable.get? handle.handles call.args.length with
  | some entry => .enters none entry (call.handled context) world
  | none =>
      match handle.variadic with
      | some entry =>
          match handle.signature.check call.args.length with
          | .ok () => .enters none entry (call.handled context) world
          | .error fault => .answers (.error fault) world
      | none => .answers (.error (.argumentCount call.args.length handle.signature.expected)) world

/-- A method by its generic calling convention. -/
def Method.handover (method : Method Code) (context : ContextRef) (owner : TypeRef) (name : String)
    (call : Call) (world : World Code Host) : Handover Code Host :=
  match method.implementation with
  | .native native =>
      native.signature.handover context call.args (native.handover context owner name call) world
  | .compiled body =>
      body.signature.handover context call.args (body.handover context body.entry owner name call)
        world
  | .mixed interpreted =>
      let body := world.types.activeBody method interpreted
      body.signature.handover context call.args (body.handover context body.entry owner name call)
        world
  | .handle handle => handle.handover context call world
  | .attrReader variable_ =>
      .answers (World.callReader context variable_ call world).1
        (World.callReader context variable_ call world).2
  | .attrWriter variable_ =>
      .answers (World.callWriter context variable_ call world).1
        (World.callWriter context variable_ call world).2
  | .undefined => .answers (.error (.undefinedMethod name call.receiver.describe)) world

/-- A handler of missing methods, for a name that was sent. -/
def Method.missingHandover (handler : Method Code) (context : ContextRef) (owner : TypeRef)
    (reason : MissingReason) (name : String) (call : Call) (world : World Code Host) :
    Handover Code Host :=
  handler.handover context owner handler.name
    { call with args := missingArguments name call.args } (world.setMissingReason context reason)

def BoundThunk.handover (bound : BoundThunk Code) (context : ContextRef) (call : Call)
    (world : World Code Host) : Handover Code Host :=
  let owner := bound.entry.owner
  match bound.invoker with
  | .native native => native.handover context owner bound.name call world
  | .nativeList native =>
      native.signature.handover context call.args
        (native.handover context owner bound.name call) world
  | .handleEntry entry => .enters none entry (call.handled context) (world.setKwargs context false)
  | .handleTable handle => handle.handover context call world
  | .compiledEntry body entry => body.handover context entry owner bound.name call world
  | .compiledChecked body =>
      body.signature.handover context call.args
        (body.handover context body.entry owner bound.name call) world
  | .readVariable accessor =>
      .answers (.ok ((world.setKwargs context false).readThrough accessor call.receiver))
        (world.setKwargs context false)
  | .writeVariable accessor =>
      let written := (world.setKwargs context false).writeThrough accessor call.receiver
        (call.args.headD .nil)
      .answers written.1 written.2
  | .generic => bound.entry.method.handover context owner bound.name call world
  | .missing reason =>
      bound.entry.method.missingHandover context owner reason bound.name call world

def World.sendHandover (world : World Code Host) (context : ContextRef) (name : String)
    (callType : CallType) (call : Call) : Handover Code Host :=
  match world.resolveSend call.receiver.typeOf name callType with
  | .callable entry => entry.method.handover context entry.owner name call world
  | .missing reason (some handler) =>
      handler.method.missingHandover context handler.owner reason name call world
  | .missing reason none =>
      .raises none call.receiver (missingArguments name call.args)
        (world.setMissingReason context reason)

def World.yieldHandover (world : World Code Host) (context : ContextRef) (block : BlockRef)
    (args : List Value) : Handover Code Host :=
  match world.closure? block with
  | none => .answers (.error .noBlock) world
  | some closure =>
      let signature := closure.body.scope.signature
      if closure.isLambda then
        match signature.checkArguments args false with
        | .ok () => .enters none closure.body.entry (closure.activation context args) world
        | .error fault => .answers (.error fault) world
      else
        .enters none closure.body.entry
          (closure.activation context (signature.procArguments args)) world

/-- **The first stage of a call.** -/
def Calling.handover (context : ContextRef) (world : World Code Host) :
    Calling Code → Handover Code Host
  | .method its owner name call => its.handover context owner name call world
  | .thunk bound call => bound.handover context call world
  | .send name callType call => world.sendHandover context name callType call
  | .site ref call =>
      match world.site? ref with
      | none => .answers (.ok .nil) world
      | some its =>
          match world.arrive ref its call.receiver.typeOf with
          | (some bound, world) => bound.handover context call world
          | (none, world) => world.sendHandover context its.name its.callType call
  | .block target args => world.yieldHandover context target args

/-! ## The two stages are the call -/

namespace World

variable (exec : Exec Code Host) (context : ContextRef) (world : World Code Host)

theorem run_checked {run : World Code Host → Outcome × World Code Host}
    {next : World Code Host → Handover Code Host} (signature : Signature) (args : List Value)
    (goes : (next (world.setKwargs context false)).run exec context =
      run (world.setKwargs context false)) :
    (signature.handover context args next world).run exec context =
      checked context signature args run world := by
  unfold Signature.handover
  cases fits : signature.checkArguments args (world.context context).kwargs with
  | ok => simpa only [checked_of_accepts fits] using goes
  | error fault => simp only [checked_of_refused fits, Handover.run]

theorem runNative_eq_within (native : NativeMethod Code) (owner : TypeRef) (name : String)
    (call : Call) :
    runNative exec context native owner name call world =
      within context (native.frame? owner name call.receiver)
        (runNativeBody exec context native call) (world.setKwargs context false) := by
  unfold runNative NativeMethod.frame?
  cases native.framed <;> rfl

theorem run_runNative (native : NativeMethod Code) (owner : TypeRef) (name : String) (call : Call) :
    (native.handover context owner name call world).run exec context =
      runNative exec context native owner name call world := by
  rw [runNative_eq_within]
  unfold NativeMethod.handover
  cases body : native.body with
  | code code =>
      have runs : runNativeBody exec context native call =
          exec code (native.activation context call) :=
        funext fun world => by simp only [runNativeBody, body]; rfl
      rw [runs]
      rfl
  | raiseMissing =>
      have runs : runNativeBody exec context native call = fun world =>
          if native.wantsContext then world.raiseMissing context call.receiver call.args
          else (.error (.typeMismatch "method_missing called without a thread context"), world) :=
        funext fun world => by simp only [runNativeBody, body]
      rw [runs]
      cases native.wantsContext <;> rfl

theorem run_callNative (native : NativeMethod Code) (owner : TypeRef) (name : String)
    (call : Call) :
    (native.signature.handover context call.args
        (native.handover context owner name call) world).run exec context =
      callNative exec context native owner name call world :=
  run_checked exec context world _ _ (run_runNative exec context _ native owner name call)

theorem run_enterCompiled (body : CompiledMethod Code) (entry : Code) (owner : TypeRef)
    (name : String) (call : Call) :
    (body.handover context entry owner name call world).run exec context =
      enterCompiled exec context body entry owner name call (world.setKwargs context false) := rfl

theorem run_callCompiled (body : CompiledMethod Code) (owner : TypeRef) (name : String)
    (call : Call) :
    (body.signature.handover context call.args
        (body.handover context body.entry owner name call) world).run exec context =
      callCompiled exec context body owner name call world := by
  refine run_checked exec context world _ _ ?_
  rw [run_enterCompiled, setKwargs_again]

theorem run_callHandle (handle : HandleMethod Code) (call : Call) :
    (handle.handover context call world).run exec context =
      callHandle exec context handle call world := by
  unfold HandleMethod.handover callHandle
  cases EntryTable.get? handle.handles call.args.length with
  | some entry => rfl
  | none =>
      cases handle.variadic with
      | none => rfl
      | some entry =>
          dsimp only
          cases handle.signature.check call.args.length with
          | error fault => rfl
          | ok =>
              simp only [runHandle, setKwargs_again]
              rfl

theorem run_callMethod (method : Method Code) (owner : TypeRef) (name : String) (call : Call) :
    (method.handover context owner name call world).run exec context =
      callMethod exec context method owner name call world := by
  unfold Method.handover callMethod
  cases method.implementation with
  | native native => exact run_callNative exec context world native owner name call
  | compiled body => exact run_callCompiled exec context world body owner name call
  | mixed interpreted => exact run_callCompiled exec context world _ owner name call
  | handle handle => exact run_callHandle exec context world handle call
  | attrReader variable_ => rfl
  | attrWriter variable_ => rfl
  | undefined => rfl

theorem run_callMissing (handler : Method Code) (owner : TypeRef) (reason : MissingReason)
    (name : String) (call : Call) :
    (handler.missingHandover context owner reason name call world).run exec context =
      callMissing exec context handler owner reason name call world :=
  run_callMethod exec context _ handler owner handler.name _

theorem run_invoke (bound : BoundThunk Code) (call : Call) :
    (bound.handover context call world).run exec context =
      invoke exec context bound call world := by
  unfold BoundThunk.handover invoke
  cases bound.invoker with
  | native native => exact run_runNative exec context world native _ _ call
  | nativeList native => exact run_callNative exec context world native _ _ call
  | handleEntry entry => rfl
  | handleTable handle => exact run_callHandle exec context world handle call
  | compiledEntry body entry => exact run_enterCompiled exec context world body entry _ _ call
  | compiledChecked body => exact run_callCompiled exec context world body _ _ call
  | readVariable accessor => rfl
  | writeVariable accessor => rfl
  | generic => exact run_callMethod exec context world _ _ _ call
  | missing reason => exact run_callMissing exec context world _ _ reason _ call

theorem run_send (name : String) (callType : CallType) (call : Call) :
    (world.sendHandover context name callType call).run exec context =
      send exec context name callType call world := by
  unfold sendHandover send
  cases world.resolveSend call.receiver.typeOf name callType with
  | callable entry => exact run_callMethod exec context world _ _ name call
  | missing reason handler? =>
      cases handler? with
      | some handler => exact run_callMissing exec context world _ _ reason name call
      | none => rfl

theorem run_callBlock (block : BlockRef) (args : List Value) :
    (world.yieldHandover context block args).run exec context =
      callBlock exec context block args world := by
  unfold yieldHandover callBlock
  cases world.closure? block with
  | none => rfl
  | some closure =>
      dsimp only
      cases closure.isLambda with
      | false => rfl
      | true =>
          simp only [if_true]
          cases closure.body.scope.signature.checkArguments args false <;> rfl

end World

/-- **A call is its first stage and what that hands over to.** -/
theorem Calling.run_handover (exec : Exec Code Host) (context : ContextRef)
    (world : World Code Host) (calling : Calling Code) :
    (calling.handover context world).run exec context = calling.run exec context world := by
  cases calling with
  | method method owner name call =>
      exact World.run_callMethod exec context world method owner name call
  | thunk bound call => exact World.run_invoke exec context world bound call
  | send name callType call => exact World.run_send exec context world name callType call
  | block block args => exact World.run_callBlock exec context world block args
  | site ref call =>
      cases there : world.site? ref with
      | none => simp only [Calling.handover, Calling.run, World.callSite, there, Handover.run]
      | some its =>
          simp only [Calling.handover, Calling.run, World.callSite_eq exec context there, there]
          generalize world.arrive ref its call.receiver.typeOf = arrived
          obtain ⟨_ | bound, after⟩ := arrived
          · exact World.run_send exec context after its.name its.callType call
          · exact World.run_invoke exec context after bound call

end InlineCache
