/-
# InlineCache.Proofs.Opening -- what a call does by itself, and the code it runs

A call goes through a method, a bound thunk, the uncached send, a call site or a block
(`Calling`).  First its site links, if it goes through one that has to
(`Calling.reached`).  Then it takes a few steps of its own (`Prepares`): it notes things in
its context and keeps the value of a variable.  And then it either answers or hands over to
one piece of code, under a frame of its own or under the frame of its caller (`Opens`).

* `opens_calling`: every way to call does this, with the frame it is said to push
  (`Calling.frame?`) and the call facts it is said to take (`Calling.takes`);
* `Engine.calling`: so a call keeps whatever its own steps and the code it runs keep;
* `Tame.keeps`: and so does code that does nothing itself but what is quiet, and leaves
  the rest to calls, however deep these go;
* `Deed.tame_enact`, `Deed.lawful_enact`: the bodies of a small language are such code.
-/
import InlineCache.Proofs.Calls
import InlineCache.Send.Block

namespace InlineCache

set_option autoImplicit false

variable {Code Host : Type}

inductive Calling (Code : Type) where
  /-- a method by its generic calling convention -/
  | method (its : Method Code) (owner : TypeRef) (name : String) (call : Call)
  | thunk (bound : BoundThunk Code) (call : Call)
  | send (name : String) (callType : CallType) (call : Call)
  | site (ref : SiteRef) (call : Call)
  | block (target : BlockRef) (args : List Value)

/-- Is it the body of a block that was entered? -/
def Entrance.isBlock : Entrance → Bool
  | .block _ => true
  | _ => false

/-- Is this the frame that such an activation runs under?  A compiled body has one of its
own, which holds its receiver, its defining type and its name.  A primitive may have one,
which holds its receiver.  All else runs under the frame of the caller. -/
def Activation.Under (activation : Activation) (frame? : Option Frame) : Prop :=
  match activation.entrance with
  | .compiled _ owner name => frame? = some ⟨activation.receiver, some owner, some name⟩
  | .native => ∀ frame, frame? = some frame → frame.self = activation.receiver
  | .handle | .block _ | .trace => frame? = none

/-! ## Frames and facts -/

/-- The frame of its own that a primitive runs under, if it has one. -/
def NativeMethod.frame? (native : NativeMethod Code) (owner : TypeRef) (name : String)
    (receiver : Value) : Option Frame :=
  if native.framed then some ⟨receiver, some owner, some name⟩ else none

/-- The frame of its own that a method runs under, if it has one: a compiled body and a
framed primitive have. -/
def Method.frame? (method : Method Code) (owner : TypeRef) (name : String) (receiver : Value) :
    Option Frame :=
  match method.implementation with
  | .native native => native.frame? owner name receiver
  | .compiled _ | .mixed _ => some ⟨receiver, some owner, some name⟩
  | .handle _ | .attrReader _ | .attrWriter _ | .undefined => none

/-- What runs a compiled body runs under a frame, and is no tombstone. -/
theorem Method.frame?_of_compiledBody {table : Types Code} {method : Method Code}
    {body : CompiledMethod Code} (runs : table.compiledBody? method = some body) (owner : TypeRef)
    (name : String) (receiver : Value) :
    method.frame? owner name receiver = some ⟨receiver, some owner, some name⟩ ∧
      method.isUndefined = false := by
  unfold Types.compiledBody? at runs
  unfold Method.frame? Method.isUndefined
  split at runs
  · rename_i kind
    rw [kind]
    exact ⟨rfl, rfl⟩
  · rename_i kind
    rw [kind]
    exact ⟨rfl, rfl⟩
  · cases runs

namespace BoundThunk

/-- The frame that a bound thunk runs its method under, if it is one of its own. -/
def frame? (bound : BoundThunk Code) (receiver : Value) : Option Frame :=
  match bound.invoker with
  | .native native | .nativeList native => native.frame? bound.entry.owner bound.name receiver
  | .compiledEntry _ _ | .compiledChecked _ =>
      some ⟨receiver, some bound.entry.owner, some bound.name⟩
  | .generic => bound.entry.method.frame? bound.entry.owner bound.name receiver
  | .missing _ => bound.entry.method.frame? bound.entry.owner bound.entry.method.name receiver
  | .handleEntry _ | .handleTable _ | .readVariable _ | .writeVariable _ => none

/-- Does a bound thunk take the facts of its call? -/
def takes (bound : BoundThunk Code) : Bool :=
  match bound.invoker with
  | .generic | .missing _ => !bound.entry.method.isUndefined
  | _ => true

end BoundThunk

namespace World

/-- Does a send come to a method, or to a handler of missing methods, that is no
tombstone? -/
def answers (world : World Code Host) (type : TypeRef) (name : String) (callType : CallType) :
    Bool :=
  match world.resolveSend type name callType with
  | .callable entry => !entry.method.isUndefined
  | .missing _ (some handler) => !handler.method.isUndefined
  | .missing _ none => false

/-- The frame that a send runs code under, if it is one of its own. -/
def sendFrame? (world : World Code Host) (name : String) (callType : CallType) (call : Call) :
    Option Frame :=
  match world.resolveSend call.receiver.typeOf name callType with
  | .callable entry => entry.method.frame? entry.owner name call.receiver
  | .missing _ (some handler) =>
      handler.method.frame? handler.owner handler.method.name call.receiver
  | .missing _ none => none

/-- What a call through a site comes to for a receiver type: the thunk to run, or none if
the name is to be sent without the site.  A site that has no entry for the type links. -/
def arrive (world : World Code Host) (ref : SiteRef) (site : CallSite Code) (type : TypeRef) :
    Option (BoundThunk Code) × World Code Host :=
  match site.target.load.dispatch world.points type.id with
  | .bound bound => (some bound, world)
  | .megamorphic => (none, world)
  | .link => world.link ref site type

/-- The world in which code is entered, with the frame of its own if it has one. -/
def enter (world : World Code Host) (context : ContextRef) : Option Frame → World Code Host
  | none => world
  | some frame => world.pushFrame context frame

/-- The world after code has come to an end, its own frame taken off. -/
def leave (world : World Code Host) (context : ContextRef) : Option Frame → World Code Host
  | none => world
  | some _ => world.popFrame context

/-- Run code under a frame of its own if it has one. -/
def within (context : ContextRef) (frame? : Option Frame)
    (run : World Code Host → Outcome × World Code Host) (world : World Code Host) :
    Outcome × World Code Host :=
  ((run (world.enter context frame?)).1, (run (world.enter context frame?)).2.leave context frame?)

end World

namespace Calling

def run (exec : Exec Code Host) (context : ContextRef) (world : World Code Host) :
    Calling Code → Outcome × World Code Host
  | .method its owner name call => World.callMethod exec context its owner name call world
  | .thunk bound call => World.invoke exec context bound call world
  | .send name callType call => World.send exec context name callType call world
  | .site ref call => World.callSite exec context ref call world
  | .block target args => World.callBlock exec context target args world

/-- The frame that a call runs code under, if it is one of its own. -/
def frame? (world : World Code Host) : Calling Code → Option Frame
  | .method its owner name call => its.frame? owner name call.receiver
  | .thunk bound call => bound.frame? call.receiver
  | .send name callType call => world.sendFrame? name callType call
  | .site ref call =>
      match world.site? ref with
      | none => none
      | some its =>
          match world.arrive ref its call.receiver.typeOf with
          | (some bound, _) => bound.frame? call.receiver
          | (none, world) => world.sendFrame? its.name its.callType call
  | .block _ _ => none

/-- The world of a call whose site, if it goes through one, has linked as far as it must. -/
def reached (world : World Code Host) : Calling Code → World Code Host
  | .site ref call =>
      match world.site? ref with
      | none => world
      | some its => (world.arrive ref its call.receiver.typeOf).2
  | _ => world

/-- Is a call admitted by its site, if it goes through one? -/
def admitted (world : World Code Host) : Calling Code → Bool
  | .site ref call => (world.site? ref).all fun site => decide (world.Admits site call)
  | _ => true

/-- Does a call yield to a block? -/
def yields : Calling Code → Bool
  | .block _ _ => true
  | _ => false

/-- Does a call take the facts that its caller has set for it?  A tombstone does not, nor
does a send that finds nobody to answer it, nor a block. -/
def takes (world : World Code Host) : Calling Code → Bool
  | .method its _ _ _ => !its.isUndefined
  | .thunk bound _ => bound.takes
  | .send name callType call => world.answers call.receiver.typeOf name callType
  | .site ref call =>
      match world.site? ref with
      | none => false
      | some its =>
          match world.arrive ref its call.receiver.typeOf with
          | (some bound, _) => bound.takes
          | (none, world) => world.answers call.receiver.typeOf its.name its.callType
  | .block _ _ => false

end Calling

namespace World

variable {world after : World Code Host} {context other : ContextRef}

/-! ## What a call does by itself -/

/-- A step that a call takes by itself, its site apart. -/
inductive Prepares (context : ContextRef) : World Code Host → World Code Host → Prop where
  | note (world : World Code Host) {change : Context → Context}
      (frames : ∀ state, (change state).frames = state.frames)
      (kwargs : ∀ state, (change state).kwargs = true → state.kwargs = true) :
      Prepares context world (world.modifyContext context change)
  | assign (world : World Code Host) (object : ObjectRef) (name : String) (value : Value) :
      Prepares context world (world.setVariable object name value)
  | store (world : World Code Host) (object : ObjectRef) (accessor : VariableAccessor)
      (value : Value) : Prepares context world (world.writeObject object accessor value)

/-- **What a call does before code runs, and the code it runs.**  It takes steps of its
own, and with them the facts of the call if it takes them; then it answers, or one piece
of code runs, which gets a frame of its own or none. -/
inductive Opens (context : ContextRef) (world : World Code Host) (taken yields : Bool)
    (frame? : Option Frame) (run : Exec Code Host → Outcome × World Code Host) : Prop where
  | answers {outcome : Outcome} {after : World Code Host}
      (prepares : Relation.ReflTransGen (Prepares context) world after)
      (facts : (after.context context).kwargs = (!taken && (world.context context).kwargs))
      (same : ∀ exec, run exec = (outcome, after))
  | enters {code : Code} {activation : Activation} {before : World Code Host}
      (prepares : Relation.ReflTransGen (Prepares context) world before)
      (facts : (before.context context).kwargs = (!taken && (world.context context).kwargs))
      (takes : taken = !yields) (kind : activation.entrance.isBlock = yields)
      (under : activation.Under frame?)
      (same : ∀ exec, run exec = within context frame? (exec code activation) before)

/-! ## The facts of a call -/

/-- A change of a context keeps, in every context, what it keeps of any. -/
theorem about_modifyContext {α : Type} (about : Context → α) (world : World Code Host)
    (context other : ContextRef) {change : Context → Context}
    (kept : ∀ state, about (change state) = about state) :
    about ((world.modifyContext context change).context other) = about (world.context other) := by
  simp only [modifyContext, World.context, Contexts.get_modify]
  split
  · exact kept _
  · rfl

/-- To enter or to leave a body keeps what frames have nothing to do with. -/
theorem about_enter {α : Type} (about : Context → α)
    (blind : ∀ (state : Context) (frames : FrameStack), about { state with frames } = about state)
    (world : World Code Host) (context other : ContextRef) (frame? : Option Frame) :
    about ((world.enter context frame?).context other) = about (world.context other) := by
  cases frame? with
  | none => rfl
  | some frame => exact about_modifyContext about world context other fun state => blind state _

theorem about_leave {α : Type} (about : Context → α)
    (blind : ∀ (state : Context) (frames : FrameStack), about { state with frames } = about state)
    (world : World Code Host) (context other : ContextRef) (frame? : Option Frame) :
    about ((world.leave context frame?).context other) = about (world.context other) := by
  cases frame? with
  | none => rfl
  | some frame => exact about_modifyContext about world context other fun state => blind state _

theorem kwargs_setKwargs (world : World Code Host) (context : ContextRef) :
    ((world.setKwargs context false).context context).kwargs = false := by
  simp only [setKwargs, modifyContext, World.context, Contexts.get_modify]
  split
  · rfl
  · -- a context that was never made has no facts set
    rename_i unmade
    simp only [true_and, Nat.not_lt] at unmade
    simp [Contexts.get, Array.getElem?_eq_none unmade]

theorem contexts_link (world : World Code Host) (ref : SiteRef) (site : CallSite Code)
    (type : TypeRef) : (world.link ref site type).2.contexts = world.contexts := by
  obtain ⟨_, _, _, result, lays, _⟩ := world.link_spec ref site type
  rw [result]
  cases lays <;> rfl

/-- No step of a call sets the facts of any. -/
theorem Prepares.kwargs (prepares : Prepares context world after)
    (set : (after.context other).kwargs = true) : (world.context other).kwargs = true := by
  cases prepares with
  | note frames kwargs =>
      simp only [modifyContext, World.context, Contexts.get_modify] at set
      split at set
      · exact kwargs _ set
      · exact set
  | assign object name value => exact set
  | store object accessor value => exact set

theorem Prepares.cleared (world : World Code Host) (context : ContextRef) :
    Prepares context world (world.setKwargs context false) :=
  .note world (fun _ => rfl) fun _ set => nomatch set

/-- A note made under a frame that is taken off again is a note. -/
theorem Prepares.framed (world : World Code Host) (context : ContextRef) (frame? : Option Frame)
    {change : Context → Context} (frames : ∀ state, (change state).frames = state.frames)
    (kwargs : ∀ state, (change state).kwargs = true → state.kwargs = true) :
    Prepares context world
      (((world.enter context frame?).modifyContext context change).leave context frame?) := by
  cases frame? with
  | none => exact .note world frames kwargs
  | some frame =>
      simp only [enter, leave, pushFrame, popFrame, modifyContext, Contexts.modify_modify]
      refine .note world (fun state => ?_) fun state => kwargs _
      simp only [Function.comp_apply, Context.popFrame, frames, Context.pushFrame,
        FrameStack.pop_push]

namespace Opens

variable {taken yields : Bool} {frame? : Option Frame}
  {run : Exec Code Host → Outcome × World Code Host}

/-- A call that does nothing itself. -/
theorem answer (outcome : Outcome) :
    Opens context world false yields frame? fun _ => (outcome, world) :=
  .answers .refl rfl fun _ => rfl

/-- A call that takes the facts, takes one more step and answers. -/
theorem taking (outcome : Outcome)
    (prepares : Prepares context (world.setKwargs context false) after) :
    Opens context world true yields frame? fun _ => (outcome, after) := by
  refine .answers (.head (.cleared world context) (.single prepares)) ?_ fun _ => rfl
  refine Bool.eq_false_iff.2 fun set => ?_
  have still := prepares.kwargs set
  rw [kwargs_setKwargs] at still
  cases still

/-- A call that takes the facts and answers. -/
theorem refusing (outcome : Outcome) :
    Opens context world true yields frame? fun _ => (outcome, world.setKwargs context false) :=
  .answers (.single (.cleared world context)) (kwargs_setKwargs world context) fun _ => rfl

/-- A call that takes the facts and runs code that is no block's. -/
theorem entering {code : Code} {activation : Activation}
    (kind : activation.entrance.isBlock = false) (under : activation.Under frame?) :
    Opens context world true false frame? fun exec =>
      within context frame? (exec code activation) (world.setKwargs context false) :=
  .enters (.single (.cleared world context)) (kwargs_setKwargs world context) rfl kind under
    fun _ => rfl

/-- What a call does after a step of its own, one that leaves the facts alone unless the
call takes them. -/
theorem noted (opens : Opens context after taken yields frame? run)
    (prepares : Prepares context world after)
    (facts : taken = false → (after.context context).kwargs = (world.context context).kwargs) :
    Opens context world taken yields frame? run := by
  have carried : (!taken && (after.context context).kwargs) =
      (!taken && (world.context context).kwargs) := by
    cases taken with
    | true => rfl
    | false => rw [facts rfl]
  cases opens with
  | answers further kept same => exact .answers (.head prepares further) (kept.trans carried) same
  | enters further kept takes kind under same =>
      exact .enters (.head prepares further) (kept.trans carried) takes kind under same

end Opens

/-! ## One lemma for each way to run a method -/

/-- A check of the argument count takes the facts of the call. -/
theorem opens_checked {frame? : Option Frame}
    {run : Exec Code Host → World Code Host → Outcome × World Code Host} (context : ContextRef)
    (signature : Signature) (args : List Value) (world : World Code Host)
    (opens : Opens context world true false frame? fun exec =>
      run exec (world.setKwargs context false)) :
    Opens context world true false frame? fun exec =>
      checked context signature args (run exec) world := by
  cases fits : signature.checkArguments args (world.context context).kwargs with
  | ok => simpa only [checked_of_accepts fits] using opens
  | error fault => simpa only [checked_of_refused fits] using Opens.refusing _

theorem opens_enterCompiled (context : ContextRef) (method : CompiledMethod Code) (entry : Code)
    (owner : TypeRef) (name : String) (call : Call) (world : World Code Host) :
    Opens context world true false (some ⟨call.receiver, some owner, some name⟩) fun exec =>
      enterCompiled exec context method entry owner name call (world.setKwargs context false) :=
  .entering rfl rfl

theorem opens_callCompiled (context : ContextRef) (method : CompiledMethod Code) (owner : TypeRef)
    (name : String) (call : Call) (world : World Code Host) :
    Opens context world true false (some ⟨call.receiver, some owner, some name⟩) fun exec =>
      callCompiled exec context method owner name call world :=
  opens_checked context _ _ world
    (opens_enterCompiled context method method.entry owner name call world)

theorem opens_runHandle (context : ContextRef) (entry : Code) (call : Call)
    (world : World Code Host) :
    Opens context world true false none fun exec => runHandle exec context entry call world :=
  .entering rfl rfl

/-- Raising what fits a miss takes its reason. -/
theorem raiseMissing_snd (world : World Code Host) (context : ContextRef) (receiver : Value)
    (args : List Value) :
    (world.raiseMissing context receiver args).2 = world.setMissingReason context .normal := by
  unfold raiseMissing
  dsimp only
  split <;> rfl

theorem modifyContext_id (world : World Code Host) (context : ContextRef) :
    world.modifyContext context id = world := by
  have same : world.contexts.modify context id = world.contexts := by
    simp only [Contexts.modify]
    congr 1
    refine Array.ext_getElem? fun place => ?_
    simp [Array.getElem?_modify]
  rw [modifyContext, same]

/-- What the world's own primitive does is to answer, with a note in its context perhaps. -/
theorem runNativeBody_raiseMissing {native : NativeMethod Code} (body : native.body = .raiseMissing)
    (context : ContextRef) (call : Call) :
    ∃ (outcome : World Code Host → Outcome) (change : Context → Context),
      (∀ state, (change state).frames = state.frames) ∧
        (∀ state, (change state).kwargs = state.kwargs) ∧
        ∀ exec : Exec Code Host, runNativeBody exec context native call =
          fun world => (outcome world, world.modifyContext context change) := by
  cases wants : native.wantsContext with
  | false =>
      refine ⟨fun _ => .error (.typeMismatch "method_missing called without a thread context"), id,
        fun _ => rfl, fun _ => rfl, fun exec => funext fun world => ?_⟩
      simp [runNativeBody, body, wants, modifyContext_id]
  | true =>
      refine ⟨fun world => (world.raiseMissing context call.receiver call.args).1,
        fun state => { state with missingReason := .normal }, fun _ => rfl, fun _ => rfl,
        fun exec => funext fun world => ?_⟩
      simp only [runNativeBody, body, wants, if_true]
      exact Prod.ext rfl (raiseMissing_snd world context call.receiver call.args)

theorem opens_runNative (context : ContextRef) (native : NativeMethod Code) (owner : TypeRef)
    (name : String) (call : Call) (world : World Code Host) :
    Opens context world true false (native.frame? owner name call.receiver) fun exec =>
      runNative exec context native owner name call world := by
  have framing : ∀ exec, runNative exec context native owner name call world =
      within context (native.frame? owner name call.receiver)
        (runNativeBody exec context native call) (world.setKwargs context false) := by
    intro exec
    unfold runNative NativeMethod.frame?
    cases native.framed <;> rfl
  have holds : ∀ frame, native.frame? owner name call.receiver = some frame →
      frame.self = call.receiver := by
    intro frame framed
    unfold NativeMethod.frame? at framed
    split at framed <;> cases framed
    rfl
  simp only [framing]
  generalize native.frame? owner name call.receiver = frame? at holds ⊢
  cases body : native.body with
  | code code =>
      have runs : ∀ exec : Exec Code Host, runNativeBody exec context native call = exec code _ :=
        fun exec => funext fun world => by simp only [runNativeBody, body]; rfl
      simp only [runs]
      exact .entering rfl holds
  | raiseMissing =>
      obtain ⟨outcome, change, frames, kwargs, runs⟩ :=
        @runNativeBody_raiseMissing Code Host native body context call
      simp only [runs]
      exact .taking _ (.framed _ context frame? frames fun state set => kwargs state ▸ set)

/-- Taking the facts twice is taking them once. -/
theorem opens_callNative (context : ContextRef) (native : NativeMethod Code) (owner : TypeRef)
    (name : String) (call : Call) (world : World Code Host) :
    Opens context world true false (native.frame? owner name call.receiver) fun exec =>
      callNative exec context native owner name call world :=
  opens_checked context _ _ world <|
    (opens_runNative context native owner name call _).noted (.cleared world context)
      fun untaken => nomatch untaken

theorem opens_callHandle (context : ContextRef) (handle : HandleMethod Code) (call : Call)
    (world : World Code Host) :
    Opens context world true false none fun exec => callHandle exec context handle call world := by
  unfold callHandle
  cases EntryTable.get? handle.handles call.args.length with
  | some entry => exact opens_runHandle context entry call world
  | none =>
      cases handle.variadic with
      | none => exact .refusing _
      | some entry =>
          dsimp only
          cases handle.signature.check call.args.length with
          | error fault => exact .refusing _
          | ok =>
              exact (opens_runHandle context entry call _).noted (.cleared world context)
                fun untaken => nomatch untaken

theorem opens_callReader (context : ContextRef) (name : String) (call : Call)
    (world : World Code Host) :
    Opens context world true false none fun _ => callReader context name call world := by
  unfold callReader
  cases call.args with
  | nil => exact .refusing _
  | cons _ _ => exact .refusing _

theorem opens_callWriter (context : ContextRef) (name : String) (call : Call)
    (world : World Code Host) :
    Opens context world true false none fun _ => callWriter context name call world := by
  unfold callWriter writeAttribute
  split
  · cases call.receiver with
    | object target => exact .taking _ (.assign _ target name _)
    | _ => exact .refusing _
  · exact .refusing _

/-- **The generic calling convention opens as the kind of its method says.** -/
theorem opens_callMethod (context : ContextRef) (method : Method Code) (owner : TypeRef)
    (name : String) (call : Call) (world : World Code Host) :
    Opens context world (!method.isUndefined) false (method.frame? owner name call.receiver)
      fun exec => callMethod exec context method owner name call world := by
  unfold callMethod Method.isUndefined Method.frame?
  cases method.implementation with
  | native native => exact opens_callNative context native owner name call world
  | compiled compiled => exact opens_callCompiled context compiled owner name call world
  | mixed interpreted => exact opens_callCompiled context _ owner name call world
  | handle handle => exact opens_callHandle context handle call world
  | attrReader variable_ => exact opens_callReader context variable_ call world
  | attrWriter variable_ => exact opens_callWriter context variable_ call world
  | undefined => exact .answer _

/-! ## Sends, sites and blocks -/

/-- To note why a send went missing is a step of its own, and leaves the facts alone. -/
theorem Prepares.reason (world : World Code Host) (context : ContextRef) (reason : MissingReason) :
    Prepares context world (world.setMissingReason context reason) :=
  .note world (fun _ => rfl) fun _ => id

theorem kwargs_setMissingReason (world : World Code Host) (context : ContextRef)
    (reason : MissingReason) : ((world.setMissingReason context reason).context context).kwargs =
      (world.context context).kwargs :=
  about_modifyContext Context.kwargs world context context fun _ => rfl

theorem opens_callMissing (context : ContextRef) (handler : Method Code) (owner : TypeRef)
    (reason : MissingReason) (name : String) (call : Call) (world : World Code Host) :
    Opens context world (!handler.isUndefined) false
      (handler.frame? owner handler.name call.receiver) fun exec =>
        callMissing exec context handler owner reason name call world :=
  (opens_callMethod context handler owner handler.name
      { call with args := missingArguments name call.args } _).noted (.reason world context reason)
    fun _ => kwargs_setMissingReason world context reason

theorem opens_invoke (context : ContextRef) (bound : BoundThunk Code) (call : Call)
    (world : World Code Host) :
    Opens context world bound.takes false (bound.frame? call.receiver) fun exec =>
      invoke exec context bound call world := by
  unfold invoke BoundThunk.takes BoundThunk.frame?
  cases bound.invoker with
  | native method => exact opens_runNative context method _ _ call world
  | nativeList method => exact opens_callNative context method _ _ call world
  | handleEntry entry => exact opens_runHandle context entry call world
  | handleTable method => exact opens_callHandle context method call world
  | compiledEntry method entry => exact opens_enterCompiled context method entry _ _ call world
  | compiledChecked method => exact opens_callCompiled context method _ _ call world
  | readVariable accessor => exact .refusing _
  | writeVariable accessor =>
      unfold writeThrough
      cases call.receiver with
      | object target => exact .taking _ (.store _ target accessor _)
      | _ => exact .refusing _
  | generic => exact opens_callMethod context _ _ _ call world
  | missing reason => exact opens_callMissing context _ _ reason _ call world

theorem opens_send (context : ContextRef) (name : String) (callType : CallType) (call : Call)
    (world : World Code Host) :
    Opens context world (world.answers call.receiver.typeOf name callType) false
      (world.sendFrame? name callType call) fun exec =>
        send exec context name callType call world := by
  unfold send answers sendFrame?
  cases world.resolveSend call.receiver.typeOf name callType with
  | callable entry => exact opens_callMethod context _ _ name call world
  | missing reason handler? =>
      cases handler? with
      | some handler => exact opens_callMissing context _ _ reason name call world
      | none =>
          -- nobody clears the facts here: only the reason of the miss is taken
          have raises : ∀ world : World Code Host, Opens context world false false none
              fun _ : Exec Code Host => world.raiseMissing context call.receiver
                (missingArguments name call.args) :=
            fun world => .answers (.single (.reason world context .normal))
              (kwargs_setMissingReason world context .normal)
              fun _ => Prod.ext rfl (raiseMissing_snd world context call.receiver _)
          exact (raises _).noted (.reason world context reason) fun _ =>
            kwargs_setMissingReason world context reason

/-- A call through a site runs the thunk it arrives at, or is resolved without the site. -/
theorem callSite_eq (exec : Exec Code Host) (context : ContextRef) {ref : SiteRef}
    {site : CallSite Code} (there : world.site? ref = some site) (call : Call) :
    callSite exec context ref call world =
      match world.arrive ref site call.receiver.typeOf with
      | (some bound, world) => invoke exec context bound call world
      | (none, world) => send exec context site.name site.callType call world := by
  simp only [callSite, there, arrive]
  cases site.target.load.dispatch world.points call.receiver.typeOf.id <;> rfl

/-- Before anything runs a site links, or nothing happens. -/
theorem arrive_snd (world : World Code Host) (ref : SiteRef) (site : CallSite Code)
    (type : TypeRef) : (world.arrive ref site type).2 = world ∨
      (site.target.load.dispatch world.points type.id = .link ∧
        world.arrive ref site type = world.link ref site type) := by
  unfold arrive
  cases site.target.load.dispatch world.points type.id with
  | bound bound => exact .inl rfl
  | megamorphic => exact .inl rfl
  | link => exact .inr ⟨rfl, rfl⟩

theorem opens_callSite (context : ContextRef) {ref : SiteRef} {site : CallSite Code}
    (there : world.site? ref = some site) (call : Call) :
    Opens context (Calling.reached world (.site ref call)) (Calling.takes world (.site ref call))
      false (Calling.frame? world (.site ref call)) fun exec =>
        callSite exec context ref call world := by
  simp only [callSite_eq _ context there, Calling.takes, Calling.frame?, Calling.reached, there]
  generalize world.arrive ref site call.receiver.typeOf = arrived
  obtain ⟨_ | bound, after⟩ := arrived
  · exact opens_send context _ _ call after
  · exact opens_invoke context bound call after

theorem opens_callBlock (context : ContextRef) (block : BlockRef) (args : List Value)
    (world : World Code Host) :
    Opens context world false true none fun exec => callBlock exec context block args world := by
  have yields : ∀ (closure : Closure Code) (args : List Value),
      Opens context world false true none fun exec => runBlock exec context closure args world := by
    intro closure args
    refine .enters .refl rfl rfl ?_ ?_ fun _ => rfl
    · rfl
    · rfl
  unfold callBlock
  cases world.closure? block with
  | none => exact .answer _
  | some closure =>
      dsimp only
      cases closure.isLambda with
      | false => exact yields closure _
      | true =>
          simp only [if_true]
          cases closure.body.scope.signature.checkArguments args false with
          | ok => exact yields closure args
          | error fault => exact .answer _

theorem evolving_callBlock {proper : CompiledMethod Code → Prop} {exec : Exec Code Host}
    (lawful : Lawful proper exec) (context : ContextRef) (block : BlockRef) (args : List Value) :
    Evolving proper (callBlock exec context block args) := by
  intro world sound
  unfold callBlock
  cases world.closure? block with
  | none => exact .refl
  | some closure =>
      dsimp only
      split
      · split
        · exact lawful _ _ sound
        · exact .refl
      · exact lawful _ _ sound

/-- **Every way to call opens as it says.** -/
theorem opens_calling (context : ContextRef) (world : World Code Host) (calling : Calling Code) :
    Opens context (calling.reached world) (calling.takes world) calling.yields
      (calling.frame? world) fun exec => calling.run exec context world := by
  cases calling with
  | method method owner name call => exact opens_callMethod context method owner name call world
  | thunk bound call => exact opens_invoke context bound call world
  | send name callType call => exact opens_send context name callType call world
  | block block args => exact opens_callBlock context block args world
  | site ref call =>
      cases there : world.site? ref with
      | some site => exact opens_callSite context there call
      | none =>
          simp only [Calling.run, callSite, Calling.takes, Calling.frame?, Calling.reached, there]
          exact .answer _

/-- A call comes to its code in the world it was made in, or in one where its site has
just linked. -/
theorem reached_eq_or (world : World Code Host) (calling : Calling Code) :
    calling.reached world = world ∨ ∃ (ref : SiteRef) (site : CallSite Code) (type : TypeRef),
      world.site? ref = some site ∧ site.target.load.dispatch world.points type.id = .link ∧
        calling.reached world = (world.link ref site type).2 := by
  cases calling with
  | site ref call =>
      cases there : world.site? ref with
      | none => exact .inl (by simp only [Calling.reached, there])
      | some site =>
          simp only [Calling.reached, there]
          exact (world.arrive_snd ref site call.receiver.typeOf).imp_right fun ⟨missed, linked⟩ =>
            ⟨ref, site, _, there, missed, congrArg Prod.snd linked⟩
  | _ => exact .inl rfl

theorem contexts_reached (world : World Code Host) (calling : Calling Code) :
    (calling.reached world).contexts = world.contexts := by
  rcases reached_eq_or world calling with same | ⟨ref, site, type, _, _, same⟩
  · rw [same]
  · rw [same, contexts_link]

theorem resolveSend_link (world : World Code Host) (ref : SiteRef) (site : CallSite Code)
    (type asked : TypeRef) (name : String) (callType : CallType) :
    (world.link ref site type).2.resolveSend asked name callType =
      world.resolveSend asked name callType := by
  obtain ⟨_, after, _, result, lays, _⟩ := world.link_spec ref site type
  rw [result]
  have lookup : ∀ name, after.lookup asked name = world.lookup asked name := fun name => by
    simp only [World.lookup, lays.rule, (lays.agree asked).lookup]
  simp only [resolveSend, World.lookup, modifySite] at lookup ⊢
  simp only [lookup]

theorem resolveSend_arrive (world : World Code Host) (ref : SiteRef) (site : CallSite Code)
    (type asked : TypeRef) (name : String) (callType : CallType) :
    (world.arrive ref site type).2.resolveSend asked name callType =
      world.resolveSend asked name callType := by
  rcases world.arrive_snd ref site type with same | ⟨_, linked⟩
  · rw [same]
  · rw [linked, resolveSend_link]

/-- The thunk that a site of a sound world arrives at is coherent. -/
theorem Sound.coherent_of_arrive {proper : CompiledMethod Code → Prop} (sound : world.Sound proper)
    {ref : SiteRef} {site : CallSite Code} (there : world.site? ref = some site) {type : TypeRef}
    (live : world.types.isLive type = true) {bound : BoundThunk Code} {after : World Code Host}
    (arrived : world.arrive ref site type = (some bound, after)) :
    after.Coherent site type bound := by
  unfold arrive at arrived
  cases dispatched : site.target.load.dispatch world.points type.id with
  | bound target =>
      rw [dispatched] at arrived
      cases arrived
      exact sound.coherent_of_dispatch there live dispatched
  | megamorphic =>
      rw [dispatched] at arrived
      cases arrived
  | link =>
      rw [dispatched] at arrived
      have linked := coherent_link (congrArg Prod.fst arrived)
      rwa [congrArg Prod.snd arrived] at linked

/-- **However tightly a method is bound**, it runs under the frame and takes the facts that
it does when the name is sent without the site. -/
theorem Coherent.as_send {site : CallSite Code} {call : Call} {bound : BoundThunk Code}
    (coherent : world.Coherent site call.receiver.typeOf bound) :
    bound.frame? call.receiver = world.sendFrame? site.name site.callType call ∧
      bound.takes = world.answers call.receiver.typeOf site.name site.callType := by
  unfold sendFrame? answers
  cases resolved : world.resolveSend call.receiver.typeOf site.name site.callType with
  | missing reason handler? =>
      obtain ⟨handler, rfl, rfl⟩ := coherent.missing resolved
      exact ⟨rfl, rfl⟩
  | callable entry =>
      obtain ⟨name, rfl, suits⟩ := coherent.callable resolved
      unfold BoundThunk.frame? BoundThunk.takes
      rw [name]
      dsimp only
      generalize bound.invoker = invoker at suits ⊢
      cases suits with
      | generic => exact ⟨rfl, rfl⟩
      | native kind _ _ | nativeList kind =>
          simp only [Method.frame?, Method.isUndefined, kind, Bool.not_false, and_self]
      | handleEntry kind _ _ | handleTable kind | readVariable kind _ _ | writeVariable kind _ _ =>
          simp only [Method.frame?, Method.isUndefined, kind, Bool.not_false, and_self]
      | compiledEntry runs _ | compiledChecked runs =>
          obtain ⟨frame, defined⟩ := Method.frame?_of_compiledBody runs bound.entry.owner site.name
            call.receiver
          rw [frame, defined]
          exact ⟨rfl, rfl⟩

/-- **A send through a site opens as the send without it.** -/
theorem Sound.site_as_send {proper : CompiledMethod Code → Prop} (sound : world.Sound proper)
    {ref : SiteRef} {site : CallSite Code} (there : world.site? ref = some site) {call : Call}
    (live : world.types.isLive call.receiver.typeOf = true) :
    Calling.frame? world (.site ref call) = world.sendFrame? site.name site.callType call ∧
      Calling.takes world (.site ref call) =
        world.answers call.receiver.typeOf site.name site.callType := by
  have still := world.resolveSend_arrive ref site call.receiver.typeOf call.receiver.typeOf
    site.name site.callType
  simp only [Calling.frame?, Calling.takes, there, sendFrame?, answers, ← still]
  cases arrived : world.arrive ref site call.receiver.typeOf with
  | mk bound? after =>
      cases bound? with
      | none => exact ⟨rfl, rfl⟩
      | some bound => exact (sound.coherent_of_arrive there live arrived).as_send

/-! ## What calls keep -/

/-- A relation from the world before to the world after that the engine's own steps keep:
links, what a call prepares, and a frame around whatever keeps it. -/
structure Engine (keeps : World Code Host → World Code Host → Prop) : Prop where
  refl : ∀ world, keeps world world
  trans : ∀ {first second third}, keeps first second → keeps second third → keeps first third
  link : ∀ {world : World Code Host} {ref : SiteRef} {site : CallSite Code} {type : TypeRef},
    world.site? ref = some site → site.target.load.dispatch world.points type.id = .link →
      keeps world (world.link ref site type).2
  prepares : ∀ {context : ContextRef} {world after},
    Prepares context world after → keeps world after
  framed : ∀ {context : ContextRef} {frame : Frame} {world after},
    keeps (world.pushFrame context frame) after → keeps world (after.popFrame context)

namespace Engine

variable {keeps : World Code Host → World Code Host → Prop} {exec : Exec Code Host}

theorem prepare (engine : Engine keeps)
    (prepares : Relation.ReflTransGen (Prepares context) world after) : keeps world after := by
  induction prepares with
  | refl => exact engine.refl world
  | tail _ step ih => exact engine.trans ih (engine.prepares step)

theorem within (engine : Engine keeps) {frame? : Option Frame}
    {run : World Code Host → Outcome × World Code Host} (kept : ∀ world, keeps world (run world).2)
    (world : World Code Host) : keeps world (within context frame? run world).2 := by
  cases frame? with
  | none => exact kept world
  | some frame => exact engine.framed (kept _)

/-- **A call keeps what its own steps and the code it runs keep.** -/
theorem calling (engine : Engine keeps)
    (kept : ∀ code activation world, keeps world (exec code activation world).2)
    (context : ContextRef) (world : World Code Host) (calling : Calling Code) :
    keeps world (calling.run exec context world).2 := by
  have reached : keeps world (calling.reached world) := by
    rcases reached_eq_or world calling with same | ⟨ref, site, type, there, missed, same⟩
    · rw [same]
      exact engine.refl world
    · rw [same]
      exact engine.link there missed
  refine engine.trans reached ?_
  cases opens_calling context world calling with
  | answers prepares _ same => exact same exec ▸ engine.prepare prepares
  | enters prepares _ _ _ _ same =>
      exact same exec ▸ engine.trans (engine.prepare prepares) (engine.within (kept _ _) _)

end Engine

/-! ## Code that leaves the rest to calls -/

mutual

/-- Code that does by itself only what is quiet, and for the rest makes calls, which run
code of the same sort. -/
inductive Tame (quiet : World Code Host → World Code Host → Prop) : Exec Code Host → Prop where
  | mk {exec : Exec Code Host}
      (acts : ∀ code activation world, Acts quiet world (exec code activation world).2) :
      Tame quiet exec

/-- A run of such code. -/
inductive Acts (quiet : World Code Host → World Code Host → Prop) :
    World Code Host → World Code Host → Prop where
  | rest (world : World Code Host) : Acts quiet world world
  | quietly {start world after : World Code Host} (acts : Acts quiet start world)
      (step : quiet world after) : Acts quiet start after
  | calls {start world : World Code Host} (acts : Acts quiet start world) {inner : Exec Code Host}
      (tame : Tame quiet inner) (context : ContextRef) (calling : Calling Code) :
      Acts quiet start (calling.run inner context world).2

end

mutual

/-- **What the engine's steps and quiet ones keep, code keeps at any depth of calls.** -/
theorem Tame.keeps {keeps quiet : World Code Host → World Code Host → Prop}
    (engine : Engine keeps) (hushed : ∀ {world after}, quiet world after → keeps world after)
    {exec : Exec Code Host} (tame : Tame quiet exec) (code : Code) (activation : Activation)
    (world : World Code Host) : keeps world (exec code activation world).2 :=
  match tame with
  | .mk acts => (acts code activation world).keeps engine hushed

theorem Acts.keeps {keeps quiet : World Code Host → World Code Host → Prop}
    (engine : Engine keeps) (hushed : ∀ {world after}, quiet world after → keeps world after)
    {start after : World Code Host} (acts : Acts quiet start after) : keeps start after :=
  match acts with
  | .rest world => engine.refl world
  | .quietly acts step => engine.trans (acts.keeps engine hushed) (hushed step)
  | .calls acts tame context calling =>
      engine.trans (acts.keeps engine hushed)
        (engine.calling (tame.keeps engine hushed) context _ calling)

end

end World

/-! ## A small language of bodies -/

/-- A body that answers with its receiver, raises, sends a name to its receiver, sends it
through a site, or yields to its block. -/
inductive Deed where
  | answer
  | raise
  | send (name : String)
  | through (ref : SiteRef)
  | yield
deriving DecidableEq, Repr

namespace Deed

/-- The call that a body makes, if it makes one. -/
def calling? (deed : Deed) (activation : Activation) : Option (Calling Deed) :=
  match deed with
  | answer | raise => none
  | send name => some (.send name .functional { receiver := activation.receiver })
  | through ref => some (.site ref { receiver := activation.receiver })
  | yield => activation.block.map fun block => .block block []

/-- What a body that makes no call comes to. -/
def outcome (deed : Deed) (activation : Activation) : Outcome :=
  match deed with
  | raise => .error (.typeMismatch "raised")
  | _ => .ok activation.receiver

theorem calling?_evolves {Host : Type} {proper : CompiledMethod Deed → Prop} {exec : Exec Deed Host}
    (lawful : World.Lawful proper exec) {deed : Deed} {activation : Activation}
    {calling : Calling Deed} (asked : deed.calling? activation = some calling)
    {world : World Deed Host} (admitted : calling.admitted world = true)
    (sound : world.Sound proper) (context : ContextRef) :
    World.Evolves proper world (calling.run exec context world).2 := by
  cases deed with
  | answer | raise => cases asked
  | send name =>
      cases asked
      exact World.evolving_send lawful context name .functional _ sound
  | through ref =>
      cases asked
      cases there : world.site? ref with
      | none =>
          simp only [Calling.run, World.callSite, there]
          exact .refl
      | some site =>
          have admits : world.Admits site { receiver := activation.receiver } := by
            simpa only [Calling.admitted, there, Option.all_some, decide_eq_true_eq] using admitted
          exact World.evolves_callSite lawful sound context ref _ admits.live
  | yield =>
      obtain ⟨block, -, rfl⟩ := Option.map_eq_some_iff.1 asked
      exact World.evolving_callBlock lawful context block [] sound

/-- Run a body, with calls in calls so deep.  A body that is about to call through a site asks
whether the site admits the call, and makes none if it does not. -/
def enact {Host : Type} : Nat → Exec Deed Host
  | 0 => fun deed activation world => (deed.outcome activation, world)
  | depth + 1 => fun deed activation world =>
      match deed.calling? activation with
      | some calling =>
          if calling.admitted world then
            calling.run (enact depth) (activation.context.getD ⟨0⟩) world
          else (deed.outcome activation, world)
      | none => (deed.outcome activation, world)

/-- Such bodies do nothing but call. -/
theorem tame_enact {Host : Type} (quiet : World Deed Host → World Deed Host → Prop) (depth : Nat) :
    World.Tame quiet (enact depth : Exec Deed Host) := by
  induction depth with
  | zero => exact .mk fun _ _ world => .rest world
  | succ depth ih =>
      refine .mk fun deed activation world => ?_
      unfold enact
      cases deed.calling? activation with
      | none => exact .rest world
      | some calling =>
          dsimp only
          split
          · exact .calls (.rest world) ih _ calling
          · exact .rest world

/-- **Such bodies are lawful**, however deep they call. -/
theorem lawful_enact {Host : Type} (proper : CompiledMethod Deed → Prop) (depth : Nat) :
    World.Lawful proper (enact depth : Exec Deed Host) := by
  induction depth with
  | zero => exact fun _ _ _ _ => .refl
  | succ depth ih =>
      intro deed activation world sound
      unfold enact
      cases asked : deed.calling? activation with
      | none => exact .refl
      | some calling =>
          dsimp only
          split
          · rename_i admitted
            exact calling?_evolves ih asked admitted sound _
          · exact .refl

end Deed

end InlineCache
