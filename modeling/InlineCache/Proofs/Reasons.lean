/-
# InlineCache.Proofs.Reasons -- which reason a body takes

A send that goes missing notes its reason in the context, and whoever looks at the reason
takes it, which leaves the context without one (`normal`).  Nothing else is done about it.
It is not put aside when a body makes sends of its own, and it is not taken from a context
by a handler that does not look.

What happens to the reason of a context is told as a list of events (`ReasonEvent`), and
`Account` says which events a run brings about: whatever code does that leaves the reason
alone, the reasons that it takes, and its calls, nested to any depth.

* `notes_calling`: before any code runs, a call notes the reason of a miss and does nothing
  else about reasons;
* `Account.tells`: so at every moment the reason is the one that the latest event left;
* `first_take_iff`: and a body takes the reason that it is due exactly if what its own calls
  left last is that reason, or if they left none and it was either entered by a send that
  went missing or found nothing left behind by an earlier one;
* `reason_of_another_send`: how it takes another.
-/
import InlineCache.Proofs.Coherence
import InlineCache.Proofs.Handover

namespace InlineCache

set_option autoImplicit false

variable {Code Host : Type}

/-- What happens to the reason of a context. -/
inductive ReasonEvent where
  /-- a call, which noted a reason if it is a send that went missing, enters a body -/
  | enters (noted? : Option MissingReason)
  /-- the body comes to its end -/
  | leaves
  /-- the running body takes the reason and gets this one -/
  | takes (got : MissingReason)
  /-- a call, which noted a reason if it is a send that went missing, enters no body -/
  | passes (noted? : Option MissingReason)
deriving DecidableEq

namespace ReasonEvent

/-- The reason that an event leaves, if it does anything about the reason. -/
def left? : ReasonEvent → Option MissingReason
  | enters noted? | passes noted? => noted?
  | takes _ => some .normal
  | leaves => none

/-- The reason that the events leave, if any of them does anything about it. -/
def latest? : List ReasonEvent → Option MissingReason
  | [] => none
  | event :: rest => (latest? rest).or event.left?

/-- Whoever takes the reason gets the one that is there. -/
def Truthful : MissingReason → List ReasonEvent → Prop
  | _, [] => True
  | reason, event :: rest =>
      (∀ got, event = takes got → got = reason) ∧ Truthful (event.left?.getD reason) rest

/-- Calls that have come to their end, and what was taken between them, if that is allowed. -/
inductive Whole : Bool → List ReasonEvent → Prop where
  | nothing (taking : Bool) : Whole taking []
  | takes {events : List ReasonEvent} (whole : Whole true events) (got : MissingReason) :
      Whole true (events ++ [.takes got])
  | passes {taking : Bool} {events : List ReasonEvent} (whole : Whole taking events)
      (noted? : Option MissingReason) : Whole taking (events ++ [.passes noted?])
  | call {taking : Bool} {events body : List ReasonEvent} (whole : Whole taking events)
      (noted? : Option MissingReason) (its : Whole true body) :
      Whole taking (events ++ .enters noted? :: (body ++ [.leaves]))

/-- After `earlier`, a call that noted `noted?` entered a body.  The body made calls, in
which `inside` happened, and then it took the reason for the first time and got `got`. -/
structure FirstTake (events earlier : List ReasonEvent) (noted? : Option MissingReason)
    (inside : List ReasonEvent) (got : MissingReason) : Prop where
  found : ∃ rest, events = earlier ++ .enters noted? :: (inside ++ .takes got :: rest)
  calls : Whole false inside

@[simp] theorem latest?_append (first second : List ReasonEvent) :
    latest? (first ++ second) = (latest? second).or (latest? first) := by
  induction first with
  | nil => simp [latest?]
  | cons event rest ih => simp [latest?, ih, Option.or_assoc]

@[simp] theorem latest?_singleton (event : ReasonEvent) : latest? [event] = event.left? := by
  simp [latest?]

theorem truthful_append {reason : MissingReason} {first second : List ReasonEvent} :
    Truthful reason (first ++ second) ↔
      Truthful reason first ∧ Truthful ((latest? first).getD reason) second := by
  induction first generalizing reason with
  | nil => simp [Truthful, latest?]
  | cons event rest ih =>
      have carried : ((latest? rest).or event.left?).getD reason =
          (latest? rest).getD (event.left?.getD reason) := by
        cases latest? rest <;> rfl
      simp only [List.cons_append, Truthful, ih, latest?, carried, and_assoc]

/-- What is taken is what the latest event before left. -/
theorem Truthful.got_eq {reason got : MissingReason} {before rest : List ReasonEvent}
    (truthful : Truthful reason (before ++ .takes got :: rest)) :
    got = (latest? before).getD reason :=
  (truthful_append.1 truthful).2.1 got rfl

end ReasonEvent

/-! ## The reason that a call notes -/

/-- The reason that a bound thunk notes, if it is of a send that went missing. -/
def BoundThunk.noted? (bound : BoundThunk Code) : Option MissingReason :=
  match bound.invoker with
  | .missing reason => some reason
  | _ => none

/-- The reason that a send notes, if it goes missing. -/
def World.sendNoted? (world : World Code Host) (type : TypeRef) (name : String)
    (callType : CallType) : Option MissingReason :=
  match world.resolveSend type name callType with
  | .callable _ => none
  | .missing reason _ => some reason

/-- The reason that a call notes, if it is a send that goes missing. -/
def Calling.noted? (world : World Code Host) : Calling Code → Option MissingReason
  | .thunk bound _ => bound.noted?
  | .send name callType call => world.sendNoted? call.receiver.typeOf name callType
  | .site ref call =>
      match world.site? ref with
      | none => none
      | some its =>
          match world.arrive ref its call.receiver.typeOf with
          | (some bound, _) => bound.noted?
          | (none, world) => world.sendNoted? call.receiver.typeOf its.name its.callType
  | .method .. | .block .. => none

def Handover.world : Handover Code Host → World Code Host
  | answers _ after => after
  | raises _ _ _ before | enters _ _ _ before => before

/-- What the first stage of a call does to the contexts: one of them is changed, and its
reason only if there is one to note. -/
def Handover.Notes (context : ContextRef) (world : World Code Host)
    (noted? : Option MissingReason) (handover : Handover Code Host) : Prop :=
  ∃ change : Context → Context,
    handover.world.contexts = world.contexts.modify context change ∧
      ∀ state, (change state).missingReason = noted?.getD state.missingReason

namespace World

variable {world : World Code Host} {context : ContextRef}

theorem notes_of_same {handover : Handover Code Host}
    (same : handover.world.contexts = world.contexts) : handover.Notes context world none := by
  refine ⟨id, ?_, fun _ => rfl⟩
  rw [same]
  exact (congrArg World.contexts (modifyContext_id world context)).symm

/-- What comes after a note that leaves the reason alone. -/
theorem notes_of_noted (change : Context → Context) {noted? : Option MissingReason}
    {handover : Handover Code Host}
    (notes : handover.Notes context (world.modifyContext context change) noted?)
    (kept : ∀ state, (change state).missingReason = state.missingReason) :
    handover.Notes context world noted? := by
  obtain ⟨later, same, reason⟩ := notes
  refine ⟨later ∘ change, ?_, fun state => ?_⟩
  · rw [same]
    exact Contexts.modify_modify world.contexts context change later
  · rw [Function.comp_apply, reason, kept]

/-- What comes after a reason was noted, and leaves that alone. -/
theorem notes_of_reason {reason : MissingReason} {handover : Handover Code Host}
    (notes : handover.Notes context (world.setMissingReason context reason) none) :
    handover.Notes context world (some reason) := by
  obtain ⟨later, same, kept⟩ := notes
  refine ⟨later ∘ fun state => { state with missingReason := reason }, ?_, fun state => ?_⟩
  · rw [same]
    exact Contexts.modify_modify world.contexts context _ later
  · rw [Function.comp_apply, kept]
    rfl

/-- What takes the facts of a call and no more. -/
theorem notes_of_cleared {handover : Handover Code Host}
    (same : handover.world.contexts = (world.setKwargs context false).contexts) :
    handover.Notes context world none :=
  notes_of_noted (fun state => { state with kwargs := false }) (notes_of_same same) fun _ => rfl

theorem notes_checked (signature : Signature) (args : List Value)
    {next : World Code Host → Handover Code Host}
    (notes : (next (world.setKwargs context false)).Notes context (world.setKwargs context false)
      none) : (signature.handover context args next world).Notes context world none := by
  unfold Signature.handover
  cases signature.checkArguments args (world.context context).kwargs with
  | ok => exact notes_of_noted _ notes fun _ => rfl
  | error fault => exact notes_of_cleared rfl

theorem notes_native (native : NativeMethod Code) (owner : TypeRef) (name : String) (call : Call)
    (world : World Code Host) :
    (native.handover context owner name call world).Notes context world none := by
  unfold NativeMethod.handover
  cases native.body with
  | code code => exact notes_of_cleared rfl
  | raiseMissing =>
      dsimp only
      cases native.wantsContext with
      | true => exact notes_of_cleared rfl
      | false =>
          refine notes_of_noted (fun state => { state with kwargs := false }) ?_ fun _ => rfl
          cases native.frame? owner name call.receiver with
          | none => exact notes_of_same rfl
          | some frame =>
              refine ⟨Context.popFrame ∘ fun state => state.pushFrame frame, ?_, fun _ => rfl⟩
              exact Contexts.modify_modify _ context _ _

theorem notes_compiled (body : CompiledMethod Code) (entry : Code) (owner : TypeRef)
    (name : String) (call : Call) (world : World Code Host) :
    (body.handover context entry owner name call world).Notes context world none :=
  notes_of_cleared rfl

theorem notes_handle (handle : HandleMethod Code) (call : Call) (world : World Code Host) :
    (handle.handover context call world).Notes context world none := by
  unfold HandleMethod.handover
  cases EntryTable.get? handle.handles call.args.length with
  | some entry => exact notes_of_cleared rfl
  | none =>
      cases handle.variadic with
      | none => exact notes_of_cleared rfl
      | some entry =>
          dsimp only
          cases handle.signature.check call.args.length with
          | ok => exact notes_of_cleared rfl
          | error fault => exact notes_of_cleared rfl

theorem contexts_callReader (name : String) (call : Call) (world : World Code Host) :
    (callReader context name call world).2.contexts =
      (world.setKwargs context false).contexts := by
  unfold callReader
  cases call.args <;> rfl

theorem contexts_callWriter (name : String) (call : Call) (world : World Code Host) :
    (callWriter context name call world).2.contexts =
      (world.setKwargs context false).contexts := by
  unfold callWriter writeAttribute
  split
  · cases call.receiver <;> rfl
  · rfl

theorem notes_method (method : Method Code) (owner : TypeRef) (name : String) (call : Call)
    (world : World Code Host) :
    (method.handover context owner name call world).Notes context world none := by
  unfold Method.handover
  cases method.implementation with
  | native native => exact notes_checked _ _ (notes_native native owner name call _)
  | compiled body => exact notes_checked _ _ (notes_compiled body _ owner name call _)
  | mixed interpreted => exact notes_checked _ _ (notes_compiled _ _ owner name call _)
  | handle handle => exact notes_handle handle call world
  | attrReader variable_ => exact notes_of_cleared (contexts_callReader variable_ call world)
  | attrWriter variable_ => exact notes_of_cleared (contexts_callWriter variable_ call world)
  | undefined => exact notes_of_same rfl

theorem notes_missing (handler : Method Code) (owner : TypeRef) (reason : MissingReason)
    (name : String) (call : Call) (world : World Code Host) :
    (handler.missingHandover context owner reason name call world).Notes context world
      (some reason) :=
  notes_of_reason (notes_method handler owner handler.name _ _)

theorem notes_thunk (bound : BoundThunk Code) (call : Call) (world : World Code Host) :
    (bound.handover context call world).Notes context world bound.noted? := by
  unfold BoundThunk.handover BoundThunk.noted?
  cases bound.invoker with
  | native native => exact notes_native native _ _ call world
  | nativeList native => exact notes_checked _ _ (notes_native native _ _ call _)
  | handleEntry entry => exact notes_of_cleared rfl
  | handleTable handle => exact notes_handle handle call world
  | compiledEntry body entry => exact notes_compiled body entry _ _ call world
  | compiledChecked body => exact notes_checked _ _ (notes_compiled body _ _ _ call _)
  | readVariable accessor => exact notes_of_cleared rfl
  | writeVariable accessor =>
      refine notes_of_cleared ?_
      unfold writeThrough
      cases call.receiver <;> rfl
  | generic => exact notes_method _ _ _ call world
  | missing reason => exact notes_missing _ _ reason _ call world

theorem notes_send (world : World Code Host) (name : String) (callType : CallType) (call : Call) :
    (world.sendHandover context name callType call).Notes context world
      (world.sendNoted? call.receiver.typeOf name callType) := by
  unfold sendHandover sendNoted?
  cases world.resolveSend call.receiver.typeOf name callType with
  | callable entry => exact notes_method _ _ name call world
  | missing reason handler? =>
      cases handler? with
      | some handler => exact notes_missing _ _ reason name call world
      | none => exact notes_of_reason (notes_of_same rfl)

theorem notes_yield (world : World Code Host) (block : BlockRef) (args : List Value) :
    (world.yieldHandover context block args).Notes context world none := by
  unfold yieldHandover
  cases world.closure? block with
  | none => exact notes_of_same rfl
  | some closure =>
      dsimp only
      split
      · split <;> exact notes_of_same rfl
      · exact notes_of_same rfl

/-- **The first stage of a call notes the reason of a miss, and does nothing else about
reasons.** -/
theorem notes_calling (context : ContextRef) (world : World Code Host) (calling : Calling Code) :
    (calling.handover context world).Notes context world (calling.noted? world) := by
  cases calling with
  | method method owner name call => exact notes_method method owner name call world
  | thunk bound call => exact notes_thunk bound call world
  | send name callType call => exact notes_send world name callType call
  | block block args => exact notes_yield world block args
  | site ref call =>
      cases there : world.site? ref with
      | none =>
          simp only [Calling.handover, Calling.noted?, there]
          exact notes_of_same rfl
      | some its =>
          -- a link says nothing to any context
          have contexts : (world.arrive ref its call.receiver.typeOf).2.contexts =
              world.contexts := by
            rcases world.arrive_snd ref its call.receiver.typeOf with same | ⟨_, linked⟩
            · rw [same]
            · rw [linked, contexts_link]
          simp only [Calling.handover, Calling.noted?, there]
          revert contexts
          generalize world.arrive ref its call.receiver.typeOf = arrived
          obtain ⟨_ | bound, after⟩ := arrived
          · intro contexts
            obtain ⟨change, same, kept⟩ := @notes_send _ _ context after its.name its.callType call
            exact ⟨change, contexts ▸ same, kept⟩
          · intro contexts
            obtain ⟨change, same, kept⟩ := @notes_thunk _ _ context bound call after
            exact ⟨change, contexts ▸ same, kept⟩

/-! ## Accounts of runs -/

abbrev contextCount (world : World Code Host) : Nat := world.contexts.contexts.size

theorem contextCount_modifyContext (world : World Code Host) (context : ContextRef)
    (change : Context → Context) :
    (world.modifyContext context change).contextCount = world.contextCount := by
  simp [contextCount, modifyContext, Contexts.modify]

theorem reason_setMissingReason (made : context.index < world.contextCount)
    (reason : MissingReason) :
    ((world.setMissingReason context reason).context context).missingReason = reason := by
  simp only [setMissingReason, modifyContext, World.context]
  rw [world.contexts.get_modify_self _ made]

theorem contextCount_enter (world : World Code Host) (context : ContextRef)
    (frame? : Option Frame) : (world.enter context frame?).contextCount = world.contextCount := by
  cases frame? with
  | none => rfl
  | some frame => exact contextCount_modifyContext world context _

theorem contextCount_leave (world : World Code Host) (context : ContextRef)
    (frame? : Option Frame) : (world.leave context frame?).contextCount = world.contextCount := by
  cases frame? with
  | none => rfl
  | some frame => exact contextCount_modifyContext world context _

/-- The reason that is there when a call hands over. -/
theorem reason_handover (made : context.index < world.contextCount) (calling : Calling Code) :
    (calling.handover context world).world.contextCount = world.contextCount ∧
      ((calling.handover context world).world.context context).missingReason =
        (calling.noted? world).getD (world.context context).missingReason := by
  obtain ⟨change, same, reason⟩ := notes_calling context world calling
  refine ⟨?_, ?_⟩
  · simp [contextCount, same, Contexts.modify]
  · rw [World.context, same, world.contexts.get_modify_self _ made, reason]
    rfl

end World

/-- **What a run does about the reason of a context**, from one world to another: code that
leaves the reason alone, code that takes it, and calls.  A call answers by itself, or raises
what fits a miss, as the handler that every receiver has does, or enters code, of which there
is an account again.  A miss that nobody handles is told like one with such a handler. -/
inductive Account (context : ContextRef) :
    World Code Host → List ReasonEvent → World Code Host → Prop where
  | rest (world : World Code Host) : Account context world [] world
  | quietly {start world after : World Code Host} {events : List ReasonEvent}
      (account : Account context start events world)
      (kept : (after.context context).missingReason = (world.context context).missingReason)
      (grows : world.contextCount ≤ after.contextCount) : Account context start events after
  | takes {start world : World Code Host} {events : List ReasonEvent}
      (account : Account context start events world) :
      Account context start (events ++ [.takes (world.takeMissingReason context).1])
        (world.takeMissingReason context).2
  | passes {start world after : World Code Host} {events : List ReasonEvent}
      (account : Account context start events world) (exec : Exec Code Host)
      {calling : Calling Code} {outcome : Outcome}
      (answers : calling.handover context world = .answers outcome after) :
      Account context start (events ++ [.passes (calling.noted? world)])
        (calling.run exec context world).2
  | raises {start world before : World Code Host} {events : List ReasonEvent}
      (account : Account context start events world) (exec : Exec Code Host)
      {calling : Calling Code} {frame? : Option Frame} {receiver : Value} {args : List Value}
      (raises : calling.handover context world = .raises frame? receiver args before) :
      Account context start
        (events ++ .enters (calling.noted? world) ::
          ([.takes ((before.enter context frame?).takeMissingReason context).1] ++ [.leaves]))
        (calling.run exec context world).2
  | calls {start world before : World Code Host} {events body : List ReasonEvent}
      (account : Account context start events world) {exec : Exec Code Host}
      {calling : Calling Code} {frame? : Option Frame} {code : Code} {activation : Activation}
      (enters : calling.handover context world = .enters frame? code activation before)
      (its : Account context (before.enter context frame?) body
        (exec code activation (before.enter context frame?)).2) :
      Account context start (events ++ .enters (calling.noted? world) :: (body ++ [.leaves]))
        (calling.run exec context world).2

/-- Code of which there is an account, in whatever world it is run. -/
def Told (context : ContextRef) (exec : Exec Code Host) : Prop :=
  ∀ code activation world, ∃ events, Account context world events (exec code activation world).2

/-! ## What is told is so -/

/-- Events tell what was done about the reason of a context: it is the one that the latest
of them left, and whoever took it got the one that was there. -/
structure Tells (context : ContextRef) (start : World Code Host) (events : List ReasonEvent)
    (after : World Code Host) : Prop where
  grows : start.contextCount ≤ after.contextCount
  reason : (after.context context).missingReason =
    (ReasonEvent.latest? events).getD (start.context context).missingReason
  truthful : ReasonEvent.Truthful (start.context context).missingReason events

namespace Tells

open World ReasonEvent

variable {context : ContextRef} {start world after before : World Code Host}
  {events later : List ReasonEvent}

theorem append (first : Tells context start events world)
    (second : Tells context world later after) :
    Tells context start (events ++ later) after where
  grows := Nat.le_trans first.grows second.grows
  reason := by
    rw [second.reason, first.reason, latest?_append]
    cases latest? later <;> rfl
  truthful := truthful_append.2 ⟨first.truthful, first.reason ▸ second.truthful⟩

theorem takes (made : context.index < world.contextCount) :
    Tells context world [.takes (world.takeMissingReason context).1]
      (world.takeMissingReason context).2 where
  grows := Nat.le_of_eq (contextCount_modifyContext world context _).symm
  reason := reason_setMissingReason made .normal
  truthful := by
    refine ⟨fun got taken => ?_, trivial⟩
    cases taken
    rfl

/-- A call that enters no body notes its reason. -/
theorem passes (made : context.index < world.contextCount) {calling : Calling Code}
    {outcome : Outcome} (answers : calling.handover context world = .answers outcome after) :
    Tells context world [.passes (calling.noted? world)] after := by
  obtain ⟨count, noted⟩ := reason_handover made calling
  rw [answers] at count noted
  refine ⟨Nat.le_of_eq count.symm, ?_, fun _ taken => (nomatch taken), trivial⟩
  rw [latest?_singleton]
  exact noted

/-- A call that enters a body notes its reason, and then the body tells its part. -/
theorem within (made : context.index < world.contextCount) {calling : Calling Code}
    {frame? : Option Frame} {body : List ReasonEvent}
    (count : before.contextCount = world.contextCount)
    (noted : (before.context context).missingReason =
      (calling.noted? world).getD (world.context context).missingReason)
    (its : context.index < (before.enter context frame?).contextCount →
      Tells context (before.enter context frame?) body after) :
    Tells context world (.enters (calling.noted? world) :: (body ++ [.leaves]))
      (after.leave context frame?) := by
  have count' : (before.enter context frame?).contextCount = world.contextCount :=
    (contextCount_enter before context frame?).trans count
  obtain ⟨grows, reason, truthful⟩ := its (count' ▸ made)
  rw [about_enter Context.missingReason fun _ _ => rfl, noted] at reason truthful
  refine ⟨?_, ?_, fun _ taken => (nomatch taken), truthful_append.2 ⟨truthful, ?_⟩⟩
  · rw [contextCount_leave]
    exact Nat.le_trans (Nat.le_of_eq count'.symm) grows
  · rw [about_leave Context.missingReason fun _ _ => rfl, reason, latest?, latest?_append]
    cases latest? body <;> cases calling.noted? world <;> rfl
  · exact ⟨fun _ taken => (nomatch taken), trivial⟩

end Tells

namespace Account

open World ReasonEvent

variable {context : ContextRef} {start world after : World Code Host} {events : List ReasonEvent}
  {exec : Exec Code Host}

/-- **An account tells what is so**, about a context that was made. -/
theorem tells (account : Account context start events after)
    (made : context.index < start.contextCount) : Tells context start events after := by
  induction account with
  | rest world => exact ⟨Nat.le_refl _, rfl, trivial⟩
  | quietly _ kept grows ih =>
      obtain ⟨grown, reason, truthful⟩ := ih made
      exact ⟨Nat.le_trans grown grows, kept.trans reason, truthful⟩
  | takes _ ih =>
      have told := ih made
      exact told.append (.takes (Nat.lt_of_lt_of_le made told.grows))
  | @passes _ world _ _ _ exec calling _ answers ih =>
      have told := ih made
      rw [← calling.run_handover exec context world, answers]
      exact told.append (.passes (Nat.lt_of_lt_of_le made told.grows) answers)
  | @raises _ world before _ _ exec calling frame? receiver args raises ih =>
      have told := ih made
      have made' := Nat.lt_of_lt_of_le made told.grows
      obtain ⟨count, noted⟩ := reason_handover made' calling
      rw [← calling.run_handover exec context world]
      rw [raises] at count noted ⊢
      refine told.append (.within made' count noted fun entered => ?_)
      -- to raise what fits the miss is to take the reason
      rw [raiseMissing_snd]
      exact .takes entered
  | @calls _ world before _ _ _ exec calling frame? code activation enters _ ih its =>
      have told := ih made
      have made' := Nat.lt_of_lt_of_le made told.grows
      obtain ⟨count, noted⟩ := reason_handover made' calling
      rw [← calling.run_handover exec context world]
      rw [enters] at count noted ⊢
      exact told.append (.within made' count noted its)

/-- **A call of code that there are accounts of adds to the account of its caller.** -/
theorem call (told : Told context exec) (account : Account context start events world)
    (calling : Calling Code) :
    ∃ more, Account context start (events ++ more) (calling.run exec context world).2 := by
  cases handed : calling.handover context world with
  | answers outcome after => exact ⟨_, account.passes exec handed⟩
  | raises frame? receiver args before => exact ⟨_, account.raises exec handed⟩
  | enters frame? code activation before =>
      obtain ⟨body, its⟩ := told code activation (before.enter context frame?)
      exact ⟨_, account.calls handed its⟩

/-- **Which reason a body takes.**  It gets what its own calls left last; if they left none,
the reason that it was entered for; and if it was entered for none, what was left behind
before it was called.  So it gets the reason it is due, `normal` if it was entered for none,
exactly if its own calls left no other, and, where they left none, it was entered for a
reason or found nothing left behind. -/
theorem first_take_iff (account : Account context start events after)
    (made : context.index < start.contextCount) {earlier inside : List ReasonEvent}
    {noted? : Option MissingReason} {got : MissingReason}
    (first : FirstTake events earlier noted? inside got) :
    let found := (latest? earlier).getD (start.context context).missingReason
    got = (latest? inside).getD (noted?.getD found) ∧
      (got = noted?.getD .normal ↔
        match latest? inside with
        | some left => left = noted?.getD .normal
        | none => noted?.isSome = true ∨ found = .normal) := by
  intro found
  obtain ⟨rest, split⟩ := first.found
  have told := (account.tells made).truthful
  rw [split, ← List.cons_append, ← List.append_assoc] at told
  have got_eq : got = (latest? inside).getD (noted?.getD found) := by
    rw [told.got_eq, latest?_append, latest?, left?]
    cases latest? inside <;> cases noted? <;> rfl
  refine ⟨got_eq, ?_⟩
  rw [got_eq]
  cases latest? inside with
  | some left => exact Iff.rfl
  | none =>
      cases noted? <;> simp

end Account

/-! ## Bodies that look -/

/-- What a body does about the reason: nothing, or it takes it and answers with its name,
after a send to its receiver if it makes one. -/
inductive Inquiry where
  | ignore
  | ask (first? : Option String)
deriving DecidableEq, Repr

namespace Inquiry

open World

/-- Take the reason and answer with its name. -/
def answer {Host : Type} (context : ContextRef) (world : World Inquiry Host) :
    Outcome × World Inquiry Host :=
  let (reason, world) := world.takeMissingReason context
  (.ok (.symbol reason.name), world)

/-- Run a body, with sends in sends so deep. -/
def pursue {Host : Type} (context : ContextRef) : Nat → Exec Inquiry Host
  | 0 => fun inquiry _ world =>
      match inquiry with
      | ignore => (.ok .nil, world)
      | ask _ => answer context world
  | depth + 1 => fun inquiry activation world =>
      match inquiry with
      | ignore => (.ok .nil, world)
      | ask none => answer context world
      | ask (some name) =>
          answer context
            (send (pursue context depth) context name .normal { receiver := activation.receiver }
              world).2

theorem told_pursue {Host : Type} (context : ContextRef) (depth : Nat) :
    Told context (pursue context depth : Exec Inquiry Host) := by
  induction depth with
  | zero =>
      intro inquiry activation world
      cases inquiry with
      | ignore => exact ⟨_, .rest world⟩
      | ask first? => exact ⟨_, .takes (.rest world)⟩
  | succ depth ih =>
      intro inquiry activation world
      match inquiry with
      | ignore => exact ⟨_, .rest world⟩
      | ask none => exact ⟨_, .takes (.rest world)⟩
      | ask (some name) =>
          obtain ⟨events, account⟩ := Account.call ih (.rest world)
            (.send name .normal { receiver := activation.receiver })
          exact ⟨_, account.takes⟩

theorem lawful_pursue {Host : Type} (context : ContextRef) (depth : Nat) :
    Lawful (fun _ => True) (pursue context depth : Exec Inquiry Host) := by
  induction depth with
  | zero =>
      intro inquiry activation world sound
      cases inquiry with
      | ignore => exact .refl
      | ask first? => exact evolves_modifyContext world context _
  | succ depth ih =>
      intro inquiry activation world sound
      match inquiry with
      | ignore => exact .refl
      | ask none => exact evolves_modifyContext world context _
      | ask (some name) =>
          exact (evolving_send ih context name .normal _ sound).trans
            (evolves_modifyContext _ context _)

/-- A compiled body of this kind, on any number of arguments. -/
def compiled (inquiry : Inquiry) : Implementation Inquiry :=
  .compiled {
    entry := inquiry
    scope := { kind := .method, locals := [], signature := { rest := true } } }

/-- A fresh world with a context and these methods of all objects, the earliest first. -/
def taught (methods : List (String × Bool × Inquiry)) : World Inquiry Unit :=
  let fresh : World Inquiry Unit := create {} .hierarchy none ()
  methods.foldl (fun world method =>
      (world.createMethod method.1 method.2.1 (compiled method.2.2)).2.change
        (.define TypeRef.object (world.createMethod method.1 method.2.1 (compiled method.2.2)).1))
    { fresh with contexts := fresh.contexts.create.2 }

theorem reachable_taught (methods : List (String × Bool × Inquiry)) (depth : Nat) :
    Reachable (fun _ => True) (pursue ⟨0⟩ depth) (taught methods) := by
  have threaded : ∀ world : World Inquiry Unit,
      Reachable (fun _ => True) (pursue ⟨0⟩ depth) world →
      Reachable (fun _ => True) (pursue ⟨0⟩ depth)
        { world with contexts := world.contexts.create.2 } :=
    fun _ reached => .step reached (.elsewhere rfl rfl rfl rfl rfl (Nat.le_refl _) (.refl _))
  suffices given : ∀ world : World Inquiry Unit,
      Reachable (fun _ => True) (pursue ⟨0⟩ depth) world →
      Reachable (fun _ => True) (pursue ⟨0⟩ depth) (methods.foldl (fun world method =>
        (world.createMethod method.1 method.2.1 (compiled method.2.2)).2.change
          (.define TypeRef.object
            (world.createMethod method.1 method.2.1 (compiled method.2.2)).1)) world) from
    given _ (threaded _ (.fresh {} .hierarchy none ()))
  induction methods with
  | nil => exact fun _ reached => reached
  | cons method rest ih =>
      exact fun world reached => ih _ (reached.define (lawful_pursue ⟨0⟩ depth) TypeRef.object
        method.1 method.2.1 (compiled method.2.2) fun _ _ => trivial)

/-- The body that a call enters, if it enters one. -/
def entered? (world : World Inquiry Unit) (calling : Calling Inquiry) : Option Inquiry :=
  match calling.handover ⟨0⟩ world with
  | .enters _ inquiry _ _ => some inquiry
  | _ => none

/-- The account of a call that enters a body which takes the reason at once. -/
theorem call_ask {start world : World Inquiry Unit} {events : List ReasonEvent}
    (account : Account ⟨0⟩ start events world) (depth : Nat) (calling : Calling Inquiry)
    (enters : entered? world calling = some (ask none)) :
    ∃ got, Account ⟨0⟩ start
      (events ++ [.enters (calling.noted? world), .takes got, .leaves])
      (calling.run (pursue ⟨0⟩ depth) ⟨0⟩ world).2 := by
  unfold entered? at enters
  cases handed : calling.handover ⟨0⟩ world with
  | answers | raises => simp [handed] at enters
  | enters frame? code activation before =>
      obtain rfl : code = ask none := by simpa [handed] using enters
      have asks : (pursue ⟨0⟩ depth : Exec Inquiry Unit) (ask none) activation =
          answer ⟨0⟩ := by cases depth <;> rfl
      have its : Account ⟨0⟩ (before.enter ⟨0⟩ frame?)
          [.takes ((before.enter ⟨0⟩ frame?).context ⟨0⟩).missingReason]
          (pursue ⟨0⟩ depth (ask none) activation (before.enter ⟨0⟩ frame?)).2 := by
        rw [asks]
        exact .takes (.rest (before.enter ⟨0⟩ frame?))
      exact ⟨_, account.calls handed its⟩

/-- A hidden method is sent for, and its handler of missing methods takes the reason.  So
the body that is called next finds none. -/
theorem first_take_iff_of_two :
    let world := taught [("secret", true, ignore), ("why", false, ask none),
      (methodMissing, false, ask none)]
    let secret : Calling Inquiry := .send "secret" .normal { receiver := .int 1 }
    let why : Calling Inquiry := .send "why" .normal { receiver := .int 1 }
    let after := (secret.run (pursue ⟨0⟩ 0) ⟨0⟩ world).2
    Account ⟨0⟩ world
      [.enters (some .hidden), .takes .hidden, .leaves, .enters none, .takes .normal, .leaves]
      (why.run (pursue ⟨0⟩ 0) ⟨0⟩ after).2 := by
  intro world secret why after
  have facts : 0 < world.contextCount ∧
      secret.noted? world = some .hidden ∧ entered? world secret = some (ask none) ∧
      why.noted? after = none ∧ entered? after why = some (ask none) := by
    decide +kernel
  obtain ⟨made, missed, asks, found, asks'⟩ := facts
  obtain ⟨one, first⟩ := call_ask (.rest world) 0 secret asks
  obtain ⟨two, both⟩ := call_ask first 0 why asks'
  rw [missed, found] at both
  obtain ⟨-, its⟩ := both.first_take_iff made
    { found := ⟨_, rfl⟩, calls := .nothing false :
      ReasonEvent.FirstTake _ [] (some .hidden) [] one }
  obtain ⟨-, another⟩ := both.first_take_iff made
    { found := ⟨_, rfl⟩, calls := .nothing false :
      ReasonEvent.FirstTake _ [.enters (some .hidden), .takes one, .leaves] none [] two }
  obtain rfl : one = .hidden := its.2 (.inl rfl)
  obtain rfl : two = .normal := another.2 (.inr rfl)
  exact both

def named? (outcome : Outcome) : Option String :=
  match outcome with
  | .ok (.symbol name) => some name
  | _ => none

/-- **A body that takes the reason of another send.**  Where the handler of missing methods
does not look, the reason that it was entered for is there for whoever looks next: a body
that is called afterwards, or the one that made the send, though neither of them was entered
for a miss.  And a handler that sends an absent name before it looks does not get the reason
that it was entered for. -/
theorem reason_of_another_send :
    let sent := fun (name : String) (world : World Inquiry Unit) =>
      send (pursue ⟨0⟩ 2) ⟨0⟩ name .normal { receiver := .int 1 } world
    let noted? := fun (name : String) (world : World Inquiry Unit) =>
      world.sendNoted? TypeRef.integer name .normal
    let blind := taught [("secret", true, ignore), ("why", false, ask none),
      ("nosy", false, ask (some "secret")), (methodMissing, false, ignore)]
    let asking := taught [("secret", true, ignore), (methodMissing, false, ask (some "absent"))]
    (Reachable (fun _ => True) (pursue ⟨0⟩ 2) blind ∧
      (∃ events, Account ⟨0⟩ blind events (sent "why" (sent "secret" blind).2).2) ∧
      noted? "why" (sent "secret" blind).2 = none ∧
      named? (sent "why" (sent "secret" blind).2).1 = some "Private" ∧
      noted? "nosy" blind = none ∧ named? (sent "nosy" blind).1 = some "Private") ∧
    Reachable (fun _ => True) (pursue ⟨0⟩ 2) asking ∧
      noted? "secret" asking = some .hidden ∧ named? (sent "secret" asking).1 = some "Normal" := by
  intro sent noted? blind asking
  obtain ⟨_, once⟩ := Account.call (told_pursue ⟨0⟩ 2) (.rest blind)
    (.send "secret" .normal { receiver := .int 1 })
  obtain ⟨_, twice⟩ := once.call (told_pursue ⟨0⟩ 2) (.send "why" .normal { receiver := .int 1 })
  exact ⟨⟨reachable_taught _ _, ⟨_, twice⟩, by decide +kernel⟩, reachable_taught _ _,
    by decide +kernel⟩

end Inquiry

end InlineCache
