/-
# InlineCache.Proofs.Queues -- every fault is raised once, in order, in its own thread

A fault that one thread asks another to raise waits in the other's queue.  Whatever
threads do, what leaves a queue leaves it at the front, by a poll made with that
queue's own context, and what enters it enters at the back (`queue_step`).  Only the end
of a thread empties its queue otherwise.

* `Account`: so the faults raised in a live context, followed by those that wait, are
  the faults sent to it while it was live, and a context that is gone has raised the
  first of them;
* `faults_raised_once`: this holds after any run, for all contexts at once, together
  with what a poll, an interrupt of a thread that is gone and the end of a thread leave
  alone.
-/
import InlineCache.Proofs.Delivery

namespace InlineCache

set_option autoImplicit false

namespace World

variable {Code Host : Type}

/-- A safepoint that is requested again is nothing to the contexts. -/
theorem contexts_pollEvents (world : World Code Host) (context : ContextRef) :
    (world.pollEvents context).2.contexts = (world.delivered context).contexts := by
  rw [pollEvents_eq]
  dsimp only
  split <;> rfl

/-- Handling events takes the oldest fault out of the context's own queue. -/
theorem pending_pollEvents (world : World Code Host) (context other : ContextRef) :
    ((world.pollEvents context).2.context other).pending =
      if other = context then (world.context other).pending.tail
      else (world.context other).pending := by
  have read : (world.pollEvents context).2.context other =
      (world.delivered context).contexts.get other :=
    congrArg (Contexts.get · other) (world.contexts_pollEvents context)
  rw [read]
  by_cases same : other = context
  · subst same
    rw [if_pos rfl]
    by_cases made : other.index < world.contexts.contexts.size
    · simp only [delivered, modifyContext]
      rw [Contexts.get_modify_self _ _ made]
      rfl
    · -- a context that was never made has nothing waiting, before and after
      have empty : (world.context other).pending = [] := by
        simp [World.context, Contexts.get, made]
      rw [empty]
      simp [delivered, modifyContext, Contexts.get, Contexts.modify, made]
  · rw [if_neg same]
    simp only [delivered, modifyContext]
    rw [Contexts.get_modify_of_ne _ _ same]
    rfl

theorem contexts_releaseContext (world : World Code Host) (context : ContextRef) :
    (world.releaseContext context).contexts =
      world.contexts.modify context fun its => { its with live := false, pending := [] } := by
  simp only [releaseContext]
  split <;> rfl

end World

namespace Polling

variable {Code Host : Type}

/-- The faults that wait for a context, the oldest first. -/
def queue (state : Polling Code Host) (context : ContextRef) : List Fault :=
  (state.world.context context).pending

def Event.poller? : Event → Option ContextRef
  | .poll _ context | .pollEvents context => some context
  | _ => none

/-- What a poll answers.  A thread that is gone does not poll. -/
def answer (state : Polling Code Host) : Event → Except Fault Unit
  | .poll number context =>
      match state.sites[number]? with
      | none => .ok ()
      | some site =>
          if state.world.contexts.isLive context then (state.world.poll site context).1
          else .ok ()
  | .pollEvents context =>
      if state.world.contexts.isLive context then (state.world.pollEvents context).1 else .ok ()
  | _ => .ok ()

/-- The faults among the answers of polls. -/
def faults : Except Fault Unit → List Fault
  | .error fault => [fault]
  | .ok () => []

/-- The faults that a step raises in a context. -/
def raises (state : Polling Code Host) (context : ContextRef) (event : Event) : List Fault :=
  if event.poller? = some context then faults (state.answer event) else []

/-- The faults that a step sends to a context while it is live. -/
def sends (state : Polling Code Host) (context : ContextRef) : Event → List Fault
  | .interrupt target fault =>
      if target = context ∧ state.world.contexts.isLive context = true then [fault] else []
  | _ => []

/-- What the steps of a run bring about, one after another. -/
def along (brings : Polling Code Host → Event → List Fault) :
    Polling Code Host → List Event → List Fault
  | _, [] => []
  | state, event :: rest => brings state event ++ along brings (state.step event) rest

/-- The faults that a run raises in a context, in order. -/
def raised (state : Polling Code Host) (context : ContextRef) (events : List Event) : List Fault :=
  along (fun state event => state.raises context event) state events

/-- The faults that a run sends to a context while it is live, in order. -/
def sent (state : Polling Code Host) (context : ContextRef) (events : List Event) : List Fault :=
  along (fun state event => state.sends context event) state events

/-! ## What one step does to one queue -/

theorem faults_pollEvents (world : World Code Host) (context : ContextRef) :
    faults (world.pollEvents context).1 ++ ((world.pollEvents context).2.context context).pending =
      (world.context context).pending := by
  rw [World.pending_pollEvents, if_pos rfl, World.pollEvents_eq]
  cases (world.context context).pending <;> rfl

/-- What a poll of a live context leaves of its queue. -/
theorem queue_poll (world : World Code Host) (site : CheckpointSite) (context : ContextRef) :
    faults (world.poll site context).1 ++ ((world.poll site context).2.2.context context).pending =
      (world.context context).pending := by
  cases slow : site.isPending world.points with
  | true =>
      simp only [World.poll, slow, if_true]
      exact faults_pollEvents world context
  | false =>
      rw [World.poll_of_armed context slow]
      rfl

theorem queue_poll_of_ne (world : World Code Host) (site : CheckpointSite)
    {context other : ContextRef} (different : other ≠ context) :
    ((world.poll site context).2.2.context other).pending = (world.context other).pending := by
  cases slow : site.isPending world.points with
  | true =>
      simp only [World.poll, slow, if_true]
      rw [World.pending_pollEvents, if_neg different]
  | false => rw [World.poll_of_armed context slow]

/-- An interrupt goes to the back of the queue of its target, if that is live. -/
theorem queue_interrupt (state : Polling Code Host) (target context : ContextRef) (fault : Fault) :
    (state.step (.interrupt target fault)).queue context =
      state.queue context ++ state.sends context (.interrupt target fault) := by
  simp only [step, sends, queue, World.interrupt]
  cases live : state.world.contexts.isLive target with
  | false =>
      rw [if_neg Bool.false_ne_true, if_neg]
      · exact (List.append_nil _).symm
      · rintro ⟨rfl, lives⟩
        rw [live] at lives
        exact Bool.false_ne_true lives
  | true =>
      rw [if_pos rfl]
      simp only [World.requestSafepoint, World.modifyContext, World.say, World.context]
      by_cases same : target = context
      · subst same
        have made : target.index < state.world.contexts.contexts.size := by
          refine Nat.lt_of_not_le fun past => ?_
          simp [Contexts.isLive, Array.getElem?_eq_none past] at live
        rw [Contexts.get_modify_self _ _ made, if_pos ⟨rfl, live⟩]
      · rw [Contexts.get_modify_of_ne _ _ (Ne.symm same), if_neg fun both => same both.1,
          List.append_nil]

/-- The end of a thread takes its own queue and nothing else. -/
theorem queue_releaseContext (state : Polling Code Host) (gone context : ContextRef) :
    (state.step (.releaseContext gone)).queue context =
      if context = gone then [] else state.queue context := by
  simp only [step, queue, World.context, World.contexts_releaseContext]
  by_cases same : context = gone
  · subst same
    rw [if_pos rfl, Contexts.get_modify]
    by_cases made : context.index < state.world.contexts.contexts.size
    · rw [if_pos ⟨rfl, made⟩]
    · rw [if_neg fun both => made both.2]
      simp [Contexts.get, made]
  · rw [if_neg same, Contexts.get_modify_of_ne _ _ same]

/-- **What one step does to one queue**: faults are sent to the back and raised from the
front, as long as the thread does not end. -/
theorem queue_step (state : Polling Code Host) {context : ContextRef} {event : Event}
    (stays : event ≠ .releaseContext context) :
    state.queue context ++ state.sends context event =
      state.raises context event ++ (state.step event).queue context := by
  cases event with
  | createContext =>
      have same : (state.step .createContext).queue context = state.queue context :=
        congrArg Context.pending (Contexts.get_create state.world.contexts context)
      rw [same]
      exact List.append_nil _
  | createSite => exact List.append_nil _
  | requestSafepoint => exact List.append_nil _
  | releaseContext gone =>
      have different : context ≠ gone := fun same => stays (by rw [same])
      rw [queue_releaseContext, if_neg different]
      exact List.append_nil _
  | interrupt target fault => exact (queue_interrupt state target context fault).symm
  | poll number by_ =>
      have nothing : state.sends context (.poll number by_) = [] := rfl
      rw [nothing, List.append_nil]
      simp only [raises, answer, step, Event.poller?, Option.some.injEq, queue]
      cases state.sites[number]? with
      | none => simp [faults]
      | some site =>
          dsimp only
          by_cases live : state.world.contexts.isLive by_ = true
          · rw [if_pos live, if_pos live]
            by_cases same : by_ = context
            · subst same
              rw [if_pos rfl]
              exact (queue_poll state.world site by_).symm
            · rw [if_neg same]
              exact (queue_poll_of_ne state.world site (Ne.symm same)).symm
          · rw [if_neg live, if_neg live]
            simp [faults]
  | pollEvents by_ =>
      have nothing : state.sends context (.pollEvents by_) = [] := rfl
      rw [nothing, List.append_nil]
      simp only [raises, answer, step, Event.poller?, Option.some.injEq, queue]
      by_cases live : state.world.contexts.isLive by_ = true
      · rw [if_pos live, if_pos live]
        by_cases same : by_ = context
        · subst same
          rw [if_pos rfl]
          exact (faults_pollEvents state.world by_).symm
        · rw [if_neg same, List.nil_append]
          have other := World.pending_pollEvents state.world by_ context
          rw [if_neg (Ne.symm same)] at other
          exact other.symm
      · rw [if_neg live, if_neg live]
        simp [faults]

/-! ## Who lives -/

/-- **What a step does to the contexts that are there**: it changes one of them at most,
which stays what it was, live or gone, unless it ends. -/
theorem contexts_step (state : Polling Code Host) {event : Event}
    (old : event ≠ .createContext) :
    (state.step event).world.contexts = state.world.contexts ∨
    ∃ target change, (state.step event).world.contexts = state.world.contexts.modify target change ∧
      (event = .releaseContext target ∨ ∀ its, (change its).live = its.live) := by
  cases event with
  | createContext => exact absurd rfl old
  | createSite => exact .inl rfl
  | requestSafepoint => exact .inl rfl
  | releaseContext gone =>
      exact .inr ⟨gone, _, state.world.contexts_releaseContext gone, .inl rfl⟩
  | interrupt target fault =>
      simp only [step, World.interrupt]
      split
      · exact .inr ⟨target, _, rfl, .inr fun _ => rfl⟩
      · exact .inl rfl
  | poll number by_ =>
      simp only [step]
      split
      · exact .inl rfl
      · rename_i site _
        split
        · cases slow : site.isPending state.world.points with
          | true =>
              simp only [World.poll, slow, if_true]
              exact .inr ⟨by_, _, state.world.contexts_pollEvents by_, .inr fun _ => rfl⟩
          | false =>
              rw [World.poll_of_armed by_ slow]
              exact .inl rfl
        · exact .inl rfl
  | pollEvents by_ =>
      simp only [step]
      split
      · exact .inr ⟨by_, _, state.world.contexts_pollEvents by_, .inr fun _ => rfl⟩
      · exact .inl rfl

/-- No context is ever taken away. -/
theorem size_step (state : Polling Code Host) (event : Event) :
    state.world.contexts.contexts.size ≤ (state.step event).world.contexts.contexts.size := by
  by_cases new : event = .createContext
  · subst new
    simp [step, World.createContext, Contexts.create]
  · rcases state.contexts_step new with same | ⟨target, change, changed, -⟩
    · exact Nat.le_of_eq (by rw [same])
    · rw [changed]
      simp [Contexts.modify]

/-- Who lives after a step lived before it, or was made by it. -/
theorem isLive_step (state : Polling Code Host) {context : ContextRef} {event : Event}
    (stays : event ≠ .releaseContext context) :
    (state.step event).world.contexts.isLive context = true ↔
      state.world.contexts.isLive context = true ∨
        (event = .createContext ∧ context = state.world.contexts.create.1) := by
  by_cases new : event = .createContext
  · subst new
    have made := state.world.contexts.isLive_create context
    rw [show (state.step .createContext).world.contexts = state.world.contexts.create.2 from rfl,
      made]
    simp
  · have kept : (state.step event).world.contexts.isLive context =
        state.world.contexts.isLive context := by
      rcases state.contexts_step new with same | ⟨target, change, changed, rfl | steady⟩
      · rw [same]
      · rw [changed]
        exact Contexts.isLive_modify_of_ne _ _ fun same => stays (by rw [same])
      · rw [changed]
        exact Contexts.isLive_modify _ _ _ steady
    rw [kept]
    simp [new]

theorem lt_size_of_isLive {table : Contexts} {context : ContextRef}
    (live : table.isLive context = true) : context.index < table.contexts.size := by
  refine Nat.lt_of_not_le fun past => ?_
  simp [Contexts.isLive, Array.getElem?_eq_none past] at live

/-! ## The account of a context -/

/-- **The account of a context**, given what was sent to it and raised in it so far. -/
structure Account (state : Polling Code Host) (context : ContextRef) (sent raised : List Fault) :
    Prop where
  /-- while it lives, what was sent was raised or waits -/
  live : state.world.contexts.isLive context = true → raised ++ state.queue context = sent
  /-- nothing waits for a context that does not live -/
  gone : state.world.contexts.isLive context = false → state.queue context = []
  /-- nothing was sent to a context before it was made -/
  unmade : state.world.contexts.contexts.size ≤ context.index → sent = []
  /-- what was raised is the first of what was sent, whatever became of the rest -/
  first : raised <+: sent

/-- Nothing is sent to a context that does not live. -/
theorem sends_of_gone {state : Polling Code Host} {context : ContextRef}
    (gone : state.world.contexts.isLive context = false) (event : Event) :
    state.sends context event = [] := by
  cases event with
  | interrupt target fault =>
      refine if_neg ?_
      rintro ⟨rfl, live⟩
      rw [gone] at live
      exact Bool.false_ne_true live
  | _ => rfl

/-- **One step, entered into the account.** -/
theorem Account.step {state : Polling Code Host} {context : ContextRef} {sent raised : List Fault}
    (account : state.Account context sent raised) (event : Event) :
    (state.step event).Account context (sent ++ state.sends context event)
      (raised ++ state.raises context event) := by
  by_cases ends : event = .releaseContext context
  · -- the queue is lost, and nothing else changes
    subst ends
    have emptied := queue_releaseContext state context context
    rw [if_pos rfl] at emptied
    have sends : state.sends context (.releaseContext context) = [] := rfl
    have raises : state.raises context (.releaseContext context) = [] := rfl
    rw [sends, raises, List.append_nil, List.append_nil]
    have ended : (state.step (.releaseContext context)).world.contexts.isLive context = false := by
      refine (congrArg (Contexts.isLive · context)
        (state.world.contexts_releaseContext context)).trans ?_
      cases there : state.world.contexts.contexts[context.index]? <;>
        simp [Contexts.isLive, Contexts.modify, Array.getElem?_modify, there]
    refine ⟨fun live => ?_, fun _ => emptied, fun past => ?_, account.first⟩
    · rw [ended] at live
      exact absurd live Bool.false_ne_true
    · exact account.unmade (Nat.le_trans (state.size_step _) past)
  · have moved := state.queue_step ends
    have lives := state.isLive_step ends
    cases live : state.world.contexts.isLive context with
    | true =>
        have total : raised ++ state.raises context event ++ (state.step event).queue context =
            sent ++ state.sends context event := by
          calc raised ++ state.raises context event ++ (state.step event).queue context
              = raised ++ (state.queue context ++ state.sends context event) := by
                rw [List.append_assoc, ← moved]
            _ = sent ++ state.sends context event := by
                rw [← List.append_assoc, account.live live]
        refine ⟨fun _ => total, fun gone => ?_, fun past => ?_, ⟨_, total⟩⟩
        · rw [lives.2 (.inl live)] at gone
          exact absurd gone.symm Bool.false_ne_true
        · have made := lt_size_of_isLive live
          have grown := state.size_step event
          omega
    | false =>
        -- nothing is sent, and nothing is there to be raised
        have sends := sends_of_gone live event
        rw [account.gone live, sends, List.append_nil] at moved
        obtain ⟨raises, empty⟩ := List.append_eq_nil_iff.1 moved.symm
        rw [sends, raises, List.append_nil, List.append_nil]
        refine ⟨fun later => ?_, fun _ => empty, fun past => ?_, account.first⟩
        · rcases lives.1 later with before | ⟨-, rfl⟩
          · rw [live] at before
            exact absurd before Bool.false_ne_true
          · have sent_ := account.unmade (Nat.le_refl _)
            have raised_ := List.prefix_nil.1 (sent_ ▸ account.first)
            rw [empty, sent_, raised_]
            rfl
        · exact account.unmade (Nat.le_trans (state.size_step _) past)

theorem Account.run {state : Polling Code Host} {context : ContextRef} {sent raised : List Fault}
    (account : state.Account context sent raised) (events : List Event) :
    (state.run events).Account context (sent ++ state.sent context events)
      (raised ++ state.raised context events) := by
  induction events generalizing state sent raised with
  | nil =>
      simp only [Polling.sent, Polling.raised, along, List.append_nil]
      exact account
  | cons event rest ih =>
      have later := ih (account.step event)
      simp only [Polling.sent, Polling.raised, along, ← List.append_assoc]
      exact later

theorem contexts_start (options : Options) (rule : LookupRule Code) (coverage : Option Coverage)
    (host : Host) : (start options rule coverage host).world.contexts = {} := by
  refine World.create_induction (motive := fun world => world.contexts = {}) ?_ ?_ ?_
  · rfl
  · exact fun _ _ _ _ none_ => none_
  · exact fun _ none_ => none_

/-- Before anyone does anything nothing was sent, and nothing waits. -/
theorem account_start (options : Options) (rule : LookupRule Code) (coverage : Option Coverage)
    (host : Host) (context : ContextRef) :
    (start options rule coverage host).Account context [] [] := by
  have empty : (start options rule coverage host).queue context = [] := by
    simp [queue, World.context, contexts_start, Contexts.get]
  refine ⟨fun live => ?_, fun _ => empty, fun _ => rfl, List.prefix_rfl⟩
  rw [contexts_start] at live
  simp [Contexts.isLive] at live

/-! ## Every fault is raised once -/

/-- A poll that raises a fault takes it from the front of its own context's queue. -/
theorem queue_of_answer (state : Polling Code Host) {event : Event} {context : ContextRef}
    {fault : Fault} (polls : event.poller? = some context)
    (raised_ : state.answer event = .error fault) :
    state.queue context = fault :: (state.step event).queue context ∧
      ∀ other, other ≠ context → (state.step event).queue other = state.queue other := by
  have stays : ∀ other, event ≠ .releaseContext other := by
    rintro other rfl
    simp [Event.poller?] at polls
  have sends : ∀ other, state.sends other event = [] := by
    intro other
    cases event with
    | interrupt => simp [Event.poller?] at polls
    | _ => rfl
  refine ⟨?_, fun other different => ?_⟩
  · have moved := state.queue_step (stays context)
    rw [sends, List.append_nil, raises, if_pos polls, raised_] at moved
    exact moved
  · have moved := state.queue_step (stays other)
    have elsewhere : event.poller? ≠ some other := by
      rw [polls]
      exact fun same => different (Option.some.inj same).symm
    rw [sends, List.append_nil, raises, if_neg elsewhere, List.nil_append] at moved
    exact moved.symm

/-- What is sent to a context that does not live is dropped, and logged. -/
theorem interrupt_of_gone (state : Polling Code Host) {context : ContextRef}
    (gone : state.world.contexts.isLive context = false) (fault : Fault) :
    (state.step (.interrupt context fault)).world.contexts = state.world.contexts ∧
      (state.step (.interrupt context fault)).world.points = state.world.points ∧
        (state.step (.interrupt context fault)).world.checkpoint = state.world.checkpoint ∧
          (state.step (.interrupt context fault)).sites = state.sites := by
  have dropped : state.world.interrupt context fault = state.world.say
      [⟨.debug, context.render ++ " is gone, dropping " ++ fault.message⟩] := by
    rw [World.interrupt, gone]
    rfl
  refine ⟨?_, ?_, ?_, rfl⟩
  · exact (congrArg World.contexts dropped :)
  · exact (congrArg World.points dropped :)
  · exact (congrArg World.checkpoint dropped :)

/-- The end of a thread is nothing to the others, to switch points and to sites. -/
theorem releaseContext_alone (state : Polling Code Host) (context : ContextRef) :
    (state.step (.releaseContext context)).queue context = [] ∧
      (state.step (.releaseContext context)).world.points = state.world.points ∧
        (state.step (.releaseContext context)).world.checkpoint = state.world.checkpoint ∧
          (state.step (.releaseContext context)).sites = state.sites ∧
            ∀ other, other ≠ context →
              (state.step (.releaseContext context)).world.context other =
                  state.world.context other ∧
                (state.step (.releaseContext context)).world.contexts.isLive other =
                  state.world.contexts.isLive other := by
  have contexts := state.world.contexts_releaseContext context
  refine ⟨(queue_releaseContext state context context).trans (if_pos rfl), ?_, ?_, rfl, ?_⟩
  · simp only [step, World.releaseContext]
    split <;> rfl
  · simp only [step, World.releaseContext]
    split <;> rfl
  · intro other different
    refine ⟨?_, ?_⟩
    · simp only [step, World.context, contexts]
      exact Contexts.get_modify_of_ne _ _ different
    · simp only [step, contexts]
      exact Contexts.isLive_modify_of_ne _ _ different

/-- **Every fault is raised once, in order, in its own thread.**  Take any run of the
threads of a fresh world.

* The faults raised in a live context, then those that wait for it, are exactly those
  sent to it; what was raised in a context that is gone is the first of them.
* A poll that raises a fault raises the oldest one of its own context, and leaves the
  queues of all others as they are.
* To interrupt a context that does not live changes no context, no switch point and no
  site.
* The end of a thread empties its own queue; every other context stays as it is. -/
theorem faults_raised_once (options : Options) (rule : LookupRule Code)
    (coverage : Option Coverage) (host : Host) (events : List Event) :
    let first : Polling Code Host := start options rule coverage host
    let state := first.run events
    (∀ context, state.world.contexts.isLive context = true →
      first.raised context events ++ state.queue context = first.sent context events) ∧
    (∀ context, first.raised context events <+: first.sent context events) ∧
    (∀ event context fault, event.poller? = some context → state.answer event = .error fault →
      state.queue context = fault :: (state.step event).queue context ∧
        ∀ other, other ≠ context → (state.step event).queue other = state.queue other) ∧
    (∀ context fault, state.world.contexts.isLive context = false →
      let after := state.step (.interrupt context fault)
      after.world.contexts = state.world.contexts ∧ after.world.points = state.world.points ∧
        after.world.checkpoint = state.world.checkpoint ∧ after.sites = state.sites) ∧
    (∀ context,
      let after := state.step (.releaseContext context)
      after.queue context = [] ∧ after.world.points = state.world.points ∧
        after.world.checkpoint = state.world.checkpoint ∧ after.sites = state.sites ∧
          ∀ other, other ≠ context → after.world.context other = state.world.context other ∧
            after.world.contexts.isLive other = state.world.contexts.isLive other) := by
  intro first state
  have account : ∀ context, state.Account context (first.sent context events)
      (first.raised context events) :=
    fun context => (account_start options rule coverage host context).run events
  refine ⟨fun context => (account context).live, fun context => (account context).first, ?_, ?_, ?_⟩
  · exact fun _ _ _ polls raised_ => state.queue_of_answer polls raised_
  · exact fun context fault gone => state.interrupt_of_gone gone fault
  · exact fun context => state.releaseContext_alone context

/-- Three threads and one site: a bystander's poll raises nothing, the end of a second
thread takes its fault along, and of the two faults for the first one is raised and one
waits. -/
theorem faults_raised_once_among_three :
    let first : Polling Unit Unit := start {} .hierarchy none ()
    let events : List Event := [.createContext, .createContext, .createContext, .createSite,
      .interrupt ⟨0⟩ .noBlock, .interrupt ⟨1⟩ (.typeMismatch "lost"), .poll 0 ⟨2⟩,
      .interrupt ⟨0⟩ (.typeMismatch "second"), .releaseContext ⟨1⟩,
      .interrupt ⟨1⟩ (.typeMismatch "late"), .poll 0 ⟨0⟩]
    let state := first.run events
    state.world.contexts.isLive ⟨0⟩ = true ∧ state.world.contexts.isLive ⟨1⟩ = false ∧
      (first.raised ⟨0⟩ events).length = 1 ∧ (first.raised ⟨2⟩ events).length = 0 ∧
        (first.raised ⟨0⟩ events ++ state.queue ⟨0⟩).map Fault.message =
          ["no block given (yield)", "second"] ∧
        (state.step (.interrupt ⟨1⟩ .noBlock)).world.points = state.world.points := by
  intro first events state
  have facts : state.world.contexts.isLive ⟨0⟩ = true ∧
      state.world.contexts.isLive ⟨1⟩ = false ∧ (first.raised ⟨0⟩ events).length = 1 ∧
        (first.raised ⟨2⟩ events).length = 0 ∧ (first.sent ⟨0⟩ events).map Fault.message =
          ["no block given (yield)", "second"] := by
    decide +kernel
  obtain ⟨live, gone, one, none_, sent_⟩ := facts
  dsimp only [state, first] at live gone one none_ sent_ ⊢
  obtain ⟨whole, -, -, dropped, -⟩ :=
    @faults_raised_once Unit Unit {} .hierarchy none () events
  obtain ⟨-, points, -⟩ := dropped ⟨1⟩ .noBlock gone
  refine ⟨live, gone, one, none_, ?_, points⟩
  rw [whole ⟨0⟩ live]
  exact sent_

end Polling

end InlineCache
