/-
# InlineCache.Proofs.Delivery -- which polls deliver the faults that wait

Threads come and go, ask one another to raise faults, and poll checkpoint sites.
`Polling` keeps a world and its sites together with what happened to the sites so far:
a poll that takes the slow path *arms* its site for the context that polls, and a
request for a safepoint disarms every site at once.

* `Sound`: at any time a site lets polls pass exactly when it is armed, and faults can
  wait behind an armed site only in the context that armed it;
* `poll_raises_iff`: the next poll of a context raises the oldest fault waiting for it,
  unless the site was armed by that same context;
* `second_fault_hidden`: so of two faults queued for one thread that polls in a loop
  the second one stays where it is.
-/
import InlineCache.Proofs.Invalidation
import InlineCache.World.Safepoints

namespace InlineCache

set_option autoImplicit false

namespace World

variable {Code Host : Type}

/-- One event of a context handled: the oldest fault leaves the queue. -/
def delivered (world : World Code Host) (context : ContextRef) : World Code Host :=
  world.modifyContext context fun state =>
    { state with polls := state.polls + 1, pending := state.pending.tail }

theorem isLive_delivered (world : World Code Host) (context other : ContextRef) :
    (world.delivered context).contexts.isLive other = world.contexts.isLive other :=
  world.contexts.isLive_modify context other fun _ => rfl

/-- **What handling the events of a context comes to**: the oldest fault, and a
safepoint requested again as long as faults wait for others. -/
theorem pollEvents_eq (world : World Code Host) (context : ContextRef) :
    world.pollEvents context =
      (match (world.context context).pending.head? with
        | some fault => .error fault
        | none => .ok (),
      if world.contexts.othersPending context then (world.delivered context).requestSafepoint
      else world.delivered context) := by
  have queue : ((world.modifyContext context fun state =>
      { state with polls := state.polls + 1 }).context context).pending =
        (world.context context).pending := by
    simp only [World.context, modifyContext, Contexts.get_modify]
    split <;> rfl
  have twice : (world.modifyContext context fun state =>
      { state with polls := state.polls + 1 }).modifyContext context (fun state =>
        { state with pending := (world.context context).pending.tail }) =
          world.delivered context := by
    simp only [delivered, modifyContext, Contexts.modify_modify]
    congr 1
    exact Contexts.modify_congr rfl
  have others : (world.delivered context).contexts.othersPending context =
      world.contexts.othersPending context :=
    world.contexts.othersPending_modify context fun _ => rfl
  simp only [pollEvents, takeInterrupt, queue, twice, others]
  cases (world.context context).pending.head? <;> rfl

end World

/-- What happened to the checkpoint sites. -/
inductive Polling.Mark where
  /-- a poll of a context took the slow path at a site -/
  | armed (site : Nat) (context : ContextRef)
  /-- a safepoint was requested -/
  | requested
deriving DecidableEq, Repr

/-- What threads do. -/
inductive Polling.Event where
  | createContext
  | releaseContext (context : ContextRef)
  | createSite
  | interrupt (target : ContextRef) (fault : Fault)
  | requestSafepoint
  | poll (site : Nat) (context : ContextRef)
  /-- a poll without a site -/
  | pollEvents (context : ContextRef)

/-- A world, its checkpoint sites, and what happened to them, the latest first. -/
structure Polling (Code Host : Type) where
  world : World Code Host
  sites : Array CheckpointSite := #[]
  marks : List Polling.Mark := []

namespace Polling

variable {Code Host : Type}

def start (options : Options) (rule : LookupRule Code) (coverage : Option Coverage) (host : Host) :
    Polling Code Host :=
  { world := World.create options rule coverage host }

/-- Mark that events of a context are handled, which requests a safepoint as long as
faults wait for others. -/
def markHandled (state : Polling Code Host) (context : ContextRef) (marks : List Mark) :
    List Mark :=
  if state.world.contexts.othersPending context then .requested :: marks else marks

/-- One thing that a thread does.  A thread that is gone does nothing. -/
def step (state : Polling Code Host) : Event → Polling Code Host
  | .createContext => { state with world := state.world.createContext.2 }
  | .releaseContext context => { state with world := state.world.releaseContext context }
  | .createSite => { state with sites := state.sites.push {} }
  | .interrupt target fault =>
      { state with
          world := state.world.interrupt target fault
          marks := if state.world.contexts.isLive target then .requested :: state.marks
            else state.marks }
  | .requestSafepoint =>
      { state with world := state.world.requestSafepoint, marks := .requested :: state.marks }
  | .poll number context =>
      match state.sites[number]? with
      | none => state
      | some site =>
          if state.world.contexts.isLive context then
            let (_, polled, world) := state.world.poll site context
            { world
              sites := state.sites.setIfInBounds number polled
              marks := if site.isPending state.world.points then
                  state.markHandled context (.armed number context :: state.marks)
                else state.marks }
          else state
  | .pollEvents context =>
      if state.world.contexts.isLive context then
        { state with
            world := (state.world.pollEvents context).2
            marks := state.markHandled context state.marks }
      else state

def run (state : Polling Code Host) (events : List Event) : Polling Code Host :=
  events.foldl step state

/-- Did a poll of the context arm the site, with no safepoint requested since? -/
def ArmedBy (state : Polling Code Host) (number : Nat) (context : ContextRef) : Prop :=
  .armed number context ∈ state.marks.takeWhile (· != .requested)

/-- Does the site let polls pass? -/
def Passes (state : Polling Code Host) (number : Nat) : Prop :=
  ∃ site, state.sites[number]? = some site ∧ site.isPending state.world.points = false

/-- What any site relies on is, while it is valid, the switch point of the checkpoint. -/
structure Guarded (state : Polling Code Host) : Prop where
  again : state.world.checkpoint.repeatable = true
  valid : state.world.points.isValid state.world.checkpoint.current = true
  armed : ∀ {number : Nat} {site : CheckpointSite} {token : SwitchPoint},
    state.sites[number]? = some site → site.armed.load = some token →
      token.index < state.world.points.points.size ∧
        (state.world.points.isValid token = true → token = state.world.checkpoint.current)

/-- **The invariant of delivery.** -/
structure Sound (state : Polling Code Host) : Prop extends Guarded state where
  /-- a site lets polls pass exactly when it is armed -/
  marked : ∀ number, state.Passes number ↔ ∃ context, state.ArmedBy number context
  /-- behind an armed site faults wait for the context that armed it only -/
  alone : ∀ {number : Nat} {context other : ContextRef}, state.ArmedBy number context →
    state.world.contexts.isLive other = true → (state.world.context other).pending ≠ [] →
      other = context

/-! ## Each step keeps the invariant -/

theorem not_armedBy_requested (world : World Code Host) (sites : Array CheckpointSite)
    (marks : List Mark) (number : Nat) (context : ContextRef) :
    ¬ ArmedBy ⟨world, sites, .requested :: marks⟩ number context := by
  simp [ArmedBy]

theorem armedBy_armed_iff (world : World Code Host) (sites : Array CheckpointSite)
    (marks : List Mark) (polled number : Nat) (by_ context : ContextRef) :
    ArmedBy ⟨world, sites, .armed polled by_ :: marks⟩ number context ↔
      (number = polled ∧ context = by_) ∨ ArmedBy ⟨world, sites, marks⟩ number context := by
  simp [ArmedBy]

/-- A request disarms every site. -/
theorem Guarded.requested {state : Polling Code Host} (guarded : state.Guarded) :
    Sound { state with
      world := state.world.requestSafepoint, marks := .requested :: state.marks } := by
  have old := SwitchPoints.lt_size_of_isValid guarded.valid
  have flips : ∀ {number : Nat} {site : CheckpointSite} {token : SwitchPoint},
      state.sites[number]? = some site → site.armed.load = some token →
        state.world.requestSafepoint.points.isValid token = false := by
    intro number site token there armed
    obtain ⟨known, current⟩ := guarded.armed there armed
    refine Bool.eq_false_iff.2 fun valid => ?_
    rcases (Invalidator.isValid_invalidate guarded.again guarded.valid token).1 valid with
      fresh | ⟨valid, other⟩
    · rw [Invalidator.current_invalidate guarded.again guarded.valid] at fresh
      simp [fresh] at known
    · exact other (current valid)
  refine
    { again := by simpa [World.requestSafepoint] using guarded.again
      valid := (Invalidator.invalidate_renews guarded.again guarded.valid).1
      armed := fun {number site token} there armed => ⟨?_, fun valid => ?_⟩
      marked := fun number => ?_
      alone := fun armed => absurd armed (not_armedBy_requested _ _ _ _ _) }
  · exact Nat.lt_of_lt_of_le (guarded.armed there armed).1 (Invalidator.ages_invalidate _ _).grows
  · rw [flips there armed] at valid
    exact absurd valid Bool.false_ne_true
  · refine iff_of_false ?_ (not_exists.2 fun _ armed => not_armedBy_requested _ _ _ _ _ armed)
    rintro ⟨site, there, passes⟩
    cases armed : site.armed.load with
    | none => simp [CheckpointSite.isPending, armed] at passes
    | some token => simp [CheckpointSite.isPending, armed, flips there armed] at passes

theorem Sound.of_fewer {state : Polling Code Host} (sound : state.Sound) {world : World Code Host}
    (points : world.points = state.world.points)
    (checkpoint : world.checkpoint = state.world.checkpoint)
    (fewer : ∀ other, world.contexts.isLive other = true → (world.context other).pending ≠ [] →
      state.world.contexts.isLive other = true ∧ (state.world.context other).pending ≠ []) :
    Sound { state with world } where
  again := by simpa only [checkpoint] using sound.again
  valid := by simpa only [points, checkpoint] using sound.valid
  armed there armed := by simpa only [points, checkpoint] using sound.armed there armed
  marked number := by
    have marked := sound.marked number
    simp only [Passes, ← points] at marked
    exact marked
  alone armed live waiting :=
    have waited := fewer _ live waiting
    sound.alone armed waited.1 waited.2

theorem sound_createContext {state : Polling Code Host} (sound : state.Sound) :
    (state.step .createContext).Sound := by
  refine sound.of_fewer rfl rfl fun other live waiting => ?_
  have waited : (state.world.context other).pending ≠ [] := by
    simpa [World.createContext, World.context] using waiting
  refine ⟨?_, waited⟩
  have live : state.world.contexts.create.2.isLive other = true := live
  rw [Contexts.isLive_create, Bool.or_eq_true, decide_eq_true_eq] at live
  refine live.resolve_right fun fresh => waited ?_
  simp [fresh, World.context, Contexts.create, Contexts.get]

theorem sound_releaseContext {state : Polling Code Host} (sound : state.Sound)
    (context : ContextRef) : (state.step (.releaseContext context)).Sound := by
  have contexts : (state.world.releaseContext context).contexts =
      state.world.contexts.modify context fun state =>
        { state with live := false, pending := [] } := by
    simp only [World.releaseContext]
    split <;> rfl
  refine sound.of_fewer ?_ ?_ fun other live waiting => ?_
  · simp only [World.releaseContext]
    split <;> rfl
  · simp only [World.releaseContext]
    split <;> rfl
  · have different : other ≠ context := by
      rintro rfl
      refine waiting ?_
      rw [World.context, contexts, Contexts.get_modify]
      by_cases made : other.index < state.world.contexts.contexts.size
      · simp [made]
      · simp [made, Contexts.get]
    rw [contexts] at live
    rw [World.context, contexts, Contexts.get_modify_of_ne _ _ different] at waiting
    refine ⟨?_, waiting⟩
    rwa [Contexts.isLive_modify_of_ne _ _ different] at live

theorem sound_createSite {state : Polling Code Host} (sound : state.Sound) :
    (state.step .createSite).Sound := by
  have stands : ∀ {number : Nat} {site : CheckpointSite},
      (state.sites.push {})[number]? = some site → site.armed.load = none ∨
        state.sites[number]? = some site := by
    intro number site there
    rw [Array.getElem?_push] at there
    split at there
    · cases there
      exact .inl rfl
    · exact .inr there
  refine ⟨⟨sound.again, sound.valid, fun {number site token} there armed => ?_⟩, fun number => ?_,
    sound.alone⟩
  · rcases stands there with fresh | old
    · rw [fresh] at armed
      exact absurd armed (by simp)
    · exact sound.armed old armed
  · refine Iff.trans ⟨?_, ?_⟩ (sound.marked number)
    · rintro ⟨site, there, passes⟩
      rcases stands there with fresh | old
      · simp [CheckpointSite.isPending, fresh] at passes
      · exact ⟨site, old, passes⟩
    · rintro ⟨site, there, passes⟩
      have old := (Array.getElem?_eq_some_iff.1 there).1
      refine ⟨site, ?_, passes⟩
      rw [step, Array.getElem?_push, if_neg (Nat.ne_of_lt old), there]

/-- Whoever is interrupted, every site is disarmed. -/
theorem sound_interrupt {state : Polling Code Host} (sound : state.Sound) (target : ContextRef)
    (fault : Fault) : (state.step (.interrupt target fault)).Sound := by
  by_cases live : state.world.contexts.isLive target = true
  · let said := state.world.say
      [⟨.debug, "interrupting " ++ target.render ++ " with " ++ fault.message⟩]
    let queued : Polling Code Host :=
      { state with
          world := said.modifyContext target fun waiting =>
            { waiting with pending := waiting.pending ++ [fault] } }
    have guarded : queued.Guarded := ⟨sound.again, sound.valid, sound.armed⟩
    simp only [step, World.interrupt, live, if_true]
    exact guarded.requested
  · simp only [step, World.interrupt, live]
    exact sound.of_fewer rfl rfl fun _ live waiting => ⟨live, waiting⟩

/-- What a context leaves behind when its events are handled: fewer faults of its own,
and no site armed while faults wait for others. -/
theorem sound_handled {state : Polling Code Host} (guarded : state.Guarded)
    (marked : ∀ number, state.Passes number ↔ ∃ context, state.ArmedBy number context)
    {context : ContextRef}
    (alone : ∀ {number : Nat} {by_ other : ContextRef}, state.ArmedBy number by_ →
      state.world.contexts.isLive other = true → (state.world.context other).pending ≠ [] →
        state.world.contexts.othersPending context = true ∨ other = by_) :
    Sound { state with
      world := (state.world.pollEvents context).2
      marks := state.markHandled context state.marks } := by
  have pending : ∀ other, ((state.world.delivered context).context other).pending ≠ [] →
      (state.world.context other).pending ≠ [] := by
    intro other waiting none_
    refine waiting ?_
    simp only [World.delivered, World.modifyContext, World.context, Contexts.get_modify]
    simp only [World.context] at none_
    split <;> simp [none_]
  rw [World.pollEvents_eq, markHandled]
  by_cases others : state.world.contexts.othersPending context = true
  · simp only [others, if_true]
    let delivered : Polling Code Host := { state with world := state.world.delivered context }
    have still : delivered.Guarded := ⟨guarded.again, guarded.valid, guarded.armed⟩
    exact still.requested
  · simp only [others, Bool.false_eq_true, if_false]
    refine ⟨⟨guarded.again, guarded.valid, guarded.armed⟩, marked,
      fun {number by_ other} armed live waiting => ?_⟩
    have lived := (state.world.isLive_delivered context other).symm.trans live
    exact (alone armed lived (pending _ waiting)).resolve_left others

/-- A poll of a context took the slow path at a site, and armed it. -/
def arm (state : Polling Code Host) (number : Nat) (site : CheckpointSite) (context : ContextRef) :
    Polling Code Host :=
  { state with
      sites := state.sites.setIfInBounds number (site.rearm state.world.checkpoint.current)
      marks := .armed number context :: state.marks }

/-- An armed site relies on the switch point of the checkpoint. -/
theorem Guarded.arm {state : Polling Code Host} (guarded : state.Guarded) (number : Nat)
    (site : CheckpointSite) (context : ContextRef) : (state.arm number site context).Guarded := by
  refine ⟨guarded.again, guarded.valid, ?_⟩
  intro other site' token there relied
  simp only [Polling.arm, Array.getElem?_setIfInBounds] at there
  split at there
  · split at there
    · cases there
      cases Option.some.inj relied
      exact ⟨SwitchPoints.lt_size_of_isValid guarded.valid, fun _ => rfl⟩
    · cases there
  · exact guarded.armed there relied

/-- The site that was armed lets polls pass, and no other one does that did not. -/
theorem marked_arm {state : Polling Code Host} (sound : state.Sound) {number : Nat}
    {site : CheckpointSite} (there : state.sites[number]? = some site) (context : ContextRef)
    (other : Nat) : (state.arm number site context).Passes other ↔
      ∃ by_, (state.arm number site context).ArmedBy other by_ := by
  by_cases same : other = number
  · subst same
    have known := (Array.getElem?_eq_some_iff.1 there).1
    refine iff_of_true ⟨site.rearm state.world.checkpoint.current, ?_, ?_⟩
      ⟨context, (armedBy_armed_iff _ _ _ _ _ _ _).2 (.inl ⟨rfl, rfl⟩)⟩
    · simp only [arm, Array.getElem?_setIfInBounds_self_of_lt known]
    · simp [arm, CheckpointSite.isPending, CheckpointSite.rearm, sound.valid]
  · have elsewhere : (state.arm number site context).Passes other ↔ state.Passes other := by
      simp only [Passes, arm, Array.getElem?_setIfInBounds, Ne.symm same, if_false]
    rw [elsewhere, sound.marked other]
    refine exists_congr fun by_ => ?_
    rw [arm, armedBy_armed_iff]
    exact (or_iff_right fun both => same both.1).symm

/-- A poll on the slow path arms its site first, and handles events then. -/
theorem sound_slow {state : Polling Code Host} (sound : state.Sound) {number : Nat}
    {site : CheckpointSite} (there : state.sites[number]? = some site) (context : ContextRef) :
    Sound
      { world := (state.world.pollEvents context).2
        sites := state.sites.setIfInBounds number (site.rearm state.world.checkpoint.current)
        marks := state.markHandled context (.armed number context :: state.marks) } := by
  refine sound_handled (sound.toGuarded.arm number site context) (marked_arm sound there context) ?_
  intro other by_ waiting relied live pending
  rcases (armedBy_armed_iff _ _ _ _ _ _ _).1 relied with ⟨_, rfl⟩ | old
  · by_cases own : waiting = by_
    · exact .inr own
    · exact .inl ((Contexts.othersPending_iff _ _).2 ⟨waiting, own, live, pending⟩)
  · exact .inr (sound.alone old live pending)

theorem sound_poll {state : Polling Code Host} (sound : state.Sound) (number : Nat)
    (context : ContextRef) : (state.step (.poll number context)).Sound := by
  simp only [step]
  split
  · exact sound
  · rename_i site there
    split
    · by_cases slow : site.isPending state.world.points = true
      · simpa only [World.poll, slow, if_true] using sound_slow sound there context
      · have still : state.sites.setIfInBounds number site = state.sites := by
          refine Array.ext_getElem? fun other => ?_
          by_cases same : number = other
          · subst same
            have known := (Array.getElem?_eq_some_iff.1 there).1
            rw [there, Array.getElem?_setIfInBounds_self_of_lt known]
          · simp [same]
        rw [World.poll_of_armed context (Bool.eq_false_iff.2 slow)]
        simp only [slow, Bool.false_eq_true, if_false, still]
        exact sound
    · exact sound

theorem sound_pollEvents {state : Polling Code Host} (sound : state.Sound)
    (context : ContextRef) : (state.step (.pollEvents context)).Sound := by
  simp only [step]
  split
  · exact sound_handled sound.toGuarded sound.marked fun armed live waiting =>
      .inr (sound.alone armed live waiting)
  · exact sound

/-- **Every step keeps the invariant.** -/
theorem sound_step {state : Polling Code Host} (sound : state.Sound) (event : Event) :
    (state.step event).Sound := by
  cases event with
  | createContext => exact sound_createContext sound
  | releaseContext context => exact sound_releaseContext sound context
  | createSite => exact sound_createSite sound
  | interrupt target fault => exact sound_interrupt sound target fault
  | requestSafepoint => exact sound.requested
  | poll number context => exact sound_poll sound number context
  | pollEvents context => exact sound_pollEvents sound context

theorem sound_run {state : Polling Code Host} (sound : state.Sound) (events : List Event) :
    (state.run events).Sound := by
  induction events generalizing state with
  | nil => exact sound
  | cons event rest ih => exact ih (sound_step sound event)

end Polling

namespace World

variable {Code Host : Type}

/-- Nobody has asked for a safepoint, and no type guards its methods by the checkpoint. -/
structure Calm (world : World Code Host) : Prop where
  sound : Registry.Sound ⟨world.types, world.points⟩
  foreign : Registry.Foreign ⟨world.types, world.points⟩ world.checkpoint.current
  again : world.checkpoint.repeatable = true
  valid : world.points.isValid world.checkpoint.current = true

/-- Whatever is done to the types leaves the checkpoint as it is. -/
theorem Calm.of_apply {world after : World Code Host} (calm : world.Calm) (change : Change Code)
    (types : after.types = (Registry.apply ⟨world.types, world.points⟩ change).types)
    (points : after.points = (Registry.apply ⟨world.types, world.points⟩ change).points)
    (checkpoint : after.checkpoint = world.checkpoint) : after.Calm := by
  have same : (⟨after.types, after.points⟩ : Registry Code) =
      Registry.apply ⟨world.types, world.points⟩ change := by rw [types, points]
  have foreign := calm.foreign.apply calm.sound change
  rw [← same, ← checkpoint] at foreign
  exact ⟨same ▸ Registry.sound_apply calm.sound change, foreign.1, checkpoint ▸ calm.again,
    foreign.2.trans (checkpoint ▸ calm.valid)⟩

theorem calm_create (options : Options) (rule : LookupRule Code) (coverage : Option Coverage)
    (host : Host) : (create options rule coverage host).Calm := by
  refine create_induction (motive := Calm) ?_ ?_ ?_
  · have valid := isValid_checkpoint_blank options rule coverage host
    have empty := types_blank options rule coverage host
    have known := SwitchPoints.lt_size_of_isValid valid
    constructor
    · rw [empty]
      exact Registry.sound_empty _
    · refine ⟨known, fun there => ?_⟩
      rw [empty] at there
      simp [Types.get?] at there
    · rfl
    · exact valid
  · intro world name parent? classes calm
    exact calm.of_apply (.create name parent? defaultFieldCapacity) rfl rfl rfl
  · intro world calm
    exact calm.of_apply (.define TypeRef.basicObject
      (world.createMethod methodMissing true defaultMissing).1) rfl rfl rfl

end World

namespace Polling

variable {Code Host : Type}

theorem sound_of_calm {world : World Code Host} (calm : world.Calm) :
    Sound { world : Polling Code Host } where
  again := calm.again
  valid := calm.valid
  armed there := by simp at there
  marked number := by simp [Passes, ArmedBy]
  alone armed := by simp [ArmedBy] at armed

theorem sound_start (options : Options) (rule : LookupRule Code) (coverage : Option Coverage)
    (host : Host) : (start options rule coverage host).Sound :=
  sound_of_calm (World.calm_create options rule coverage host)

/-! ## Which polls deliver -/

/-- A poll on the slow path raises the oldest fault that waits. -/
theorem poll_of_pending {world : World Code Host} {site : CheckpointSite} {context : ContextRef}
    {fault : Fault} {rest : List Fault} (slow : site.isPending world.points = true)
    (waiting : (world.context context).pending = fault :: rest) :
    (world.poll site context).1 = .error fault := by
  simp [World.poll, slow, World.pollEvents_eq, waiting]

/-- **Which polls deliver.**  Whatever the threads of a fresh world have done, the next
poll of a live context with faults waiting raises the oldest of them, unless that same
context armed the site itself and no safepoint was requested since; and then it does
nothing at all. -/
theorem poll_raises_iff (options : Options) (rule : LookupRule Code) (coverage : Option Coverage)
    (host : Host) (events : List Event) {number : Nat} {site : CheckpointSite}
    {context : ContextRef} {fault : Fault} {rest : List Fault}
    (there : ((start options rule coverage host).run events).sites[number]? = some site)
    (live : ((start options rule coverage host).run events).world.contexts.isLive context = true)
    (waiting : (((start options rule coverage host).run events).world.context context).pending =
      fault :: rest) :
    let state := (start options rule coverage host).run events
    ((state.world.poll site context).1 = .error fault ↔ ¬ state.ArmedBy number context) ∧
      (state.ArmedBy number context →
        state.world.poll site context = (.ok (), site, state.world)) := by
  intro state
  have sound : state.Sound := sound_run (sound_start options rule coverage host) events
  have marked := sound.marked number
  cases slow : site.isPending state.world.points with
  | true =>
      have open_ : ¬ state.ArmedBy number context := by
        intro armed
        obtain ⟨site', there', passes⟩ := marked.2 ⟨context, armed⟩
        cases there.symm.trans there'
        simp [slow] at passes
      exact ⟨iff_of_true (poll_of_pending slow waiting) open_, fun armed => absurd armed open_⟩
  | false =>
      obtain ⟨by_, armed⟩ := marked.1 ⟨site, there, slow⟩
      obtain rfl : context = by_ :=
        sound.alone armed live fun none_ => List.cons_ne_nil fault rest (waiting.symm.trans none_)
      have still := World.poll_of_armed context slow
      exact ⟨iff_of_false (by simp [still]) (not_not_intro armed), fun _ => still⟩

/-- The first of two faults queued for a thread is raised by its next poll. -/
theorem poll_raises_first :
    let state : Polling Unit Unit := (start {} .hierarchy none ()).run
      [.createContext, .createSite, .interrupt ⟨0⟩ .noBlock,
        .interrupt ⟨0⟩ (.typeMismatch "second")]
    ∃ site fault, state.sites[0]? = some site ∧ state.world.contexts.isLive ⟨0⟩ = true ∧
      (state.world.poll site ⟨0⟩).1 = .error fault := by
  intro state
  have facts : state.sites[0]?.isSome = true ∧ state.world.contexts.isLive ⟨0⟩ = true ∧
      (state.world.context ⟨0⟩).pending.length = 2 ∧ state.marks.head? = some .requested := by
    decide +kernel
  obtain ⟨there, live, two, requested⟩ := facts
  obtain ⟨earlier, marks⟩ := List.head?_eq_some_iff.1 requested
  obtain ⟨site, there⟩ := Option.isSome_iff_exists.1 there
  obtain ⟨fault, rest, waiting⟩ := List.exists_cons_of_length_eq_add_one two
  have unarmed : ¬ state.ArmedBy 0 ⟨0⟩ := by
    rw [ArmedBy, marks]
    simp
  exact ⟨site, fault, there, live,
    (poll_raises_iff {} .hierarchy none () _ there live waiting).1.2 unarmed⟩

/-- **The second stays where it is**: the poll that raised the first has armed the site,
and as long as only this thread polls it no poll raises the second. -/
theorem second_fault_hidden :
    let state : Polling Unit Unit := (start {} .hierarchy none ()).run
      [.createContext, .createSite, .interrupt ⟨0⟩ .noBlock,
        .interrupt ⟨0⟩ (.typeMismatch "second"), .poll 0 ⟨0⟩]
    ∃ site fault, state.sites[0]? = some site ∧ state.world.contexts.isLive ⟨0⟩ = true ∧
      (state.world.context ⟨0⟩).pending = [fault] ∧ fault.message = "second" ∧
        (state.world.poll site ⟨0⟩).1 = .ok () := by
  intro state
  have facts : state.world.contexts.isLive ⟨0⟩ = true ∧
      (state.world.context ⟨0⟩).pending.map Fault.message = ["second"] ∧
        (state.sites[0]?).any (fun site => (state.world.poll site ⟨0⟩).1.isOk) = true := by
    decide +kernel
  obtain ⟨live, waiting, passes⟩ := facts
  obtain ⟨fault, waiting, message⟩ := List.map_eq_singleton_iff.1 waiting
  obtain ⟨site, there, passes⟩ := Option.any_eq_true _ _ |>.1 passes
  refine ⟨site, fault, there, live, waiting, message, ?_⟩
  cases outcome : (state.world.poll site ⟨0⟩).1 with
  | ok => rfl
  | error fault => simp [outcome, Except.isOk, Except.toBool] at passes

end Polling

end InlineCache
