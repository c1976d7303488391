/-
# InlineCache.Proofs.SlowPaths -- polls take the slow path no more often than needed

A poll is fast as long as the switch point holds that its site was armed with.  Here runs
have, beside what threads do to one another, whatever else goes on in a world (`Turn`), and
along a run is told what each site has been through (`Visits`): how often it was polled, and
whether the checkpoint was invalidated since the site was armed last.

* `invalidated_iff`: the checkpoint is invalidated by those that ask for it, and by a context
  that handles its events while faults wait for others;
* `isDue_turn`, `slowPaths_turn`: what a turn does to a site, whichever it is;
* `slow_paths_needed`: so a poll is slow exactly if it is the first of its site or the
  checkpoint was invalidated since that was armed; and once no faults wait, each site has one
  slow poll left at most, until somebody asks again.
-/
import InlineCache.Proofs.Checkpoint
import InlineCache.Proofs.Queues

namespace InlineCache

set_option autoImplicit false

namespace CheckpointSite

/-- The first poll of a site is slow. -/
theorem isPending_new (points : SwitchPoints) : ({} : CheckpointSite).isPending points = true :=
  rfl

/-- A site that was armed polls fast while its switch point holds. -/
theorem isPending_rearm (site : CheckpointSite) (token : SwitchPoint) (points : SwitchPoints) :
    (site.rearm token).isPending points = !points.isValid token := rfl

end CheckpointSite

namespace World

variable {Code Host : Type}

/-- The switch points of a world guard at two moments what they guarded. -/
structure SameGuards (world after : World Code Host) : Prop where
  types : after.types = world.types
  globals : after.globals = world.globals
  points : after.points = world.points
  checkpoint : after.checkpoint = world.checkpoint

theorem SameGuards.separate {world after : World Code Host} (same : world.SameGuards after)
    (separate : world.Separate) : after.Separate :=
  separate.of_guards (by rw [same.types]) (fun name => by rw [same.globals]) same.points
    same.checkpoint

/-- A request for a safepoint leaves the checkpoint apart from the rest. -/
theorem Separate.requestSafepoint {world : World Code Host} (separate : world.Separate) :
    world.requestSafepoint.Separate :=
  separate.invalidate rfl rfl rfl rfl

end World

namespace Polling

variable {Code Host : Type}

/-! ## Turns -/

/-- A thread does something, or something else goes on in the world. -/
inductive Turn : Polling Code Host → Option Event → Polling Code Host → Prop where
  | event (state : Polling Code Host) (event : Event) : Turn state (some event) (state.step event)
  | work (state : Polling Code Host) {after : World Code Host}
      (work : World.Work state.world after) : Turn state none { state with world := after }

/-- Must the next poll at a site take the slow path?  A site that was not made yet must. -/
def isDue (state : Polling Code Host) (number : Nat) : Bool :=
  state.sites[number]?.all fun site => site.isPending state.world.points

/-- How many polls have taken the slow path at a site. -/
def slowPaths (state : Polling Code Host) (number : Nat) : Nat :=
  match state.sites[number]? with
  | some site => site.slowPaths
  | none => 0

/-- Is a site polled?  A thread that is gone does not poll. -/
def polls (state : Polling Code Host) (number : Nat) : Option Event → Bool
  | some (.poll place context) =>
      place == number && state.world.contexts.isLive context && decide (number < state.sites.size)
  | _ => false

/-- Was the switch point that the checkpoint handed out flipped since? -/
def invalidated (state after : Polling Code Host) : Bool :=
  !after.world.points.isValid state.world.checkpoint.current

/-- Somebody asks for a safepoint, for its own sake or to interrupt a live context. -/
def Asks (state : Polling Code Host) : Event → Prop
  | .requestSafepoint => True
  | .interrupt target _ => state.world.contexts.isLive target = true
  | _ => False

/-- A fault waits for another live context. -/
def OthersWait (state : Polling Code Host) (context : ContextRef) : Prop :=
  ∃ other, other ≠ context ∧ state.world.contexts.isLive other = true ∧ state.queue other ≠ []

/-- A context handles its events, by a slow poll at a site or without one, while a fault
waits for another live context. -/
def Recalls (state : Polling Code Host) : Event → Prop
  | .poll number context =>
      number < state.sites.size ∧ state.isDue number = true ∧
        state.world.contexts.isLive context = true ∧ state.OthersWait context
  | .pollEvents context =>
      state.world.contexts.isLive context = true ∧ state.OthersWait context
  | _ => False

/-! ## What invalidates the checkpoint -/

/-- What handling the events of a context does to what guards what. -/
theorem guards_pollEvents (state : Polling Code Host) (context : ContextRef) :
    (state.OthersWait context ∧
        state.world.requestSafepoint.SameGuards (state.world.pollEvents context).2) ∨
      (¬ state.OthersWait context ∧
        state.world.SameGuards (state.world.pollEvents context).2) := by
  have waits : state.world.contexts.othersPending context = true ↔ state.OthersWait context :=
    Contexts.othersPending_iff _ _
  rw [World.pollEvents_eq, ← waits]
  by_cases others : state.world.contexts.othersPending context = true
  · rw [if_pos others]
    exact .inl ⟨others, rfl, rfl, rfl, rfl⟩
  · rw [if_neg others]
    exact .inr ⟨others, rfl, rfl, rfl, rfl⟩

/-- **What threads do to what guards what**: nothing, or they have the checkpoint
invalidated. -/
theorem guards_step (state : Polling Code Host) (event : Event) :
    ((state.Asks event ∨ state.Recalls event) ∧
        state.world.requestSafepoint.SameGuards (state.step event).world) ∨
      (¬ (state.Asks event ∨ state.Recalls event) ∧
        state.world.SameGuards (state.step event).world) := by
  cases event with
  | createContext => exact .inr ⟨by simp [Asks, Recalls], rfl, rfl, rfl, rfl⟩
  | createSite => exact .inr ⟨by simp [Asks, Recalls], rfl, rfl, rfl, rfl⟩
  | requestSafepoint => exact .inl ⟨.inl trivial, rfl, rfl, rfl, rfl⟩
  | releaseContext context =>
      refine .inr ⟨by simp [Asks, Recalls], ?_⟩
      simp only [step, World.releaseContext]
      split <;> exact ⟨rfl, rfl, rfl, rfl⟩
  | interrupt target fault =>
      simp only [step, World.interrupt]
      cases live : state.world.contexts.isLive target with
      | true => exact .inl ⟨.inl live, rfl, rfl, rfl, rfl⟩
      | false => exact .inr ⟨by simp [Asks, Recalls, live], rfl, rfl, rfl, rfl⟩
  | poll number context =>
      simp only [step]
      cases there : state.sites[number]? with
      | none =>
          have absent : ¬ number < state.sites.size := by simpa using there
          exact .inr ⟨by simp [Asks, Recalls, absent], rfl, rfl, rfl, rfl⟩
      | some site =>
          have due : state.isDue number = site.isPending state.world.points := by
            simp [isDue, there]
          have made : number < state.sites.size := (Array.getElem?_eq_some_iff.1 there).1
          dsimp only
          by_cases live : state.world.contexts.isLive context = true
          · rw [if_pos live]
            cases slow : site.isPending state.world.points with
            | true =>
                simp only [World.poll, slow, if_true]
                rcases state.guards_pollEvents context with ⟨wait, same⟩ | ⟨none_, same⟩
                · exact .inl ⟨.inr ⟨made, due.trans slow, live, wait⟩, same⟩
                · exact .inr ⟨by simp [Asks, Recalls, none_], same⟩
            | false =>
                rw [World.poll_of_armed context slow]
                exact .inr ⟨by simp [Asks, Recalls, due, slow], rfl, rfl, rfl, rfl⟩
          · rw [if_neg live]
            exact .inr ⟨by simp [Asks, Recalls, live], rfl, rfl, rfl, rfl⟩
  | pollEvents context =>
      simp only [step]
      by_cases live : state.world.contexts.isLive context = true
      · rw [if_pos live]
        rcases state.guards_pollEvents context with ⟨wait, same⟩ | ⟨none_, same⟩
        · exact .inl ⟨.inr ⟨live, wait⟩, same⟩
        · exact .inr ⟨by simp [Asks, Recalls, none_], same⟩
      · rw [if_neg live]
        exact .inr ⟨by simp [Asks, Recalls, live], rfl, rfl, rfl, rfl⟩

variable {state after between later : Polling Code Host} {event? : Option Event} {number : Nat}

/-- **What invalidates the checkpoint**: those that ask for it, and a context that handles
its events while faults wait for others. -/
theorem invalidated_iff (separate : state.world.Separate) (turn : Turn state event? after) :
    invalidated state after = true ↔
      ∃ event, event? = some event ∧ (state.Asks event ∨ state.Recalls event) := by
  cases turn with
  | event event =>
      simp only [invalidated, Option.some.injEq, exists_eq_left']
      rcases state.guards_step event with ⟨invalidates, same⟩ | ⟨spares, same⟩
      · refine iff_of_true ?_ invalidates
        rw [same.points, show state.world.requestSafepoint.points.isValid _ = false from
          Invalidator.invalidate_flips _ _, Bool.not_false]
      · refine iff_of_false ?_ spares
        rw [same.points, separate.valid]
        exact Bool.false_ne_true
  | work work =>
      obtain ⟨later, checkpoint, -⟩ := separate.work work
      refine iff_of_false ?_ (by simp)
      rw [invalidated, ← checkpoint, later.valid]
      exact Bool.false_ne_true

/-- What any turn leaves: nothing guards two things, and the checkpoint is what it was unless
it is invalidated. -/
theorem guards_turn (separate : state.world.Separate) (turn : Turn state event? after) :
    after.world.Separate ∧ state.world.points.Ages after.world.points ∧
      (invalidated state after = false → after.world.checkpoint = state.world.checkpoint) := by
  have causes := invalidated_iff separate turn
  cases turn with
  | event event =>
      rcases state.guards_step event with ⟨invalidates, same⟩ | ⟨-, same⟩
      · refine ⟨same.separate separate.requestSafepoint, ?_, fun not => ?_⟩
        · exact same.points ▸ Invalidator.ages_invalidate _ _
        · rw [causes.2 ⟨event, rfl, invalidates⟩] at not
          cases not
      · exact ⟨same.separate separate, same.points ▸ .refl _, fun _ => same.checkpoint⟩
  | work work =>
      obtain ⟨later, checkpoint, ages⟩ := separate.work work
      exact ⟨later, ages, fun _ => checkpoint⟩

/-! ## What a turn does to a site -/

/-- **What a turn does to a site**: a slow poll arms it with the switch point that the
checkpoint has then; otherwise it stays, or it is made. -/
theorem site_turn (turn : Turn state event? after) (number : Nat) :
    ((state.polls number event? && state.isDue number) = true ∧
        ∃ site, state.sites[number]? = some site ∧
          after.sites[number]? = some (site.rearm state.world.checkpoint.current)) ∨
      ((state.polls number event? && state.isDue number) = false ∧
        (after.sites[number]? = state.sites[number]? ∨
          (state.sites[number]? = none ∧ after.sites[number]? = some {}))) := by
  cases turn with
  | work work => exact .inr ⟨rfl, .inl rfl⟩
  | event event =>
      cases event with
      | createSite =>
          refine .inr ⟨rfl, ?_⟩
          simp only [step, Array.getElem?_push]
          split
          · exact .inr ⟨by simp [*], rfl⟩
          · exact .inl rfl
      | pollEvents context =>
          refine .inr ⟨rfl, .inl ?_⟩
          simp only [step]
          split <;> rfl
      | poll place context =>
          simp only [step]
          cases there : state.sites[place]? with
          | none =>
              refine .inr ⟨?_, .inl rfl⟩
              by_cases same : place = number
              · subst same
                simp [polls, show ¬ place < state.sites.size by simpa using there]
              · simp [polls, same]
          | some site =>
              obtain ⟨made, stands⟩ := Array.getElem?_eq_some_iff.1 there
              dsimp only
              by_cases live : state.world.contexts.isLive context = true
              · rw [if_pos live]
                by_cases same : place = number
                · subst same
                  have due : state.isDue place = site.isPending state.world.points := by
                    simp [isDue, there]
                  cases slow : site.isPending state.world.points with
                  | true =>
                      refine .inl ⟨by simp [polls, live, made, due, slow], site, there, ?_⟩
                      simp [World.poll, slow, made]
                  | false =>
                      refine .inr ⟨by simp [due, slow], .inl ?_⟩
                      simp [World.poll_of_armed context slow, made, stands]
                · refine .inr ⟨by simp [polls, same], .inl ?_⟩
                  exact Array.getElem?_setIfInBounds_ne same
              · rw [if_neg live]
                exact .inr ⟨by simp [polls, live], .inl rfl⟩
      | _ => exact .inr ⟨rfl, .inl rfl⟩

theorem slowPaths_turn (turn : Turn state event? after) (number : Nat) :
    after.slowPaths number =
      state.slowPaths number + (state.polls number event? && state.isDue number).toNat := by
  rcases site_turn turn number with ⟨slow, site, there, armed⟩ | ⟨fast, same | ⟨absent, made⟩⟩
  · simp only [slowPaths, slow, there, armed]
    rfl
  · simp only [slowPaths, fast, same]
    rfl
  · simp only [slowPaths, fast, absent, made]
    rfl

/-! ## What sites rely on -/

/-- **The invariant of turns.** -/
structure Tended (state : Polling Code Host) : Prop where
  separate : state.world.Separate
  /-- what any site relies on is, while it is valid, the switch point of the checkpoint -/
  armed : ∀ {number : Nat} {site : CheckpointSite} {token : SwitchPoint},
    state.sites[number]? = some site → site.armed.load = some token →
      token.index < state.world.points.points.size ∧
        (state.world.points.isValid token = true → token = state.world.checkpoint.current)

theorem tended_start (options : Options) (rule : LookupRule Code) (coverage : Option Coverage)
    (host : Host) : (start options rule coverage host).Tended where
  separate := World.separate_create options rule coverage host
  armed there := by simp [start] at there

theorem Tended.turn (tended : state.Tended) (turn : Turn state event? after) : after.Tended := by
  obtain ⟨separate, ages, unless_⟩ := guards_turn tended.separate turn
  -- what was relied on, or is taken up now, may be relied on
  have carried : ∀ {token : SwitchPoint}, token.index < state.world.points.points.size →
      (state.world.points.isValid token = true → token = state.world.checkpoint.current) →
        token.index < after.world.points.points.size ∧
          (after.world.points.isValid token = true → token = after.world.checkpoint.current) := by
    intro token known current
    refine ⟨Nat.lt_of_lt_of_le known ages.grows, fun valid => ?_⟩
    have same := current (ages.valid known valid)
    rw [unless_ (by rw [invalidated, ← same, valid]; rfl)]
    exact same
  refine ⟨separate, fun {number site token} there armed => ?_⟩
  rcases site_turn turn number with ⟨-, old, -, rearmed⟩ | ⟨-, same | ⟨-, made⟩⟩
  · cases there.symm.trans rearmed
    obtain rfl : state.world.checkpoint.current = token := by
      simpa [CheckpointSite.rearm] using armed
    exact carried (SwitchPoints.lt_size_of_isValid tended.separate.valid) fun _ => rfl
  · obtain ⟨known, current⟩ := tended.armed (same ▸ there) armed
    exact carried known current
  · cases there.symm.trans made
    cases armed

/-- A site that stays is due exactly if it was, or the checkpoint is invalidated. -/
theorem Tended.isPending_turn (tended : state.Tended) (turn : Turn state event? after)
    {site : CheckpointSite} (there : state.sites[number]? = some site) :
    site.isPending after.world.points =
      (site.isPending state.world.points || invalidated state after) := by
  obtain ⟨-, ages, -⟩ := guards_turn tended.separate turn
  cases armed : site.armed.load with
  | none => simp [CheckpointSite.isPending, armed]
  | some token =>
      obtain ⟨known, current⟩ := tended.armed there armed
      simp only [CheckpointSite.isPending, armed]
      cases valid : state.world.points.isValid token with
      | true => rw [current valid, invalidated, Bool.not_true, Bool.false_or]
      | false => rw [ages.stale known valid, Bool.not_false, Bool.true_or]

/-- **What makes the next poll slow**: that the checkpoint is invalidated, or that it would
have been slow already. -/
theorem Tended.isDue_turn (tended : state.Tended) (turn : Turn state event? after) (number : Nat) :
    after.isDue number =
      (invalidated state after ||
        (state.isDue number && !(state.polls number event? && state.isDue number))) := by
  rcases site_turn turn number with ⟨slow, site, there, armed⟩ | ⟨fast, same | ⟨absent, made⟩⟩
  · rw [slow, Bool.not_true, Bool.and_false, Bool.or_false, isDue, armed, Option.all_some,
      CheckpointSite.isPending_rearm]
    rfl
  · rw [fast, Bool.not_false, Bool.and_true, isDue, isDue, same]
    cases there : state.sites[number]? with
    | none => simp
    | some site =>
        simp only [Option.all_some]
        rw [tended.isPending_turn turn there, Bool.or_comm]
  · rw [fast, isDue, isDue, absent, made, Option.all_some, CheckpointSite.isPending_new]
    simp

/-! ## What a site has been through -/

/-- What a site has been through. -/
structure Visits where
  /-- how often it was polled -/
  polls : Nat := 0
  /-- was the checkpoint invalidated since the site was armed last? -/
  stale : Bool := false

/-- One turn more.  A site is armed by a poll that takes the slow path, and before the events
are handled, which may invalidate the checkpoint. -/
def Visits.turn (visits : Visits) (number : Nat) (state : Polling Code Host)
    (event? : Option Event) (after : Polling Code Host) : Visits where
  polls := visits.polls + (state.polls number event?).toNat
  stale := invalidated state after ||
    (visits.stale && !decide (state.slowPaths number < after.slowPaths number))

/-- A run, and what each site has been through. -/
inductive Run (first : Polling Code Host) : (Nat → Visits) → Polling Code Host → Prop where
  | start : Run first (fun _ => {}) first
  | turn {visits : Nat → Visits} {state after : Polling Code Host} {event? : Option Event}
      (run : Run first visits state) (turn : Turn state event? after) :
      Run first (fun number => (visits number).turn number state event? after) after

/-- **A site is due exactly if it was never polled, or the checkpoint was invalidated since it
was armed.** -/
theorem Run.isDue {first : Polling Code Host} {visits : Nat → Visits} (tended : first.Tended)
    (fresh : first.sites = #[]) (run : Run first visits state) :
    state.Tended ∧ ∀ number, state.isDue number =
      (decide ((visits number).polls = 0) || (visits number).stale) := by
  induction run with
  | start => exact ⟨tended, fun number => by simp [Polling.isDue, fresh]⟩
  | @turn visits state after event? run turn ih =>
      obtain ⟨tended, due⟩ := ih
      refine ⟨tended.turn turn, fun number => ?_⟩
      have rearmed : decide (state.slowPaths number < after.slowPaths number) =
          (state.polls number event? && state.isDue number) := by
        rw [slowPaths_turn turn number]
        cases state.polls number event? && state.isDue number <;> simp
      rw [tended.isDue_turn turn number]
      simp only [Visits.turn, rearmed, due number]
      cases state.polls number event? <;> cases (visits number).stale <;> simp [Bool.or_comm]

/-! ## Quiet runs -/

/-- No fault waits for a live context. -/
def Idle (state : Polling Code Host) : Prop :=
  ∀ context, state.world.contexts.isLive context = true → state.queue context = []

/-- A run in which nobody asks for a safepoint. -/
inductive Quiet (state : Polling Code Host) : Polling Code Host → Prop where
  | refl : Quiet state state
  | turn {between after : Polling Code Host} {event? : Option Event} (quiet : Quiet state between)
      (turn : Turn between event? after)
      (unasked : ∀ event, event? = some event → ¬ between.Asks event) : Quiet state after

/-- As long as nobody asks, nothing comes to wait. -/
theorem Idle.turn (idle : state.Idle) (turn : Turn state event? after)
    (unasked : ∀ event, event? = some event → ¬ state.Asks event) : after.Idle := by
  intro context live
  cases turn with
  | work work =>
      obtain ⟨lives, queue⟩ := work.contexts context
      exact queue.trans (idle context (lives.symm.trans live))
  | event event =>
      by_cases ends : event = .releaseContext context
      · rw [ends, queue_releaseContext, if_pos rfl]
      · have moved := state.queue_step ends
        have sends : state.sends context event = [] := by
          cases event with
          | interrupt target fault =>
              refine if_neg ?_
              rintro ⟨rfl, lives⟩
              exact unasked _ rfl lives
          | _ => rfl
        have empty : state.queue context = [] := by
          rcases (state.isLive_step ends).1 live with before | ⟨-, rfl⟩
          · exact idle context before
          · simp [queue, World.context, Contexts.get, Contexts.create]
        rw [empty, sends] at moved
        exact (List.append_eq_nil_iff.1 moved.symm).2

/-- Nothing is left for others by a context that handles its events. -/
theorem Idle.not_recalls (idle : state.Idle) (event : Event) : ¬ state.Recalls event := by
  cases event with
  | poll number context =>
      rintro ⟨-, -, -, other, -, live, waiting⟩
      exact waiting (idle other live)
  | pollEvents context =>
      rintro ⟨-, other, -, live, waiting⟩
      exact waiting (idle other live)
  | _ => exact id

/-- Polls raise nothing. -/
theorem Idle.answer (idle : state.Idle) (event : Event) : state.answer event = .ok () := by
  have handled : ∀ context, state.world.contexts.isLive context = true →
      (state.world.pollEvents context).1 = .ok () := by
    intro context live
    rw [World.pollEvents_eq, show (state.world.context context).pending = [] from idle context live]
    rfl
  cases event with
  | poll number context =>
      simp only [Polling.answer]
      split
      · rfl
      · rename_i site _
        split
        · rename_i live
          cases slow : site.isPending state.world.points with
          | true =>
              simp only [World.poll, slow, if_true]
              exact handled context live
          | false => rw [World.poll_of_armed context slow]
        · rfl
  | pollEvents context =>
      simp only [Polling.answer]
      split
      · exact handled context ‹_›
      · rfl
  | _ => rfl

/-- **The slow paths of a site, with the one that is due, are the same all along a quiet
run.** -/
theorem Quiet.kept (tended : state.Tended) (idle : state.Idle) (quiet : Quiet state later) :
    later.Tended ∧ later.Idle ∧ ∀ number,
      later.slowPaths number + (later.isDue number).toNat =
        state.slowPaths number + (state.isDue number).toNat := by
  induction quiet with
  | refl => exact ⟨tended, idle, fun _ => rfl⟩
  | @turn between after event? quiet turn unasked ih =>
      obtain ⟨tended, idle, kept⟩ := ih
      refine ⟨tended.turn turn, idle.turn turn unasked, fun number => ?_⟩
      have spared : invalidated between after = false := by
        refine Bool.eq_false_iff.2 fun flipped => ?_
        obtain ⟨event, happened, asks | recalls⟩ := (invalidated_iff tended.separate turn).1 flipped
        · exact unasked event happened asks
        · exact idle.not_recalls event recalls
      rw [← kept number, slowPaths_turn turn number, tended.isDue_turn turn number, spared]
      cases between.polls number event? <;> cases between.isDue number <;> rfl

/-! ## Slow paths -/

/-- What threads do one after another is a run. -/
theorem Run.events {first : Polling Code Host} {visits : Nat → Visits}
    (run : Run first visits state) (events : List Event) :
    ∃ visits, Run first visits (state.run events) := by
  induction events generalizing state visits with
  | nil => exact ⟨visits, run⟩
  | cons event rest ih => exact ih (run.turn (.event state event))

/-- **Polls take the slow path exactly as often as needed.**  Take any run of the threads of a
fresh world, with whatever else goes on in it.

* A poll takes the slow path if and only if it is the first of its site, or the checkpoint was
  invalidated since the site was armed.
* The checkpoint is invalidated by a request for a safepoint, by the interrupt of a live
  context, and by a context that handles its events, with a slow poll or without a site, while
  a fault waits for another live context; and by nothing else.
* Once no fault waits for a live context, and until somebody requests a safepoint or interrupts
  a live context, each site takes the slow path once more at most, and every poll is fine. -/
theorem slow_paths_needed (options : Options) (rule : LookupRule Code)
    (coverage : Option Coverage) (host : Host) {visits : Nat → Visits} {state : Polling Code Host}
    (run : Run (start options rule coverage host) visits state) :
    (∀ number context, number < state.sites.size → state.world.contexts.isLive context = true →
      (state.step (.poll number context)).slowPaths number = state.slowPaths number +
        if (visits number).polls = 0 ∨ (visits number).stale = true then 1 else 0) ∧
    (∀ event? after, Turn state event? after → (invalidated state after = true ↔
      ∃ event, event? = some event ∧ (state.Asks event ∨ state.Recalls event))) ∧
    (state.Idle → ∀ later, Quiet state later →
      (∀ number, later.slowPaths number ≤ state.slowPaths number + 1) ∧
        ∀ event, later.answer event = .ok ()) := by
  obtain ⟨tended, due⟩ := run.isDue (tended_start options rule coverage host) rfl
  refine ⟨fun number context made live => ?_, fun event? after turn => ?_,
    fun idle later quiet => ?_⟩
  · have polled : state.polls number (some (.poll number context)) = true := by
      simp [polls, made, live]
    rw [slowPaths_turn (.event state (.poll number context)) number, polled, due, Bool.true_and]
    cases (visits number).stale <;> by_cases first : (visits number).polls = 0 <;> simp [first]
  · exact invalidated_iff tended.separate turn
  · obtain ⟨-, idle', kept⟩ := quiet.kept tended idle
    refine ⟨fun number => ?_, idle'.answer⟩
    have one := Bool.toNat_le (state.isDue number)
    have total := kept number
    omega

/-- One site, and a fault for the second of two threads: the first poll is slow; that of the
bystander is, and leaves the site tripped; that of the second thread raises the fault.  Then
the site is slow once more. -/
theorem slow_paths_needed_of_two :
    let state : Polling Unit Unit := (start {} .hierarchy none ()).run
      [.createContext, .createContext, .createSite, .poll 0 ⟨0⟩, .interrupt ⟨1⟩ .noBlock,
        .poll 0 ⟨0⟩, .poll 0 ⟨1⟩]
    state.slowPaths 0 = 3 ∧ ∀ later, Quiet state later →
      later.slowPaths 0 ≤ 4 ∧ later.answer (.poll 0 ⟨1⟩) = .ok () := by
  intro state
  have facts : state.slowPaths 0 = 3 ∧ state.world.contexts.contexts.size = 2 ∧
      (state.queue ⟨0⟩).length = 0 ∧ (state.queue ⟨1⟩).length = 0 := by
    decide +kernel
  obtain ⟨slow, two, first, second⟩ := facts
  obtain ⟨visits, run⟩ := (@Run.start Unit Unit (start {} .hierarchy none ())).events
    [.createContext, .createContext, .createSite, .poll 0 ⟨0⟩, .interrupt ⟨1⟩ .noBlock,
      .poll 0 ⟨0⟩, .poll 0 ⟨1⟩]
  have idle : state.Idle := by
    rintro ⟨index⟩ live
    have made : index < 2 := two ▸ lt_size_of_isLive live
    obtain rfl | rfl : index = 0 ∨ index = 1 := by omega
    · exact List.eq_nil_of_length_eq_zero first
    · exact List.eq_nil_of_length_eq_zero second
  refine ⟨slow, fun later quiet => ?_⟩
  obtain ⟨once, fine⟩ := (slow_paths_needed {} .hierarchy none () run).2.2 idle later quiet
  have bound := once 0
  rw [slow] at bound
  exact ⟨bound, fine _⟩

end Polling

end InlineCache
