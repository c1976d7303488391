/-
# InlineCache.Proofs.Programs -- what a scenario comes to

A scenario is a program over a world and the lines printed so far.  That it *yields* a
value in a state as described (`Demo.Yields`) says two things: it ends without a fault, and
the description holds of what it ends with.  A program is gone through from the left, each
step described by what it does to the state.

* `Yields.bind`: one program after another;
* `Yields.countUp`: what every round of a loop keeps is kept by the loop;
* `Yields.recover`: a fault that is caught is dealt with and forgotten.
-/
import InlineCache.Demo.Scenario

namespace InlineCache.Demo

set_option autoImplicit false

variable {α β : Type} {state after : DemoState} {program : Demo α} {next : α → Demo β}

/-- What a program comes to in a state, and the state it leaves. -/
def outcome (program : Demo α) (state : DemoState) : Except Fault α × DemoState :=
  StateT.run (ExceptT.run program) state

/-- **A program ends without a fault**, with a value and in a state as described. -/
def Yields (program : Demo α) (state : DemoState) (post : α → DemoState → Prop) : Prop :=
  ∃ value after, program.outcome state = (.ok value, after) ∧ post value after

/-- After a program that ended well the next one runs. -/
theorem outcome_bind_of_ok {value : α} (ended : program.outcome state = (.ok value, after)) :
    outcome (program >>= next) state = (next value).outcome after := by
  simp only [outcome, ExceptT.run_bind, StateT.run_bind]
  rw [show StateT.run (ExceptT.run program) state = (.ok value, after) from ended]
  rfl

/-- After a fault nothing runs. -/
theorem outcome_bind_of_error {fault : Fault}
    (ended : program.outcome state = (.error fault, after)) :
    outcome (program >>= next) state = (.error fault, after) := by
  simp only [outcome, ExceptT.run_bind, StateT.run_bind]
  rw [show StateT.run (ExceptT.run program) state = (.error fault, after) from ended]
  rfl

theorem outcome_call {context : ContextRef} {site : SiteRef} {receiver : Value}
    {args : List Value} {result : Outcome} {world : DemoWorld}
    (called : World.callSite DemoCode.perform context site { receiver, args } state.world =
      (result, world)) :
    outcome (call context site receiver args) state = (result, { state with world }) := by
  have ran : outcome (run (World.callSite DemoCode.perform context site { receiver, args })) state =
      (.ok result, { state with world }) := by
    simp only [outcome, run, ExceptT.run_bind, StateT.run_bind]
    change (Except.ok (World.callSite DemoCode.perform context site _ state.world).1,
      ({ state with world := (World.callSite DemoCode.perform context site _ state.world).2 } :
        DemoState)) = _
    rw [called]
  unfold call
  rw [outcome_bind_of_ok ran]
  cases result <;> rfl

namespace Yields

variable {post weaker : α → DemoState → Prop} {last : β → DemoState → Prop}
  {world later : DemoWorld} {printed : Array String}

theorem pure {value : α} (holds : post value state) :
    Yields (Pure.pure value : Demo α) state post :=
  ⟨value, state, rfl, holds⟩

theorem bind (first : Yields program state fun value after => Yields (next value) after last) :
    Yields (program >>= next) state last := by
  obtain ⟨value, after, ended, result, final, ended', holds⟩ := first
  exact ⟨result, final, (outcome_bind_of_ok ended).trans ended', holds⟩

theorem mono (yields : Yields program state post)
    (weakens : ∀ {value after}, post value after → weaker value after) :
    Yields program state weaker := by
  obtain ⟨value, after, ended, holds⟩ := yields
  exact ⟨value, after, ended, weakens holds⟩

theorem run {operation : DemoWorld → α × DemoWorld}
    (holds : post (operation world).1 { world := (operation world).2, printed }) :
    Yields (Demo.run operation) { world, printed } post :=
  ⟨_, _, rfl, holds⟩

theorem change {operation : DemoWorld → DemoWorld} {post : Unit → DemoState → Prop}
    (holds : post () { world := operation world, printed }) :
    Yields (Demo.change operation) { world, printed } post :=
  ⟨_, _, rfl, holds⟩

theorem print {line : String} {post : Unit → DemoState → Prop}
    (holds : post () { world, printed := printed.push line }) :
    Yields (Demo.print line) { world, printed } post :=
  ⟨_, _, rfl, holds⟩

/-- A call that comes to a value goes on with it. -/
theorem call {context : ContextRef} {site : SiteRef} {receiver result : Value}
    {args : List Value} {post : Value → DemoState → Prop}
    (called : World.callSite DemoCode.perform context site { receiver, args } world =
      (.ok result, later))
    (holds : post result { world := later, printed }) :
    Yields (Demo.call context site receiver args) { world, printed } post :=
  ⟨_, _, outcome_call called, holds⟩

theorem recover {handle : Fault → Demo α} {fault : Fault}
    (failed : program.outcome state = (.error fault, after))
    (handled : Yields (handle fault) after post) : Yields (tryCatch program handle) state post := by
  obtain ⟨value, final, ended, holds⟩ := handled
  refine ⟨value, final, ?_, holds⟩
  have caught : outcome (tryCatch program handle) state = (handle fault).outcome after := by
    simp only [outcome, tryCatch, tryCatchThe, MonadExceptOf.tryCatch, ExceptT.tryCatch,
      ExceptT.run_mk, StateT.run_bind]
    have failed : StateT.run program state = (.error fault, after) := failed
    rw [failed]
    rfl
  exact caught.trans ended

/-- What each round keeps, from the number it is for to the next, all of them keep. -/
theorem roundsFrom {round : Nat → α → Demo α} {invariant : Nat → α → DemoState → Prop}
    {first more : Nat} {value : α} (start : invariant first value state)
    (step : ∀ {number value state}, number < first + more → invariant number value state →
      Yields (round number value) state (invariant (number + 1))) :
    Yields (Demo.roundsFrom round first more value) state (invariant (first + more)) := by
  induction more generalizing first value state with
  | zero => exact .pure start
  | succ more ih =>
      have next : first + 1 + more = first + (more + 1) := by omega
      refine .bind ((step (by omega) start).mono fun later => ?_)
      rw [← next]
      exact ih later fun below => step (next ▸ below)

/-- **The rounds of a loop**: an invariant that each of them takes from its number to the
next is taken from zero to the bound. -/
theorem countUp {count : Nat} {round : Nat → α → Demo α} {start : α}
    (invariant : Nat → α → DemoState → Prop) (first : invariant 0 start state)
    (step : ∀ {number value state}, number < count → invariant number value state →
      Yields (round number value) state (invariant (number + 1))) :
    Yields (Demo.countUp count round start) state (invariant count) := by
  have all : Yields (Demo.roundsFrom round 0 count start) state (invariant (0 + count)) :=
    roundsFrom first (by rwa [Nat.zero_add])
  rwa [Nat.zero_add] at all

end Yields

end InlineCache.Demo
