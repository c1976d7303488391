/-
# InlineCache.Proofs.Frames -- frames are balanced

A compiled body and a framed primitive push a frame and pop it again; every other call
leaves the stack alone.  So whatever a call runs, and however deep calls nest in the code
that it runs, the stacks of all contexts are afterwards what they were (`FramesKept`), as
long as code leaves frames to its calls.

* `engine_framesKept`: the engine's own steps keep all frames;
* `frames_balanced`: so does every call, whatever it comes to, and the one piece of code
  it runs stands under the frame that `Calling.frame?` says.
-/
import InlineCache.Proofs.Opening

namespace InlineCache

set_option autoImplicit false

/-- The stack with a frame on top, if there is one to put there. -/
def FrameStack.under (stack : FrameStack) (frame? : Option Frame) : FrameStack :=
  frame?.elim stack stack.push

namespace World

variable {Code Host : Type} {world after : World Code Host} {context other : ContextRef}

/-- Every context has the frames that it had. -/
def FramesKept (world after : World Code Host) : Prop :=
  ∀ context, (after.context context).frames = (world.context context).frames

/-! ## Frames through the engine's steps -/

theorem frames_pushFrame (world : World Code Host) (context other : ContextRef) (frame : Frame) :
    ((world.pushFrame context frame).context other).frames =
      if context = other ∧ other.index < world.contexts.contexts.size then
        (world.context other).frames.push frame
      else (world.context other).frames := by
  simp only [pushFrame, modifyContext, World.context, Contexts.get_modify]
  split <;> rfl

theorem frames_popFrame (world : World Code Host) (context other : ContextRef) :
    ((world.popFrame context).context other).frames =
      if context = other ∧ other.index < world.contexts.contexts.size then
        (world.context other).frames.pop.2
      else (world.context other).frames := by
  simp only [popFrame, modifyContext, World.context, Contexts.get_modify]
  split <;> rfl

/-- A context that was never made has its base frame only. -/
theorem frames_of_unmade (unmade : ¬ other.index < world.contexts.contexts.size) :
    (world.context other).frames = { base := { self := .nil } } := by
  simp [World.context, Contexts.get, Array.getElem?_eq_none (Nat.not_lt.1 unmade)]

/-- A frame that is pushed around what keeps frames is taken off again. -/
theorem FramesKept.framed {frame : Frame}
    (kept : FramesKept (world.pushFrame context frame) after) :
    FramesKept world (after.popFrame context) := by
  intro other
  have pushed := kept other
  rw [frames_pushFrame] at pushed
  rw [frames_popFrame]
  by_cases its : context = other
  · by_cases made : other.index < world.contexts.contexts.size
    · rw [if_pos ⟨its, made⟩] at pushed
      by_cases stays : other.index < after.contexts.contexts.size
      · rw [if_pos ⟨its, stays⟩, pushed, FrameStack.pop_push]
      · -- a context with a frame pushed cannot be one that was never made
        rw [frames_of_unmade stays] at pushed
        cases congrArg FrameStack.pushed pushed
    · rw [if_neg fun both => made both.2, frames_of_unmade made] at pushed
      rw [pushed, frames_of_unmade made]
      split <;> rfl
  · rw [if_neg fun both => its both.1] at pushed ⊢
    exact pushed

/-- What a call prepares pushes nothing. -/
theorem Prepares.frames (prepares : Prepares context world after) : FramesKept world after := by
  intro other
  cases prepares with
  | note frames _ => exact about_modifyContext Context.frames world context other frames
  | assign object name value => rfl
  | store object accessor value => rfl

/-- **The engine keeps all frames.** -/
theorem engine_framesKept : Engine (@FramesKept Code Host) where
  refl _ _ := rfl
  trans first second context := (second context).trans (first context)
  link {world ref site type} _ _ context := by rw [World.context, contexts_link]; rfl
  prepares prepares := prepares.frames
  framed kept := kept.framed

theorem frames_enter (made : context.index < world.contexts.contexts.size) (frame? : Option Frame) :
    ((world.enter context frame?).context context).frames =
      (world.context context).frames.under frame? := by
  cases frame? with
  | none => rfl
  | some frame =>
      rw [enter, frames_pushFrame, if_pos ⟨rfl, made⟩]
      rfl

theorem frames_enter_of_ne (different : other ≠ context) (frame? : Option Frame) :
    ((world.enter context frame?).context other).frames = (world.context other).frames := by
  cases frame? with
  | none => rfl
  | some frame => rw [enter, frames_pushFrame, if_neg fun both => different both.1.symm]

/-! ## Calls -/

/-- What a call prepares makes no context. -/
theorem size_of_prepares (prepares : Relation.ReflTransGen (Prepares context) world after) :
    after.contexts.contexts.size = world.contexts.contexts.size := by
  induction prepares with
  | refl => rfl
  | tail _ step ih =>
      rw [← ih]
      cases step with
      | note _ _ => simp [modifyContext, Contexts.modify]
      | assign object name value => rfl
      | store object accessor value => rfl

/-- All that a call does with frames: it answers, or it runs one piece of code, with this
frame on top of those of its caller if there is one, and takes the frame off again. -/
inductive RunsUnder (context : ContextRef) (world : World Code Host) (frame? : Option Frame)
    (run : Exec Code Host → Outcome × World Code Host) : Prop where
  | answers {outcome : Outcome} {after : World Code Host}
      (same : ∀ exec, run exec = (outcome, after))
  | enters {code : Code} {activation : Activation} {entered : World Code Host}
      (same : ∀ exec, run exec =
        ((exec code activation entered).1, (exec code activation entered).2.leave context frame?))
      (under : activation.Under frame?)
      (top : (entered.context context).frames = (world.context context).frames.under frame?)
      (others : ∀ other, other ≠ context →
        (entered.context other).frames = (world.context other).frames)

/-- Every call is like that. -/
theorem runsUnder_calling (made : context.index < world.contexts.contexts.size)
    (calling : Calling Code) :
    RunsUnder context world (calling.frame? world) fun exec => calling.run exec context world := by
  have contexts := contexts_reached world calling
  cases opens_calling context world calling with
  | answers _ _ same => exact .answers same
  | enters prepares _ _ _ under same =>
      have kept := engine_framesKept.prepare prepares
      have size := size_of_prepares prepares
      rw [contexts] at size
      have still : ∀ other, ((calling.reached world).context other).frames =
          (world.context other).frames := fun other => by rw [World.context, contexts]; rfl
      refine .enters same under ?_ fun other different => ?_
      · rw [frames_enter (size ▸ made), kept, still]
      · rw [frames_enter_of_ne different, kept, still]

/-- **Frames are balanced on every path.**  A call of any kind, whatever it comes to,
leaves every context with exactly the frames it had, and never without any; what it runs
in between is one piece of code at most, under one new frame that holds its receiver,
its defining type and its name, or under the frame of the caller. -/
theorem frames_balanced {exec : Exec Code Host} (tame : Tame FramesKept exec)
    (context : ContextRef) (world : World Code Host)
    (made : context.index < world.contexts.contexts.size) (calling : Calling Code) :
    FramesKept world (calling.run exec context world).2 ∧
      (∀ other, 0 < ((calling.run exec context world).2.context other).frames.depth) ∧
      RunsUnder context world (calling.frame? world) fun exec => calling.run exec context world :=
  ⟨engine_framesKept.calling (tame.keeps engine_framesKept id) context world calling,
    fun _ => Nat.succ_pos _, runsUnder_calling made calling⟩

/-- A compiled body calls a framed primitive through a site, that one sends the name of a
compiled body, and that one raises.  The fault comes through three frames, and none of
them is left. -/
theorem frames_balanced_of_raise :
    let fresh : World Deed Unit := create {} .hierarchy none ()
    let compiled := fun deed : Deed =>
      Implementation.compiled { entry := deed, scope := { kind := .method, locals := [] } }
    let define := fun (world : World Deed Unit) (name : String) (body : Implementation Deed) =>
      let made := world.createMethod name false body
      made.2.define TypeRef.object made.1
    let defined := define (define (define fresh "outer" (compiled (.through ⟨0⟩)))
      "inner" (.native
        { NativeMethod.create (.code (.send "fail")) [.context] with framed := true }))
      "fail" (compiled .raise)
    let sited := (defined.createSite (.create "inner" {} .normal)).2
    let world : World Deed Unit := { sited with contexts := sited.contexts.create.2 }
    let calling : Calling Deed := .send "outer" .normal { receiver := .int 1 }
    let called := calling.run (Deed.enact 3) ⟨0⟩ world
    called.1.isOk = false ∧ called.2.sites.map CallSite.links = #[1] ∧
      (Calling.frame? world calling).map Frame.name = some (some "outer") ∧
      FramesKept world called.2 := by
  intro fresh compiled define defined sited world calling called
  have facts : called.1.isOk = false ∧ called.2.sites.map CallSite.links = #[1] ∧
      (Calling.frame? world calling).map Frame.name = some (some "outer") := by
    decide +kernel
  have balanced := frames_balanced (Deed.tame_enact FramesKept 3) ⟨0⟩ world (by decide +kernel)
    calling
  exact ⟨facts.1, facts.2.1, facts.2.2, balanced.1⟩

end World

end InlineCache
