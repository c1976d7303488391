/-
# InlineCache.Proofs.Facts -- the facts of a call are taken by it

A caller may set facts in its context for the call it is about to make: that the last
argument is a hash of keywords.  Each way to run a method takes them, whatever it comes to.
Two paths forget to: to call a tombstone, and to raise where no handler of missing methods
is found.  No code runs on either, but the facts stay behind for a later call.

* `kwargs_calling`: a call that is no yield leaves the facts that it does not take, and no
  others;
* `facts_taken`: so a send leaves none exactly if there is somebody to answer it, and what
  it runs in any case is entered without facts;
* `facts_left_by_miss`: an unanswered send spoils the argument check of the next.
-/
import InlineCache.Proofs.Coherence
import InlineCache.Proofs.Opening

namespace InlineCache.World

set_option autoImplicit false

variable {Code Host : Type} {world after : World Code Host} {context : ContextRef}
  {exec : Exec Code Host}

/-- Nobody has set facts in any context. -/
def SetsNoFacts (world after : World Code Host) : Prop :=
  ∀ context, (after.context context).kwargs = true → (world.context context).kwargs = true

/-- **The engine sets no facts.** -/
theorem engine_setsNoFacts : Engine (@SetsNoFacts Code Host) where
  refl _ _ set := set
  trans first second context set := first context (second context set)
  link {world ref site type} _ _ context set := by
    rw [World.context, contexts_link] at set
    exact set
  prepares prepares _ set := prepares.kwargs set
  framed {context frame world after} kept other set := by
    have popped : ((after.popFrame context).context other).kwargs = (after.context other).kwargs :=
      about_modifyContext Context.kwargs after context other fun _ => rfl
    have pushed : ((world.pushFrame context frame).context other).kwargs =
        (world.context other).kwargs :=
      about_modifyContext Context.kwargs world context other fun _ => rfl
    rw [popped] at set
    exact pushed ▸ kept other set

/-- A call runs no method's code with facts set: it answers, or it runs one piece of code
in a world where its context has none. -/
inductive EntersClear (context : ContextRef)
    (run : Exec Code Host → Outcome × World Code Host) : Prop where
  | answers {outcome : Outcome} {after : World Code Host}
      (same : ∀ exec, run exec = (outcome, after))
  | enters {code : Code} {activation : Activation} {entered : World Code Host}
      {frame? : Option Frame} (clear : (entered.context context).kwargs = false)
      (same : ∀ exec, run exec =
        ((exec code activation entered).1, (exec code activation entered).2.leave context frame?))

/-- What a call runs, unless it is a block's, is entered without facts. -/
theorem entersClear_calling (context : ContextRef) (world : World Code Host)
    {calling : Calling Code} (sends : calling.yields = false) :
    EntersClear context fun exec => calling.run exec context world := by
  cases opens_calling context world calling with
  | answers _ _ same => exact .answers same
  | enters _ facts takes _ _ same =>
      refine .enters ?_ same
      rw [about_enter Context.kwargs fun _ _ => rfl, facts, takes, sends]
      rfl

/-- **A call leaves the facts that it does not take, and no others.** -/
theorem kwargs_calling (tame : Tame SetsNoFacts exec) (context : ContextRef)
    (world : World Code Host) {calling : Calling Code} (sends : calling.yields = false) :
    ((calling.run exec context world).2.context context).kwargs =
      (!calling.takes world && (world.context context).kwargs) := by
  have still : ((calling.reached world).context context).kwargs =
      (world.context context).kwargs := by
    rw [World.context, contexts_reached]
    rfl
  cases opens_calling context world calling with
  | answers _ facts same => rw [same exec, facts, still]
  | @enters code activation before _ facts takes _ _ same =>
      have taken : calling.takes world = true := by rw [takes, sends]; rfl
      have kept := @Engine.within _ _ context _ engine_setsNoFacts (calling.frame? world) _
        (tame.keeps engine_setsNoFacts id code activation) before context
      rw [taken] at facts
      rw [same exec, taken]
      refine Bool.eq_false_iff.2 fun set => ?_
      exact Bool.false_ne_true (facts.symm.trans (kept set))

/-! ## Sends -/

/-- A send of a name, through a site or without one. -/
inductive Sends (world : World Code Host) (call : Call) :
    Calling Code → String → CallType → Prop where
  | uncached (name : String) (callType : CallType) :
      Sends world call (.send name callType call) name callType
  | site {ref : SiteRef} {site : CallSite Code} (there : world.site? ref = some site)
      (live : world.types.isLive call.receiver.typeOf = true) :
      Sends world call (.site ref call) site.name site.callType

/-- **The facts of a send are taken by it**, if anybody is there to answer.  In a reachable
world, and whatever the send comes to, no method's code is entered with facts set; and
facts are set after it exactly if they were before it and it came to a tombstone, or to
nobody at all. -/
theorem facts_taken {proper : CompiledMethod Code → Prop} (lawful : Lawful proper exec)
    (tame : Tame SetsNoFacts exec) (reachable : Reachable proper exec world)
    {calling : Calling Code} {call : Call} {name : String} {callType : CallType}
    (sends : Sends world call calling name callType) (context : ContextRef) :
    EntersClear context (fun exec : Exec Code Host => calling.run exec context world) ∧
      (((calling.run exec context world).2.context context).kwargs = true ↔
        (world.context context).kwargs = true ∧
          world.answers call.receiver.typeOf name callType = false) := by
  have apart : calling.yields = false := by cases sends <;> rfl
  have takes : calling.takes world = world.answers call.receiver.typeOf name callType := by
    cases sends with
    | uncached name callType => rfl
    | site there live => exact ((sound_of_reachable lawful reachable).site_as_send there live).2
  refine ⟨entersClear_calling context world apart, ?_⟩
  rw [kwargs_calling tame context world apart, takes, Bool.and_eq_true, Bool.not_eq_true', and_comm]

/-! ## Two sends -/

/-- A fresh world that is given methods, the earliest first, on the type of all objects. -/
def taught (methods : List (String × Implementation Deed)) : World Deed Unit :=
  methods.foldl (fun world method =>
      (world.createMethod method.1 false method.2).2.change
        (.define TypeRef.object (world.createMethod method.1 false method.2).1))
    (create {} .hierarchy none ())

theorem reachable_taught (depth : Nat) (methods : List (String × Implementation Deed)) :
    Reachable (fun _ => True) (Deed.enact depth) (taught methods) := by
  suffices taught : ∀ world : World Deed Unit, Reachable (fun _ => True) (Deed.enact depth) world →
      Reachable (fun _ => True) (Deed.enact depth) (methods.foldl (fun world method =>
        (world.createMethod method.1 false method.2).2.change
          (.define TypeRef.object (world.createMethod method.1 false method.2).1)) world) from
    taught _ (.fresh {} .hierarchy none ())
  induction methods with
  | nil => exact fun _ reached => reached
  | cons method rest ih =>
      exact fun world reached => ih _ (reached.define (Deed.lawful_enact _ depth) TypeRef.object
        method.1 false method.2 fun _ _ => trivial)

/-- A site for a name, and a context in which facts are set. -/
def withFacts (world : World Deed Unit) (name : String) : World Deed Unit :=
  let sited := (world.createSite (.create name {} .normal)).2
  World.setKwargs { sited with contexts := sited.contexts.create.2 } ⟨0⟩ true

theorem Reachable.withFacts {depth : Nat} {world : World Deed Unit}
    (reached : Reachable (fun _ => True) (Deed.enact depth) world) (name : String) :
    Reachable (fun _ => True) (Deed.enact depth) (world.withFacts name) :=
  .step (.step reached (.site world name {} .normal))
    (.elsewhere rfl rfl rfl rfl rfl (Nat.le_refl _) (.refl _))

/-- A method that takes keywords. -/
def keyworded (deed : Deed) : Implementation Deed :=
  .compiled {
    entry := deed
    scope := { kind := .method, locals := [], signature := { keyrest := true } } }

/-- A method that takes any arguments. -/
def catching (deed : Deed) : Implementation Deed :=
  .compiled {
    entry := deed
    scope := { kind := .method, locals := [], signature := .any } }

/-- A method that is called through a site with facts sends a name that is missing, and the
handler of the world's own making raises.  The call has taken its facts. -/
theorem facts_taken_by_raise :
    let world := (taught [("opts", keyworded (.send "absent")),
      (methodMissing, catching .raise)]).withFacts "opts"
    let call : Call := { receiver := .int 1, args := [.hash []] }
    let calling : Calling Deed := .site ⟨0⟩ call
    let called := calling.run (Deed.enact 2) ⟨0⟩ world
    (world.context ⟨0⟩).kwargs = true ∧ called.1.isOk = false ∧
      called.2.sites.map CallSite.links = #[1] ∧ (called.2.context ⟨0⟩).kwargs = false := by
  intro world call calling called
  have facts : (world.context ⟨0⟩).kwargs = true ∧ called.1.isOk = false ∧
      called.2.sites.map CallSite.links = #[1] ∧
      (world.site? ⟨0⟩).any
        (fun site => world.answers call.receiver.typeOf site.name site.callType) = true ∧
      world.types.isLive call.receiver.typeOf = true := by
    decide +kernel
  obtain ⟨set, raised, linked, answered, live⟩ := facts
  obtain ⟨site, there, answered⟩ := Option.any_eq_true _ _ |>.1 answered
  have taken := facts_taken (Deed.lawful_enact _ 2) (Deed.tame_enact SetsNoFacts 2)
    ((reachable_taught 2 _).withFacts "opts") (.site there live) ⟨0⟩
  refine ⟨set, raised, linked, Bool.eq_false_iff.2 fun left => ?_⟩
  exact Bool.false_ne_true ((taken.2.1 left).2.symm.trans answered)

/-- **Facts left by a miss.**  Where the handler of missing methods is hidden, a send through
a site leaves its facts behind, and the next send, made without any, is let through with a
hash too many. -/
theorem facts_left_by_miss :
    let world := (taught
      [("opts", keyworded .answer), (methodMissing, .undefined)]).withFacts "absent"
    let called := callSite (Deed.enact 0) ⟨0⟩ ⟨0⟩ { receiver := .int 1 } world
    let next := fun world => send (Deed.enact 0) ⟨0⟩ "opts" .normal
      { receiver := .int 1, args := [.hash []] } world
    Reachable (fun _ => True) (Deed.enact 0) world ∧ called.1.isOk = false ∧
      (called.2.context ⟨0⟩).kwargs = true ∧ (next called.2).1.isOk = true ∧
      (next (called.2.setKwargs ⟨0⟩ false)).1.isOk = false :=
  ⟨(reachable_taught 0 _).withFacts "absent", by decide +kernel⟩

end InlineCache.World
