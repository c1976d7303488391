/-
# InlineCache.Proofs.Calls -- what a call may do to a world

Code is *lawful* (`World.Lawful`) when, run in a sound world, it evolves it: whatever it
does, it does by steps.  Then so does every way to run a method (`Evolving`), every
uncached send and every send through a call site.  Code may therefore send through
sites itself; whether a site admits the call is decidable (`World.Admits`).

A call writes through the accessor of a bound thunk only when the chain's guard has
passed.  The thunk is coherent then, and the write is one by name
(`setVariable_of_settled`).
-/
import InlineCache.Proofs.Evolution

namespace InlineCache

set_option autoImplicit false

/-- What dispatch answers with is an entry of the chain whose guard passes. -/
theorem Thunk.mem_of_dispatch {Code : Type} {points : SwitchPoints} {typeId : Nat}
    {thunk : Thunk Code} {bound : BoundThunk Code}
    (dispatched : thunk.dispatch points typeId = .bound bound) :
    ∃ guard, (guard, bound) ∈ thunk.entries ∧ guard.passes points typeId = true := by
  induction thunk with
  | link | megamorphic => cases dispatched
  | guarded guard target fallback ih =>
      simp only [Thunk.dispatch] at dispatched
      split at dispatched
      · cases dispatched
        exact ⟨guard, List.mem_cons_self, ‹_›⟩
      · obtain ⟨passing, member, passes⟩ := ih dispatched
        exact ⟨passing, List.mem_cons_of_mem _ member, passes⟩

def Value.isObject : Value → Bool
  | object _ => true
  | _ => false

theorem Value.isObject_iff {value : Value} :
    value.isObject = true ↔ ∃ target, value = object target := by
  cases value <;> simp [isObject]

def Method.isWriter {Code : Type} (method : Method Code) : Bool :=
  match method.implementation with
  | .attrWriter _ => true
  | _ => false

theorem Method.isWriter_iff {Code : Type} {method : Method Code} :
    method.isWriter = true ↔ ∃ name, method.implementation = .attrWriter name := by
  unfold isWriter
  cases method.implementation <;> simp

namespace World

variable {Code Host : Type} {proper : CompiledMethod Code → Prop} {world : World Code Host}

/-- A computation that goes by steps. -/
def Evolving (proper : CompiledMethod Code → Prop)
    (run : World Code Host → Outcome × World Code Host) : Prop :=
  ∀ ⦃world : World Code Host⦄, world.Sound proper → Evolves proper world (run world).2

/-- **Lawful code** does what it does by steps.  A sound world does not say who holds which
type, so code that calls through a site asks first whether the site admits the call. -/
def Lawful (proper : CompiledMethod Code → Prop) (exec : Exec Code Host) : Prop :=
  ∀ (code : Code) (activation : Activation), Evolving proper (exec code activation)

/-! ## Contexts are nobody's concern -/

theorem evolves_modifyContext (world : World Code Host) (context : ContextRef)
    (change : Context → Context) : Evolves proper world (world.modifyContext context change) :=
  .single (.elsewhere rfl rfl rfl rfl rfl (Nat.le_refl _) (.refl _))

theorem setKwargs_again (world : World Code Host) (context : ContextRef) :
    (world.setKwargs context false).setKwargs context false = world.setKwargs context false := by
  simp only [setKwargs, modifyContext, Contexts.modify_modify]
  rfl

namespace Evolving

variable {run : World Code Host → Outcome × World Code Host}

theorem noted (evolving : Evolving proper run) (sound : world.Sound proper) (context : ContextRef)
    (change : Context → Context) :
    Evolves proper world (run (world.modifyContext context change)).2 :=
  have noted := evolves_modifyContext world context change
  noted.trans (evolving (sound.evolves noted))

theorem underFrame (evolving : Evolving proper run) (context : ContextRef) (frame : Frame) :
    Evolving proper (underFrame context frame run) := fun _ sound =>
  (evolving.noted sound context fun state => state.pushFrame frame).trans
    (evolves_modifyContext _ context Context.popFrame)

theorem checked (evolving : Evolving proper run) (context : ContextRef) (signature : Signature)
    (args : List Value) : Evolving proper (checked context signature args run) := by
  intro world sound
  cases fits : signature.checkArguments args (world.context context).kwargs with
  | ok =>
      rw [checked_of_accepts fits]
      exact evolving.noted sound context _
  | error fault =>
      rw [checked_of_refused fits]
      exact evolves_modifyContext world context _

end Evolving

/-! ## Methods -/

variable {exec : Exec Code Host}

theorem callMethod_of_compiledBody {method : Method Code} {body : CompiledMethod Code}
    (runs : world.types.compiledBody? method = some body) (context : ContextRef) (owner : TypeRef)
    (name : String) (call : Call) :
    callMethod exec context method owner name call world =
      callCompiled exec context body owner name call world := by
  unfold Types.compiledBody? at runs
  unfold callMethod
  split at runs
  · rename_i kind
    cases runs
    rw [kind]
  · rename_i kind
    cases runs
    rw [kind]
  · cases runs

theorem evolving_runNativeBody (lawful : Lawful proper exec) (context : ContextRef)
    (method : NativeMethod Code) (call : Call) :
    Evolving proper (runNativeBody exec context method call) := by
  intro world sound
  unfold runNativeBody
  split
  · split
    · unfold raiseMissing
      dsimp only
      split <;> exact evolves_modifyContext world context _
    · exact .refl
  · exact lawful _ _ sound

theorem evolving_runNative (lawful : Lawful proper exec) (context : ContextRef)
    (method : NativeMethod Code) (owner : TypeRef) (name : String) (call : Call) :
    Evolving proper (runNative exec context method owner name call) := by
  intro world sound
  have body := evolving_runNativeBody lawful context method call
  unfold runNative
  split
  · exact (body.underFrame context _).noted sound context _
  · exact body.noted sound context _

theorem evolving_enterCompiled (lawful : Lawful proper exec) (context : ContextRef)
    (method : CompiledMethod Code) (entry : Code) (owner : TypeRef) (name : String) (call : Call) :
    Evolving proper (enterCompiled exec context method entry owner name call) :=
  Evolving.underFrame (lawful entry _) context _

theorem evolving_callCompiled (lawful : Lawful proper exec) (context : ContextRef)
    (method : CompiledMethod Code) (owner : TypeRef) (name : String) (call : Call) :
    Evolving proper (callCompiled exec context method owner name call) :=
  (evolving_enterCompiled lawful context method method.entry owner name call).checked context _ _

theorem evolving_runHandle (lawful : Lawful proper exec) (context : ContextRef) (entry : Code)
    (call : Call) : Evolving proper (runHandle exec context entry call) := fun _ sound =>
  Evolving.noted (lawful entry _) sound context _

theorem evolving_callHandle (lawful : Lawful proper exec) (context : ContextRef)
    (method : HandleMethod Code) (call : Call) :
    Evolving proper (callHandle exec context method call) := by
  intro world sound
  have cleared : Evolves proper world (world.setKwargs context false) :=
    evolves_modifyContext world context _
  unfold callHandle
  split
  · exact evolving_runHandle lawful context _ call sound
  · dsimp only
    split
    · split
      · exact cleared.trans (evolving_runHandle lawful context _ call (sound.evolves cleared))
      · exact cleared
    · exact cleared

theorem evolving_callReader (context : ContextRef) (name : String) (call : Call) :
    Evolving proper (@callReader Code Host context name call) := by
  intro world sound
  unfold callReader
  dsimp only
  split <;> exact evolves_modifyContext world context _

theorem evolving_callWriter (context : ContextRef) (name : String) (call : Call) :
    Evolving proper (@callWriter Code Host context name call) := by
  intro world sound
  have cleared : Evolves proper world (world.setKwargs context false) :=
    evolves_modifyContext world context _
  unfold callWriter writeAttribute
  dsimp only
  split
  · split
    · exact cleared.tail (.write _ _ _ _)
    · exact cleared
  · exact cleared

/-- **Every method evolves the world it is called in.** -/
theorem evolving_callMethod (lawful : Lawful proper exec) (context : ContextRef)
    (method : Method Code) (owner : TypeRef) (name : String) (call : Call) :
    Evolving proper (callMethod exec context method owner name call) := by
  intro world sound
  unfold callMethod
  split
  · exact (evolving_runNative lawful context _ owner name call).checked context _ _ sound
  · exact evolving_callCompiled lawful context _ owner name call sound
  · exact evolving_callCompiled lawful context _ owner name call sound
  · exact evolving_callHandle lawful context _ call sound
  · exact evolving_callReader context _ call sound
  · exact evolving_callWriter context _ call sound
  · exact .refl

theorem evolving_callMissing (lawful : Lawful proper exec) (context : ContextRef)
    (handler : Method Code) (owner : TypeRef) (reason : MissingReason) (name : String) (call : Call) :
    Evolving proper (callMissing exec context handler owner reason name call) := fun _ sound =>
  (evolving_callMethod lawful context handler owner handler.name _).noted sound context _

theorem evolving_send (lawful : Lawful proper exec) (context : ContextRef) (name : String)
    (callType : CallType) (call : Call) :
    Evolving proper (send exec context name callType call) := by
  intro world sound
  unfold send
  split
  · exact evolving_callMethod lawful context _ _ name call sound
  · exact evolving_callMissing lawful context _ _ _ name call sound
  · unfold raiseMissing
    dsimp only
    split <;>
      exact (evolves_modifyContext world context _).trans (evolves_modifyContext _ context _)

/-! ## Sends through call sites -/

/-- Writing a variable with a place of its own lays out nothing. -/
theorem setVariable_of_settled {object : ObjectRef} {name : String}
    (settled : world.types.Settled object.type name) (value : Value) :
    world.setVariable object name value =
      world.writeObject object (world.types.accessorForRead object.type name) value := by
  simp only [setVariable, accessorForWrite, Types.accessorForWrite_of_settled settled]

/-- **A coherent thunk goes by steps** when it is run for a receiver of its type. -/
theorem evolves_invoke (lawful : Lawful proper exec) (sound : world.Sound proper)
    {site : CallSite Code} {bound : BoundThunk Code} {call : Call}
    (coherent : world.Coherent site call.receiver.typeOf bound) (context : ContextRef) :
    Evolves proper world (invoke exec context bound call world).2 := by
  have cleared : Evolves proper world (world.setKwargs context false) :=
    evolves_modifyContext world context _
  unfold invoke
  dsimp only
  cases way : bound.invoker with
  | native method => exact evolving_runNative lawful context method _ _ call sound
  | nativeList method =>
      exact (evolving_runNative lawful context method _ _ call).checked context _ _ sound
  | handleEntry entry => exact evolving_runHandle lawful context entry call sound
  | handleTable method => exact evolving_callHandle lawful context method call sound
  | compiledEntry method entry =>
      exact (evolving_enterCompiled lawful context method entry _ _ call).noted sound context _
  | compiledChecked method => exact evolving_callCompiled lawful context method _ _ call sound
  | readVariable accessor => exact cleared
  | generic => exact evolving_callMethod lawful context _ _ _ call sound
  | missing reason => exact evolving_callMissing lawful context _ _ reason _ call sound
  | writeVariable accessor =>
      dsimp only
      unfold writeThrough
      split
      · rename_i target receiver
        rw [receiver, Value.typeOf_object] at coherent
        cases resolved : world.resolveSend target.type site.name site.callType with
        | missing reason handler? =>
            obtain ⟨_, _, rfl⟩ := coherent.missing resolved
            cases way
        | callable entry =>
            have suits := (coherent.callable resolved).2.2
            obtain ⟨name, _, settled, rfl⟩ := suits.accessor_eq (by rw [way]; rfl)
            have settled : (world.setKwargs context false).types.Settled target.type name := settled
            have written : Step proper (world.setKwargs context false)
                ((world.setKwargs context false).setVariable target name (call.args.headD .nil)) :=
              .write _ target name _
            rw [setVariable_of_settled settled] at written
            exact cleared.tail written
      · exact cleared

/-! ## Sends through sites -/

/-- What of a call its site has to be right about: a receiver whose type is there, the number of
arguments when it is fixed, and an object to write an attribute of. -/
structure Admits (world : World Code Host) (site : CallSite Code) (call : Call) : Prop where
  live : world.types.isLive call.receiver.typeOf = true
  count : 0 ≤ site.shape.argCount → (call.args.length : Int) = site.shape.argCount
  writer : ∀ {entry : CacheEntry Code} {name : String},
    (world.lookup call.receiver.typeOf site.name).found? = some entry →
      entry.method.implementation = .attrWriter name → ∃ target, call.receiver = .object target

instance (world : World Code Host) (site : CallSite Code) (call : Call) :
    Decidable (world.Admits site call) :=
  decidable_of_iff
    (world.types.isLive call.receiver.typeOf = true ∧
      (0 ≤ site.shape.argCount → (call.args.length : Int) = site.shape.argCount) ∧
      ((world.lookup call.receiver.typeOf site.name).found?.any (·.method.isWriter) = true →
        call.receiver.isObject = true))
    ⟨fun ⟨live, count, writer⟩ => ⟨live, count, fun {_ name} found kind =>
        Value.isObject_iff.1 (writer
          (Option.any_eq_true _ _ |>.2 ⟨_, found, Method.isWriter_iff.2 ⟨name, kind⟩⟩))⟩,
      fun admits => ⟨admits.live, admits.count, fun writes =>
        have ⟨_, found, is⟩ := Option.any_eq_true _ _ |>.1 writes
        have ⟨_, kind⟩ := Method.isWriter_iff.1 is
        Value.isObject_iff.2 (admits.writer found kind)⟩⟩

/-- What a site answers with for a receiver whose type is there is coherent. -/
theorem Sound.coherent_of_dispatch (sound : world.Sound proper) {ref : SiteRef}
    {site : CallSite Code} (there : world.site? ref = some site) {type : TypeRef} (live : world.types.isLive type = true)
    {bound : BoundThunk Code}
    (dispatched : site.target.load.dispatch world.points type.id = .bound bound) :
    world.Coherent site type bound := by
  obtain ⟨guard, member, passes⟩ := Thunk.mem_of_dispatch dispatched
  simp only [TypeGuard.passes, Bool.and_eq_true, beq_iff_eq] at passes
  exact ((sound.faithful there member).coherent passes.1.symm live passes.2).2

theorem coherent_link {ref : SiteRef} {site : CallSite Code} {type : TypeRef}
    {bound : BoundThunk Code} (linked : (world.link ref site type).1 = some bound) :
    (world.link ref site type).2.Coherent site type bound := by
  obtain ⟨bound?, after, new, result, _, _, coherent, _⟩ := world.link_spec ref site type
  rw [result] at linked ⊢
  have bound := coherent bound linked
  exact bound

/-- **A send through a site goes by steps.** -/
theorem evolves_callSite (lawful : Lawful proper exec) (sound : world.Sound proper)
    (context : ContextRef) (ref : SiteRef) (call : Call) (live : world.types.isLive call.receiver.typeOf = true) :
    Evolves proper world (callSite exec context ref call world).2 := by
  unfold callSite
  cases there : world.site? ref with
  | none => exact .refl
  | some site =>
      dsimp only
      cases dispatched : site.target.load.dispatch world.points call.receiver.typeOf.id with
      | bound bound =>
          have coherent := sound.coherent_of_dispatch there live dispatched
          exact evolves_invoke lawful sound coherent context
      | megamorphic => exact evolving_send lawful context _ _ call sound
      | link =>
          have linking : Evolves proper world (world.link ref site call.receiver.typeOf).2 :=
            .single (.link world there live)
          have coherent : ∀ bound, (world.link ref site call.receiver.typeOf).1 = some bound →
              (world.link ref site call.receiver.typeOf).2.Coherent site call.receiver.typeOf
                bound :=
            fun _ => coherent_link
          have later := sound.evolves linking
          dsimp only
          revert linking coherent later
          generalize world.link ref site call.receiver.typeOf = linked
          obtain ⟨_ | bound, after⟩ := linked
          · exact fun linking _ later => linking.trans (evolving_send lawful context _ _ call later)
          · exact fun linking coherent later =>
              linking.trans (evolves_invoke lawful later (coherent bound rfl) context)

end World

end InlineCache
