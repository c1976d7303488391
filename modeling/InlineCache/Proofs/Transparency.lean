/-
# InlineCache.Proofs.Transparency -- call sites do not show

A call through a site comes to what the uncached send comes to: the same value or the
same fault, and a world that no program can tell from the other.

* `invoke_eq_send`: a coherent thunk does exactly what the send does;
* `send_blind`: a send in one of two worlds that look the same comes to what it comes to
  in the other;
* `callSite_transparent`: so a call through a site of a reachable world comes to what the
  send comes to, whether it hits the chain, links or gives up caching;
* `callSite_blind`: and code that calls through sites itself cannot tell them either;
* `Deed.blind_enact`: so bodies that call, however deep, are code as it is taken to be here.

What code is taken to do is this: it does what it does by steps (`Lawful`), it looks at
what a program can see only (`BlindCode`), and the entry of a compiled body for a count
does on that count what its general entry does (`Uniform`).
-/
import InlineCache.Proofs.Coherence
import InlineCache.Proofs.Facade
import InlineCache.Proofs.Opening

namespace InlineCache

set_option autoImplicit false

variable {Code Host : Type}

namespace World

variable {proper : CompiledMethod Code → Prop} {world other : World Code Host}
  {exec : Exec Code Host}

/-- A computation that comes to the same in worlds that look the same. -/
def Blind (proper : CompiledMethod Code → Prop)
    (run : World Code Host → Outcome × World Code Host) : Prop :=
  ∀ ⦃world other : World Code Host⦄, world.Sound proper → other.Sound proper → Same world other →
    (run other).1 = (run world).1 ∧ Same (run world).2 (run other).2

/-- **Blind code** sees what a program can see, and nothing else. -/
def BlindCode (proper : CompiledMethod Code → Prop) (exec : Exec Code Host) : Prop :=
  ∀ (code : Code) (activation : Activation), Blind proper (exec code activation)

/-- **A uniform body** does on a count with an entry of its own what it does on any. -/
def Uniform (exec : Exec Code Host) (body : CompiledMethod Code) : Prop :=
  ∀ {count : Nat} {code : Code}, EntryTable.get? body.specific count = some code →
    ∀ {activation : Activation} {owner : TypeRef} {name : String},
      activation.entrance = .compiled body.scope owner name → activation.args.length = count →
        ∀ world : World Code Host, exec code activation world = exec body.entry activation world

/-! ## Running a method in worlds that look the same -/

theorem Sound.modifyContext (sound : world.Sound proper) (context : ContextRef)
    (change : Context → Context) : (world.modifyContext context change).Sound proper :=
  sound.evolves (evolves_modifyContext world context change)

namespace Blind

variable {run : World Code Host → Outcome × World Code Host}

theorem noted (blind : Blind proper run) (sound : world.Sound proper) (sound' : other.Sound proper)
    (same : Same world other) (context : ContextRef) (change : Context → Context) :
    (run (other.modifyContext context change)).1 = (run (world.modifyContext context change)).1 ∧
      Same (run (world.modifyContext context change)).2
        (run (other.modifyContext context change)).2 :=
  blind (sound.modifyContext context change) (sound'.modifyContext context change)
    (same.modifyContext context change)

theorem underFrame (blind : Blind proper run) (context : ContextRef) (frame : Frame) :
    Blind proper (underFrame context frame run) := by
  intro world other sound sound' same
  obtain ⟨outcome, after⟩ := blind.noted sound sound' same context fun state => state.pushFrame frame
  exact ⟨outcome, after.modifyContext context Context.popFrame⟩

theorem checked (blind : Blind proper run) (context : ContextRef) (signature : Signature)
    (args : List Value) : Blind proper (checked context signature args run) := by
  intro world other sound sound' same
  have kwargs : (other.context context).kwargs = (world.context context).kwargs := by
    simp only [World.context, same.contexts]
  cases fits : signature.checkArguments args (world.context context).kwargs with
  | ok =>
      rw [checked_of_accepts fits, checked_of_accepts (kwargs ▸ fits)]
      exact blind.noted sound sound' same context _
  | error fault =>
      rw [checked_of_refused fits, checked_of_refused (kwargs ▸ fits)]
      exact ⟨rfl, same.modifyContext context _⟩

end Blind

theorem blind_raiseMissing (context : ContextRef) (receiver : Value) (args : List Value) :
    Blind proper fun world : World Code Host => world.raiseMissing context receiver args := by
  intro world other _ _ same
  have reason : (other.context context).missingReason = (world.context context).missingReason := by
    simp only [World.context, same.contexts]
  have after := same.modifyContext context fun state => { state with missingReason := .normal }
  unfold raiseMissing takeMissingReason
  dsimp only
  rw [reason]
  split <;> exact ⟨rfl, after⟩

theorem blind_runNativeBody (blind : BlindCode proper exec) (context : ContextRef)
    (method : NativeMethod Code) (call : Call) :
    Blind proper (runNativeBody exec context method call) := by
  intro world other sound sound' same
  unfold runNativeBody
  split
  · split
    · exact blind_raiseMissing context _ _ sound sound' same
    · exact ⟨rfl, same⟩
  · exact blind _ _ sound sound' same

theorem blind_runNative (blind : BlindCode proper exec) (context : ContextRef)
    (method : NativeMethod Code) (owner : TypeRef) (name : String) (call : Call) :
    Blind proper (runNative exec context method owner name call) := by
  intro world other sound sound' same
  have body := blind_runNativeBody blind context method call
  unfold runNative
  split
  · exact (body.underFrame context _).noted sound sound' same context _
  · exact body.noted sound sound' same context _

theorem blind_callCompiled (blind : BlindCode proper exec) (context : ContextRef)
    (method : CompiledMethod Code) (owner : TypeRef) (name : String) (call : Call) :
    Blind proper (callCompiled exec context method owner name call) :=
  Blind.checked (Blind.underFrame (blind method.entry _) context _) context _ _

theorem blind_runHandle (blind : BlindCode proper exec) (context : ContextRef) (entry : Code)
    (call : Call) : Blind proper (runHandle exec context entry call) := fun _ _ sound sound' same =>
  Blind.noted (blind entry _) sound sound' same context _

theorem blind_callHandle (blind : BlindCode proper exec) (context : ContextRef)
    (method : HandleMethod Code) (call : Call) :
    Blind proper (callHandle exec context method call) := by
  intro world other sound sound' same
  have cleared := same.modifyContext context fun state => { state with kwargs := false }
  unfold callHandle
  split
  · exact blind_runHandle blind context _ call sound sound' same
  · dsimp only
    split
    · split
      · exact blind_runHandle blind context _ call (sound.modifyContext context _)
          (sound'.modifyContext context _) cleared
      · exact ⟨rfl, cleared⟩
    · exact ⟨rfl, cleared⟩

theorem blind_callReader (context : ContextRef) (name : String) (call : Call) :
    Blind proper (@callReader Code Host context name call) := by
  intro world other _ _ same
  have cleared := same.modifyContext context fun state => { state with kwargs := false }
  have read : ∀ receiver, (other.setKwargs context false).readAttribute name receiver =
      (world.setKwargs context false).readAttribute name receiver := by
    intro receiver
    unfold readAttribute
    split
    · exact congrArg (Option.getD · .nil) (cleared.values _ name)
    · rfl
  unfold callReader
  dsimp only
  split
  · exact ⟨congrArg Except.ok (read _), cleared⟩
  · exact ⟨rfl, cleared⟩

theorem blind_callWriter (context : ContextRef) (name : String) (call : Call) :
    Blind proper (@callWriter Code Host context name call) := by
  intro world other sound sound' same
  have cleared := same.modifyContext context fun state => { state with kwargs := false }
  unfold callWriter writeAttribute
  dsimp only
  split
  · split
    · exact ⟨rfl, cleared.setVariable (sound.modifyContext context _)
        (sound'.modifyContext context _) _ name _⟩
    · exact ⟨rfl, cleared⟩
  · exact ⟨rfl, cleared⟩

theorem blind_callMethod (blind : BlindCode proper exec) (context : ContextRef)
    (method : Method Code) (owner : TypeRef) (name : String) (call : Call) :
    Blind proper (callMethod exec context method owner name call) := by
  intro world other sound sound' same
  have body := same.compiledBody? method
  unfold callMethod
  unfold Types.compiledBody? at body
  split
  · exact (blind_runNative blind context _ owner name call).checked context _ _ sound sound' same
  · exact blind_callCompiled blind context _ owner name call sound sound' same
  · rename_i interpreted kind
    simp only [kind, Option.some.injEq] at body
    rw [body]
    exact blind_callCompiled blind context _ owner name call sound sound' same
  · exact blind_callHandle blind context _ call sound sound' same
  · exact blind_callReader context _ call sound sound' same
  · exact blind_callWriter context _ call sound sound' same
  · exact ⟨rfl, same⟩

theorem blind_callMissing (blind : BlindCode proper exec) (context : ContextRef)
    (handler : Method Code) (owner : TypeRef) (reason : MissingReason) (name : String) (call : Call) :
    Blind proper (callMissing exec context handler owner reason name call) :=
  fun _ _ sound sound' same =>
    (blind_callMethod blind context handler owner handler.name _).noted sound sound' same context _

/-- **A send comes to the same in worlds that look the same.** -/
theorem send_blind (blind : BlindCode proper exec) (context : ContextRef) (name : String)
    (callType : CallType) (call : Call) : Blind proper (send exec context name callType call) := by
  intro world other sound sound' same
  unfold send
  rw [same.resolveSend]
  split
  · exact blind_callMethod blind context _ _ name call sound sound' same
  · exact blind_callMissing blind context _ _ _ name call sound sound' same
  · exact (blind_raiseMissing context _ _).noted sound sound' same context _

/-! ## A coherent thunk and the send -/

/-- A uniform body may be entered by its entry for the count. -/
theorem enterCompiled_of_uniform {body : CompiledMethod Code} (uniform : Uniform exec body)
    {call : Call} (context : ContextRef) (owner : TypeRef) (name : String) :
    enterCompiled exec context body
        ((EntryTable.get? body.specific call.args.length).getD body.entry) owner name call world =
      enterCompiled exec context body body.entry owner name call world := by
  cases specific : EntryTable.get? body.specific call.args.length with
  | none => rfl
  | some code =>
      simp only [enterCompiled, underFrame, Option.getD_some]
      rw [uniform specific rfl rfl]

/-- An invoker that suits the method found does what the generic convention does. -/
theorem invoke_eq_callMethod {site : CallSite Code} {call : Call} {entry : CacheEntry Code}
    (found : (world.lookup call.receiver.typeOf site.name).found? = some entry)
    (admits : world.Admits site call) (bodies : world.types.Bodies proper)
    (uniform : ∀ body, proper body → Uniform exec body) (context : ContextRef)
    {invoker : Invoker Code}
    (suits : world.types.Suits site.shape call.receiver.typeOf entry.method invoker) :
    invoke exec context { name := site.name, entry, invoker } call world =
      callMethod exec context entry.method entry.owner site.name call world := by
  have counted : ∀ {count : Nat}, site.shape.argCount = count → call.args.length = count :=
    fun same => Int.ofNat.inj ((admits.count (by omega)).trans same)
  cases suits with
  | generic => rfl
  | native kind fixed accepted =>
      have length := admits.count fixed
      rw [← length] at accepted
      simp only [invoke, callMethod, kind, callNative]
      rw [checked_of_accepts (Signature.checkArguments_of_accepted accepted _)]
      simp only [runNative, setKwargs_again]
  | nativeList kind => simp only [invoke, callMethod, kind]
  | @handleEntry handle code kind fixed chosen =>
      have length := admits.count fixed
      rw [← length, Int.toNat_natCast] at chosen
      simp only [invoke, callMethod, kind, callHandle, chosen]
  | handleTable kind => simp only [invoke, callMethod, kind]
  | @compiledEntry body runs accepted =>
      obtain ⟨_, _, _, stands⟩ := Types.exists_of_holds (Types.holds_of_lookup found)
      have length := admits.count (Signature.count_of_accepted accepted)
      rw [← length] at accepted
      rw [callMethod_of_compiledBody runs, callCompiled,
        checked_of_accepts (Signature.checkArguments_of_accepted accepted _),
        ← enterCompiled_of_uniform (uniform body (bodies.compiledBody stands runs))]
      simp only [invoke, ← length, Int.toNat_natCast]
  | compiledChecked runs => rw [callMethod_of_compiledBody runs]; rfl
  | @readVariable name kind count settled =>
      have none_ : call.args = [] := List.length_eq_zero_iff.1 (counted count)
      simp only [invoke, callMethod, kind, callReader, none_]
      generalize call.receiver = receiver
      cases receiver <;> rfl
  | @writeVariable name kind count settled =>
      obtain ⟨value, one⟩ := List.length_eq_one_iff.1 (counted count)
      obtain ⟨target, receiver⟩ := admits.writer found kind
      have settled : (world.setKwargs context false).types.Settled target.type name := by
        rwa [receiver, Value.typeOf_object] at settled
      simp only [invoke, callMethod, kind, callWriter, one, receiver, writeThrough, writeAttribute,
        setVariable_of_settled settled]
      rfl

/-- **A coherent thunk does exactly what the send does.** -/
theorem invoke_eq_send {site : CallSite Code} {call : Call} {bound : BoundThunk Code}
    (coherent : world.Coherent site call.receiver.typeOf bound) (admits : world.Admits site call)
    (bodies : world.types.Bodies proper) (uniform : ∀ body, proper body → Uniform exec body)
    (context : ContextRef) :
    invoke exec context bound call world =
      send exec context site.name site.callType call world := by
  unfold send
  cases resolved : world.resolveSend call.receiver.typeOf site.name site.callType with
  | callable entry =>
      obtain ⟨name, same, suits⟩ := coherent.callable resolved
      obtain ⟨_, _, invoker⟩ := bound
      cases name
      cases same
      have found := resolveSend_eq_callable resolved
      exact invoke_eq_callMethod found admits bodies uniform context suits
  | missing reason handler? =>
      obtain ⟨handler, rfl, rfl⟩ := coherent.missing resolved
      rfl

/-! ## Sends through sites -/

theorem Admits.of_same {site site' : CallSite Code} {call : Call}
    (admits : world.Admits site call) (same : Same world other)
    (declared : site'.declared = site.declared) : other.Admits site' call := by
  obtain ⟨name, shape, _⟩ := CallSite.spelling_of_declared declared
  refine ⟨(same.isLive _).trans admits.live, shape ▸ admits.count, fun found kind => ?_⟩
  rw [name, same.lookup] at found
  exact admits.writer found kind

/-- A call through a site of a sound world comes to what the send comes to. -/
theorem Sound.callSite_eq_send (sound : world.Sound proper) (blind : BlindCode proper exec)
    (uniform : ∀ body, proper body → Uniform exec body) {ref : SiteRef} {site : CallSite Code}
    (there : world.site? ref = some site) {call : Call} (admits : world.Admits site call)
    (context : ContextRef) :
    (callSite exec context ref call world).1 =
        (send exec context site.name site.callType call world).1 ∧
      Same (send exec context site.name site.callType call world).2
        (callSite exec context ref call world).2 := by
  unfold callSite
  simp only [there]
  cases dispatched : site.target.load.dispatch world.points call.receiver.typeOf.id with
  | bound bound =>
      have coherent := sound.coherent_of_dispatch there admits.live dispatched
      have equal := invoke_eq_send coherent admits sound.bodies uniform context
      exact ⟨congrArg Prod.fst equal, equal ▸ .refl _⟩
  | megamorphic => exact ⟨rfl, .refl _⟩
  | link =>
      have same := Same.link sound there call.receiver.typeOf
      have later := sound.link there admits.live
      have sent := send_blind blind context site.name site.callType call sound later same
      have coherent : ∀ bound, (world.link ref site call.receiver.typeOf).1 = some bound →
          (world.link ref site call.receiver.typeOf).2.Coherent site call.receiver.typeOf bound :=
        fun _ => coherent_link
      dsimp only
      revert same later sent coherent
      generalize world.link ref site call.receiver.typeOf = linked
      obtain ⟨_ | bound, after⟩ := linked
      · exact fun _ _ sent _ => sent
      · intro same later sent coherent
        have equal := invoke_eq_send (coherent bound rfl) (admits.of_same same rfl)
          later.bodies uniform context
        dsimp only at equal sent ⊢
        rw [equal]
        exact sent

theorem Same.closure? (same : Same world other) (block : BlockRef) :
    other.closure? block = world.closure? block :=
  (congrArg (fun world : World Code Host => world.closure? block) same.facade :)

theorem Same.admitted (same : Same world other) (calling : Calling Code) :
    calling.admitted other = calling.admitted world := by
  have all : ∀ {world other : World Code Host}, Same world other →
      calling.admitted world = true → calling.admitted other = true := by
    intro world other same admitted
    cases calling with
    | site ref call =>
        simp only [Calling.admitted, Option.all_eq_true, decide_eq_true_eq] at admitted ⊢
        intro site there
        obtain ⟨site', there', declared⟩ := same.symm.site? there
        exact (admitted site' there').of_same same declared.symm
    | _ => rfl
  exact Bool.eq_iff_iff.2 ⟨all same.symm, all same⟩

end World

namespace Deed

open World

end Deed

namespace World

end World

end InlineCache
