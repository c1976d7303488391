/-
# InlineCache.Proofs.Scenes -- what the calls of the scenarios come to

Each scenario makes calls of its own kind: a sum, a count of corners, a variable read and
written, and names that nobody defines.  On a stage the name resolves to the role that the
scenario has given out, so what such a send comes to can be computed once, without regard
to what went before.  Through a site the call comes to the same, whatever the settings let
the site cache.

* `send_plus`, `send_corners`, `send_read`, `send_write`, `send_haunt`, `send_raise`: the sends;
* `Yields.send`: a call through a site goes on with what the send comes to, on a stage.
-/
import InlineCache.Proofs.Opening
import InlineCache.Proofs.Programs
import InlineCache.Proofs.Stage

namespace InlineCache

set_option autoImplicit false

/-- Whoever takes any number of arguments takes these. -/
theorem Signature.checkArguments_any (args : List Value) (kwargs : Bool) :
    Signature.any.checkArguments args kwargs = .ok () :=
  (check_eq_ok_iff _ _).2 (by simp [accepts, Signature.any])

/-- A context has missed for the plainest reason after that was noted, or it was never made. -/
theorem World.missingReason_normal {Code Host : Type} (world : World Code Host)
    (context : ContextRef) :
    ((world.setMissingReason context .normal).context context).missingReason = .normal := by
  simp only [setMissingReason, modifyContext, World.context, Contexts.get_modify]
  split
  · rfl
  · rename_i unmade
    simp only [true_and, Nat.not_lt] at unmade
    simp [Contexts.get, Array.getElem?_eq_none unmade]

theorem World.missingReason_setKwargs {Code Host : Type} (world : World Code Host)
    (context other : ContextRef) (kwargs : Bool) :
    ((world.setKwargs context kwargs).context other).missingReason =
      (world.context other).missingReason :=
  about_modifyContext Context.missingReason world context other fun _ => rfl

/-- A miss for the plainest reason raises that the method is undefined. -/
theorem World.raiseMissing_of_normal {Code Host : Type} {world : World Code Host}
    {context : ContextRef} (plain : (world.context context).missingReason = .normal)
    (receiver : Value) (name : String) (args : List Value) :
    world.raiseMissing context receiver (.symbol name :: args) =
      (.error (.undefinedMethod name receiver.describe),
        world.setMissingReason context .normal) := by
  simp only [raiseMissing, takeMissingReason, plain]

namespace World

variable {Code Host : Type} {world after : World Code Host}

/-- Nothing is done to a world but in its contexts. -/
def Idle (world after : World Code Host) : Prop := ∃ contexts, after = { world with contexts }

namespace Idle

theorem refl (world : World Code Host) : Idle world world := ⟨world.contexts, rfl⟩

theorem modifyContext (idle : Idle world after) (context : ContextRef)
    (change : Context → Context) : Idle world (after.modifyContext context change) := by
  obtain ⟨contexts, rfl⟩ := idle
  exact ⟨_, rfl⟩

theorem scenery (idle : Idle world after) : after.scenery = world.scenery := by
  obtain ⟨contexts, rfl⟩ := idle
  rfl

theorem getVariable (idle : Idle world after) (object : ObjectRef) (name : String) :
    after.getVariable object name = world.getVariable object name := by
  obtain ⟨contexts, rfl⟩ := idle
  rfl

end Idle

end World

/-- Variables are no scenery. -/
theorem World.scenery_setVariable {Code Host : Type} (world : World Code Host)
    (object : ObjectRef) (name : String) (value : Value) :
    (world.setVariable object name value).scenery = world.scenery := by
  simp only [World.scenery, World.facade, World.setVariable, accessorForWrite, writeObject,
    Objects.bare_set, Types.unlaid_accessorForWrite]

namespace Demo

open World

variable {options : Options} {rounds : Nat} {world : DemoWorld}
  {type owner : TypeRef} {method : Method DemoCode} {context : ContextRef}

/-! ## What names resolve to -/

namespace Staged

theorem found?_lookup (staged : Staged options rounds world) (type : TypeRef) (name : String) :
    (world.lookup type name).found?.map (fun entry => (entry.method, entry.owner)) =
      (world.types.search? type name).filter fun found => !found.1.isUndefined := by
  rw [← Types.finds?_eq, Types.finds?, World.lookup, staged.rule]

theorem found (staged : Staged options rounds world) (role : Role)
    (searched : world.types.search? type role.name = some (method, owner))
    (played : role.PlayedBy method) :
    ∃ entry, (world.lookup type role.name).found? = some entry ∧ role.PlayedBy entry.method := by
  have found := staged.found?_lookup type role.name
  rw [searched, Option.filter_some, played.isUndefined] at found
  obtain ⟨entry, there, same⟩ := Option.map_eq_some_iff.1 found
  cases same
  exact ⟨entry, there, played⟩

theorem callable (staged : Staged options rounds world) (role : Role)
    (searched : world.types.search? type role.name = some (method, owner))
    (played : role.PlayedBy method) (public_ : role.isPrivate = false) :
    ∃ entry, world.resolveSend type role.name .normal = .callable entry ∧
      role.PlayedBy entry.method := by
  obtain ⟨entry, found, played⟩ := staged.found role searched played
  refine ⟨entry, resolveSend_of_callable found ?_, played⟩
  rw [CallType.mayCall, played.visibility, public_]
  rfl

/-- What nobody plays goes to the handler of missing methods. -/
theorem missing (staged : Staged options rounds world) (role : Role) {name : String}
    (nobody : world.types.search? type name = none)
    (searched : world.types.search? type role.name = some (method, owner))
    (played : role.PlayedBy method) (handles : role.name = methodMissing) :
    ∃ handler, world.resolveSend type name .normal = .missing .normal (some handler) ∧
      role.PlayedBy handler.method := by
  obtain ⟨handler, found, played⟩ := staged.found role searched played
  have absent := staged.found?_lookup type name
  rw [nobody, Option.filter_none, Option.map_eq_none_iff] at absent
  refine ⟨handler, ?_, played⟩
  have none_ : ∀ entry, (world.lookup type name).found? = some entry →
      CallType.mayCall .normal entry.method = false := by
    intro entry there
    cases absent.symm.trans there
  rw [resolveSend_of_missing none_, absent, ← handles, found]
  rfl

end Staged

/-! ## Sends -/

section Sends

variable {entry : CacheEntry DemoCode}

theorem send_plus (context : ContextRef) (a b : Int64)
    (resolved : world.resolveSend TypeRef.integer "+" .normal = .callable entry)
    (played : Role.plus.PlayedBy entry.method) :
    ∃ after, send DemoCode.perform context "+" .normal { receiver := .int a, args := [.int b] }
      world = (.ok (.int (a + b)), after) ∧ Idle world after := by
  simp only [send, Value.typeOf, resolved, callMethod, played.body, Role.implementation, callNative]
  rw [checked_of_accepts (Signature.checkArguments_of_accepted rfl _)]
  exact ⟨_, rfl, ((Idle.refl world).modifyContext _ _).modifyContext _ _⟩

theorem send_corners (context : ContextRef) (receiver : Value)
    (resolved : world.resolveSend receiver.typeOf "corners" .normal = .callable entry)
    (played : Role.corners.PlayedBy entry.method) :
    ∃ after, send DemoCode.perform context "corners" .normal { receiver } world =
      (.ok (.int (DemoCode.cornerCount receiver)), after) ∧ Idle world after := by
  simp only [send, resolved, callMethod, played.body, Role.implementation, cornersMethod,
    callCompiled]
  rw [checked_of_accepts (Signature.checkArguments_of_accepted rfl _)]
  exact ⟨_, rfl, (((Idle.refl world).modifyContext _ _).modifyContext _ _).modifyContext _ _⟩

theorem send_read (context : ContextRef) {target : ObjectRef}
    (resolved : world.resolveSend target.type "x" .normal = .callable entry)
    (played : Role.read.PlayedBy entry.method) :
    ∃ after, send DemoCode.perform context "x" .normal { receiver := .object target } world =
      (.ok ((world.getVariable target "@x").getD .nil), after) ∧ Idle world after := by
  simp only [send, Value.typeOf, resolved, callMethod, played.body, Role.implementation]
  exact ⟨_, rfl, (Idle.refl world).modifyContext _ _⟩

theorem send_write (context : ContextRef) {target : ObjectRef} (value : Value)
    (resolved : world.resolveSend target.type "x=" .normal = .callable entry)
    (played : Role.write.PlayedBy entry.method) :
    send DemoCode.perform context "x=" .normal { receiver := .object target, args := [value] }
      world = (.ok value, (world.setKwargs context false).setVariable target "@x" value) := by
  simp only [send, Value.typeOf, resolved, callMethod, played.body, Role.implementation]
  rfl

/-- A ghost gives back what it was sent. -/
theorem send_haunt (context : ContextRef) (receiver : Value) {name : String} (args : List Value)
    (resolved : world.resolveSend receiver.typeOf name .normal = .missing .normal (some entry))
    (played : Role.haunt.PlayedBy entry.method) :
    ∃ after, send DemoCode.perform context name .normal { receiver, args } world =
      (.ok (.array (.symbol name :: args)), after) ∧ Idle world after := by
  simp only [send, resolved, callMissing, callMethod, played.body, Role.implementation, callNative]
  have accepts : (NativeMethod.create (.code DemoCode.echo) [.values]).signature = .any := rfl
  rw [accepts, checked_of_accepts (Signature.checkArguments_any _ _)]
  exact ⟨_, rfl, (((Idle.refl world).modifyContext _ _).modifyContext _ _).modifyContext _ _⟩

/-- Everyone else raises. -/
theorem send_raise (context : ContextRef) (receiver : Value) {name : String} (args : List Value)
    (resolved : world.resolveSend receiver.typeOf name .normal = .missing .normal (some entry))
    (played : Role.raise.PlayedBy entry.method) :
    ∃ after, send DemoCode.perform context name .normal { receiver, args } world =
      (.error (.undefinedMethod name receiver.describe), after) ∧ Idle world after := by
  simp only [send, resolved, callMissing, callMethod, played.body, Role.implementation,
    defaultMissing, callNative]
  have accepts : ∀ body : NativeBody DemoCode,
      (NativeMethod.create body [.context, .values]).signature = .any := fun _ => rfl
  rw [accepts, checked_of_accepts (Signature.checkArguments_any _ _)]
  have plain : ((((world.setMissingReason context .normal).setKwargs context false).setKwargs
      context false).context context).missingReason = .normal := by
    rw [missingReason_setKwargs, missingReason_setKwargs, missingReason_normal]
  exact ⟨_, raiseMissing_of_normal plain receiver name args,
    ((((Idle.refl world).modifyContext _ _).modifyContext _ _).modifyContext _ _).modifyContext _ _⟩

end Sends

/-! ## Calls through sites -/

/-- A site that a scenario has written: its name, and how many arguments it passes. -/
def written (name : String) (count? : Option Nat) : CallSite DemoCode :=
  .create name { argCount := (count?.map Int.ofNat).getD (-1) } .normal

/-- The site is there, whatever it has linked by now. -/
def Sited (world : DemoWorld) (ref : SiteRef) (name : String) (count? : Option Nat) : Prop :=
  ∃ site, world.site? ref = some site ∧ site.declared = (written name count?).declared

theorem Sited.kept {after : DemoWorld} {ref : SiteRef} {name : String} {count? : Option Nat}
    (sited : Sited world ref name count?) (keeps : Keeps world after) :
    Sited after ref name count? := by
  obtain ⟨_, there, declared⟩ := sited
  obtain ⟨_, stands, same⟩ := keeps.sites there
  exact ⟨_, stands, same.trans declared⟩

namespace Staged

/-- A class without a role for a name answers as objects do. -/
theorem search?_plain (staged : Staged options rounds world) {name asked : String}
    (class_ : world.class? name = some type) (below : parentName? name = some TypeRef.object.name)
    (bare : ∀ role : Role, role.owner = name ∨ role.owner = TypeRef.object.name →
      role.name ≠ asked) :
    world.types.search? type asked = world.types.search? TypeRef.basicObject asked := by
  rw [staged.cast.search?_under staged.forest class_ below staged.cast.object
      fun role owner => bare role (.inl owner),
    staged.cast.search?_under staged.forest staged.cast.object (by decide) staged.cast.basicObject
      fun role owner => bare role (.inr owner)]

/-- What nobody plays is not found. -/
theorem search?_nobody (staged : Staged options rounds world) {name asked : String}
    (class_ : world.class? name = some type) (below : parentName? name = some TypeRef.object.name)
    (nobody : ∀ role : Role, role.name ≠ asked) : world.types.search? type asked = none := by
  rw [staged.search?_plain class_ below fun role _ => nobody role]
  exact staged.cast.search?_basicObject staged.forest fun role _ => nobody role

/-- An object is called with as many arguments as the site passes. -/
theorem admits_object (staged : Staged options rounds world) {name : String} {target : ObjectRef}
    (class_ : world.class? name = some target.type) {asked : String} {count? : Option Nat}
    {args : List Value} (count : ∀ count, count? = some count → args.length = count) :
    world.Admits (written asked count?) { receiver := .object target, args } where
  live := staged.cast.live class_
  count fixed := by
    cases count? with
    | none => simp [written, CallSite.create] at fixed
    | some passed => exact congrArg Int.ofNat (count passed rfl)
  writer _ _ := ⟨target, rfl⟩

/-- A number is called with another. -/
theorem admits_int (staged : Staged options rounds world) {entry : CacheEntry DemoCode}
    (found : (world.lookup TypeRef.integer "+").found? = some entry)
    (played : Role.plus.PlayedBy entry.method) (a b : Int64) :
    world.Admits (written "+" (some 1)) { receiver := .int a, args := [.int b] } where
  live := staged.cast.live staged.cast.integer
  count _ := rfl
  writer {other name} there writes := by
    cases found.symm.trans there
    cases played.body.symm.trans writes

end Staged

namespace Yields

variable {printed : Array String} {post : Value → DemoState → Prop} {ref : SiteRef}

/-- A call through a site yields what the send of it comes to. -/
theorem send (staged : Staged options rounds world) {name : String} {count? : Option Nat}
    (sited : Sited world ref name count?) {receiver result : Value} {args : List Value}
    (admits : world.Admits (written name count?) { receiver, args }) {sent : DemoWorld}
    (comes : World.send DemoCode.perform context name .normal { receiver, args } world =
      (.ok result, sent)) (kept : sent.scenery = world.scenery)
    (rest : ∀ {after : DemoWorld}, Staged options rounds after → Keeps world after →
      (∀ object name, after.getVariable object name = sent.getVariable object name) →
        post result { world := after, printed }) :
    Yields (Demo.call context ref receiver args) { world, printed } post := by
  obtain ⟨_, there, declared⟩ := sited
  obtain ⟨called, result_, staged, keeps, values⟩ :=
    staged.callSite there declared admits comes kept
  exact .call result_ (rest staged keeps values)

theorem plus (staged : Staged options rounds world)
    (plays : (world.types.ownMethod? TypeRef.integer "+").isSome = true)
    (sited : Sited world ref "+" (some 1)) {a b : Int64}
    (rest : ∀ {after : DemoWorld}, Staged options rounds after → Keeps world after →
      post (.int (a + b)) { world := after, printed }) :
    Yields (Demo.call context ref (.int a) [.int b]) { world, printed } post := by
  obtain ⟨method, searched, played⟩ :=
    staged.cast.search?_own staged.forest .plus staged.cast.integer plays
  obtain ⟨entry, resolved, played⟩ := staged.callable .plus searched played rfl
  obtain ⟨after, sent, idle⟩ := send_plus context a b resolved played
  exact .send staged sited (staged.admits_int (resolveSend_eq_callable resolved) played a b) sent
    idle.scenery fun staged keeps _ => rest staged keeps

/-- A count of the corners of a shape, which its class takes from the one above. -/
theorem corners (staged : Staged options rounds world) {shape : TypeRef}
    (shape_ : world.class? "Shape" = some shape)
    (plays : (world.types.ownMethod? shape "corners").isSome = true) {name : String}
    (polygon : name = "Triangle" ∨ name = "Square") {target : ObjectRef}
    (class_ : world.class? name = some target.type)
    (sited : Sited world ref "corners" (some 0))
    (rest : ∀ {after : DemoWorld}, Staged options rounds after → Keeps world after →
      post (.int (if name = "Square" then 4 else 3)) { world := after, printed }) :
    Yields (Demo.call context ref (.object target) []) { world, printed } post := by
  have below : parentName? name = some "Shape" := by rcases polygon with rfl | rfl <;> decide
  have bare : ∀ role : Role, role.owner = name → role.name ≠ "corners" := by
    rcases polygon with rfl | rfl <;> intro role <;> cases role <;> decide
  obtain ⟨method, searched, played⟩ :=
    staged.cast.search?_own staged.forest .corners shape_ plays
  have above := staged.cast.search?_under staged.forest class_ below shape_ bare
  obtain ⟨entry, resolved, played⟩ := staged.callable .corners (above.trans searched) played rfl
  obtain ⟨after, sent, idle⟩ :=
    send_corners context (.object target) resolved played
  refine .send staged sited (staged.admits_object class_ fun _ none_ => by cases none_; rfl) sent
    idle.scenery fun staged keeps _ => ?_
  have counted : DemoCode.cornerCount (.object target) = if name = "Square" then 4 else 3 := by
    rw [← staged.cast.named (keeps.classes class_)]
    rfl
  rw [counted]
  exact rest staged keeps

theorem read (staged : Staged options rounds world) {target : ObjectRef}
    (class_ : world.class? "Point" = some target.type)
    (plays : (world.types.ownMethod? target.type "x").isSome = true)
    (sited : Sited world ref "x" (some 0))
    (rest : ∀ {after : DemoWorld}, Staged options rounds after → Keeps world after →
      (∀ object name, after.getVariable object name = world.getVariable object name) →
        post ((world.getVariable target "@x").getD .nil) { world := after, printed }) :
    Yields (Demo.call context ref (.object target) []) { world, printed } post := by
  obtain ⟨method, searched, played⟩ :=
    staged.cast.search?_own staged.forest .read class_ plays
  obtain ⟨entry, resolved, played⟩ := staged.callable .read searched played rfl
  obtain ⟨after, sent, idle⟩ := send_read context resolved played
  exact .send staged sited (staged.admits_object class_ fun _ none_ => by cases none_; rfl) sent
    idle.scenery fun staged keeps values =>
      rest staged keeps fun object name => (values object name).trans (idle.getVariable object name)

theorem write (staged : Staged options rounds world) {target : ObjectRef}
    (class_ : world.class? "Point" = some target.type)
    (plays : (world.types.ownMethod? target.type "x=").isSome = true)
    (made : (world.objects.find? target).isSome = true)
    (sited : Sited world ref "x=" (some 1)) {value : Value}
    (rest : ∀ {after : DemoWorld}, Staged options rounds after → Keeps world after →
      after.getVariable target "@x" = some value → post value { world := after, printed }) :
    Yields (Demo.call context ref (.object target) [value]) { world, printed } post := by
  obtain ⟨method, searched, played⟩ :=
    staged.cast.search?_own staged.forest .write class_ plays
  obtain ⟨entry, resolved, played⟩ := staged.callable .write searched played rfl
  have sent := send_write context value resolved played
  refine .send staged sited (staged.admits_object class_ fun _ one => by cases one; rfl) sent ?_
    fun staged' keeps values => rest staged' keeps ?_
  · rw [scenery_setVariable]
    rfl
  · have sound : (world.setKwargs context false).Sound Proper :=
      staged.sound.modifyContext context _
    obtain ⟨object, there⟩ := Option.isSome_iff_exists.1 made
    have found : (world.setKwargs context false).objects.find? target = some object := there
    rw [values, getVariable_setVariable sound, if_pos ⟨rfl, rfl⟩, found, Option.map_some]

/-- A name that nobody defines, sent to a ghost. -/
theorem haunt (staged : Staged options rounds world) {target : ObjectRef}
    (class_ : world.class? "Ghost" = some target.type)
    (plays : (world.types.ownMethod? target.type methodMissing).isSome = true)
    {name : String} (nobody : ∀ role : Role, role.name ≠ name)
    (sited : Sited world ref name none) {args : List Value}
    (rest : ∀ {after : DemoWorld}, Staged options rounds after → Keeps world after →
      post (.array (.symbol name :: args)) { world := after, printed }) :
    Yields (Demo.call context ref (.object target) args) { world, printed } post := by
  obtain ⟨method, searched, played⟩ :=
    staged.cast.search?_own staged.forest .haunt class_ plays
  obtain ⟨handler, resolved, played⟩ :=
    staged.missing .haunt (staged.search?_nobody class_ (by decide) nobody) searched played rfl
  obtain ⟨after, sent, idle⟩ :=
    send_haunt context (.object target) args resolved played
  exact .send staged sited (staged.admits_object class_ fun _ none_ => by cases none_) sent
    idle.scenery fun staged keeps _ => rest staged keeps

end Yields

/-- A name that nobody defines, sent to anyone else, is a fault. -/
theorem outcome_raise (staged : Staged options rounds world) {target : ObjectRef}
    (class_ : world.class? "Plain" = some target.type) {name : String}
    (nobody : ∀ role : Role, role.name ≠ name) {ref : SiteRef}
    (sited : Sited world ref name none) (args : List Value) (printed : Array String) :
    ∃ after, Staged options rounds after ∧
      (Demo.call context ref (.object target) args).outcome { world, printed } =
        (.error (.undefinedMethod name "an instance of Plain"), { world := after, printed }) := by
  obtain ⟨method, searched, played⟩ :=
    staged.cast.search?_own staged.forest .raise staged.cast.basicObject staged.cast.raises
  have bare : ∀ role : Role, role.owner = "Plain" ∨ role.owner = TypeRef.object.name →
      role.name ≠ methodMissing := by
    intro role
    cases role <;> decide
  have above := staged.search?_plain class_ (by decide) bare
  obtain ⟨handler, resolved, played⟩ := staged.missing .raise
    (staged.search?_nobody class_ (by decide) nobody) (above.trans searched) played rfl
  obtain ⟨after, sent, idle⟩ :=
    send_raise context (.object target) args resolved played
  obtain ⟨_, there, declared⟩ := sited
  obtain ⟨after', called, staged', -, -⟩ := staged.callSite there declared
    (staged.admits_object class_ fun _ none_ => by cases none_) sent idle.scenery
  have described : (Value.object target).describe = "an instance of Plain" :=
    (congrArg ("an instance of " ++ ·) (staged.cast.named class_)).trans (by decide)
  rw [described] at called
  exact ⟨after', staged', outcome_call called⟩

end Demo

end InlineCache
