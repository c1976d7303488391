/-
# InlineCache.Proofs.Facade -- what a program sees of a world

A program does not see what its call sites have cached, where variables are kept, or
what was logged.  What is left is the *facade* of a world, and the values of its
instance variables; worlds that agree on both are the same to a program
(`World.Same`).

* `Same.link`: linking a site changes nothing of this;
* `Same.setVariable`: a variable written in two such worlds leaves two such worlds;
* `Same.resolveSend`: and a name resolves alike in both.
-/
import InlineCache.Proofs.Calls

namespace InlineCache

set_option autoImplicit false

variable {Code Host : Type}

/-- The objects without their variables. -/
def Objects.bare (table : Objects) : Objects :=
  { table with objects := table.objects.map fun state => { type := state.type } }

theorem Objects.find?_bare (table : Objects) (object : ObjectRef) :
    table.bare.find? object = (table.find? object).map fun state => { type := state.type } := by
  simp only [bare, find?, Array.getElem?_map]
  cases table.objects[object.id]? with
  | none => rfl
  | some state => by_cases its : state.type = object.type <;> simp [Option.filter, its]

/-- Writing a variable makes no object and changes no type. -/
theorem Objects.bare_set (table : Objects) (object : ObjectRef) (accessor : VariableAccessor)
    (value : Value) : (table.set object accessor value).bare = table.bare := by
  simp only [bare, set, mk.injEq]
  refine Array.ext_getElem? fun place => ?_
  simp only [Array.getElem?_map, Array.getElem?_modify]
  split
  · cases table.objects[place]? with
    | none => rfl
    | some state => by_cases its : state.type = object.type <;> simp [its]
  · rfl

namespace World

/-- What a program sees of a world, instance variables apart. -/
def facade (world : World Code Host) : World Code Host :=
  { world with
      log := #[]
      types := world.types.unlaid
      objects := world.objects.bare
      sites := world.sites.map CallSite.declared }

/-- **Two worlds that a program cannot tell apart.** -/
structure Same (world other : World Code Host) : Prop where
  facade : other.facade = world.facade
  values : ∀ (object : ObjectRef) (name : String),
    other.getVariable object name = world.getVariable object name

variable {proper : CompiledMethod Code → Prop} {world other after : World Code Host}

theorem getVariable_setVariable (sound : world.Sound proper) (object other : ObjectRef)
    (name asked : String) (value : Value) :
    (world.setVariable object name value).getVariable other asked =
      if other = object ∧ asked = name then (world.objects.find? object).map fun _ => value
      else world.getVariable other asked := by
  have place := world.types.accessorForRead_accessorForWrite object.type name
  have written := Objects.get?_set_settled world.objects
    (world.types.accessorForWrite object.type name).2 object other name asked value
  rw [place, sound.fits.get?_laidOut] at written
  exact written

namespace Same

theorem refl (world : World Code Host) : Same world world := ⟨rfl, fun _ _ => rfl⟩

theorem symm (same : Same world other) : Same other world :=
  ⟨same.facade.symm, fun object name => (same.values object name).symm⟩

theorem trans (same : Same world other) (further : Same other after) : Same world after :=
  ⟨further.facade.trans same.facade,
    fun object name => (further.values object name).trans (same.values object name)⟩

theorem contexts (same : Same world other) : other.contexts = world.contexts :=
  (congrArg (fun world : World Code Host => world.contexts) same.facade :)

theorem globals (same : Same world other) : other.globals = world.globals :=
  (congrArg (fun world : World Code Host => world.globals) same.facade :)

theorem lookup (same : Same world other) (type : TypeRef) (name : String) :
    other.lookup type name = world.lookup type name := by
  have seen : ∀ world : World Code Host,
      world.facade.lookup type name = world.lookup type name := by
    intro world
    simp only [World.lookup, World.facade, Types.lookup, Types.resolve?,
      Types.methodTables_unlaid, Types.switchPoint_unlaid]
  rw [← seen, same.facade, seen]

theorem resolveSend (same : Same world other) (type : TypeRef) (name : String)
    (callType : CallType) :
    other.resolveSend type name callType = world.resolveSend type name callType := by
  simp only [World.resolveSend, same.lookup]

theorem isLive (same : Same world other) (type : TypeRef) :
    other.types.isLive type = world.types.isLive type := by
  have equal := congrArg (fun world : World Code Host => world.types.isLive type) same.facade
  simpa only [World.facade, Types.isLive_unlaid] using equal

theorem site? (same : Same world other) {ref : SiteRef} {site : CallSite Code}
    (there : world.site? ref = some site) :
    ∃ site', other.site? ref = some site' ∧ site'.declared = site.declared := by
  have equal := congrArg (fun world : World Code Host => world.site? ref) same.facade
  simp only [World.facade, World.site?, Array.getElem?_map] at equal
  rw [show world.sites[ref.index]? = some site from there] at equal
  exact Option.map_eq_some_iff.1 equal

theorem compiledBody? (same : Same world other) (method : Method Code) :
    other.types.compiledBody? method = world.types.compiledBody? method :=
  (congrArg (fun world : World Code Host => world.types.compiledBody? method) same.facade :)

/-- Contexts are seen, and nothing else depends on them. -/
theorem modifyContext (same : Same world other) (context : ContextRef)
    (change : Context → Context) :
    Same (world.modifyContext context change) (other.modifyContext context change) where
  facade := (congrArg (fun world : World Code Host => world.modifyContext context change)
    same.facade :)
  values := same.values

/-- A write to a variable is seen as what it is. -/
theorem setVariable (same : Same world other) (sound : world.Sound proper)
    (sound' : other.Sound proper) (object : ObjectRef) (name : String) (value : Value) :
    Same (world.setVariable object name value) (other.setVariable object name value) where
  facade := by
    have seen : ∀ world : World Code Host,
        (world.setVariable object name value).facade = world.facade := by
      intro world
      simp only [World.setVariable, accessorForWrite, writeObject, World.facade, Objects.bare_set,
        Types.unlaid_accessorForWrite]
    rw [seen, seen, same.facade]
  values target asked := by
    have there : (other.objects.find? object).map (fun _ => value) =
        (world.objects.find? object).map fun _ => value := by
      have bare := congrArg (fun world : World Code Host =>
        (world.objects.find? object).map fun _ => value) same.facade
      simpa only [World.facade, Objects.find?_bare, Option.map_map, Function.comp_def] using bare
    rw [getVariable_setVariable sound, getVariable_setVariable sound', there, same.values]

/-- Laying out a variable is not seen. -/
theorem of_laysOut (sound : world.Sound proper) (lays : LaysOut world after) : Same world after := by
  cases lays with
  | nothing log => exact ⟨rfl, fun _ _ => rfl⟩
  | name type name log =>
      refine ⟨?_, fun object asked => sound.fits.get?_laidOut type name object asked⟩
      simp only [World.facade, accessorForWrite, Types.unlaid_accessorForWrite]

/-- **Linking a site is not seen.** -/
theorem link (sound : world.Sound proper) {ref : SiteRef} {site : CallSite Code}
    (there : world.site? ref = some site) (type : TypeRef) :
    Same world (world.link ref site type).2 := by
  obtain ⟨_, after, linked, result, lays, declared, _⟩ := world.link_spec ref site type
  rw [result]
  refine (of_laysOut sound lays).trans ⟨?_, fun _ _ => rfl⟩
  have sites : (after.sites.modify ref.index fun _ => linked).map CallSite.declared =
      after.sites.map CallSite.declared := by
    refine Array.ext_getElem? fun place => ?_
    simp only [Array.getElem?_map, Array.getElem?_modify]
    split
    · rename_i here
      rw [← here, lays.sites, show world.sites[ref.index]? = some site from there]
      exact congrArg some declared
    · rfl
  simp only [World.facade, World.modifySite, sites]

end Same

end World

end InlineCache
