/-
# InlineCache.Proofs.Evolution -- what happens to a world, and what it keeps

A world goes on by steps (`World.Step`): its types are changed, objects are made and their
variables written, call sites are made and linked, and whatever else happens leaves types,
objects and sites alone.  A program *evolves* a world when it goes by such steps.

`World.Sound` is what every step keeps: above all, that every entry of every chain whose
token is valid is coherent for the types it is guarded for.
-/
import InlineCache.Proofs.Binding
import Mathlib.Logic.Relation

namespace InlineCache.World

set_option autoImplicit false

variable {Code Host : Type}

/-- The types of a world with its switch points. -/
def registry (world : World Code Host) : Registry Code :=
  { types := world.types, points := world.points }

def change (world : World Code Host) (change : Change Code) : World Code Host :=
  { world with
      types := (world.registry.apply change).types
      points := (world.registry.apply change).points }

/-- One step of a world, whose compiled bodies are all `proper`.  A method is given to one
type once; objects are made and sites linked for a type while something refers to it. -/
inductive Step (proper : CompiledMethod Code → Prop) :
    World Code Host → World Code Host → Prop where
  | change (world : World Code Host) {change : Change Code}
      (loose : ∀ target method, change = .define target method →
        world.types.Loose world.nextSerial method)
      (brings : ∀ body, change.body? = some body → proper body) :
      Step proper world (world.change change)
  | object (world : World Code Host) {type : TypeRef} (live : world.types.isLive type = true) :
      Step proper world (world.createObject type).2
  | write (world : World Code Host) (object : ObjectRef) (name : String) (value : Value) :
      Step proper world (world.setVariable object name value)
  | layout (world : World Code Host) (type : TypeRef) (name : String) :
      Step proper world (world.accessorForWrite type name).2
  | site (world : World Code Host) (name : String) (shape : CallShape) (callType : CallType) :
      Step proper world (world.createSite (.create name shape callType)).2
  | link (world : World Code Host) {ref : SiteRef} {site : CallSite Code} {type : TypeRef}
      (there : world.site? ref = some site) (live : world.types.isLive type = true) :
      Step proper world (world.link ref site type).2
  | elsewhere {world after : World Code Host} (options : after.options = world.options)
      (rule : after.rule = world.rule) (types : after.types = world.types)
      (objects : after.objects = world.objects) (sites : after.sites = world.sites)
      (serial : world.nextSerial ≤ after.nextSerial) (ages : world.points.Ages after.points) :
      Step proper world after

abbrev Evolves (proper : CompiledMethod Code → Prop) :
    World Code Host → World Code Host → Prop :=
  Relation.ReflTransGen (Step proper)

/-! ## The invariant -/

/-- An entry of a chain is guarded by a switch point and a type that were made, and is
coherent for that type as long as the switch point is valid and the type is there. -/
structure Faithful (world : World Code Host) (site : CallSite Code) (guard : TypeGuard)
    (bound : BoundThunk Code) : Prop where
  known : guard.token.index < world.points.points.size
  made : guard.typeId < world.types.types.size
  coherent : ∀ {type : TypeRef}, type.id = guard.typeId → world.types.isLive type = true →
    world.points.isValid guard.token = true →
      guard.token = world.types.switchPoint type ∧ world.Coherent site type bound

/-- **What every step keeps.** -/
structure Sound (proper : CompiledMethod Code → Prop) (world : World Code Host) : Prop where
  tracked : world.registry.Tracked
  serials : world.types.Serials world.nextSerial
  bodies : world.types.Bodies proper
  fits : world.objects.Fits world.types
  faithful : ∀ {ref : SiteRef} {site : CallSite Code} {guard : TypeGuard}
    {bound : BoundThunk Code}, world.site? ref = some site →
      (guard, bound) ∈ site.target.load.entries → world.Faithful site guard bound

/-- What entries rest on is undone by flipping their switch points only. -/
structure Carries (before after : World Code Host) : Prop where
  options : after.options = before.options
  rule : after.rule = before.rule
  ages : before.points.Ages after.points
  stays : ∀ {type : TypeRef} {its : TypeState Code}, before.types.get? type = some its →
    ∃ its', after.types.get? type = some its' ∧ (its'.live = true → its.live = true)
  agree : ∀ {type : TypeRef} {its : TypeState Code}, before.types.get? type = some its →
    after.types.isLive type = true → after.points.isValid its.invalidator.current = true →
      Types.Agree type before.types after.types

variable {proper : CompiledMethod Code → Prop} {world after : World Code Host}
  {site : CallSite Code} {guard : TypeGuard} {bound : BoundThunk Code}

theorem Faithful.carried (faithful : world.Faithful site guard bound)
    (carries : Carries world after) : after.Faithful site guard bound where
  known := Nat.lt_of_lt_of_le faithful.known carries.ages.grows
  made := by
    obtain ⟨its, there⟩ : ∃ its, world.types.get? ⟨guard.typeId, ""⟩ = some its :=
      ⟨_, Array.getElem?_eq_getElem faithful.made⟩
    obtain ⟨_, stands, _⟩ := carries.stays there
    exact Types.lt_size_of_get? stands
  coherent {type} same live valid := by
    obtain ⟨its, there⟩ : ∃ its, world.types.get? type = some its :=
      ⟨_, Array.getElem?_eq_getElem (same ▸ faithful.made)⟩
    obtain ⟨_, stands, back⟩ := carries.stays there
    obtain ⟨_, found, lived⟩ := Types.isLive_eq_true_iff.1 live
    cases stands.symm.trans found
    have live' : world.types.isLive type = true :=
      Types.isLive_eq_true_iff.2 ⟨its, there, back lived⟩
    obtain ⟨token, coherent⟩ := faithful.coherent same live'
      (carries.ages.valid faithful.known valid)
    have current : world.types.switchPoint type = its.invalidator.current := by
      simp only [Types.switchPoint, there]
    have agree := carries.agree there live (by rw [← current, ← token]; exact valid)
    exact ⟨token.trans agree.point.symm, coherent.of_agree agree carries.options carries.rule⟩

/-- Only how the site is spelled counts. -/
theorem Faithful.of_declared {other : CallSite Code} (faithful : world.Faithful site guard bound)
    (same : other.declared = site.declared) : world.Faithful other guard bound where
  known := faithful.known
  made := faithful.made
  coherent its live valid :=
    (faithful.coherent its live valid).imp_right fun coherent => coherent.of_declared same

namespace Sound

/-- Sites that are as they were are as good as they were. -/
theorem of_carries (sound : world.Sound proper) (carries : Carries world after)
    (tracked : after.registry.Tracked) (serials : after.types.Serials after.nextSerial)
    (bodies : after.types.Bodies proper) (fits : after.objects.Fits after.types)
    (sites : after.sites = world.sites) : after.Sound proper where
  tracked := tracked
  serials := serials
  bodies := bodies
  fits := fits
  faithful there member := by
    rw [site?, sites] at there
    exact (sound.faithful there member).carried carries

/-- A site whose entries are faithful takes the place of another. -/
theorem modifySite (sound : world.Sound proper) {ref : SiteRef} {linked : CallSite Code}
    (faithful : ∀ {guard bound}, (guard, bound) ∈ linked.target.load.entries →
      world.Faithful linked guard bound) : (world.modifySite ref fun _ => linked).Sound proper where
  tracked := sound.tracked
  serials := sound.serials
  bodies := sound.bodies
  fits := sound.fits
  faithful {ref' site' _ _} there member := by
    simp only [site?, World.modifySite, Array.getElem?_modify] at there
    have still : ∀ {guard bound}, world.Faithful site' guard bound →
        (world.modifySite ref fun _ => linked).Faithful site' guard bound :=
      fun faithful => ⟨faithful.known, faithful.made, faithful.coherent⟩
    split at there
    · obtain ⟨_, _, rfl⟩ := Option.map_eq_some_iff.1 there
      exact still (faithful member)
    · exact still (sound.faithful there member)

theorem of_types (sound : world.Sound proper) (options : after.options = world.options)
    (rule : after.rule = world.rule) (types : after.types = world.types)
    (fits : after.objects.Fits after.types) (sites : after.sites = world.sites)
    (serial : world.nextSerial ≤ after.nextSerial) (ages : world.points.Ages after.points) :
    after.Sound proper := by
  refine sound.of_carries ⟨options, rule, ages, ?_, ?_⟩ ⟨?_, ?_⟩ ?_ (types ▸ sound.bodies) fits sites
  · rw [types]
    exact fun there => ⟨_, there, id⟩
  · rw [types]
    exact fun _ _ _ => .refl _ _
  · have forest : after.types.Forest := types ▸ sound.tracked.forest
    exact forest
  · intro type its there
    have there : world.types.get? type = some its := types ▸ (there : after.types.get? type = _)
    exact Nat.lt_of_lt_of_le (sound.tracked.known there) ages.grows
  · rw [types]
    exact ⟨fun found => Nat.lt_of_lt_of_le (sound.serials.below found) serial, sound.serials.apart⟩

/-- A world whose types were changed, by no definition or by that of a new method. -/
theorem of_change (sound : world.Sound proper) (change : Change Code)
    (registry : after.registry = world.registry.apply change)
    (options : after.options = world.options) (rule : after.rule = world.rule)
    (objects : after.objects = world.objects) (sites : after.sites = world.sites)
    (serial : world.nextSerial ≤ after.nextSerial)
    (loose : ∀ target method, change = .define target method →
      world.types.Loose after.nextSerial method)
    (brings : ∀ body, change.body? = some body → proper body) : after.Sound proper := by
  have types : after.types = (world.registry.apply change).types := congrArg Registry.types registry
  have points : after.points = (world.registry.apply change).points :=
    congrArg Registry.points registry
  have carries := Registry.carries_apply sound.tracked change
  refine sound.of_carries ⟨options, rule, points ▸ carries.ages, ?_, ?_⟩ ?_ ?_ ?_ ?_ sites
  · intro type its there
    obtain ⟨_, stands, _, _, back⟩ := carries.kept there
    exact ⟨_, types ▸ stands, back⟩
  · rw [types, points]
    exact Registry.agree_apply sound.tracked sound.serials change
  · exact registry ▸ Registry.tracked_apply sound.tracked change
  · exact types ▸ Registry.serials_apply sound.tracked sound.serials serial change loose
  · exact types ▸ Registry.bodies_apply sound.tracked sound.bodies change brings
  · rw [objects, types]
    exact sound.fits.of_layout fun there =>
      (carries.kept there).imp fun _ stands => ⟨stands.1, stands.2.1, stands.2.2.1⟩

theorem accessorForWrite (sound : world.Sound proper) (type : TypeRef) (name : String) :
    (world.accessorForWrite type name).2.Sound proper := by
  have same := world.types.unlaid_accessorForWrite type name
  refine sound.of_carries ⟨rfl, rfl, .refl _, fun {other its} there => ?_, fun {other _} _ _ _ => ?_⟩
    (sound.tracked.of_unlaid rfl same) (sound.serials.of_unlaid same) (sound.bodies.of_unlaid same)
    (sound.fits.accessorForWrite type name) rfl
  · have equal : ((world.accessorForWrite type name).2.types.get? other).map TypeState.live =
        (world.types.get? other).map TypeState.live :=
      Types.map_get?_of_unlaid same (fun _ => rfl) other
    rw [there] at equal
    obtain ⟨_, stands, lives⟩ := Option.map_eq_some_iff.1 equal
    exact ⟨_, stands, fun live => lives ▸ live⟩
  · exact Types.agree_accessorForWrite world.types other type name

theorem laysOut (sound : world.Sound proper) (lays : LaysOut world after) : after.Sound proper := by
  cases lays with
  | nothing log =>
      exact sound.of_types rfl rfl rfl sound.fits rfl (Nat.le_refl _) (.refl _)
  | name type name log =>
      have laid := sound.accessorForWrite type name
      exact laid.of_types rfl rfl rfl laid.fits rfl (Nat.le_refl _) (.refl _)

theorem writeObject (sound : world.Sound proper) {object : ObjectRef} {name : String}
    (settled : world.types.Settled object.type name) (value : Value) :
    (world.writeObject object (world.types.accessorForRead object.type name) value).Sound proper :=
  sound.of_types rfl rfl rfl (sound.fits.set settled value) rfl (Nat.le_refl _) (.refl _)

theorem setVariable (sound : world.Sound proper) (object : ObjectRef) (name : String)
    (value : Value) : (world.setVariable object name value).Sound proper := by
  have laid := sound.accessorForWrite object.type name
  have settled : (world.accessorForWrite object.type name).2.types.Settled object.type name :=
    world.types.settled_accessorForWrite object.type name
  have place : (world.accessorForWrite object.type name).2.types.accessorForRead object.type name =
      (world.accessorForWrite object.type name).1 :=
    world.types.accessorForRead_accessorForWrite object.type name
  have written := laid.writeObject settled value
  rw [place] at written
  exact written

theorem createObject (sound : world.Sound proper) {type : TypeRef}
    (live : world.types.isLive type = true) : (world.createObject type).2.Sound proper := by
  obtain ⟨_, there, _⟩ := Types.isLive_eq_true_iff.1 live
  exact sound.of_types rfl rfl rfl (sound.fits.create there _) rfl (Nat.le_refl _) (.refl _)

theorem createSite (sound : world.Sound proper) (name : String) (shape : CallShape)
    (callType : CallType) : (world.createSite (.create name shape callType)).2.Sound proper where
  tracked := sound.tracked
  serials := sound.serials
  bodies := sound.bodies
  fits := sound.fits
  faithful {_ site _ _} there member := by
    simp only [site?, World.createSite, Array.getElem?_push] at there
    split at there
    · cases there
      exact nomatch member
    · have faithful := sound.faithful there member
      exact ⟨faithful.known, faithful.made, faithful.coherent⟩

/-- **A link keeps chains faithful.** -/
theorem link (sound : world.Sound proper) {ref : SiteRef} {type : TypeRef}
    (there : world.site? ref = some site) (live : world.types.isLive type = true) :
    (world.link ref site type).2.Sound proper := by
  obtain ⟨bound?, after, linked, result, lays, declared, _, entries⟩ := world.link_spec ref site type
  have later := sound.laysOut lays
  rw [result]
  refine later.modifySite fun {guard bound} member => Faithful.of_declared ?_ declared
  rcases entries member with old | ⟨rfl, coherent⟩
  · have still : after.site? ref = some site := by rw [site?, lays.sites]; exact there
    exact later.faithful still old
  · obtain ⟨its, stands, _⟩ := Types.isLive_eq_true_iff.1 live
    have current : world.types.switchPoint type = its.invalidator.current := by
      simp only [Types.switchPoint, stands]
    refine ⟨?_, ?_, fun {other} same _ _ => ⟨?_, coherent.of_id_eq same⟩⟩
    · rw [current, lays.points]
      exact sound.tracked.known stands
    · rw [← after.types.size_unlaid, lays.unlaid, world.types.size_unlaid]
      exact Types.lt_size_of_get? stands
    · rw [(lays.agree other).point]
      simp only [Types.switchPoint, Types.get?_of_id_eq _ same]

/-- **Every step keeps a world sound.** -/
theorem step (sound : world.Sound proper) (step : Step proper world after) :
    after.Sound proper := by
  cases step with
  | change loose brings =>
      exact sound.of_change _ rfl rfl rfl rfl rfl (Nat.le_refl _) loose brings
  | object live => exact sound.createObject live
  | write object name value => exact sound.setVariable object name value
  | layout type name => exact sound.accessorForWrite type name
  | site name shape callType => exact sound.createSite name shape callType
  | link there live => exact sound.link there live
  | elsewhere options rule types objects sites serial ages =>
      exact sound.of_types options rule types (by rw [objects, types]; exact sound.fits) sites
        serial ages

theorem evolves (sound : world.Sound proper) (evolves : Evolves proper world after) :
    after.Sound proper := by
  induction evolves with
  | refl => exact sound
  | tail _ step ih => exact ih.step step

end Sound

theorem evolves_define (sound : world.Sound proper) (target : TypeRef) (name : String)
    (isPrivate : Bool) (implementation : Implementation Code)
    (brings : ∀ body, implementation.body? = some body → proper body) :
    Evolves proper world
      ((world.createMethod name isPrivate implementation).2.change
        (.define target (world.createMethod name isPrivate implementation).1)) := by
  have made : Step proper world (world.createMethod name isPrivate implementation).2 :=
    .elsewhere rfl rfl rfl rfl rfl (Nat.le_succ _) (.refl _)
  refine .tail (.single made) (.change _ (fun _ _ defines => ?_) brings)
  cases defines
  exact sound.serials.loose rfl

end InlineCache.World
