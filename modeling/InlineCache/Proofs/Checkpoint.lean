/-
# InlineCache.Proofs.Checkpoint -- what goes on in a world leaves its checkpoint alone

The switch points of a world stand in one table: one guards each type's methods, one each
global, and one the checkpoint.  `World.Work` is whatever goes on beside the coming and
going, interrupts and polls of threads: types are changed, globals are defined and revoked,
and anything else leaves alone what guards what and the faults that wait.

* `World.Separate`: no switch point guards two things, which holds of a fresh world;
* `World.Separate.work`: so whatever goes on leaves the checkpoint valid, and apart from the
  rest.
-/
import InlineCache.Proofs.Evolution
import InlineCache.Proofs.Globals

namespace InlineCache

set_option autoImplicit false

variable {Code Host : Type}

/-! ## Switch points that go on to hold -/

namespace Registry

variable {types : Types Code} {points later : SwitchPoints} {token : SwitchPoint}

/-- Types stay in order while none of their switch points is flipped. -/
theorem Sound.of_isValid (sound : Sound ⟨types, points⟩)
    (same : ∀ {type : TypeRef} {its : TypeState Code}, types.get? type = some its →
      later.isValid its.invalidator.current = points.isValid its.invalidator.current) :
    Sound ⟨types, later⟩ where
  forest := sound.forest
  guarded := ⟨sound.guarded.again, fun there => (same there).trans (sound.guarded.valid there),
    sound.guarded.apart⟩

theorem Foreign.of_ages (foreign : Foreign ⟨types, points⟩ token) (ages : points.Ages later) :
    Foreign ⟨types, later⟩ token :=
  ⟨Nat.lt_of_lt_of_le foreign.known ages.grows, foreign.apart⟩

/-- A switch point minted later guards no type that was there before. -/
theorem Sound.foreign_of_minted (sound : Sound ⟨types, points⟩)
    (known : token.index < later.points.size) (minted : points.points.size ≤ token.index) :
    Foreign ⟨types, later⟩ token := by
  refine ⟨known, fun {type its} there same => ?_⟩
  have old := SwitchPoints.lt_size_of_isValid (sound.guarded.valid there)
  rw [same] at old
  exact Nat.lt_irrefl _ (Nat.lt_of_lt_of_le old minted)

/-- What guards types stays when a name is laid out. -/
theorem Foreign.of_unlaid {after : Types Code} (foreign : Foreign ⟨types, points⟩ token)
    (same : after.unlaid = types.unlaid) : Foreign ⟨after, points⟩ token := by
  refine ⟨foreign.known, fun {type new} there current => ?_⟩
  have equal : (after.get? type).map TypeState.invalidator =
      (types.get? type).map TypeState.invalidator :=
    Types.map_get?_of_unlaid same (fun _ => rfl) type
  rw [there] at equal
  obtain ⟨old, found, owner⟩ := Option.map_eq_some_iff.1 equal.symm
  exact foreign.apart found ((congrArg Invalidator.current owner).trans current)

theorem Sound.of_unlaid {after : Types Code} (sound : Sound ⟨types, points⟩)
    (same : after.unlaid = types.unlaid) : Sound ⟨after, points⟩ where
  forest := sound.forest.of_skeleton (Types.map_get?_of_unlaid same fun _ => rfl)
  guarded := sound.guarded.of_invalidator (Types.map_get?_of_unlaid same fun _ => rfl)

end Registry

namespace World

variable {world after : World Code Host}

/-! ## What goes on in a world -/

/-- A world with other globals, and what guards them. -/
def withGlobals (world : World Code Host) (table : Globals Code × SwitchPoints) :
    World Code Host :=
  { world with globals := table.1, points := table.2 }

/-- **What goes on in a world** beside the coming and going, interrupts and polls of
threads. -/
inductive Work : World Code Host → World Code Host → Prop where
  | change (world : World Code Host) (change : Change Code) : Work world (world.change change)
  | define (world : World Code Host) (name : String) (scope : GlobalScope) :
      Work world (world.withGlobals (world.globals.define name scope world.points))
  | revoke (world : World Code Host) (name : String) :
      Work world (world.withGlobals (world.globals.invalidate name world.points))
  | elsewhere {world after : World Code Host} (types : after.types.unlaid = world.types.unlaid)
      (globals : ∀ name, after.globals.switchPoint? name = world.globals.switchPoint? name)
      (points : after.points = world.points) (checkpoint : after.checkpoint = world.checkpoint)
      (lives : ∀ context, after.contexts.isLive context = world.contexts.isLive context)
      (queues : ∀ context, (after.context context).pending = (world.context context).pending) :
      Work world after

theorem Work.contexts (work : Work world after) (context : ContextRef) :
    after.contexts.isLive context = world.contexts.isLive context ∧
      (after.context context).pending = (world.context context).pending := by
  cases work with
  | elsewhere types globals points checkpoint lives queues => exact ⟨lives context, queues context⟩
  | _ => exact ⟨rfl, rfl⟩

/-! ## What guards what -/

/-- **No switch point guards two things**: a type and a global, or one of these and the
checkpoint. -/
structure Separate (world : World Code Host) : Prop where
  again : world.checkpoint.repeatable = true
  valid : world.points.isValid world.checkpoint.current = true
  types : world.registry.Sound
  globals : world.globals.Guarded world.points
  checkpoint : world.registry.Foreign world.checkpoint.current
  foreign : ∀ {name : String} {token : SwitchPoint},
    world.globals.switchPoint? name = some token → world.registry.Foreign token
  spared : ∀ name, world.globals.switchPoint? name ≠ some world.checkpoint.current

namespace Separate

/-- Whatever is done to the types flips switch points of types only. -/
theorem of_apply (separate : world.Separate) (change : Change Code)
    (registry : after.registry = world.registry.apply change)
    (globals : after.globals = world.globals) (checkpoint : after.checkpoint = world.checkpoint) :
    after.Separate := by
  have points : after.points = (world.registry.apply change).points :=
    congrArg Registry.points registry
  have kept := separate.checkpoint.apply separate.types change
  have ages := (Registry.leaves_apply separate.types ⟨0, ""⟩ change).ages
  refine ⟨?_, ?_, ?_, ?_, ?_, fun {name token} there => ?_, fun name => ?_⟩
  · rw [checkpoint]
    exact separate.again
  · rw [points, checkpoint]
    exact kept.2.trans separate.valid
  · rw [registry]
    exact Registry.sound_apply separate.types change
  · rw [points]
    exact separate.globals.of_switchPoint? (fun name => by rw [globals]) ages.grows
  · rw [registry, checkpoint]
    exact kept.1
  · rw [registry]
    exact ((separate.foreign (globals ▸ there)).apply separate.types change).1
  · rw [globals, checkpoint]
    exact separate.spared name

/-- A global that is new gets a switch point of its own. -/
theorem define (separate : world.Separate) (name : String) (scope : GlobalScope) :
    (world.withGlobals (world.globals.define name scope world.points)).Separate := by
  have known := SwitchPoints.lt_size_of_isValid separate.valid
  have ages := world.globals.ages_define name scope world.points
  have guarded := separate.globals.define name scope
  refine ⟨separate.again, (Globals.isValid_define known).trans separate.valid, ?_, guarded,
    separate.checkpoint.of_ages ages, fun {other token} there => ?_, fun other there => ?_⟩
  · exact separate.types.of_isValid fun there =>
      Globals.isValid_define (SwitchPoints.lt_size_of_isValid (separate.types.guarded.valid there))
  · rcases Globals.switchPoint?_of_define there with old | ⟨-, -, rfl⟩
    · exact (separate.foreign old).of_ages ages
    · exact separate.types.foreign_of_minted (guarded.known there) (Nat.le_refl _)
  · rcases Globals.switchPoint?_of_define there with old | ⟨-, -, minted⟩
    · exact separate.spared other old
    · exact Nat.ne_of_lt known (congrArg SwitchPoint.index minted)

/-- To revoke a global flips the switch point that guarded it. -/
theorem revoke (separate : world.Separate) (name : String) :
    (world.withGlobals (world.globals.invalidate name world.points)).Separate := by
  have known := SwitchPoints.lt_size_of_isValid separate.valid
  have ages := world.globals.ages_invalidate name world.points
  have guarded := separate.globals.invalidate name
  -- what guards a global now guarded it before, or was minted for it
  have cases_ : ∀ {other token},
      (world.globals.invalidate name world.points).1.switchPoint? other = some token →
        world.globals.switchPoint? other = some token ∨ token = ⟨world.points.points.size⟩ := by
    intro other token there
    by_cases same : name = other
    · subst same
      exact Globals.switchPoint?_of_invalidate there
    · rw [Globals.switchPoint?_invalidate_of_ne same] at there
      exact .inl there
  refine ⟨separate.again, ?_, ?_, guarded, separate.checkpoint.of_ages ages,
    fun {other token} there => ?_, fun other there => ?_⟩
  · exact (Globals.isValid_invalidate_of_ne known (separate.spared name)).trans separate.valid
  · refine separate.types.of_isValid fun {type its} there => ?_
    have old := SwitchPoints.lt_size_of_isValid (separate.types.guarded.valid there)
    exact Globals.isValid_invalidate_of_ne old fun guards =>
      (separate.foreign guards).apart there rfl
  · rcases cases_ there with old | rfl
    · exact (separate.foreign old).of_ages ages
    · exact separate.types.foreign_of_minted (guarded.known there) (Nat.le_refl _)
  · rcases cases_ there with old | minted
    · exact separate.spared other old
    · exact Nat.ne_of_lt known (congrArg SwitchPoint.index minted)

/-- A request for a safepoint flips the switch point of the checkpoint. -/
theorem invalidate (separate : world.Separate)
    (checkpoint : after.checkpoint = (world.checkpoint.invalidate world.points).1)
    (points : after.points = (world.checkpoint.invalidate world.points).2)
    (types : after.types = world.types) (globals : after.globals = world.globals) :
    after.Separate := by
  obtain ⟨renewed, -⟩ := Invalidator.invalidate_renews separate.again separate.valid
  have ages := Invalidator.ages_invalidate world.checkpoint world.points
  have minted := Invalidator.current_invalidate separate.again separate.valid
  have registry : after.registry =
      ⟨world.types, (world.checkpoint.invalidate world.points).2⟩ := by
    rw [World.registry, types, points]
  refine ⟨?_, ?_, ?_, ?_, ?_, fun {name token} there => ?_, fun name there => ?_⟩
  · rw [checkpoint, Invalidator.repeatable_invalidate]
    exact separate.again
  · rw [points, checkpoint]
    exact renewed
  · rw [registry]
    exact separate.types.of_isValid fun there =>
      Invalidator.isValid_invalidate_of_ne
        (SwitchPoints.lt_size_of_isValid (separate.types.guarded.valid there))
        (separate.checkpoint.apart there)
  · rw [points]
    exact separate.globals.of_switchPoint? (fun name => by rw [globals]) ages.grows
  · rw [registry, checkpoint]
    exact separate.types.foreign_of_minted (SwitchPoints.lt_size_of_isValid renewed)
      (Nat.le_of_eq (congrArg SwitchPoint.index minted).symm)
  · rw [registry]
    rw [globals] at there
    exact Registry.Foreign.of_ages (separate.foreign there) ages
  · rw [globals, checkpoint, minted] at there
    exact Nat.lt_irrefl _ (separate.globals.known there)

theorem of_guards (separate : world.Separate) (types : after.types.unlaid = world.types.unlaid)
    (globals : ∀ name, after.globals.switchPoint? name = world.globals.switchPoint? name)
    (points : after.points = world.points) (checkpoint : after.checkpoint = world.checkpoint) :
    after.Separate := by
  have registry : after.registry = ⟨after.types, world.points⟩ := by rw [World.registry, points]
  refine ⟨?_, ?_, ?_, ?_, ?_, fun {name token} there => ?_, fun name => ?_⟩
  · rw [checkpoint]
    exact separate.again
  · rw [points, checkpoint]
    exact separate.valid
  · rw [registry]
    exact Registry.Sound.of_unlaid separate.types types
  · rw [points]
    exact separate.globals.of_switchPoint? globals (Nat.le_refl _)
  · rw [registry, checkpoint]
    exact Registry.Foreign.of_unlaid separate.checkpoint types
  · rw [registry]
    rw [globals] at there
    exact Registry.Foreign.of_unlaid (separate.foreign there) types
  · rw [globals, checkpoint]
    exact separate.spared name

theorem defineAll (names : List String) :
    ∀ {world : World Code Host}, world.Separate →
      (world.withGlobals (Globals.defineAll names world.globals world.points)).Separate := by
  induction names with
  | nil => exact fun separate => separate
  | cons name rest ih => exact fun separate => ih (separate.define name (defaultScope name))

/-- **Whatever goes on leaves the checkpoint alone.** -/
theorem work (separate : world.Separate) (work : Work world after) :
    after.Separate ∧ after.checkpoint = world.checkpoint ∧ world.points.Ages after.points := by
  cases work with
  | change change =>
      exact ⟨separate.of_apply change rfl rfl rfl, rfl,
        (Registry.leaves_apply separate.types ⟨0, ""⟩ change).ages⟩
  | define name scope => exact ⟨separate.define name scope, rfl, Globals.ages_define _ _ _ _⟩
  | revoke name => exact ⟨separate.revoke name, rfl, Globals.ages_invalidate _ _ _⟩
  | elsewhere types globals points checkpoint lives queues =>
      exact ⟨separate.of_guards types globals points checkpoint, checkpoint, points ▸ .refl _⟩

end Separate

/-- A world without types and globals guards its checkpoint only. -/
theorem separate_blank (options : Options) (rule : LookupRule Code) (coverage : Option Coverage)
    (host : Host) : (blank options rule coverage host).Separate := by
  have valid := SwitchPoints.isValid_mint_self {} 0
  have bare : Separate
      { options, rule, coverage, host
        points := (Invalidator.create .checkpoint true {}).2
        checkpoint := (Invalidator.create .checkpoint true {}).1 : World Code Host } := by
    refine ⟨rfl, valid, Registry.sound_empty _, .nil _, ?_, fun there => ?_, fun name there => ?_⟩
    · refine ⟨SwitchPoints.lt_size_of_isValid valid, fun there => ?_⟩
      simp [World.registry, Types.get?] at there
    · cases there
    · cases there
  simp only [blank, Globals.initial]
  exact bare.defineAll uncachedGlobals

theorem separate_create (options : Options) (rule : LookupRule Code) (coverage : Option Coverage)
    (host : Host) : (create options rule coverage host).Separate := by
  refine create_induction (motive := Separate) (separate_blank options rule coverage host) ?_ ?_
  · intro world name parent? classes separate
    exact separate.of_apply (.create name parent? defaultFieldCapacity) rfl rfl rfl
  · intro world separate
    exact separate.of_apply (.define TypeRef.basicObject
      (world.createMethod methodMissing true defaultMissing).1) rfl rfl rfl

end World

end InlineCache
