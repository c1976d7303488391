/-
# InlineCache.Proofs.Stage -- worlds that scenarios are played in

Whatever scenarios did before, in whatever order and under whatever settings, the world is
*staged* for the next: it is sound, its classes and methods are a cast, its globals are
guarded and ordinary, and the counter is nil while nobody counts (`Staged`).

A call shows of its work nothing but what a program sees, so all of this survives it.  What
a world keeps for a scenario that is under way is in `Keeps`: its classes, the roles that
are played, the sites as they are written, and the objects.

* `staged_create`: a fresh world is staged, under any settings;
* `Staged.define`, `Staged.openClass`, `Staged.createObject`, `Staged.createSite`: so are the
  worlds that the steps of a scenario leave;
* `Staged.callSite`: and the world that a call through a site leaves, which comes to what the
  uncached send comes to.
-/
import InlineCache.Proofs.Cast
import InlineCache.Proofs.Renewal
import InlineCache.Proofs.Transparency

namespace InlineCache

set_option autoImplicit false

variable {options : Options} {rounds : Nat} {world after : DemoWorld}

/-- A variable as it comes into being at its first mention: of the scope that its name has by
default, and without hooks. -/
def Globals.Ordinary {Code : Type} (table : Globals Code) : Prop :=
  ∀ ⦃name : String⦄ ⦃its : GlobalVariable Code⦄, NameMap.get? table name = some its →
    its.name = name ∧ its.scope = defaultScope name ∧ its.traces = []

namespace Globals

variable {Code : Type} {table : Globals Code} {points : SwitchPoints}

namespace Ordinary

theorem nil : Ordinary ([] : Globals Code) := fun _ _ there => nomatch there

theorem mention (ordinary : table.Ordinary) (name : String) (points : SwitchPoints) :
    (table.mention name points).1.Ordinary := by
  cases found : NameMap.get? table name with
  | some its =>
      rw [Globals.mention, define_of_some found]
      exact ordinary
  | none =>
      rw [Globals.mention, define_of_none found]
      intro other its there
      rw [NameMap.get?_insert] at there
      split at there
      · rename_i same
        cases there
        exact ⟨same, congrArg defaultScope same, rfl⟩
      · exact ordinary there

theorem defineAll (ordinary : table.Ordinary) (names : List String) :
    (Globals.defineAll names table points).1.Ordinary := by
  induction names generalizing table points with
  | nil => exact ordinary
  | cons name rest ih => exact ih (ordinary.mention name points)

end Ordinary

end Globals

namespace World

variable {Code Host : Type}

/-- What a program sees of a world, apart from what goes on in its contexts. -/
def scenery (world : World Code Host) : World Code Host :=
  { world.facade with contexts := {} }

/-- What of this is there before any object is made and any site is written. -/
def backdrop (world : World Code Host) : World Code Host :=
  { world.scenery with objects := {}, sites := #[], nextSerial := 0 }

theorem Same.scenery {world other : World Code Host} (same : Same world other) :
    other.scenery = world.scenery :=
  congrArg (fun world : World Code Host => { world with contexts := {} }) same.facade

end World

namespace Demo

open World

/-- A body is proper for a scenario if it has no entry for a count that does anything else
than the body does. -/
abbrev Proper : CompiledMethod DemoCode → Prop := Uniform DemoCode.perform

/-- **A world that scenarios are played in.** -/
structure Staged (options : Options) (rounds : Nat) (world : DemoWorld) : Prop where
  sound : world.Sound Proper
  options : world.options = options
  rule : world.rule = .hierarchy
  cast : Cast world.classes world.types
  separate : world.Separate
  alive : world.globals.Alive world.points
  ordinary : world.globals.Ordinary
  idle : rounds = 0 → world.globals.value "$counter" = .nil

/-- **What a world keeps** for a scenario that is under way. -/
structure Keeps (world after : DemoWorld) : Prop where
  classes : ∀ {name : String} {type : TypeRef}, world.class? name = some type →
    after.class? name = some type
  roles : ∀ {owner name : String} {type : TypeRef}, world.class? owner = some type →
    (world.types.ownMethod? type name).isSome = true →
      (after.types.ownMethod? type name).isSome = true
  sites : ∀ {ref : SiteRef} {site : CallSite DemoCode}, world.site? ref = some site →
    ∃ site', after.site? ref = some site' ∧ site'.declared = site.declared
  objects : ∀ {object : ObjectRef}, (world.objects.find? object).isSome = true →
    (after.objects.find? object).isSome = true

namespace Keeps

theorem refl (world : DemoWorld) : Keeps world world :=
  ⟨id, fun _ => id, fun there => ⟨_, there, rfl⟩, id⟩

theorem trans {last : DemoWorld} (first : Keeps world after) (second : Keeps after last) :
    Keeps world last where
  classes class_ := second.classes (first.classes class_)
  roles class_ plays := second.roles (first.classes class_) (first.roles class_ plays)
  sites there := by
    obtain ⟨_, stands, declared⟩ := first.sites there
    obtain ⟨_, stands', declared'⟩ := second.sites stands
    exact ⟨_, stands', declared'.trans declared⟩
  objects there := second.objects (first.objects there)

/-- What it keeps is scenery. -/
theorem of_scenery (same : after.scenery = world.scenery) : Keeps world after where
  classes class_ := by
    have classes : after.classes = world.classes := (congrArg World.classes same :)
    rwa [class?, classes]
  roles _ plays := by
    have types : after.types.unlaid = world.types.unlaid := (congrArg World.types same :)
    rwa [Types.ownMethod?_of_unlaid types]
  sites {ref site} there := by
    have equal := congrArg (fun world : DemoWorld => world.site? ref) same
    simp only [World.scenery, World.facade, World.site?, Array.getElem?_map] at equal
    rw [show world.sites[ref.index]? = some site from there] at equal
    exact Option.map_eq_some_iff.1 equal
  objects {object} there := by
    have equal := congrArg (fun world : DemoWorld => (world.objects.find? object).isSome) same
    simp only [World.scenery, World.facade, Objects.find?_bare, Option.isSome_map] at equal
    rwa [equal]

end Keeps

/-- **A fresh world is staged**, whatever the settings. -/
theorem staged_create (options : Options) (rounds : Nat) :
    Staged options rounds (create options .hierarchy none ()) where
  sound := sound_create options .hierarchy none ()
  options := create_induction (motive := fun world => world.options = options) rfl
    (fun _ _ _ _ same => same) fun _ same => same
  rule := create_induction (motive := fun world => world.rule = .hierarchy) rfl
    (fun _ _ _ _ same => same) fun _ same => same
  cast := cast_create options
  separate := separate_create options .hierarchy none ()
  alive := alive_create options .hierarchy none ()
  ordinary := create_induction (motive := fun world : DemoWorld => world.globals.Ordinary)
    (by
      simp only [blank, Globals.initial]
      exact Globals.Ordinary.nil.defineAll uncachedGlobals)
    (fun _ _ _ _ same => same) fun _ same => same
  idle _ := create_induction
    (motive := fun world : DemoWorld => world.globals.value "$counter" = .nil)
    (by
      simp only [blank, Globals.initial, Globals.value_defineAll]
      rfl)
    (fun _ _ _ _ same => same) fun _ same => same
namespace Staged

/-! ## What keeps a stage -/

/-- **The backdrop is what counts**, as long as the world is sound. -/
theorem of_backdrop (staged : Staged options rounds world) (sound : after.Sound Proper)
    (same : after.backdrop = world.backdrop) : Staged options rounds after := by
  have types : after.types.unlaid = world.types.unlaid := (congrArg World.types same :)
  have classes : after.classes = world.classes := (congrArg World.classes same :)
  have globals : after.globals = world.globals := (congrArg World.globals same :)
  have points : after.points = world.points := (congrArg World.points same :)
  refine ⟨sound, ?_, ?_, ?_, ?_, ?_, ?_, ?_⟩
  · exact (congrArg World.options same :).trans staged.options
  · exact (congrArg World.rule same :).trans staged.rule
  · exact classes ▸ staged.cast.of_unlaid types
  · exact staged.separate.of_guards types (fun _ => by rw [globals]) points
      (congrArg World.checkpoint same :)
  · rw [globals, points]
    exact staged.alive
  · rw [globals]
    exact staged.ordinary
  · rw [globals]
    exact staged.idle

/-- What was logged does not count. -/
theorem withLog (staged : Staged options rounds world) (log : Array LogLine) :
    Staged options rounds { world with log } :=
  staged.of_backdrop (staged.sound.of_types rfl rfl rfl staged.sound.fits rfl (Nat.le_refl _)
    (.refl _)) rfl

/-- What is done to the types is nothing to the globals. -/
theorem of_apply (staged : Staged options rounds world) (change : Change DemoCode)
    (sound : after.Sound Proper) (cast : Cast after.classes after.types)
    (registry : after.registry = world.registry.apply change)
    (options_ : after.options = world.options) (rule : after.rule = world.rule)
    (globals : after.globals = world.globals) (checkpoint : after.checkpoint = world.checkpoint) :
    Staged options rounds after := by
  obtain ⟨separate, alive⟩ :=
    staged.separate.alive_of_apply staged.alive change registry globals checkpoint
  refine ⟨sound, options_.trans staged.options, rule.trans staged.rule, cast, separate, alive,
    ?_, ?_⟩
  · rw [globals]
    exact staged.ordinary
  · rw [globals]
    exact staged.idle

theorem forest (staged : Staged options rounds world) : world.types.Forest :=
  staged.separate.types.forest

/-! ## The steps of a scenario -/

theorem createContext (staged : Staged options rounds world) :
    Staged options rounds world.createContext.2 ∧ Keeps world world.createContext.2 :=
  ⟨staged.of_backdrop (staged.sound.of_types rfl rfl rfl staged.sound.fits rfl (Nat.le_refl _)
    (.refl _)) rfl, .of_scenery rfl⟩

theorem releaseContext (staged : Staged options rounds world) (context : ContextRef) :
    Staged options rounds (world.releaseContext context) := by
  unfold World.releaseContext
  dsimp only
  split <;>
    exact staged.of_backdrop (staged.sound.of_types rfl rfl rfl staged.sound.fits rfl
      (Nat.le_refl _) (.refl _)) rfl

theorem modifyContext (staged : Staged options rounds world) (context : ContextRef)
    (change : Context → Context) : Staged options rounds (world.modifyContext context change) :=
  staged.of_backdrop (staged.sound.modifyContext context change) rfl

/-- The switch point of the checkpoint guards nothing else. -/
theorem requestSafepoint (staged : Staged options rounds world) :
    Staged options rounds world.requestSafepoint where
  sound := staged.sound.of_types rfl rfl rfl staged.sound.fits rfl (Nat.le_refl _)
    (Invalidator.ages_invalidate world.checkpoint world.points)
  options := staged.options
  rule := staged.rule
  cast := staged.cast
  separate := staged.separate.invalidate rfl rfl rfl rfl
  alive := staged.alive.of_isValid fun {name _} there =>
    Invalidator.isValid_invalidate_of_ne (staged.separate.globals.known there) fun same =>
      staged.separate.spared name (same ▸ there)
  ordinary := staged.ordinary
  idle := staged.idle

theorem interrupt (staged : Staged options rounds world) (target : ContextRef) (fault : Fault) :
    Staged options rounds (world.interrupt target fault) := by
  unfold World.interrupt
  split
  · exact ((staged.withLog _).modifyContext target _).requestSafepoint
  · exact staged.withLog _

theorem poll (staged : Staged options rounds world) (site : CheckpointSite) (context : ContextRef) :
    Staged options rounds (world.poll site context).2.2 := by
  have taken : ∀ {world : DemoWorld}, Staged options rounds world →
      Staged options rounds (world.takeInterrupt context).2 := by
    intro world staged
    simp only [takeInterrupt]
    split
    · exact (staged.modifyContext context _).requestSafepoint
    · exact staged.modifyContext context _
  have polled : Staged options rounds (world.pollEvents context).2 := by
    have after := taken (staged.modifyContext context fun state =>
      { state with polls := state.polls + 1 })
    simp only [pollEvents]
    split <;> rename_i same <;> rw [same] at after <;> exact after
  simp only [World.poll]
  split
  · exact polled
  · exact staged

theorem define (staged : Staged options rounds world) {role : Role} (public_ : role.isPrivate = false)
    {type : TypeRef} (class_ : world.class? role.owner = some type) :
    let made := world.createMethod role.name false role.implementation
    Staged options rounds (made.2.define type made.1) ∧ Keeps world (made.2.define type made.1) ∧
      ((made.2.define type made.1).types.ownMethod? type role.name).isSome = true := by
  intro made
  have plays : role.PlayedBy made.1 := ⟨public_.symm, rfl⟩
  have restocks := Types.restocks_define staged.forest (staged.cast.has class_) made.1 world.points
  have own : ∀ {other : TypeRef} {name : String},
      (made.2.define type made.1).types.ownMethod? other name = if type.id = other.id ∧
        made.1.name = name then some made.1 else world.types.ownMethod? other name :=
    restocks.own _ _
  refine ⟨staged.of_apply (.define type made.1) ?_ ?_ rfl rfl rfl rfl rfl, ⟨id, ?_, ?_, id⟩, ?_⟩
  · refine staged.sound.evolves (evolves_define staged.sound type role.name false
      role.implementation fun body brought => ?_)
    intro count code specific
    cases role <;> cases brought
    simp [EntryTable.get?] at specific
  · exact staged.cast.define staged.forest class_ rfl plays world.points
  · intro owner name other _ plays
    rw [own]
    split
    · rfl
    · exact plays
  · exact fun there => ⟨_, there, rfl⟩
  · rw [own, if_pos ⟨rfl, rfl⟩]
    rfl

theorem openClass (staged : Staged options rounds world) {name upper : String}
    (below : parentName? name = some upper) {parent? : Option TypeRef}
    (under : world.class? upper = some (parent?.getD TypeRef.object)) :
    let opened := world.openClass name parent? defaultFieldCapacity
    Staged options rounds opened.2 ∧ Keeps world opened.2 ∧
      opened.2.class? name = some opened.1 := by
  intro opened
  cases class_ : world.class? name with
  | some type =>
      simp only [opened, World.openClass, class_]
      exact ⟨staged, .refl world, trivial⟩
  | none =>
      simp only [opened, World.openClass, class_]
      refine ⟨staged.of_apply (.create name (some (parent?.getD TypeRef.object))
        defaultFieldCapacity) ?_ ?_ rfl rfl rfl rfl rfl, ⟨?_, ?_, ?_, id⟩, ?_⟩
      · exact staged.sound.of_change (.create name (some (parent?.getD TypeRef.object))
          defaultFieldCapacity) rfl rfl rfl rfl rfl (Nat.le_refl _)
          (fun _ _ defines => by cases defines) fun _ brought => by cases brought
      · exact staged.cast.create staged.forest class_ below under defaultFieldCapacity world.points
      · intro other type class'
        rw [class?, NameMap.get?_insert,
          if_neg fun same => by rw [same, class'] at class_; cases class_]
        exact class'
      · intro owner asked type class' plays
        have spares := Types.spares_create (staged.cast.has class') name
          (some (parent?.getD TypeRef.object)) defaultFieldCapacity world.points
        exact (congrArg Option.isSome (spares.own asked)).trans plays
      · exact fun there => ⟨_, there, rfl⟩
      · rw [class?, NameMap.get?_insert, if_pos rfl]

theorem createObject (staged : Staged options rounds world) {type : TypeRef} {name : String}
    (class_ : world.class? name = some type) :
    let made := world.createObject type
    Staged options rounds made.2 ∧ Keeps world made.2 ∧
      (made.2.objects.find? made.1).isSome = true ∧
        ∀ asked, made.2.getVariable made.1 asked = none := by
  intro made
  have found : made.2.objects.find? made.1 =
      some { type, fields := Slots.empty (world.types.fieldCount type) } := by
    simp [made, World.createObject, Objects.create, Objects.find?]
  refine ⟨staged.of_backdrop (staged.sound.createObject (staged.cast.live class_)) rfl,
    ⟨id, fun _ => id, fun there => ⟨_, there, rfl⟩, fun {object} there => ?_⟩, ?_, fun asked => ?_⟩
  · obtain ⟨state, there⟩ := Option.isSome_iff_exists.1 there
    obtain ⟨stands, its⟩ := Objects.find?_eq_some_iff.1 there
    have still : made.2.objects.objects[object.id]? = some state := by
      simp only [made, World.createObject, Objects.create, Array.getElem?_push]
      rw [if_neg fun last => by rw [last, Array.getElem?_size] at stands; cases stands]
      exact stands
    rw [Objects.find?_eq_some_iff.2 ⟨still, its⟩]
    rfl
  · rw [found]
    rfl
  · rw [World.getVariable, Objects.get?, found, Option.bind_some]
    cases made.2.types.accessorForRead made.1.type asked with
    | field index => exact Slots.read_empty _ index
    | dictionary name => rfl

theorem createSite (staged : Staged options rounds world) (name : String) (shape : CallShape) :
    let made := world.createSite (.create name shape .normal)
    Staged options rounds made.2 ∧ Keeps world made.2 ∧
      made.2.site? made.1 = some (.create name shape .normal) := by
  intro made
  refine ⟨staged.of_backdrop (staged.sound.createSite name shape .normal) rfl,
    ⟨id, fun _ => id, fun {ref site} there => ?_, id⟩, ?_⟩
  · refine ⟨site, ?_, rfl⟩
    simp only [made, World.site?, World.createSite, Array.getElem?_push]
    rw [if_neg fun last => by rw [World.site?, last, Array.getElem?_size] at there; cases there]
    exact there
  · simp [made, World.site?, World.createSite]

/-! ## Calls -/

/-- A call through a site comes to what the send of it comes to, and leaves the stage as the
send leaves it. -/
theorem callSite (staged : Staged options rounds world) {ref : SiteRef}
    {site written : CallSite DemoCode} (there : world.site? ref = some site)
    (declared : site.declared = written.declared) {call : Call}
    (admits : world.Admits written call) {context : ContextRef} {outcome : Outcome}
    (sent : send DemoCode.perform context written.name written.callType call world =
      (outcome, after)) (kept : after.scenery = world.scenery) :
    ∃ called, World.callSite DemoCode.perform context ref call world = (outcome, called) ∧
      Staged options rounds called ∧ Keeps world called ∧
        ∀ object name, called.getVariable object name = after.getVariable object name := by
  have lawful : Lawful Proper DemoCode.perform := by
    intro code activation world sound
    cases code <;> exact .refl
  have blind : BlindCode Proper DemoCode.perform := by
    intro code activation world other _ _ same
    cases code <;> exact ⟨rfl, same⟩
  obtain ⟨name, shape, callType⟩ := CallSite.spelling_of_declared declared
  have admits : world.Admits site call := admits.of_same (.refl world) declared
  obtain ⟨outcome_, same⟩ := staged.sound.callSite_eq_send blind (fun _ uniform => uniform) there
    admits context
  rw [name, callType, sent] at outcome_ same
  have scenery := same.scenery.trans kept
  refine ⟨(World.callSite DemoCode.perform context ref call world).2, Prod.ext outcome_ rfl, ?_,
    .of_scenery scenery, same.values⟩
  exact staged.of_backdrop (staged.sound.evolves
    (evolves_callSite lawful staged.sound context ref call admits.live))
    (congrArg (fun world : DemoWorld => { world with objects := {}, sites := #[], nextSerial := 0 })
      scenery)

end Staged

end Demo

end InlineCache
