/-
# InlineCache.Proofs.Renewal -- what guards a global now holds

A write of a global flips the switch point that guarded it, and the global has a fresh one
from then on.  So a site that reads the global between two writes keeps its copy under a
switch point that holds (`Globals.Alive`).

* `Alive.invalidate`: to revoke a global renews what guards it and leaves the others alone;
* `Ledger.alive_of_reachable`: so in every reachable world all globals are guarded, also
  while writes go on;
* `Ledger.cacheable?_step`: and whether a global may be cached at all is settled when it is
  made.
-/
import InlineCache.Proofs.Checkpoint
import InlineCache.Proofs.Hooks

namespace InlineCache

set_option autoImplicit false

variable {Code : Type}

namespace Globals

variable {table : Globals Code} {points later : SwitchPoints} {name other : String}
  {scope : GlobalScope}

/-! ## Switch points that hold -/

/-- Every variable is guarded by a switch point that holds, and gets another whenever it is
revoked. -/
structure Alive (table : Globals Code) (points : SwitchPoints) : Prop where
  again : ∀ {name : String} {its : GlobalVariable Code}, NameMap.get? table name = some its →
    its.invalidator.repeatable = true
  valid : ∀ {name : String} {its : GlobalVariable Code}, NameMap.get? table name = some its →
    points.isValid its.invalidator.current = true

theorem switchPoint?_of_get? {its : GlobalVariable Code}
    (there : NameMap.get? table name = some its) :
    table.switchPoint? name = some its.invalidator.current :=
  Option.map_eq_some_iff.2 ⟨its, there, rfl⟩

namespace Alive

theorem nil (points : SwitchPoints) : Alive ([] : Globals Code) points where
  again there := nomatch there
  valid there := nomatch there

theorem isValid (alive : table.Alive points) {token : SwitchPoint}
    (there : table.switchPoint? name = some token) : points.isValid token = true := by
  obtain ⟨its, found, rfl⟩ := Option.map_eq_some_iff.1 there
  exact alive.valid found

/-- Nothing that guards a variable was flipped. -/
theorem of_isValid (alive : table.Alive points)
    (same : ∀ {name : String} {token : SwitchPoint}, table.switchPoint? name = some token →
      later.isValid token = points.isValid token) : table.Alive later where
  again := alive.again
  valid there := (same (switchPoint?_of_get? there)).trans (alive.valid there)

theorem define (alive : table.Alive points) (name : String) (scope : GlobalScope) :
    (table.define name scope points).1.Alive (table.define name scope points).2 := by
  cases found : NameMap.get? table name with
  | some its => rwa [define_of_some found]
  | none =>
      rw [define_of_none found]
      refine ⟨fun {other its} there => ?_, fun {other its} there => ?_⟩ <;>
        rw [NameMap.get?_insert] at there <;> split at there
      · cases there
        rfl
      · exact alive.again there
      · cases there
        exact SwitchPoints.isValid_mint_self points 0
      · rw [SwitchPoints.isValid_mint, alive.valid there, Bool.true_or]

theorem defineAll (alive : table.Alive points) (names : List String) :
    (Globals.defineAll names table points).1.Alive (Globals.defineAll names table points).2 := by
  induction names generalizing table points with
  | nil => exact alive
  | cons name rest ih => exact ih (alive.define name (defaultScope name))

theorem modify (alive : table.Alive points) (change : GlobalVariable Code → GlobalVariable Code)
    (keeps : ∀ its, (change its).invalidator = its.invalidator) (name : String) :
    Alive (NameMap.modify table name change) points := by
  have kept : ∀ {other its}, NameMap.get? (NameMap.modify table name change) other = some its →
      ∃ old, NameMap.get? table other = some old ∧ its.invalidator = old.invalidator := by
    intro other its there
    rw [NameMap.get?_modify] at there
    split at there
    · obtain ⟨old, found, rfl⟩ := Option.map_eq_some_iff.1 there
      exact ⟨old, found, keeps old⟩
    · exact ⟨its, there, rfl⟩
  refine ⟨fun there => ?_, fun there => ?_⟩ <;> obtain ⟨old, found, same⟩ := kept there <;>
    rw [same]
  · exact alive.again found
  · exact alive.valid found

/-- **To revoke a variable renews what guards it**, and leaves the others guarded. -/
theorem invalidate (alive : table.Alive points) (guarded : table.Guarded points) (name : String) :
    (table.invalidate name points).1.Alive (table.invalidate name points).2 := by
  cases found : NameMap.get? table name with
  | none =>
      simp only [Globals.invalidate, found]
      exact alive
  | some its =>
      have again := alive.again found
      have renewed := Invalidator.invalidate_renews again (alive.valid found)
      -- a variable is the one revoked, with what guards it renewed, or it is as it was
      have cases_ : ∀ {other new},
          NameMap.get? (table.invalidate name points).1 other = some new →
            new.invalidator = (its.invalidator.invalidate points).1 ∨
              (name ≠ other ∧ NameMap.get? table other = some new) := by
        intro other new there
        simp only [Globals.invalidate, found, NameMap.get?_modify] at there
        split at there
        · obtain ⟨_, _, rfl⟩ := Option.map_eq_some_iff.1 there
          exact .inl rfl
        · exact .inr ⟨‹_›, there⟩
      have points_ : (table.invalidate name points).2 = (its.invalidator.invalidate points).2 := by
        simp only [Globals.invalidate, found]
      refine ⟨fun there => ?_, fun there => ?_⟩ <;> rcases cases_ there with same | ⟨other, kept⟩
      · rw [same, Invalidator.repeatable_invalidate, again]
      · exact alive.again kept
      · rw [points_, same]
        exact renewed.1
      · have stands := switchPoint?_of_get? kept
        rw [isValid_invalidate_of_ne (guarded.known stands) fun shared =>
          other (guarded.apart shared stands)]
        exact alive.valid kept

end Alive

/-! ## Which globals may be cached -/

/-- May reads of a global be cached?  Nothing is settled for a name never mentioned. -/
def cacheable? (table : Globals Code) (name : String) : Option Bool :=
  (NameMap.get? table name).map GlobalVariable.isCacheable

variable {cacheable : Bool}

theorem cacheable?_define (settled : table.cacheable? other = some cacheable) (name : String)
    (scope : GlobalScope) (points : SwitchPoints) :
    (table.define name scope points).1.cacheable? other = some cacheable := by
  by_cases same : name = other
  · subst same
    obtain ⟨its, found, _⟩ := Option.map_eq_some_iff.1 settled
    rwa [define_of_some found]
  · rwa [cacheable?, get?_define_of_ne table scope points same]

theorem cacheable?_modify (change : GlobalVariable Code → GlobalVariable Code)
    (keeps : ∀ its, (change its).isCacheable = its.isCacheable) (table : Globals Code)
    (name other : String) :
    Globals.cacheable? (NameMap.modify table name change) other = table.cacheable? other := by
  simp only [cacheable?, NameMap.get?_modify]
  split
  · rw [Option.map_map]
    exact congrArg (Option.map · _) (funext keeps)
  · rfl

theorem cacheable?_invalidate (table : Globals Code) (name other : String)
    (points : SwitchPoints) :
    (table.invalidate name points).1.cacheable? other = table.cacheable? other := by
  unfold invalidate
  split
  · rename_i its _
    exact cacheable?_modify
      (fun old => { old with invalidator := (its.invalidator.invalidate points).1 })
      (fun _ => rfl) table name other
  · rfl

theorem cacheable?_assign (table : Globals Code) (name other : String) (value : Value) :
    (table.assign name value).cacheable? other = table.cacheable? other :=
  cacheable?_modify (fun its => { its with value, writes := its.writes + 1 }) (fun _ => rfl)
    table name other

end Globals

/-- A read may define the global it reads, and does nothing else to the table. -/
theorem GlobalSite.Fetched.cacheable? {site : GlobalSite} {globals : Globals Code}
    {points : SwitchPoints} {after : GlobalSite.ReadResult Code}
    (fetched : GlobalSite.Fetched site globals points after) {name : String} {cacheable : Bool}
    (settled : globals.cacheable? name = some cacheable) :
    after.globals.cacheable? name = some cacheable := by
  rcases fetched.table with same | mentioned
  · rwa [(Prod.mk.inj same).1]
  · rw [show after.globals = _ from congrArg Prod.fst mentioned]
    exact Globals.cacheable?_define settled _ _ _

namespace World

variable {Host : Type} {world after : World Code Host}

/-- What is done to the types flips no switch point of a global, as these are apart. -/
theorem Separate.alive_of_apply (separate : world.Separate)
    (alive : world.globals.Alive world.points) (change : Change Code)
    (registry : after.registry = world.registry.apply change)
    (globals : after.globals = world.globals) (checkpoint : after.checkpoint = world.checkpoint) :
    after.Separate ∧ after.globals.Alive after.points := by
  refine ⟨separate.of_apply change registry globals checkpoint, ?_⟩
  rw [globals, show after.points = _ from congrArg Registry.points registry]
  exact alive.of_isValid fun there => ((separate.foreign there).apply separate.types change).2

theorem alive_blank (options : Options) (rule : LookupRule Code) (coverage : Option Coverage)
    (host : Host) :
    (blank options rule coverage host).globals.Alive (blank options rule coverage host).points := by
  simp only [blank, Globals.initial]
  exact (Globals.Alive.nil _).defineAll uncachedGlobals

theorem alive_create (options : Options) (rule : LookupRule Code) (coverage : Option Coverage)
    (host : Host) :
    (create options rule coverage host).globals.Alive
      (create options rule coverage host).points := by
  refine (create_induction (motive := fun world : World Code Host =>
    world.Separate ∧ world.globals.Alive world.points) ?_ ?_ ?_).2
  · exact ⟨separate_blank options rule coverage host, alive_blank options rule coverage host⟩
  · rintro world name parent? classes ⟨separate, alive⟩
    exact separate.alive_of_apply alive (.create name parent? defaultFieldCapacity) rfl rfl rfl
  · rintro world ⟨separate, alive⟩
    exact separate.alive_of_apply alive (.define TypeRef.basicObject
      (world.createMethod methodMissing true defaultMissing).1) rfl rfl rfl

end World

namespace Ledger

variable {exec : Exec Code Ledger} {world after : World Code Ledger} {name : String}

/-- **Whether a global may be cached is settled for good.** -/
theorem cacheable?_step (step : Step world after) {cacheable : Bool}
    (settled : world.globals.cacheable? name = some cacheable) :
    after.globals.cacheable? name = some cacheable := by
  cases step with
  | site other file line => exact settled
  | read number =>
      rcases world.readGlobal_cases number with ⟨globals, -, -⟩ |
        ⟨_, _, -, -, fetched, globals, -, -⟩
      · rwa [globals]
      · rw [globals]
        exact fetched.cacheable? settled
  | define other scope => exact Globals.cacheable?_define settled other scope _
  | hook other hook =>
      exact (Globals.cacheable?_modify (fun its => { its with traces := its.traces ++ [hook] })
        (fun _ => rfl) world.globals other name).trans settled
  | store other value =>
      exact (Globals.cacheable?_assign _ other name value).trans
        (Globals.cacheable?_define settled other _ _)
  | revoke runs => exact (Globals.cacheable?_invalidate _ _ _ _).trans settled
  | elsewhere globals host ages guards => rwa [globals]

/-! ## Reachable worlds -/

theorem alive_step (sound : Sound world) (alive : world.globals.Alive world.points)
    (step : Step world after) : after.globals.Alive after.points := by
  cases step with
  | site other file line => exact alive
  | read number =>
      rcases world.readGlobal_cases number with ⟨globals, points, -⟩ |
        ⟨site, read, -, -, fetched, globals, points, -⟩
      · rwa [globals, points]
      · rw [globals, points]
        rcases fetched.table with same | mentioned
        · rwa [(Prod.mk.inj same).1, (Prod.mk.inj same).2]
        · rw [show read.globals = _ from congrArg Prod.fst mentioned,
            show read.points = _ from congrArg Prod.snd mentioned]
          exact alive.define _ _
  | define other scope => exact alive.define other scope
  | hook other hook =>
      exact alive.modify (fun its => { its with traces := its.traces ++ [hook] }) (fun _ => rfl)
        other
  | store other value =>
      exact (alive.define other (defaultScope other)).modify
        (fun its => { its with value, writes := its.writes + 1 }) (fun _ => rfl) other
  | revoke runs => exact alive.invalidate sound.guarded _
  | elsewhere globals host ages guards => exact globals ▸ alive.of_isValid guards

theorem alive_evolves (sound : Sound world) (alive : world.globals.Alive world.points)
    (evolves : Evolves world after) : after.globals.Alive after.points := by
  induction evolves with
  | refl => exact alive
  | tail run step ih => exact alive_step (sound.evolves run) ih step

/-- **The globals of every reachable world are guarded.** -/
theorem alive_of_reachable (lawful : Lawful exec) (reachable : Reachable exec world) :
    world.globals.Alive world.points := by
  induction reachable with
  | fresh options rule coverage => exact World.alive_create options rule coverage _
  | step reached step ih => exact alive_step (sound_of_reachable lawful reached) ih step
  | write reached name value ih =>
      exact alive_evolves (sound_of_reachable lawful reached) ih
        (evolves_writeGlobal lawful name value _).1

end Ledger

end InlineCache
