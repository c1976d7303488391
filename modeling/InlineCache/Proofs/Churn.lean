/-
# InlineCache.Proofs.Churn -- a global that stays and one that changes

A site that has looked its global up answers with a copy that is as good as the global, or
reads the global directly.  A write of the global makes the copy useless, and a write of any
other leaves it alone.  So the site looks its global up once and never again if nobody writes
it, and once for each read if each read comes after a write.

* `Tally.failures_eq`: how often a site failed is known by how often it looked its global up,
  up to one more than the budget, and past that it reads directly;
* `plays_readGlobals`: so what the scenario prints of both its sites is known, and the values
  that it prints do not depend on the budget.
-/
import InlineCache.Proofs.Demotion
import InlineCache.Proofs.Scenarios

namespace InlineCache

set_option autoImplicit false

variable {Code : Type}

/-- May reads of a global be cached that nobody gave another scope? -/
def defaultCacheable (name : String) : Bool :=
  defaultScope name == .global && !uncachedGlobals.contains name

namespace Globals.Ordinary

variable {table : Globals Code} {name : String}

theorem modify (ordinary : table.Ordinary) (change : GlobalVariable Code → GlobalVariable Code)
    (keeps : ∀ its, (change its).name = its.name ∧ (change its).scope = its.scope ∧
      (change its).traces = its.traces) (name : String) :
    Globals.Ordinary (NameMap.modify table name change) := by
  intro other its there
  rw [NameMap.get?_modify] at there
  split at there
  · obtain ⟨old, found, rfl⟩ := Option.map_eq_some_iff.1 there
    obtain ⟨named, scope, traces⟩ := keeps old
    rw [named, scope, traces]
    exact ordinary found
  · exact ordinary there

theorem assign (ordinary : table.Ordinary) (name : String) (value : Value) :
    (table.assign name value).Ordinary :=
  ordinary.modify (fun its => { its with value, writes := its.writes + 1 })
    (fun _ => ⟨rfl, rfl, rfl⟩) name

theorem invalidate (ordinary : table.Ordinary) (name : String) (points : SwitchPoints) :
    (table.invalidate name points).1.Ordinary := by
  unfold Globals.invalidate
  split
  · rename_i its _
    exact ordinary.modify
      (fun old => { old with invalidator := (its.invalidator.invalidate points).1 })
      (fun _ => ⟨rfl, rfl, rfl⟩) name
  · exact ordinary

theorem isCacheable (ordinary : table.Ordinary) {its : GlobalVariable Code}
    (there : NameMap.get? table name = some its) : its.isCacheable = defaultCacheable name := by
  obtain ⟨named, scope, -⟩ := ordinary there
  rw [GlobalVariable.isCacheable, named, scope, defaultCacheable]

end Globals.Ordinary

namespace World

variable {Host : Type} {world : World Code Host} {name : String}

/-- A global has a value, and copies of the one before still hold. -/
def stored (world : World Code Host) (name : String) (value : Value) : World Code Host :=
  let table := world.globals.mention name world.points
  world.withGlobals (table.1.assign name value, table.2)

/-- Copies of a global hold no more. -/
def revoked (world : World Code Host) (name : String) : World Code Host :=
  world.withGlobals (world.globals.invalidate name world.points)

/-- Where no global has hooks, a write is a store and a revocation. -/
theorem setGlobal_of_ordinary (ordinary : world.globals.Ordinary) (exec : Exec Code Host)
    (name : String) (value : Value) :
    World.setGlobal exec name value world = (.ok value, (world.stored name value).revoked name) := by
  have plain : (world.stored name value).globals.Ordinary :=
    (ordinary.mention name world.points).assign name value
  simp only [World.setGlobal]
  split
  · rename_i its there
    rw [show its.traces = [] from (plain there).2.2]
    rfl
  · rfl

theorem value_stored (world : World Code Host) (name other : String) (value : Value) :
    (world.stored name value).globals.value other =
      if name = other then value else world.globals.value other := by
  have there := world.globals.isSome_define name (defaultScope name) world.points
  refine (Globals.value_assign value there).trans ?_
  split
  · rfl
  · exact world.globals.value_define name other _ _

theorem switchPoint?_stored {other : String} {token : SwitchPoint}
    (guards : world.globals.switchPoint? other = some token) (name : String) (value : Value) :
    (world.stored name value).globals.switchPoint? other = some token :=
  (Globals.switchPoint?_assign _ name other value).trans (Globals.switchPoint?_define guards)

end World

namespace GlobalSite

variable {site after : GlobalSite} {options : Options} {globals : Globals Code}
  {points : SwitchPoints} {lookups : Nat}

/-! ## Copies that are good -/

/-- A copy that is kept is the value of the global, under what guards the global. -/
def Copied (site : GlobalSite) (globals : Globals Code) : Prop :=
  ∀ ⦃token : SwitchPoint⦄ ⦃value : Value⦄, site.read.load = .cached token value →
    globals.switchPoint? site.name = some token ∧ value = globals.value site.name

/-- A site that was never read has no copy. -/
theorem copied_of_unlinked (site : GlobalSite) (kept : site.read.load = .unlinked)
    (globals : Globals Code) : site.Copied globals := by
  intro token value copy
  cases kept.symm.trans copy

/-- **A read answers with the value of the global**, if the copy is good or there is none,
and leaves a good copy or none. -/
theorem copied_get (good : site.held? points = none ∨ site.Copied globals) (options : Options) :
    (site.get options globals points).value = globals.value site.name ∧
      (site.get options globals points).site.Copied (site.get options globals points).globals := by
  cases held : site.held? points with
  | some value =>
      rcases good with none_ | copied
      · cases held.symm.trans none_
      · obtain ⟨token, kept, -⟩ := held?_eq_some_iff.1 held
        rw [get_of_held held]
        exact ⟨(copied kept).2, copied⟩
  | none =>
      have fetched := fetched_get held options globals
      refine ⟨fetched.value, fun token value kept => ?_⟩
      rw [fetched.name, fetched.value_globals]
      rcases fetched.read with direct | ⟨guard, guards, copy⟩
      · cases direct.symm.trans kept
      · cases copy.symm.trans kept
        exact ⟨guards, rfl⟩

/-! ## How often a site looks its global up -/

/-- **How a site stands that has looked its global up so many times**: never; or it keeps a
copy, and every time but the first was a failure; or that was once too often. -/
inductive Tally (options : Options) (lookups : Nat) (site : GlobalSite) : Prop where
  | unread (never : lookups = 0) (kept : site.read.load = .unlinked) (failures : site.failures = 0)
  | copied {token : SwitchPoint} {value : Value} (looked : 0 < lookups)
      (kept : site.read.load = .cached token value)
      (failures : site.failures = UInt32.ofNat (lookups - 1))
      (within : lookups ≤ options.globalMaxFail.toNat + 1 ∨
        options.globalMaxFail.toNat + 1 = 2 ^ 32)
  | direct (kept : site.read.load = .uncached)
      (failures : site.failures.toNat = options.globalMaxFail.toNat + 1)
      (beyond : options.globalMaxFail.toNat + 1 < lookups)

namespace Tally

theorem count_failure {failures : UInt32} (looked : 0 < lookups)
    (counted : failures = UInt32.ofNat (lookups - 1)) : failures + 1 = UInt32.ofNat lookups := by
  rw [counted, show (1 : UInt32) = UInt32.ofNat 1 from rfl, ← UInt32.ofNat_add,
    Nat.sub_add_cancel looked]

/-- To link is to look the global up once more. -/
theorem relinked (tally : Tally options lookups site) (looks : site.read.load ≠ .uncached)
    {its : GlobalVariable Code} (allowed : its.isCacheable = true)
    (linked : Relinked options site its after) : Tally options (lookups + 1) after := by
  have bound := options.globalMaxFail.toNat_lt
  cases linked with
  | direct barred => rw [allowed] at barred; cases barred
  | first _ uncopied =>
      cases tally with
      | unread never kept failures =>
          subst never
          exact .copied (Nat.succ_pos 0) rfl failures (.inl (Nat.le_add_left 1 _))
      | copied looked kept failures within => exact absurd kept (uncopied _ _)
      | direct kept failures beyond => exact absurd kept looks
  | again _ copy within =>
      cases tally with
      | unread never kept failures => cases kept.symm.trans copy
      | copied looked kept failures within' =>
          have count := count_failure looked failures
          rw [count, UInt32.lt_iff_toNat_lt] at within
          refine .copied (Nat.succ_pos _) rfl count ?_
          by_cases full : options.globalMaxFail.toNat + 1 = 2 ^ 32
          · exact .inr full
          · rw [UInt32.toNat_ofNat_of_lt' (by simp only [UInt32.size]; omega)] at within
            exact .inl (by omega)
      | direct kept failures beyond => exact absurd kept looks
  | spent _ copy beyond =>
      cases tally with
      | unread never kept failures => cases kept.symm.trans copy
      | copied looked kept failures within =>
          have count := count_failure looked failures
          rw [count, UInt32.lt_iff_toNat_lt] at beyond
          have small := (UInt32.ofNat lookups).toNat_lt
          have exact_ : (UInt32.ofNat lookups).toNat = lookups :=
            UInt32.toNat_ofNat_of_lt' (by simp only [UInt32.size]; omega)
          refine .direct rfl ?_ (by omega)
          change (site.failures + 1).toNat = _
          rw [count, exact_]
          omega
      | direct kept failures beyond => exact absurd kept looks

/-- **How often a site failed**, as long as the budget leaves room to count. -/
theorem failures_eq (tally : Tally options lookups site)
    (room : options.globalMaxFail.toNat + 1 < 2 ^ 32) :
    site.failures.toNat = min (lookups - 1) (options.globalMaxFail.toNat + 1) := by
  cases tally with
  | unread never kept failures => rw [failures, never]; simp
  | copied looked kept failures within =>
      rw [failures, UInt32.toNat_ofNat_of_lt' (by simp only [UInt32.size]; omega)]
      omega
  | direct kept failures beyond => omega

/-- A site that looked its global up once has not failed. -/
theorem failures_of_once (tally : Tally options 1 site) : site.failures = 0 := by
  cases tally with
  | unread never kept failures => cases never
  | copied looked kept failures within => exact failures
  | direct kept failures beyond => omega

end Tally

theorem render_relinked {its : GlobalVariable Code} (linked : Relinked options site its after) :
    after.render = site.render := by
  cases linked <;> rfl

/-- A site whose global is as nobody touched it, after it was looked up so many times. -/
structure Watched (options : Options) (lookups : Nat) (name text : String)
    (site : GlobalSite) : Prop where
  cacheable : defaultCacheable name = true
  name : site.name = name
  text : site.render = text
  tally : Tally options lookups site

namespace Watched

variable {name text : String}

/-- Without a copy that holds, a read looks the global up. -/
theorem get_of_unheld (watched : Watched options lookups name text site)
    (ordinary : globals.Ordinary) (unheld : site.held? points = none) :
    Watched options (lookups + 1) name text (site.get options globals points).site := by
  cases direct : site.read.load with
  | uncached =>
      rw [get_of_uncached direct]
      refine ⟨watched.cacheable, watched.name, watched.text, ?_⟩
      cases watched.tally with
      | unread never kept failures => cases kept.symm.trans direct
      | copied looked kept failures within => cases kept.symm.trans direct
      | direct kept failures beyond => exact .direct kept failures (Nat.lt_succ_of_lt beyond)
  | _ =>
      have looks : site.read.load ≠ .uncached := by simp [direct]
      have fetched := fetched_get unheld options globals
      rw [GlobalSite.get_of_unheld unheld looks] at fetched ⊢
      obtain ⟨its, there, linked⟩ := site.relinked options globals points
      have ordinary : (site.relink options globals points).globals.Ordinary := by
        rcases fetched.table with same | mentioned
        · rwa [(Prod.mk.inj same).1]
        · rw [show (site.relink options globals points).globals = _ from
            congrArg Prod.fst mentioned]
          exact ordinary.mention site.name points
      have allowed : its.isCacheable = true := by
        rw [ordinary.isCacheable there, watched.name, watched.cacheable]
      exact ⟨watched.cacheable, fetched.name.trans watched.name,
        (render_relinked linked).trans watched.text, watched.tally.relinked looks allowed linked⟩

/-- With a good copy it does not, after the first time. -/
theorem get_of_copied (watched : Watched options lookups name text site)
    (ordinary : globals.Ordinary) (alive : globals.Alive points) (copied : site.Copied globals) :
    Watched options (max lookups 1) name text (site.get options globals points).site := by
  cases held : site.held? points with
  | some value =>
      rw [get_of_held held]
      obtain ⟨token, kept, -⟩ := held?_eq_some_iff.1 held
      refine ⟨watched.cacheable, watched.name, watched.text, ?_⟩
      cases watched.tally with
      | unread never kept' failures => cases kept'.symm.trans kept
      | copied looked kept failures within =>
          rw [Nat.max_eq_left looked]
          exact .copied looked kept failures within
      | direct kept' failures beyond => cases kept'.symm.trans kept
  | none =>
      have looked := watched.get_of_unheld ordinary held
      cases watched.tally with
      | unread never kept failures =>
          subst never
          exact looked
      | copied _ kept failures within =>
          have holds := held?_eq_some_iff.2 ⟨_, kept, alive.isValid (copied kept).1⟩
          cases held.symm.trans holds
      | direct kept failures beyond =>
          rw [get_of_uncached kept, Nat.max_eq_left (by omega)]
          exact watched

end Watched

end GlobalSite

namespace Demo

open World GlobalSite

variable {options : Options} {rounds lookups : Nat} {world after : DemoWorld}
  {printed : Array String} {name text : String} {site : GlobalSite}

/-! ## Writes and reads -/

/-- A global is left as it is. -/
structure Leaves (name : String) (world after : DemoWorld) : Prop where
  value : after.globals.value name = world.globals.value name
  guards : ∀ {token : SwitchPoint}, world.globals.switchPoint? name = some token →
    after.globals.switchPoint? name = some token

/-- What is a good copy of a global that was left alone is one still. -/
theorem Leaves.copied (leaves : Leaves name world after) (named : site.name = name)
    (copied : site.Copied world.globals) : site.Copied after.globals := by
  subst named
  intro token value kept
  obtain ⟨guards, rfl⟩ := copied kept
  exact ⟨leaves.guards guards, leaves.value.symm⟩

namespace Staged

theorem withGlobals (staged : Staged options rounds world) {table : Globals DemoCode × SwitchPoints}
    (ages : world.points.Ages table.2) (separate : (world.withGlobals table).Separate)
    (alive : table.1.Alive table.2) (ordinary : table.1.Ordinary)
    (idle : rounds = 0 → table.1.value "$counter" = .nil) :
    Staged options rounds (world.withGlobals table) where
  sound := staged.sound.of_types rfl rfl rfl staged.sound.fits rfl (Nat.le_refl _) ages
  options := staged.options
  rule := staged.rule
  cast := staged.cast
  separate := separate
  alive := alive
  ordinary := ordinary
  idle := idle

theorem stored (staged : Staged options rounds world) {name : String} (value : Value)
    (counting : name = "$counter" → rounds ≠ 0) :
    Staged options rounds (world.stored name value) := by
  have separate := staged.separate.define name (defaultScope name)
  refine staged.withGlobals (world.globals.ages_define _ _ _)
    (separate.of_guards rfl (fun other => Globals.switchPoint?_assign _ name other value) rfl rfl)
    ?_ ?_ ?_
  · exact (staged.alive.define name (defaultScope name)).modify
      (fun its => { its with value, writes := its.writes + 1 }) (fun _ => rfl) name
  · exact (staged.ordinary.mention name world.points).assign name value
  · intro none_
    refine (world.value_stored name "$counter" value).trans ?_
    rw [if_neg fun same => counting same none_]
    exact staged.idle none_

theorem revoked (staged : Staged options rounds world) (name : String) :
    Staged options rounds (world.revoked name) := by
  refine staged.withGlobals (world.globals.ages_invalidate _ _) (staged.separate.revoke name)
    (staged.alive.invalidate staged.separate.globals name)
    (staged.ordinary.invalidate name world.points) fun none_ => ?_
  rw [Globals.value_invalidate]
  exact staged.idle none_

theorem get (staged : Staged options rounds world) (site : GlobalSite) :
    let result := site.get world.options world.globals world.points
    let after := (world.withGlobals (result.globals, result.points)).say result.log
    Staged options rounds after ∧ ∀ name, Leaves name world after := by
  intro result after
  cases held : site.held? world.points with
  | some value =>
      have same : result = { value, site, globals := world.globals, points := world.points } :=
        get_of_held held world.options world.globals
      have table : (result.globals, result.points) = (world.globals, world.points) := by rw [same]
      refine ⟨withLog ?_ _, fun name => ?_⟩
      · rw [table]
        exact staged
      · have globals : after.globals = world.globals := congrArg Prod.fst table
        exact ⟨by rw [globals], fun guards => by rwa [globals]⟩
  | none =>
      have fetched : Fetched site world.globals world.points result :=
        fetched_get held world.options world.globals
      refine ⟨withLog ?_ _, fun name => ⟨fetched.value_globals name, fetched.switchPoint?⟩⟩
      rcases fetched.table with same | mentioned
      · rw [same]
        exact staged
      · rw [mentioned]
        exact staged.withGlobals (world.globals.ages_define _ _ _) (staged.separate.define _ _)
          (staged.alive.define _ _) (staged.ordinary.mention _ _) fun none_ =>
            (world.globals.value_define _ _ _ _).trans (staged.idle none_)

end Staged

namespace Yields

/-- **A global is written**: it has the value, copies of it hold no more, and every other is
left as it is. -/
theorem setGlobal (staged : Staged options rounds world) {name : String} {value : Value}
    (counting : name = "$counter" → rounds ≠ 0) {post : Unit → DemoState → Prop}
    (rest : ∀ {after : DemoWorld}, Staged options rounds after →
      after.globals.value name = value → (∀ other, name ≠ other → Leaves other world after) →
        (∀ site : GlobalSite, site.name = name → site.Copied world.globals →
          site.held? after.points = none) → post () { world := after, printed }) :
    Yields (Demo.setGlobal name value) { world, printed } post := by
  refine .bind (.run ?_)
  rw [setGlobal_of_ordinary staged.ordinary]
  refine .pure (rest ((staged.stored value counting).revoked name) ?_ (fun other different => ?_)
    fun site named copied => ?_)
  · refine (Globals.value_invalidate _ _ _ _).trans ?_
    rw [value_stored, if_pos rfl]
  · refine ⟨(Globals.value_invalidate _ _ _ _).trans ?_, fun guards => ?_⟩
    · rw [value_stored, if_neg different]
    · exact (Globals.switchPoint?_invalidate_of_ne different).trans
        (switchPoint?_stored guards name value)
  · cases held : site.held? ((world.stored name value).revoked name).points with
    | none => rfl
    | some copy =>
        obtain ⟨token, kept, valid⟩ := held?_eq_some_iff.1 held
        have guards := switchPoint?_stored (named ▸ (copied kept).1) name value
        cases (Globals.invalidate_flips guards).symm.trans valid

section Reads

variable {post : Value × GlobalSite → DemoState → Prop}

/-- A read answers with the value of the global. -/
theorem readGlobal (staged : Staged options rounds world) (named : site.name = name)
    (good : site.held? world.points = none ∨ site.Copied world.globals)
    (rest : ∀ {after : DemoWorld}, Staged options rounds after →
      (∀ other, Leaves other world after) →
        (site.get options world.globals world.points).site.Copied after.globals →
          post (world.globals.value name, (site.get options world.globals world.points).site)
            { world := after, printed }) :
    Yields (Demo.readGlobal site) { world, printed } post := by
  obtain ⟨value, copied⟩ := copied_get good options
  obtain ⟨staged', leaves⟩ := staged.get site
  have same := staged.options
  subst named same
  have holds := rest staged' leaves copied
  rw [← value] at holds
  exact .run holds

/-- A read of a global that nobody wrote since the read before. -/
theorem again (staged : Staged options rounds world)
    (watched : Watched options lookups name text site) (copied : site.Copied world.globals)
    (rest : ∀ {after : DemoWorld} {left : GlobalSite}, Staged options rounds after →
      (∀ other, Leaves other world after) → Watched options (max lookups 1) name text left →
        left.Copied after.globals → post (world.globals.value name, left)
          { world := after, printed }) :
    Yields (Demo.readGlobal site) { world, printed } post :=
  .readGlobal staged watched.name (.inr copied) fun staged' leaves copied' =>
    rest staged' leaves (watched.get_of_copied staged.ordinary staged.alive copied) copied'

/-- A read of a global that was written since. -/
theorem anew (staged : Staged options rounds world)
    (watched : Watched options lookups name text site) (unheld : site.held? world.points = none)
    (rest : ∀ {after : DemoWorld} {left : GlobalSite}, Staged options rounds after →
      (∀ other, Leaves other world after) → Watched options (lookups + 1) name text left →
        left.Copied after.globals → post (world.globals.value name, left)
          { world := after, printed }) :
    Yields (Demo.readGlobal site) { world, printed } post :=
  .readGlobal staged watched.name (.inl unheld) fun staged' leaves copied =>
    rest staged' leaves (watched.get_of_unheld staged.ordinary unheld) copied

end Reads

theorem reportGlobal (staged : Staged options rounds world)
    (watched : Watched options lookups name text site) (copied : site.Copied world.globals)
    (failures? : Option Nat) (failed : ∀ {left : GlobalSite} {count : Nat},
      Watched options (max lookups 1) name text left → failures? = some count →
        left.failures.toNat = count) {post : Unit → DemoState → Prop}
    (rest : ∀ {after : DemoWorld} {line : String}, Staged options rounds after →
      (∀ other, Leaves other world after) →
        (Line.reading text (world.globals.value name).render failures?).Shows line →
          post () { world := after, printed := printed.push line }) :
    Yields (Demo.reportGlobal site) { world, printed } post := by
  refine .bind (.again staged watched copied fun {_ left} staged' leaves watched' _ => .print ?_)
  refine rest staged' leaves ⟨left.failures, left.demoted, ?_, fun count => failed watched'⟩
  rw [watched'.text]

end Yields

abbrev stableSite : GlobalSite := { name := "$config", file := "globals.rb", line := 1 }

abbrev churnSite : GlobalSite := { name := "$counter", file := "globals.rb", line := 2 }

theorem watched_stableSite (options : Options) :
    Watched options 0 "$config" stableSite.render stableSite :=
  ⟨by decide, rfl, rfl, .unread rfl rfl rfl⟩

theorem watched_churnSite (options : Options) :
    Watched options 0 "$counter" churnSite.render churnSite :=
  ⟨by decide, rfl, rfl, .unread rfl rfl rfl⟩

/-- **After so many rounds** one global is as it was written before them, and the site that
reads it looked it up once, while the other has the number of the last round, and was looked
up on each. -/
structure Churned (options : Options) (rounds : Nat) (printed : Array String) (number : Nat)
    (sites : GlobalSite × GlobalSite) (later : DemoState) : Prop where
  staged : Staged options rounds later.world
  printed : later.printed = printed
  config : later.world.globals.value "$config" = .string "production"
  counter : number ≠ 0 → later.world.globals.value "$counter" = lastOf number
  stable : Watched options (min number 1) "$config" stableSite.render sites.1
  stable_ : sites.1.Copied later.world.globals
  churn : Watched options number "$counter" churnSite.render sites.2
  churn_ : sites.2.Copied later.world.globals

/-- **One round more.** -/
theorem Churned.round {number : Nat} {stable churn : GlobalSite} {later : DemoState}
    (churned : Churned options rounds printed number (stable, churn) later)
    (counting : rounds ≠ 0) :
    Yields (do
      let (_, stable) ← readGlobal stable
      setGlobal churn.name (.int (Int64.ofNat number))
      let (_, churn) ← readGlobal churn
      pure (stable, churn)) later (Churned options rounds printed (number + 1)) := by
  refine .bind (.again churned.staged churned.stable churned.stable_
    fun staged first stable stable_ => ?_)
  rw [churned.churn.name]
  refine .bind (.setGlobal staged (fun _ => counting) fun staged counter apart revoked => ?_)
  have churn_ := (first "$counter").copied churned.churn.name churned.churn_
  have unheld := revoked churn churned.churn.name churn_
  have second := apart "$config" (by decide)
  refine .bind (.anew staged churned.churn unheld fun staged third churn churn_ => .pure ?_)
  have stable_ := (third "$config").copied stable.name (second.copied stable.name stable_)
  have config := (third "$config").value.trans
    (second.value.trans ((first "$config").value.trans churned.config))
  have once : max (min number 1) 1 = min (number + 1) 1 := by omega
  exact ⟨staged, churned.printed, config, fun _ => (third "$counter").value.trans counter,
    once ▸ stable, stable_, churn, churn_⟩

/-- How often a site fails whose global is written before each of so many reads, if the
budget leaves room to count. -/
def failuresOf (budget rounds : Nat) : Option Nat :=
  if budget + 1 < 2 ^ 32 then some (min (rounds - 1) (budget + 1)) else none

/-- **A global that stays and one that changes.**  The site of the first never fails, and that
of the second fails on each round but the first, until it is past its budget. -/
theorem plays_readGlobals (options : Options) {iterations : Int}
    (rounds_ : iterations.toNat = rounds) :
    Plays options rounds (readGlobals iterations)
      [.reading "$config at globals.rb:1" (Value.string "production").render (some 0),
        .reading "$counter at globals.rb:2" (lastOf rounds).render
          (failuresOf options.globalMaxFail.toNat rounds)] := by
  refine plays_withContext fun context state staged => ?_
  refine .bind (.setGlobal staged (fun same => absurd same (by decide))
    fun {start} staged config leaves _ => ?_)
  have unread : Churned options rounds state.printed 0 (stableSite, churnSite)
      { world := start, printed := state.printed } :=
    ⟨staged, rfl, config, nofun, watched_stableSite options, stableSite.copied_of_unlinked rfl _,
      watched_churnSite options, churnSite.copied_of_unlinked rfl _⟩
  refine .bind ((Yields.countUp (Churned options rounds state.printed) unread ?_).mono ?_)
  · rintro number ⟨stable, churn⟩ later below churned
    exact churned.round (by omega)
  · rintro ⟨stable, churn⟩ later churned
    rw [rounds_] at churned
    have counter : later.world.globals.value "$counter" = lastOf rounds := by
      cases rounds with
      | zero => exact churned.staged.idle rfl
      | succ more => exact churned.counter (Nat.succ_ne_zero more)
    refine .bind (.reportGlobal churned.staged churned.stable churned.stable_ (some 0)
      (fun {left count} watched same => ?_) fun staged leaves shows => ?_)
    · have once : max (min rounds 1) 1 = 1 := by omega
      cases same
      rw [Tally.failures_of_once (once ▸ watched.tally)]
      rfl
    have churn_ := (leaves "$counter").copied churned.churn.name churned.churn_
    refine .reportGlobal staged churned.churn churn_
      (failuresOf options.globalMaxFail.toNat rounds) (fun {left count} watched same => ?_)
      fun staged _ shows' => ⟨staged, ?_⟩
    · unfold failuresOf at same
      split at same
      · cases same
        rw [watched.tally.failures_eq ‹_›]
        omega
      · cases same
    rw [churned.config] at shows
    rw [(leaves "$counter").value, counter] at shows'
    rw [churned.printed]
    exact ((Shown.nil _).push shows).push shows'

end Demo

end InlineCache
