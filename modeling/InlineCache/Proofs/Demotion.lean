/-
# InlineCache.Proofs.Demotion -- when a site gives up caching its global

A site finds out that its copy was revoked at the next read, and counts a failure then.  So
several writes between two reads count once, and writes before the first read do not count.
Past its budget the site is demoted, and reads the variable directly.

What happens between a site and its global is told as a list (`GlobalUse`): its reads, and
the writes of the global by whoever writes it.  A run of the site (`Uses`) has anything else
in between that is no use of the two: reads through other sites, uses of other globals, new
sites, and whatever hooks do.

* `Standing`: how a site stands after its uses, which every step of a run keeps;
* `demoted_past_budget`: so the failures are the reads that came after a write, up to one more
  than the budget, and a site is demoted if and only if it is past that; a site on a global
  that may not be cached is demoted by its first read; and a demoted site is left as it is.
-/
import InlineCache.Proofs.Renewal
import Mathlib.Algebra.Group.Nat.Defs

namespace InlineCache

set_option autoImplicit false

variable {Code : Type}

/-! ## Uses of a site -/

/-- What happens between a site and its global. -/
inductive GlobalUse where
  /-- the site is read -/
  | read
  /-- the global is written -/
  | wrote
deriving DecidableEq, Repr

/-- The reads, apart from the first, that come after a write since the read before.  The
latest use is first. -/
def GlobalUse.rereads : List GlobalUse → Nat
  | [] => 0
  | .wrote :: earlier => rereads earlier
  | .read :: earlier =>
      (if .read ∈ earlier ∧ earlier.head? = some .wrote then 1 else 0) + rereads earlier

open GlobalUse

/-- Before the first read there is none that comes after another. -/
theorem GlobalUse.rereads_of_unread {uses : List GlobalUse} (never : .read ∉ uses) :
    rereads uses = 0 := by
  induction uses with
  | nil => rfl
  | cons use earlier ih =>
      rw [List.mem_cons, not_or] at never
      cases use with
      | read => exact absurd rfl never.1
      | wrote => exact ih never.2

/-- A read after a write is one more, if there was a read before. -/
theorem GlobalUse.rereads_read_of_wrote {uses : List GlobalUse} (seen : .read ∈ uses)
    (late : uses.head? ≠ some .read) : rereads (.read :: uses) = rereads uses + 1 := by
  cases uses with
  | nil => cases seen
  | cons use earlier =>
      cases use with
      | read => exact absurd rfl late
      | wrote => simp [rereads, seen, Nat.add_comm]

/-- A read after a read is none. -/
theorem GlobalUse.rereads_read_of_read {uses : List GlobalUse} (late : uses.head? = some .read) :
    rereads (.read :: uses) = rereads uses := by
  rw [rereads, late, if_neg (by simp), Nat.zero_add]

theorem GlobalUse.rereads_le_cons (use : GlobalUse) (uses : List GlobalUse) :
    rereads uses ≤ rereads (use :: uses) := by
  cases use with
  | read => exact Nat.le_add_left _ _
  | wrote => exact Nat.le_refl _

/-! ## What a read leaves of its site -/

namespace GlobalSite

variable {site after : GlobalSite} {options : Options} {globals : Globals Code}
  {points : SwitchPoints} {its : GlobalVariable Code}

/-- What linking leaves of a site, by the variable that it reads. -/
inductive Relinked (options : Options) (site : GlobalSite) (its : GlobalVariable Code) :
    GlobalSite → Prop where
  | direct (barred : its.isCacheable = false) :
      Relinked options site its { site with demoted := true, read := site.read.store .uncached }
  | first (allowed : its.isCacheable = true)
      (uncopied : ∀ token value, site.read.load ≠ .cached token value) :
      Relinked options site its
        { site with read := site.read.store (.cached its.invalidator.current its.value) }
  | again (allowed : its.isCacheable = true) {token : SwitchPoint} {value : Value}
      (kept : site.read.load = .cached token value)
      (within : ¬ options.globalMaxFail < site.failures + 1) :
      Relinked options site its
        { site with
            failures := site.failures + 1
            read := site.read.store (.cached its.invalidator.current its.value) }
  | spent (allowed : its.isCacheable = true) {token : SwitchPoint} {value : Value}
      (kept : site.read.load = .cached token value)
      (beyond : options.globalMaxFail < site.failures + 1) :
      Relinked options site its
        { site with
            failures := site.failures + 1
            demoted := true
            read := site.read.store .uncached }

/-- **What linking does**: it makes sure of the variable, and decides by it. -/
theorem relinked (site : GlobalSite) (options : Options) (globals : Globals Code)
    (points : SwitchPoints) :
    ∃ its, NameMap.get? (site.relink options globals points).globals site.name = some its ∧
      Relinked options site its (site.relink options globals points).site := by
  obtain ⟨its, there⟩ := Option.isSome_iff_exists.1
    (globals.isSome_define site.name (defaultScope site.name) points)
  refine ⟨its, ?_⟩
  simp only [relink, Globals.mention, there]
  cases allowed : its.isCacheable with
  | false => exact ⟨there, .direct allowed⟩
  | true =>
      simp only [Bool.not_true, Bool.false_eq_true, if_false]
      cases kept : site.read.load with
      | unlinked => exact ⟨there, .first allowed fun _ _ => by simp [kept]⟩
      | uncached => exact ⟨there, .first allowed fun _ _ => by simp [kept]⟩
      | cached token value =>
          by_cases beyond : options.globalMaxFail < site.failures + 1
          · simp only [Bool.true_and, if_true, decide_eq_true_eq, beyond]
            exact ⟨there, .spent allowed kept beyond⟩
          · simp only [Bool.true_and, if_true, decide_eq_true_eq, beyond, if_false]
            exact ⟨there, .again allowed kept beyond⟩

theorem get_of_uncached (kept : site.read.load = .uncached) (options : Options)
    (globals : Globals Code) (points : SwitchPoints) :
    site.get options globals points =
      { value := globals.value site.name, site, globals, points } := by
  simp only [get, kept]

/-- A site that keeps no valid copy and does not read directly links. -/
theorem get_of_unheld (unheld : site.held? points = none) (kept : site.read.load ≠ .uncached)
    (options : Options) (globals : Globals Code) :
    site.get options globals points = site.relink options globals points := by
  unfold held? at unheld
  cases load : site.read.load with
  | unlinked => simp only [get, load]
  | uncached => exact absurd load kept
  | cached token value =>
      simp only [load, ite_eq_right_iff, reduceCtorEq, imp_false] at unheld
      simp only [get, load, if_neg unheld]

end GlobalSite

namespace World

variable {world : World Code Ledger} {number : Nat} {site : GlobalSite}

/-- What a read through a site leaves of the world. -/
theorem readGlobal_there (there : world.host.sites[number]? = some site) :
    (world.readGlobal number).2.options = world.options ∧
      (world.readGlobal number).2.host.running = world.host.running ∧
      (world.readGlobal number).2.globals =
        (site.get world.options world.globals world.points).globals ∧
      (world.readGlobal number).2.points =
        (site.get world.options world.globals world.points).points ∧
      (world.readGlobal number).2.host.sites[number]? =
        some (site.get world.options world.globals world.points).site := by
  simp [readGlobal, there, say, Array.getElem?_modify]

end World

namespace Ledger

open World

variable {world after start : World Code Ledger} {number : Nat} {name : String}
  {site : GlobalSite} {uses more : List GlobalUse} {maxFail : Nat}

/-! ## Runs of a site -/

/-- A run of the site of a place with its uses, the latest first.  It is read while no hook
on its global runs; writes of the global begin, and end after their hooks have run; and
otherwise anything may happen that is no use of the two. -/
inductive Uses (number : Nat) (name : String) :
    World Code Ledger → List GlobalUse → World Code Ledger → Prop where
  | start (world : World Code Ledger) : Uses number name world [] world
  | read {start world : World Code Ledger} {uses : List GlobalUse}
      (run : Uses number name start uses world) (outside : name ∉ world.host.running) :
      Uses number name start (.read :: uses) (world.readGlobal number).2
  | store {start world : World Code Ledger} {uses : List GlobalUse}
      (run : Uses number name start uses world) (value : Value) :
      Uses number name start (.wrote :: uses) (world.beginWrite name value)
  | revoke {start world : World Code Ledger} {uses : List GlobalUse}
      (run : Uses number name start uses world) (runs : name ∈ world.host.running) :
      Uses number name start uses (world.endWrite name)
  | aside {start world after : World Code Ledger} {uses : List GlobalUse}
      (run : Uses number name start uses world) (step : Step world after)
      (options : after.options = world.options)
      (site : after.host.sites[number]? = world.host.sites[number]?)
      (about : after.host.about name = world.host.about name) :
      Uses number name start uses after

namespace Uses

theorem trans (first : Uses number name start uses world)
    (second : Uses number name world more after) : Uses number name start (more ++ uses) after := by
  induction second with
  | start => exact first
  | read _ outside ih => exact .read ih outside
  | store _ value ih => exact .store ih value
  | revoke _ runs ih => exact .revoke ih runs
  | aside _ step options site about ih => exact .aside ih step options site about

theorem evolves (run : Uses number name start uses world) : Evolves start world := by
  induction run with
  | start => exact .refl
  | read _ _ ih => exact ih.tail (.read _ number)
  | store _ value ih => exact ih.tail (.store _ name value)
  | revoke _ runs ih => exact ih.tail (.revoke _ runs)
  | aside _ step _ _ _ ih => exact ih.tail step

end Uses

/-! ## How a site stands -/

/-- **How a site stands after its uses.**  It was never read; or it keeps a copy, which is
good exactly if the latest use was a read; or it is past its budget; or its global may not be
cached. -/
inductive Standing (maxFail : Nat) (uses : List GlobalUse) (world : World Code Ledger)
    (site : GlobalSite) : Prop where
  | unread (never : .read ∉ uses) (kept : site.read.load = .unlinked)
      (failures : site.failures = 0) (demoted : site.demoted = false)
  | caching {token : SwitchPoint} {value : Value} (seen : .read ∈ uses)
      (settled : world.globals.cacheable? site.name = some true)
      (kept : site.read.load = .cached token value) (demoted : site.demoted = false)
      (failures : site.failures.toNat = rereads uses) (within : rereads uses ≤ maxFail)
      (good : uses.head? = some .read ↔
        world.points.isValid token = true ∧ site.name ∉ world.host.running)
  | spent (settled : world.globals.cacheable? site.name = some true)
      (kept : site.read.load = .uncached) (demoted : site.demoted = true)
      (failures : site.failures.toNat = maxFail + 1) (beyond : maxFail < rereads uses)
  | direct (seen : .read ∈ uses) (settled : world.globals.cacheable? site.name = some false)
      (kept : site.read.load = .uncached) (demoted : site.demoted = true)
      (failures : site.failures = 0)

/-- A step that leaves the history of a global alone begins and ends no write of it. -/
theorem running_step (step : Step world after)
    (about : after.host.about name = world.host.about name) :
    name ∈ after.host.running ↔ name ∈ world.host.running := by
  -- a mark about another global begins or ends a write of that one
  have marked : ∀ mark : GlobalMark,
      (world.host.note mark).about name = world.host.about name → mark.name ≠ name := by
    rintro mark same rfl
    have longer : (world.host.note mark).about mark.name = mark :: world.host.about mark.name := by
      simp [note, Ledger.about]
    rw [longer] at same
    exact List.cons_ne_self _ _ same
  cases step with
  | site other file line => rfl
  | read place =>
      rcases world.readGlobal_cases place with ⟨-, -, host⟩ | ⟨_, _, -, -, -, -, -, host⟩ <;>
        rw [host]
  | define other scope => rfl
  | hook other hook => rfl
  | store other value =>
      have different : other ≠ name := marked (.stored other value) about
      exact List.mem_cons.trans (or_iff_right (Ne.symm different))
  | @revoke other _ =>
      have different : other ≠ name := marked (.revoked other) about
      exact List.mem_erase_of_ne (Ne.symm different)
  | elsewhere globals host ages guards => rw [host]

/-- What a copy was taken under goes on to hold, or not to, until its global is revoked. -/
theorem isValid_copy_step (sound : Sound world) (step : Step world after)
    (there : world.host.sites[number]? = some site)
    (about : after.host.about site.name = world.host.about site.name) {token : SwitchPoint}
    {value : Value} (kept : site.read.load = .cached token value) :
    after.points.isValid token = world.points.isValid token := by
  have faithful := sound.faithful there kept
  cases valid : world.points.isValid token with
  | true => rw [isValid_step sound step about (faithful.guards valid), valid]
  | false => exact (ages_step step).stale faithful.known valid

namespace Standing

/-- What is no use of the site or of its global. -/
theorem aside (standing : Standing maxFail uses world site) (sound : Sound world)
    (there : world.host.sites[number]? = some site) (step : Step world after)
    (about : after.host.about site.name = world.host.about site.name) :
    Standing maxFail uses after site := by
  cases standing with
  | unread never kept failures demoted => exact .unread never kept failures demoted
  | caching seen settled kept demoted failures within good =>
      refine .caching seen (cacheable?_step step settled) kept demoted failures within ?_
      rw [good, isValid_copy_step sound step there about kept, running_step step about]
  | spent settled kept demoted failures beyond =>
      exact .spent (cacheable?_step step settled) kept demoted failures beyond
  | direct seen settled kept demoted failures =>
      exact .direct seen (cacheable?_step step settled) kept demoted failures

/-- A write that begins makes the copy as good as gone. -/
theorem store (standing : Standing maxFail uses world site) (value : Value) :
    Standing maxFail (.wrote :: uses) (world.beginWrite site.name value) site := by
  have step : Step world (world.beginWrite site.name value) := .store world site.name value
  cases standing with
  | unread never kept failures demoted =>
      exact .unread (by simp [never]) kept failures demoted
  | caching seen settled kept demoted failures within good =>
      refine .caching (List.mem_cons_of_mem _ seen) (cacheable?_step step settled) kept demoted
        failures within (iff_of_false (by simp) fun still => still.2 ?_)
      exact List.mem_cons_self
  | spent settled kept demoted failures beyond =>
      exact .spent (cacheable?_step step settled) kept demoted failures beyond
  | direct seen settled kept demoted failures =>
      exact .direct (List.mem_cons_of_mem _ seen) (cacheable?_step step settled) kept demoted
        failures

/-- A write that ends revokes the copy. -/
theorem revoke (standing : Standing maxFail uses world site) (sound : Sound world)
    (there : world.host.sites[number]? = some site) (runs : site.name ∈ world.host.running) :
    Standing maxFail uses (world.endWrite site.name) site := by
  have step : Step world (world.endWrite site.name) := .revoke world runs
  cases standing with
  | unread never kept failures demoted => exact .unread never kept failures demoted
  | @caching token value seen settled kept demoted failures within good =>
      have faithful := sound.faithful there kept
      have gone : (world.endWrite site.name).points.isValid token = false := by
        cases valid : world.points.isValid token with
        | true => exact Globals.invalidate_flips (faithful.guards valid)
        | false => exact (ages_step step).stale faithful.known valid
      refine .caching seen (cacheable?_step step settled) kept demoted failures within ?_
      refine iff_of_false (fun latest => (good.1 latest).2 runs) fun still => ?_
      rw [gone] at still
      exact Bool.false_ne_true still.1
  | spent settled kept demoted failures beyond =>
      exact .spent (cacheable?_step step settled) kept demoted failures beyond
  | direct seen settled kept demoted failures =>
      exact .direct seen (cacheable?_step step settled) kept demoted failures

/-- A read that leaves the site as it is. -/
theorem reread (standing : Standing maxFail uses world site) (step : Step world after)
    (seen : site.read.load ≠ .unlinked)
    (still : ∀ token value, site.read.load = .cached token value →
      after.points.isValid token = true ∧ world.points.isValid token = true)
    (outside : site.name ∉ world.host.running)
    (running : after.host.running = world.host.running) :
    Standing maxFail (.read :: uses) after site := by
  cases standing with
  | unread never kept failures demoted => exact absurd kept seen
  | caching seen settled kept demoted failures within good =>
      obtain ⟨holds, held⟩ := still _ _ kept
      have latest := rereads_read_of_read (good.2 ⟨held, outside⟩)
      refine .caching (List.mem_cons_self) (cacheable?_step step settled) kept demoted
        (latest ▸ failures) (latest ▸ within) (iff_of_true rfl ⟨holds, ?_⟩)
      rwa [running]
  | spent settled kept demoted failures beyond =>
      exact .spent (cacheable?_step step settled) kept demoted failures
        (Nat.lt_of_lt_of_le beyond (rereads_le_cons _ _))
  | direct _ settled kept demoted failures =>
      exact .direct List.mem_cons_self (cacheable?_step step settled) kept demoted failures

/-- **A read that links** finds that the copy was revoked, if there was one. -/
theorem relinked {options : Options} {its : GlobalVariable Code} {linked : GlobalSite}
    (standing : Standing maxFail uses world site) (step : Step world after)
    (unheld : site.held? world.points = none) (undecided : site.read.load ≠ .uncached)
    (relinked : GlobalSite.Relinked options site its linked)
    (allowed : options.globalMaxFail.toNat = maxFail) (small : maxFail < 2 ^ 32 - 1)
    (found : NameMap.get? after.globals site.name = some its)
    (alive : after.globals.Alive after.points) (outside : site.name ∉ after.host.running) :
    Standing maxFail (.read :: uses) after linked := by
  have decided : after.globals.cacheable? site.name = some its.isCacheable :=
    Option.map_eq_some_iff.2 ⟨its, found, rfl⟩
  have holds := alive.valid found
  cases standing with
  | spent _ kept _ _ _ | direct _ _ kept _ _ => exact absurd kept undecided
  | unread never kept failures demoted =>
      have none_ : rereads (.read :: uses) = 0 := by
        rw [rereads, if_neg fun both => never both.1, rereads_of_unread never]
      cases relinked with
      | direct barred =>
          exact .direct List.mem_cons_self (decided.trans (congrArg some barred))
            (DispatchCell.load_store _ _) rfl failures
      | first plain _ =>
          refine .caching List.mem_cons_self (decided.trans (congrArg some plain))
            (DispatchCell.load_store _ _) demoted ?_ ?_ (iff_of_true rfl ⟨holds, outside⟩)
          · rw [none_]
            exact congrArg UInt32.toNat failures
          · rw [none_]
            exact Nat.zero_le _
      | again _ copied _ | spent _ copied _ => cases kept.symm.trans copied
  | @caching token value seen settled kept demoted failures within good =>
      have plain := cacheable?_step step settled
      have gone : world.points.isValid token ≠ true := by
        intro valid
        simp [GlobalSite.held?, kept, valid] at unheld
      have one := rereads_read_of_wrote seen fun latest => gone (good.1 latest).1
      -- the number of failures has room for one more
      have counted : (site.failures + 1).toNat = rereads uses + 1 := by
        rw [UInt32.toNat_add, failures]
        exact Nat.mod_eq_of_lt (by rw [UInt32.toNat_one]; omega)
      have budget : options.globalMaxFail < site.failures + 1 ↔ maxFail < rereads uses + 1 := by
        rw [UInt32.lt_iff_toNat_lt, counted, allowed]
      cases relinked with
      | direct barred =>
          rw [decided, barred] at plain
          cases plain
      | first _ uncopied => exact absurd kept (uncopied token value)
      | again _ _ within =>
          refine .caching List.mem_cons_self plain (DispatchCell.load_store _ _) demoted ?_ ?_
            (iff_of_true rfl ⟨holds, outside⟩)
          · rw [one]
            exact counted
          · rw [one]
            exact Nat.not_lt.1 (fun beyond => within (budget.2 beyond))
      | spent _ _ beyond =>
          have past := budget.1 beyond
          refine .spent plain (DispatchCell.load_store _ _) rfl ?_ ?_
          · refine counted.trans ?_
            omega
          · rw [one]
            exact past

/-- **What a read leaves**: the site stands as its uses say. -/
theorem read (standing : Standing maxFail uses world site) (sound : Sound world)
    (alive : world.globals.Alive world.points) (there : world.host.sites[number]? = some site)
    (allowed : world.options.globalMaxFail.toNat = maxFail) (small : maxFail < 2 ^ 32 - 1)
    (outside : site.name ∉ world.host.running) :
    ∃ later, (world.readGlobal number).2.host.sites[number]? = some later ∧
      later.name = site.name ∧
      Standing maxFail (.read :: uses) (world.readGlobal number).2 later := by
  obtain ⟨-, running, globals, points, stands⟩ := world.readGlobal_there there
  have step : Step world (world.readGlobal number).2 := .read world number
  cases held : site.held? world.points with
  | some value =>
      rw [GlobalSite.get_of_held held] at stands points
      obtain ⟨token, copied, valid⟩ := GlobalSite.held?_eq_some_iff.1 held
      refine ⟨site, stands, rfl, standing.reread step (by rw [copied]; exact nofun) ?_ outside
        running⟩
      intro token' value' same
      cases copied.symm.trans same
      exact ⟨points ▸ valid, valid⟩
  | none =>
      by_cases kept : site.read.load = .uncached
      · rw [GlobalSite.get_of_uncached kept] at stands
        refine ⟨site, stands, rfl, standing.reread step (by rw [kept]; exact nofun) ?_ outside
          running⟩
        intro token value copied
        cases kept.symm.trans copied
      · rw [GlobalSite.get_of_unheld held kept] at stands globals
        obtain ⟨its, found, relinked⟩ := site.relinked world.options world.globals world.points
        have fetched := site.fetched_relink world.options world.globals world.points
        exact ⟨_, stands, fetched.name, standing.relinked step held kept relinked allowed small
          (globals ▸ found) (alive_step sound alive step) (running ▸ outside)⟩

/-- What a site that may keep a copy has counted. -/
theorem counted (standing : Standing maxFail uses world site)
    (free : world.globals.cacheable? site.name ≠ some false) :
    site.failures.toNat = min (rereads uses) (maxFail + 1) ∧
      (site.demoted = true ↔ maxFail < rereads uses) := by
  cases standing with
  | unread never kept failures demoted =>
      rw [rereads_of_unread never, failures, demoted]
      simp
  | caching seen settled kept demoted failures within good =>
      rw [failures, demoted]
      exact ⟨by omega, by simpa using within⟩
  | spent settled kept demoted failures beyond =>
      rw [failures]
      exact ⟨by omega, iff_of_true demoted beyond⟩
  | direct seen settled kept demoted failures => exact absurd settled free

/-- A site that may keep no copy is demoted once it was read. -/
theorem barred (standing : Standing maxFail uses world site)
    (barred : world.globals.cacheable? site.name = some false) :
    site.failures = 0 ∧ (site.demoted = true ↔ .read ∈ uses) := by
  cases standing with
  | unread never kept failures demoted =>
      rw [demoted]
      exact ⟨failures, iff_of_false Bool.false_ne_true never⟩
  | caching seen settled kept demoted failures within good => cases settled.symm.trans barred
  | spent settled kept demoted failures beyond => cases settled.symm.trans barred
  | direct seen settled kept demoted failures => exact ⟨failures, iff_of_true demoted seen⟩

/-- A demoted site reads directly. -/
theorem uncached (standing : Standing maxFail uses world site) (demoted : site.demoted = true) :
    site.read.load = .uncached := by
  cases standing with
  | unread _ _ _ not => exact absurd (not.symm.trans demoted) Bool.false_ne_true
  | caching _ _ _ not => exact absurd (not.symm.trans demoted) Bool.false_ne_true
  | spent _ kept => exact kept
  | direct _ _ kept => exact kept

end Standing

/-! ## What a run leaves -/

namespace Uses

theorem standing (sound : Sound start) (alive : start.globals.Alive start.points) {file : String}
    {line : UInt32} (fresh : start.host.sites[number]? = some { name, file, line })
    (small : start.options.globalMaxFail.toNat < 2 ^ 32 - 1)
    (run : Uses number name start uses world) :
    world.options = start.options ∧ ∃ site, world.host.sites[number]? = some site ∧
      site.name = name ∧ Standing start.options.globalMaxFail.toNat uses world site := by
  induction run with
  | start => exact ⟨rfl, _, fresh, rfl, .unread List.not_mem_nil rfl rfl rfl⟩
  | @read world _ run outside ih =>
      obtain ⟨options, site, there, rfl, standing⟩ := ih
      obtain ⟨later, stands, named, kept⟩ := standing.read (sound.evolves run.evolves)
        (alive_evolves sound alive run.evolves) there (by rw [options]) small outside
      exact ⟨(world.readGlobal_there there).1.trans options, later, stands, named, kept⟩
  | store _ value ih =>
      obtain ⟨options, site, there, rfl, standing⟩ := ih
      exact ⟨options, site, there, rfl, standing.store value⟩
  | revoke run runs ih =>
      obtain ⟨options, site, there, rfl, standing⟩ := ih
      exact ⟨options, site, there, rfl, standing.revoke (sound.evolves run.evolves) there runs⟩
  | aside run step settings same about ih =>
      obtain ⟨options, site, there, rfl, standing⟩ := ih
      exact ⟨settings.trans options, site, same.trans there, rfl,
        standing.aside (sound.evolves run.evolves) there step about⟩

theorem of_uncached (there : world.host.sites[number]? = some site)
    (kept : site.read.load = .uncached) (further : Uses number name world more after) :
    after.host.sites[number]? = some site := by
  induction further with
  | start => exact there
  | read _ _ ih =>
      obtain ⟨-, -, -, -, stands⟩ := readGlobal_there ih
      rwa [GlobalSite.get_of_uncached kept] at stands
  | store _ _ ih => exact ih
  | revoke _ _ ih => exact ih
  | aside _ _ _ same _ ih => exact same.trans ih

end Uses

/-! ## Writes -/

variable {exec : Exec Code Ledger}

/-- Code that leaves a site to its runs, and ends the writes it begins. -/
def Obliging (number : Nat) (name : String) (exec : Exec Code Ledger) : Prop :=
  ∀ (code : Code) (activation : Activation) (world : World Code Ledger),
    (∃ more, Uses number name world more (exec code activation world).2) ∧
      (exec code activation world).2.host.running = world.host.running

theorem Obliging.runTraces (obliging : Obliging number name exec) (written : String)
    (value : Value) (hooks : List Code) (world : World Code Ledger) :
    (∃ more, Uses number name world more (World.runTraces exec written value hooks world)) ∧
      (World.runTraces exec written value hooks world).host.running = world.host.running := by
  induction hooks generalizing world with
  | nil => exact ⟨⟨[], .start world⟩, rfl⟩
  | cons hook rest ih =>
      obtain ⟨⟨_, first⟩, same⟩ := obliging hook
        { context := none, receiver := .nil, args := [.symbol written, value], block := none,
          entrance := .trace } world
      obtain ⟨⟨_, further⟩, same'⟩ := ih (exec hook
        { context := none, receiver := .nil, args := [.symbol written, value], block := none,
          entrance := .trace } world).2
      exact ⟨⟨_, first.trans further⟩, same'.trans same⟩

/-- **A write of any global is a run of any site**, if its hooks are. -/
theorem Uses.write (obliging : Obliging number name exec) (written : String) (value : Value)
    (world : World Code Ledger) :
    ∃ more, Uses number name world more (writeGlobal exec written value world).2 ∧
      (written = name → .wrote ∈ more) := by
  obtain ⟨⟨more, ran⟩, same⟩ := obliging.runTraces written value
    ((world.beginWrite written value).hooksOn written) (world.beginWrite written value)
  have runs : written ∈ (World.runTraces exec written value
      ((world.beginWrite written value).hooksOn written)
        (world.beginWrite written value)).host.running := by
    rw [same]
    exact List.mem_cons_self
  rw [writeGlobal_eq]
  by_cases its : written = name
  · subst its
    have begun := (@Uses.start Code number written world).store value
    refine ⟨_, (begun.trans ran).revoke runs, fun _ => by simp⟩
  · have other : ∀ (mark : GlobalMark) (world : World Code Ledger), mark.name = written →
        (world.host.note mark).about name = world.host.about name := by
      rintro mark world rfl
      simp [note, Ledger.about, its]
    have begun := (@Uses.start Code number name world).aside
      (.store world written value) rfl rfl (other (.stored written value) world rfl)
    exact ⟨_, (begun.trans ran).aside (.revoke _ runs) rfl rfl
      (other (.revoked written) _ rfl), fun same => absurd same its⟩

/-! ## Demotion -/

/-- **Sites on globals are demoted exactly past their budget.**  Take any run of a new site
in a reachable world: its reads, the writes of its global, and anything else in between.  On
a global that may be cached the failures are the reads, apart from the first, that came
after a write since the read before, up to one more than the budget, and the site is demoted
if and only if there were more of them than the budget allows.  On another global it is
demoted as soon as it was read, with no failure.  A demoted site keeps no copy and is left as
it is by whatever comes after.  And whatever is written next carries the run on. -/
theorem demoted_past_budget (lawful : Lawful exec) (reachable : Reachable exec start)
    {file : String} {line : UInt32}
    (fresh : start.host.sites[number]? = some { name, file, line })
    (small : start.options.globalMaxFail.toNat < 2 ^ 32 - 1)
    (run : Uses number name start uses world) :
    ∃ site, world.host.sites[number]? = some site ∧
      (world.globals.cacheable? name ≠ some false →
        site.failures.toNat = min (rereads uses) (start.options.globalMaxFail.toNat + 1) ∧
          (site.demoted = true ↔ start.options.globalMaxFail.toNat < rereads uses)) ∧
      (world.globals.cacheable? name = some false →
        site.failures = 0 ∧ (site.demoted = true ↔ .read ∈ uses)) ∧
      (site.demoted = true → ∀ more after, Uses number name world more after →
        after.host.sites[number]? = some site ∧ site.isCached after.points = false) ∧
      (Obliging number name exec → ∀ written value, ∃ more,
        Uses number name start (more ++ uses) (writeGlobal exec written value world).2 ∧
          (written = name → .wrote ∈ more)) := by
  obtain ⟨-, site, there, rfl, standing⟩ := run.standing (sound_of_reachable lawful reachable)
    (alive_of_reachable lawful reachable) fresh small
  refine ⟨site, there, standing.counted, standing.barred, fun demoted more after further => ?_,
    fun obliging written value => ?_⟩
  · have kept := standing.uncached demoted
    exact ⟨further.of_uncached there kept, by simp only [GlobalSite.isCached, kept]⟩
  · obtain ⟨more, carried, wrote⟩ := Uses.write obliging written value world
    exact ⟨more, run.trans carried, wrote⟩

/-- A site that may fail once is demoted by the second read that comes after a write; two
writes between reads count once. -/
theorem demoted_past_budget_of_two :
    let fresh : World Unit Ledger := create { globalMaxFail := 1 } .hierarchy none {}
    let start : World Unit Ledger := { fresh with host := fresh.host.addSite "$x" "a.rb" 1 }
    let written := fun value (world : World Unit Ledger) =>
      (world.beginWrite "$x" (.int value)).endWrite "$x"
    let read := fun world : World Unit Ledger => (world.readGlobal 0).2
    let world := read (written 3 (read (written 2 (written 1 (read start)))))
    ∃ site, world.host.sites[0]? = some site ∧ site.demoted = true ∧ site.failures.toNat = 2 ∧
      (read (written 4 world)).host.sites[0]? = some site := by
  intro fresh start written read world
  have reachable : Reachable idle start :=
    .step (.fresh { globalMaxFail := 1 } .hierarchy none) (.site fresh "$x" "a.rb" 1)
  have writes : ∀ {uses between later} value, Uses 0 "$x" between uses later →
      Uses 0 "$x" between (.wrote :: uses) (written value later) := fun value run =>
    (run.store (.int value)).revoke List.mem_cons_self
  have reads : ∀ {uses between later}, Uses 0 "$x" between uses later →
      "$x" ∉ later.host.running → Uses 0 "$x" between (.read :: uses) (read later) :=
    fun run outside => run.read outside
  have facts : fresh.host.sites.size = 0 ∧ "$x" ∉ start.host.running ∧
      "$x" ∉ (written 2 (written 1 (read start))).host.running ∧
      "$x" ∉ (written 3 (read (written 2 (written 1 (read start))))).host.running ∧
      "$x" ∉ (written 4 world).host.running ∧ start.options.globalMaxFail = 1 ∧
      world.globals.cacheable? "$x" = some true := by
    decide +kernel
  obtain ⟨empty, idle₀, idle₁, idle₂, idle₃, budget, cacheable⟩ := facts
  have run : Uses 0 "$x" start [.read, .wrote, .read, .wrote, .wrote, .read] world :=
    reads (writes 3 (reads (writes 2 (writes 1 (reads (.start start) idle₀))) idle₁)) idle₂
  have further : Uses 0 "$x" world [.read, .wrote] (read (written 4 world)) :=
    reads (writes 4 (.start world)) idle₃
  have new : start.host.sites[0]? = some { name := "$x", file := "a.rb", line := 1 } :=
    Array.getElem?_push.trans (if_pos empty.symm)
  obtain ⟨site, there, counted, -, stays, -⟩ :=
    demoted_past_budget lawful_idle reachable new (by rw [budget]; decide) run
  obtain ⟨failures, demoted⟩ := counted (by rw [cacheable]; exact nofun)
  rw [budget] at failures demoted
  have gone := demoted.2 (by decide)
  exact ⟨site, there, gone, failures, (stays gone _ _ further).1⟩

end Ledger

end InlineCache
