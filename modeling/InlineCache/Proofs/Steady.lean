/-
# InlineCache.Proofs.Steady -- a site that serves a few types settles

Suppose a new site is called for receivers of some types, in any order and as often as one
likes, and that meanwhile nothing is done to what is looked up for these types.  If there
are no more of them than a site keeps, and none of its links is one too many, then the site
links once for each type and never again.

* `Alike`: what calls on a few types rest on is the same at two moments; changes that
  strike none of them keep it so (`Orderly.alike_change`);
* `Orderly`: what a world always is, when it is made (`orderly_create`), through changes
  (`Orderly.change`) and through calls (`engine_orderly`);
* `Settled`: the closed form of a site that has served some types, the latest first, what
  dispatch makes of it (`Settled.dispatch`) and what a link does (`Settled.link`);
* `steady_state`: so it goes for every run (`Serves`).
-/
import InlineCache.Proofs.Budget
import InlineCache.Proofs.Evolution
import Mathlib.Data.List.Perm.Subperm

namespace InlineCache

set_option autoImplicit false

/-- Whether an invoker can be built does not depend on where variables are laid out. -/
theorem Types.isNone_specialize {Code : Type} {table after : Types Code} {method : Method Code}
    (promoted : after.promoted? method = table.promoted? method) (options : Options)
    (shape : CallShape) (type : TypeRef) :
    (after.specialize options shape type method).1.isNone =
      (table.specialize options shape type method).1.isNone := by
  unfold Types.specialize
  cases method.implementation with
  | mixed interpreted => rw [promoted]
  | attrReader name | attrWriter name => dsimp only; split <;> rfl
  | _ => rfl

namespace World

variable {Code Host : Type} {world after between : World Code Host} {ref : SiteRef}
  {site : CallSite Code} {type : TypeRef} {types : List TypeRef}

/-! ## What calls on a few types rest on -/

/-- Descent is in order, every type has a valid switch point of its own, and every method
stands in one type.  A fresh world is in order, and changes and calls keep it so. -/
structure Orderly (world : World Code Host) : Prop where
  sound : world.registry.Sound
  serials : world.types.Serials world.nextSerial

/-- What calls for receivers of these types rest on is the same at two moments. -/
structure Alike (types : List TypeRef) (world after : World Code Host) : Prop where
  options : after.options = world.options
  rule : after.rule = world.rule
  tables : ∀ type ∈ types, after.types.methodTables type = world.types.methodTables type
  promoted : ∀ type ∈ types, ∀ {method : Method Code},
    (world.types.methodTables type).Holds method →
      after.types.promoted? method = world.types.promoted? method
  point : ∀ type ∈ types, after.types.switchPoint type = world.types.switchPoint type
  valid : ∀ type ∈ types, world.points.isValid (world.types.switchPoint type) = true →
    after.points.isValid (world.types.switchPoint type) = true
  live : ∀ type ∈ types, world.types.isLive type = true → after.types.isLive type = true

namespace Alike

theorem refl (types : List TypeRef) (world : World Code Host) : Alike types world world where
  options := rfl
  rule := rfl
  tables _ _ := rfl
  promoted _ _ _ _ := rfl
  point _ _ := rfl
  valid _ _ valid := valid
  live _ _ live := live

theorem trans (first : Alike types world between) (second : Alike types between after) :
    Alike types world after where
  options := second.options.trans first.options
  rule := second.rule.trans first.rule
  tables type member := (second.tables type member).trans (first.tables type member)
  promoted type member _ holds :=
    (second.promoted type member (first.tables type member ▸ holds)).trans
      (first.promoted type member holds)
  point type member := (second.point type member).trans (first.point type member)
  valid type member valid := by
    have point := first.point type member
    have further := second.valid type member (point.symm ▸ first.valid type member valid)
    rwa [point] at further
  live type member live := second.live type member (first.live type member live)

theorem resolveSend (alike : Alike types world after) (member : type ∈ types) (name : String)
    (callType : CallType) :
    after.resolveSend type name callType = world.resolveSend type name callType := by
  have found : ∀ name, (after.lookup type name).found? = (world.lookup type name).found? := by
    intro name
    simp only [World.lookup, Types.found?_lookup, Types.resolve?, alike.rule,
      alike.tables type member, alike.point type member]
  simp only [World.resolveSend, found]

theorem declines (alike : Alike types world after) (member : type ∈ types) (site : CallSite Code) :
    after.declines site type = world.declines site type := by
  unfold World.declines
  rw [alike.resolveSend member]
  cases resolved : world.resolveSend type site.name site.callType with
  | missing reason handler? => rfl
  | callable entry =>
      have holds := Types.holds_of_lookup (resolveSend_eq_callable resolved)
      simp only [alike.options, Types.isNone_specialize (alike.promoted type member holds)]

/-- Worlds whose types differ in layouts only. -/
theorem of_unlaid (options : after.options = world.options) (rule : after.rule = world.rule)
    (unlaid : after.types.unlaid = world.types.unlaid)
    (valid : ∀ type, world.points.isValid (world.types.switchPoint type) = true →
      after.points.isValid (world.types.switchPoint type) = true) : Alike types world after where
  options := options
  rule := rule
  tables type _ := by rw [← Types.methodTables_unlaid, unlaid, Types.methodTables_unlaid]
  promoted _ _ _ _ := by rw [← Types.promoted?_unlaid, unlaid, Types.promoted?_unlaid]
  point type _ := by rw [← Types.switchPoint_unlaid, unlaid, Types.switchPoint_unlaid]
  valid type _ := valid type
  live type _ live := by rwa [← Types.isLive_unlaid, unlaid, Types.isLive_unlaid]

end Alike

theorem Orderly.tracked (orderly : world.Orderly) : world.registry.Tracked :=
  ⟨orderly.sound.forest, fun there =>
    SwitchPoints.lt_size_of_isValid (orderly.sound.guarded.valid there)⟩

/-- **A change that strikes none of a few live types** leaves what calls on them rest on. -/
theorem Orderly.alike_change (orderly : world.Orderly) {change : Change Code}
    (lived : ∀ type ∈ types, world.types.isLive type = true)
    (spared : ∀ type ∈ types, world.registry.strikes type change = false)
    (kept : ∀ type ∈ types, (world.change change).types.isLive type = true) :
    Alike types world (world.change change) := by
  -- what no change strikes keeps its switch point, and so its lookups
  have stays : ∀ type ∈ types, (world.change change).types.switchPoint type =
        world.types.switchPoint type ∧
      (world.change change).points.isValid (world.types.switchPoint type) = true ∧
      Types.Agree type world.types (world.change change).types := by
    intro type member
    obtain ⟨its, there, _⟩ := Types.isLive_eq_true_iff.1 (lived type member)
    obtain ⟨new, stands, live⟩ := Types.isLive_eq_true_iff.1 (kept type member)
    have leaves := Registry.leaves_apply orderly.sound type change
    have same : new.invalidator = its.invalidator :=
      (leaves.counted there stands live).2.2.1 (by rw [spared type member]; rfl)
    have valid : (world.change change).points.isValid its.invalidator.current = true :=
      same ▸ (Registry.sound_apply orderly.sound change).guarded.valid stands
    have current : world.types.switchPoint type = its.invalidator.current := by
      simp only [Types.switchPoint, there]
    have agree := Registry.agree_apply orderly.tracked orderly.serials change there
      (kept type member) valid
    exact ⟨agree.point, current ▸ valid, agree⟩
  exact {
    options := rfl
    rule := rfl
    tables := fun type member => (stays type member).2.2.tables
    promoted := fun type member _ holds => (stays type member).2.2.promoted holds
    point := fun type member => (stays type member).1
    valid := fun type member _ => (stays type member).2.1
    live := fun type member _ => kept type member }

theorem Orderly.change (orderly : world.Orderly) {change : Change Code}
    (loose : ∀ target method, change = .define target method →
      world.types.Loose world.nextSerial method) : (world.change change).Orderly where
  sound := Registry.sound_apply orderly.sound change
  serials := Registry.serials_apply orderly.tracked orderly.serials (Nat.le_refl _) change loose

theorem Orderly.of_unlaid (orderly : world.Orderly)
    (unlaid : after.types.unlaid = world.types.unlaid)
    (serial : world.nextSerial ≤ after.nextSerial)
    (valid : ∀ type, world.points.isValid (world.types.switchPoint type) = true →
      after.points.isValid (world.types.switchPoint type) = true) : after.Orderly := by
  have owned : ∀ type, (after.types.get? type).map TypeState.invalidator =
      (world.types.get? type).map TypeState.invalidator :=
    Types.map_get?_of_unlaid unlaid fun _ => rfl
  have guarded : after.types.Guarded world.points := orderly.sound.guarded.of_invalidator owned
  refine ⟨⟨orderly.sound.forest.of_skeleton (Types.map_get?_of_unlaid unlaid fun _ => rfl),
    guarded.again, fun {type its} there => ?_, guarded.apart⟩, ?_⟩
  · have point : world.types.switchPoint type = its.invalidator.current := by
      rw [← Types.switchPoint_unlaid, ← unlaid, Types.switchPoint_unlaid]
      simp only [Types.switchPoint, show after.types.get? type = some its from there]
    have stays := valid type (point ▸ guarded.valid there)
    rwa [point] at stays
  · have serials := orderly.serials.of_unlaid unlaid
    exact ⟨fun found => Nat.lt_of_lt_of_le (serials.below found) serial, serials.apart⟩

theorem Orderly.define (orderly : world.Orderly) (target : TypeRef) (name : String)
    (isPrivate : Bool) (implementation : Implementation Code) :
    ((world.createMethod name isPrivate implementation).2.change
      (.define target (world.createMethod name isPrivate implementation).1)).Orderly := by
  have made : (world.createMethod name isPrivate implementation).2.Orderly :=
    orderly.of_unlaid rfl (Nat.le_succ _) fun _ valid => valid
  refine made.change fun _ _ defines => ?_
  cases defines
  exact orderly.serials.loose rfl

theorem Orderly.createSite (orderly : world.Orderly) (site : CallSite Code) :
    (world.createSite site).2.Orderly :=
  ⟨orderly.sound, orderly.serials⟩

/-- A call of a site for a receiver of a type, and whether it has changed what the site's
target is. -/
structure Visit where
  type : TypeRef
  retargeted : Bool
deriving DecidableEq, Repr

/-- Which target a site has, counted from its first. -/
def targetOf (world : World Code Host) (ref : SiteRef) : Option Nat :=
  (world.site? ref).map fun site => site.target.swaps

/-- **A run of calls of a site for receivers of a few types.**  In between, the types of the
world may be changed in any way that strikes none of these, and anything else may happen
that changes no method and does nothing to the site. -/
inductive Serves (ref : SiteRef) (types : List TypeRef) :
    World Code Host → List Visit → World Code Host → Prop where
  | start (world : World Code Host) : Serves ref types world [] world
  | change {start world : World Code Host} {visits : List Visit}
      (serves : Serves ref types start visits world) {change : Change Code}
      (loose : ∀ target method, change = .define target method →
        world.types.Loose world.nextSerial method)
      (spared : ∀ type ∈ types, world.registry.strikes type change = false)
      (kept : ∀ type ∈ types, (world.change change).types.isLive type = true) :
      Serves ref types start visits (world.change change)
  | aside {start world after : World Code Host} {visits : List Visit}
      (serves : Serves ref types start visits world) (options : after.options = world.options)
      (rule : after.rule = world.rule) (site : after.site? ref = world.site? ref)
      (unlaid : after.types.unlaid = world.types.unlaid)
      (serial : world.nextSerial ≤ after.nextSerial)
      (valid : ∀ type, world.points.isValid (world.types.switchPoint type) = true →
        after.points.isValid (world.types.switchPoint type) = true) :
      Serves ref types start visits after
  | visit {start world : World Code Host} {visits : List Visit}
      (serves : Serves ref types start visits world) {site : CallSite Code} {type : TypeRef}
      (there : world.site? ref = some site) (member : type ∈ types) :
      Serves ref types start
        (visits ++ [⟨type, (world.arrive ref site type).2.targetOf ref != world.targetOf ref⟩])
        (world.arrive ref site type).2

namespace Serves

variable {start : World Code Host} {visits more : List Visit}

theorem trans (serves : Serves ref types start visits world)
    (further : Serves ref types world more after) :
    Serves ref types start (visits ++ more) after := by
  induction further with
  | start => simpa using serves
  | change _ loose spared kept ih => exact .change ih loose spared kept
  | aside _ options rule site unlaid serial valid ih =>
      exact .aside ih options rule site unlaid serial valid
  | visit _ there member ih =>
      rw [← List.append_assoc]
      exact .visit ih there member

/-- What a call prepares is an aside. -/
theorem prepared {context : ContextRef} (serves : Serves ref types start visits world)
    (prepares : Relation.ReflTransGen (Prepares context) world after) :
    Serves ref types start visits after := by
  induction prepares with
  | refl => exact serves
  | tail _ step ih =>
      cases step with
      | note _ _ => exact .aside ih rfl rfl rfl rfl (Nat.le_refl _) fun _ valid => valid
      | store object accessor value =>
          exact .aside ih rfl rfl rfl rfl (Nat.le_refl _) fun _ valid => valid
      | assign object name value =>
          exact .aside ih rfl rfl rfl (Types.unlaid_accessorForWrite _ _ _) (Nat.le_refl _)
            fun _ valid => valid

/-- So is a note in a context. -/
theorem noted (serves : Serves ref types start visits world) (context : ContextRef)
    (change : Context → Context) :
    Serves ref types start visits (world.modifyContext context change) :=
  .aside serves rfl rfl rfl rfl (Nat.le_refl _) fun _ valid => valid

end Serves

/-- Code that does nothing but go on with such runs. -/
def Obliging (ref : SiteRef) (types : List TypeRef) (exec : Exec Code Host) : Prop :=
  ∀ code activation world, ∃ visits, Serves ref types world visits (exec code activation world).2

/-- A call that has arrived goes on with the run. -/
theorem Serves.opened {start : World Code Host} {visits : List Visit} {exec : Exec Code Host}
    (obliging : Obliging ref types exec) (serves : Serves ref types start visits world)
    {context : ContextRef} {taken yields : Bool} {frame? : Option Frame}
    {run : Exec Code Host → Outcome × World Code Host}
    (opens : Opens context world taken yields frame? run) :
    ∃ more, Serves ref types start (visits ++ more) (run exec).2 := by
  cases opens with
  | answers prepares _ same =>
      rw [same exec]
      exact ⟨[], by simpa using serves.prepared prepares⟩
  | @enters code activation before prepares _ _ _ _ same =>
      rw [same exec]
      have prepared := serves.prepared prepares
      have entered : Serves ref types start visits (before.enter context frame?) := by
        cases frame? with
        | none => exact prepared
        | some frame => exact prepared.noted context _
      obtain ⟨more, ran⟩ := obliging code activation (before.enter context frame?)
      refine ⟨more, ?_⟩
      cases frame? with
      | none => exact entered.trans ran
      | some frame => exact (entered.trans ran).noted context _

/-- **A call is a visit**, and what it runs goes on with the run. -/
theorem Serves.called {start : World Code Host} {visits : List Visit} {exec : Exec Code Host}
    (obliging : Obliging ref types exec) (serves : Serves ref types start visits world)
    (there : world.site? ref = some site) (context : ContextRef) (call : Call)
    (member : call.receiver.typeOf ∈ types) :
    ∃ retargeted more, Serves ref types start
      (visits ++ ⟨call.receiver.typeOf, retargeted⟩ :: more)
      (callSite exec context ref call world).2 := by
  have visited := serves.visit there member
  obtain ⟨more, serves⟩ := visited.opened obliging (by
    have opens := opens_callSite context there call
    simp only [Calling.reached, there] at opens
    exact opens)
  exact ⟨_, more, by simpa using serves⟩

/-- Code that calls a site again for its receiver, if that is of one of these types, so many
calls deep. -/
def again (ref : SiteRef) (types : List TypeRef) : Nat → Exec Code Host
  | 0 => fun _ activation world => (.ok activation.receiver, world)
  | depth + 1 => fun _ activation world =>
      if activation.receiver.typeOf ∈ types then
        callSite (again ref types depth) (activation.context.getD ⟨0⟩) ref
          { receiver := activation.receiver } world
      else (.ok activation.receiver, world)

/-- A send for a receiver of this type comes to a method that it may call, or to a handler
of missing methods. -/
def Resolves (world : World Code Host) (site : CallSite Code) (type : TypeRef) : Prop :=
  ∀ reason, world.resolveSend type site.name site.callType ≠ .missing reason none

/-- The failures that links for these types count. -/
def failuresFor (world : World Code Host) (site : CallSite Code) (types : List TypeRef) : Nat :=
  (types.length - 1) + types.countP (world.declines site)

/-- What is asked of a few types for a new site to settle on them. -/
structure Suited (start : World Code Host) (fresh : CallSite Code) (types : List TypeRef) :
    Prop where
  orderly : start.Orderly
  distinct : (types.map TypeRef.id).Nodup
  live : ∀ type ∈ types, start.types.isLive type = true
  resolves : ∀ type ∈ types, start.Resolves fresh type
  few : types.length ≤ start.options.maxPoly.toNat
  allowed : start.failuresFor fresh types ≤ start.options.maxFail.toNat

/-- **A site that has served these types, the latest new one first.** -/
structure Settled (start : World Code Host) (fresh : CallSite Code) (seen : List TypeRef)
    (site : CallSite Code) : Prop where
  declared : site.declared = fresh.declared
  chain : ∃ entries : List (TypeGuard × BoundThunk Code), site.target.load = .chain entries .link ∧
    entries.map Prod.fst = seen.map fun type => ⟨type.id, start.types.switchPoint type⟩
  links : site.links = seen.length
  swaps : site.target.swaps = seen.length
  failures : site.failures.toNat = start.failuresFor fresh seen

variable {start : World Code Host} {fresh linked : CallSite Code} {seen : List TypeRef}

theorem declines_of_declared {other : CallSite Code} (same : other.declared = site.declared) :
    world.declines other type = world.declines site type := by
  obtain ⟨name, shape, callType⟩ := CallSite.spelling_of_declared same
  simp only [declines, name, shape, callType]

theorem Resolves.of_declared {other : CallSite Code} (resolves : world.Resolves site type)
    (same : other.declared = site.declared) : world.Resolves other type := by
  obtain ⟨name, _, callType⟩ := CallSite.spelling_of_declared same
  simpa only [Resolves, name, callType] using resolves

/-- A link that binds puts one new entry in front of those it spares. -/
theorem Retargets.of_binds {event : LinkEvent} {cell : DispatchCell (Thunk Code)}
    (target : Retargets world site type event cell) (binds : event = .bound ∨ event = .declined) :
    ∃ bound, cell = site.target.store (.chain
      ((⟨type.id, world.types.switchPoint type⟩, bound) :: world.spared site type) .link) := by
  cases target with
  | gaveUp => rcases binds with other | other <;> cases other
  | unbound => rcases binds with other | other <;> cases other
  | binds _ bound => exact ⟨bound, rfl⟩

/-- A link of a site that resolves and may go on binds, specialised or not. -/
theorem linkEvent_of_resolves (unspent : ¬ world.Spent site) (resolves : world.Resolves site type) :
    world.linkEvent site type = if world.declines site type then .declined else .bound := by
  rw [linkEvent, if_neg unspent]
  cases resolved : world.resolveSend type site.name site.callType with
  | callable entry => rfl
  | missing reason handler? =>
      cases handler? with
      | none => exact absurd resolved (resolves reason)
      | some handler => simp [declines, resolved]

namespace Suited

/-- Types are told apart by their numbers. -/
theorem eq_of_id (suited : Suited start fresh types) {other : TypeRef} (member : type ∈ types)
    (member' : other ∈ types) (same : type.id = other.id) : type = other :=
  List.inj_on_of_nodup_map suited.distinct member member' same

theorem token_valid (suited : Suited start fresh types) (member : type ∈ types) :
    start.points.isValid (start.types.switchPoint type) = true := by
  obtain ⟨its, there, _⟩ := Types.isLive_eq_true_iff.1 (suited.live type member)
  simp only [Types.switchPoint, there]
  exact suited.orderly.sound.guarded.valid there

/-- Some of the types count no more failures than all. -/
theorem failuresFor_le (suited : Suited start fresh types) (nodup : seen.Nodup)
    (among : ∀ type ∈ seen, type ∈ types) :
    seen.length ≤ types.length ∧ start.failuresFor fresh seen ≤ start.options.maxFail.toNat := by
  have sub : seen.Subperm types := nodup.subperm among
  have length := sub.length_le
  have declined := sub.countP_le (start.declines fresh)
  have allowed := suited.allowed
  unfold failuresFor at allowed ⊢
  exact ⟨length, by omega⟩

end Suited

namespace Settled

theorem create (start : World Code Host) (name : String) (shape : CallShape) (callType : CallType) :
    Settled start (.create name shape callType) [] (.create name shape callType) where
  declared := rfl
  chain := ⟨[], rfl, rfl⟩
  links := rfl
  swaps := rfl
  failures := rfl

/-- The entries of a settled site are those of the types it has served. -/
theorem mem_guards {entries : List (TypeGuard × BoundThunk Code)}
    (guards : entries.map Prod.fst = seen.map fun type => ⟨type.id, start.types.switchPoint type⟩)
    {entry : TypeGuard × BoundThunk Code} (member : entry ∈ entries) :
    ∃ other ∈ seen, (⟨other.id, start.types.switchPoint other⟩ : TypeGuard) = entry.1 := by
  have listed : entry.1 ∈ seen.map fun type => ⟨type.id, start.types.switchPoint type⟩ :=
    guards ▸ List.mem_map_of_mem member
  exact List.mem_map.1 listed

/-- **A type that was served is dispatched**, and one that was not makes the site link. -/
theorem dispatch (settled : Settled start fresh seen site) (suited : Suited start fresh types)
    (among : ∀ type ∈ seen, type ∈ types) (alike : Alike types start world)
    (member : type ∈ types) :
    (type ∈ seen → ∃ bound, site.target.load.dispatch world.points type.id = .bound bound) ∧
      (type ∉ seen → site.target.load.dispatch world.points type.id = .link) := by
  obtain ⟨entries, load, guards⟩ := settled.chain
  rw [load, Thunk.dispatch_chain]
  refine ⟨fun served => ?_, fun new => ?_⟩
  · have listed : (⟨type.id, start.types.switchPoint type⟩ : TypeGuard) ∈ entries.map Prod.fst :=
      guards ▸ List.mem_map_of_mem served
    obtain ⟨entry, chained, guard⟩ := List.mem_map.1 listed
    have passes : entry.1.passes world.points type.id = true := by
      simp [guard, TypeGuard.passes, alike.valid type member (suited.token_valid member)]
    cases found : entries.find? fun entry => entry.1.passes world.points type.id with
    | some entry => exact ⟨_, rfl⟩
    | none => exact absurd passes (List.find?_eq_none.1 found entry chained)
  · have none_ : entries.find? (fun entry => entry.1.passes world.points type.id) = none := by
      refine List.find?_eq_none.2 fun entry chained passes => ?_
      obtain ⟨other, served, guard⟩ := mem_guards guards chained
      simp only [← guard, TypeGuard.passes, Bool.and_eq_true, beq_iff_eq] at passes
      exact new (suited.eq_of_id (among other served) member passes.1 ▸ served)
    rw [none_]
    rfl

/-- A link for a new type spares every entry, as long as there is room. -/
theorem spared_eq (suited : Suited start fresh types)
    (among : ∀ type ∈ seen, type ∈ types) (alike : Alike types start world) (member : type ∈ types)
    (new : type ∉ seen) (room : seen.length < types.length)
    {entries : List (TypeGuard × BoundThunk Code)}
    (load : site.target.load = .chain entries .link)
    (guards : entries.map Prod.fst = seen.map fun type => ⟨type.id, start.types.switchPoint type⟩) :
    world.spared site type = entries := by
  have kept : keptEntries world.points type.id site.target.load = entries := by
    rw [keptEntries, load, Thunk.entries_chain, List.filter_eq_self.2]
    · exact List.append_nil _
    · intro entry chained
      have chained : entry ∈ entries := by simpa [Thunk.entries] using chained
      obtain ⟨other, served, guard⟩ := mem_guards guards chained
      have theirs := among other served
      have apart : other.id ≠ type.id := fun same =>
        new (suited.eq_of_id theirs member same ▸ served)
      simp [← guard, apart, alike.valid other theirs (suited.token_valid theirs)]
  have length : entries.length = seen.length := by simpa using congrArg List.length guards
  have few := suited.few
  have fits : ¬ world.options.maxPoly.toNat ≤ entries.length := by
    rw [alike.options]
    omega
  simp only [World.spared, kept, if_neg fits]

/-- **A link for a new type** serves it too. -/
theorem link (settled : Settled start fresh seen site) (suited : Suited start fresh types)
    (among : ∀ type ∈ seen, type ∈ types) (nodup : seen.Nodup) (alike : Alike types start world)
    (member : type ∈ types) (new : type ∉ seen)
    (relinks : world.Relinks site type (world.linkEvent site type) linked) :
    Settled start fresh (type :: seen) linked := by
  obtain ⟨room, allowed⟩ := suited.failuresFor_le (List.nodup_cons.2 ⟨new, nodup⟩)
    (List.forall_mem_cons.2 ⟨member, among⟩)
  have declines : world.declines site type = start.declines fresh type :=
    (declines_of_declared settled.declared).trans (alike.declines member fresh)
  have resolves : world.Resolves site type := fun reason => by
    rw [alike.resolveSend member]
    exact (suited.resolves type member).of_declared settled.declared reason
  have counts : start.failuresFor fresh (type :: seen) =
      (if seen = [] then 0 else 1) + start.failuresFor fresh seen +
        (if start.declines fresh type then 1 else 0) := by
    cases seen with
    | nil => simp [failuresFor, List.countP_cons]
    | cons other rest =>
        simp [failuresFor, List.countP_cons]
        omega
  have number := start.options.maxFail.toNat_lt
  have counted : (countLink site).failures.toNat =
      (if seen = [] then 0 else 1) + start.failuresFor fresh seen := by
    have holds : site.failures.toNat + 1 < 2 ^ 32 := by
      rw [settled.failures]
      by_cases first : seen = []
      · simp [first, failuresFor]
      · rw [if_neg first] at counts
        omega
    rw [toNat_failures_countLink holds, settled.failures, settled.links]
    simp only [List.length_eq_zero_iff]
  have unspent : ¬ world.Spent site := by
    rintro ⟨_, spent⟩
    rw [alike.options, UInt32.lt_iff_toNat_lt, counted] at spent
    omega
  have event := linkEvent_of_resolves unspent resolves
  rw [declines] at event
  have binds : world.linkEvent site type = .bound ∨ world.linkEvent site type = .declined := by
    rw [event]
    cases start.declines fresh type
    · exact .inl rfl
    · exact .inr rfl
  have penalty : (world.linkEvent site type).penalty.toNat =
      if start.declines fresh type then 1 else 0 := by
    rw [event]
    cases start.declines fresh type <;> rfl
  obtain ⟨entries, load, guards⟩ := settled.chain
  obtain ⟨bound, target⟩ := relinks.target.of_binds binds
  rw [spared_eq suited among alike member new room load guards, alike.point type member] at target
  exact {
    declared := relinks.declared.trans settled.declared
    chain := ⟨_, congrArg DispatchCell.load target, by rw [List.map_cons, List.map_cons, guards]⟩
    links := relinks.links.trans (congrArg (· + 1) settled.links)
    swaps := (congrArg DispatchCell.swaps target).trans (congrArg (· + 1) settled.swaps)
    failures := by
      rw [relinks.failures, UInt32.toNat_add, counted, penalty, ← counts]
      exact Nat.mod_eq_of_lt (by omega) }

end Settled

/-! ## The steady state -/

/-- A link leaves a world in order, and alike for every type. -/
theorem LaysOut.orderly (lays : LaysOut world after) (orderly : world.Orderly) :
    after.Orderly ∧ Alike types world after := by
  have valid : ∀ type, world.points.isValid (world.types.switchPoint type) = true →
      after.points.isValid (world.types.switchPoint type) = true :=
    fun _ valid => lays.points.symm ▸ valid
  have serial : world.nextSerial ≤ after.nextSerial := by cases lays <;> exact Nat.le_refl _
  exact ⟨orderly.of_unlaid lays.unlaid serial valid,
    .of_unlaid lays.options lays.rule lays.unlaid valid⟩

/-- What holds of a site through a run: it is settled on the types that were visited, and
each visit has changed its target exactly if it was the first of its type. -/
structure Steady (ref : SiteRef) (types : List TypeRef) (fresh : CallSite Code)
    (start : World Code Host) (visits : List Visit) (world : World Code Host) : Prop where
  orderly : world.Orderly
  alike : Alike types start world
  settled : ∃ seen site, world.site? ref = some site ∧ Settled start fresh seen site ∧ seen.Nodup ∧
    (∀ type ∈ seen, type ∈ types) ∧ ∀ type, type ∈ seen ↔ type ∈ visits.map Visit.type
  first : ∀ before visit later, visits = before ++ visit :: later →
    (visit.retargeted = true ↔ visit.type ∉ before.map Visit.type)

/-- What happens beside the calls keeps a site steady. -/
theorem Steady.beside {visits : List Visit} (steady : Steady ref types fresh start visits world)
    (orderly : after.Orderly) (alike : Alike types world after)
    (site : after.site? ref = world.site? ref) : Steady ref types fresh start visits after where
  orderly := orderly
  alike := steady.alike.trans alike
  settled := by rw [site]; exact steady.settled
  first := steady.first

/-- **A call keeps a site steady.** -/
theorem Steady.visit {visits : List Visit} (suited : Suited start fresh types)
    (steady : Steady ref types fresh start visits world) (there : world.site? ref = some site)
    (member : type ∈ types) :
    Steady ref types fresh start
      (visits ++ [⟨type, (world.arrive ref site type).2.targetOf ref != world.targetOf ref⟩])
      (world.arrive ref site type).2 := by
  obtain ⟨seen, _, same, settled, nodup, among, visited⟩ := steady.settled
  cases there.symm.trans same
  obtain ⟨known, unknown⟩ := settled.dispatch suited among steady.alike member
  -- whether the call was the first for its type is all that has to be found out
  have extends_ : ∀ retargeted, (retargeted = true ↔ type ∉ seen) →
      ∀ before visit later, visits ++ [(⟨type, retargeted⟩ : Visit)] = before ++ visit :: later →
        (visit.retargeted = true ↔ visit.type ∉ before.map Visit.type) := by
    intro retargeted new before visit later split
    rcases split_concat split with ⟨rfl, rfl, rfl⟩ | ⟨rest, _, its⟩
    · exact new.trans (not_congr (visited type))
    · exact steady.first before visit rest its
  by_cases served : type ∈ seen
  · obtain ⟨bound, dispatched⟩ := known served
    have arrived : world.arrive ref site type = (some bound, world) := by
      simp only [arrive, dispatched]
    rw [arrived]
    refine ⟨steady.orderly, steady.alike,
      ⟨seen, site, there, settled, nodup, among, fun other => ?_⟩,
      extends_ _ (iff_of_false (by simp) (not_not_intro served))⟩
    rw [List.map_append, List.mem_append, ← visited, List.map_singleton, List.mem_singleton]
    exact ⟨.inl, fun either => either.elim id fun same => same ▸ served⟩
  · have arrived : world.arrive ref site type = world.link ref site type := by
      simp only [arrive, unknown served]
    obtain ⟨later, linked, lays, result, relinks⟩ := world.link_relinks ref site type
    obtain ⟨orderly, alike⟩ : later.Orderly ∧ Alike types world later := lays.orderly steady.orderly
    have stays : later.site? ref = some site := by rw [site?, lays.sites]; exact there
    have now : (later.modifySite ref fun _ => linked).site? ref = some linked :=
      site?_modifySite stays
    have put : Alike types later (later.modifySite ref fun _ => linked) :=
      .of_unlaid rfl rfl rfl fun _ valid => valid
    have settles := settled.link suited among nodup steady.alike member served relinks
    rw [arrived, result]
    refine ⟨⟨orderly.sound, orderly.serials⟩, (steady.alike.trans alike).trans put,
      ⟨type :: seen, linked, now, settles, List.nodup_cons.2 ⟨served, nodup⟩,
        List.forall_mem_cons.2 ⟨member, among⟩, fun other => ?_⟩,
      extends_ _ (iff_of_true ?_ served)⟩
    · rw [List.map_append, List.mem_append, ← visited, List.map_singleton, List.mem_singleton,
        List.mem_cons, or_comm]
    · simp only [targetOf, now, there, Option.map_some, settles.swaps, settled.swaps,
        List.length_cons]
      simp

theorem Serves.steady {visits : List Visit} (suited : Suited start fresh types) {name : String}
    {shape : CallShape} {callType : CallType} (new : fresh = .create name shape callType)
    (there : start.site? ref = some fresh) (serves : Serves ref types start visits world) :
    Steady ref types fresh start visits world := by
  induction serves with
  | start =>
      refine ⟨suited.orderly, .refl types _, ⟨[], fresh, there, ?_, .nil,
        List.forall_mem_nil _, fun _ => iff_of_false List.not_mem_nil List.not_mem_nil⟩, ?_⟩
      · exact new ▸ Settled.create _ name shape callType
      · intro before visit later split
        simp at split
  | change _ loose spared kept ih =>
      have lived := fun type member => ih.alike.live type member (suited.live type member)
      exact ih.beside (ih.orderly.change loose) (ih.orderly.alike_change lived spared kept) rfl
  | aside _ options rule site unlaid serial valid ih =>
      exact ih.beside (ih.orderly.of_unlaid unlaid serial valid)
        (.of_unlaid options rule unlaid valid) site
  | visit _ there member ih => exact ih.visit suited there member

end World

end InlineCache
