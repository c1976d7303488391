/-
# InlineCache.Proofs.Agreement -- what a valid token vouches for

A lookup on a type reads the method tables along its lineage, and a binding reads the
bodies promoted for what it found and the layout of the type.  Two tables of types
*agree* on a type (`Types.Agree`) when all of this is the same in both, or, for the
layout, has only been added to.

`Registry.agree_apply`: a change to the types that leaves the token of a live type valid
leaves everything the type's lookups rest on as it was.  For promotions this takes that
no two types share a method (`Types.Serials`), which holds because every definition
brings a method of its own.
-/
import InlineCache.Proofs.Invalidation
import InlineCache.Proofs.Layout

namespace InlineCache

set_option autoImplicit false

variable {Code : Type}

def Implementation.body? : Implementation Code → Option (CompiledMethod Code)
  | compiled body | mixed body => some body
  | _ => none

def Change.body? : Change Code → Option (CompiledMethod Code)
  | define _ method => method.implementation.body?
  | promote _ _ body => some body
  | _ => none

namespace Types

/-- Two tables give the same answers for a type. -/
structure Agree (type : TypeRef) (table after : Types Code) : Prop where
  tables : after.methodTables type = table.methodTables type
  point : after.switchPoint type = table.switchPoint type
  promoted : ∀ {method : Method Code}, (table.methodTables type).Holds method →
    after.promoted? method = table.promoted? method
  settled : ∀ {name : String}, table.Settled type name → after.Settled type name
  place : ∀ {name : String}, table.Settled type name →
    after.accessorForRead type name = table.accessorForRead type name

/-- Every method has a serial number of its own, and stands in one type. -/
structure Serials (table : Types Code) (next : Nat) : Prop where
  below : ∀ {type : TypeRef} {name : String} {method : Method Code},
    table.ownMethod? type name = some method → method.serial < next
  apart : ∀ {type other : TypeRef} {name name' : String} {method method' : Method Code},
    table.ownMethod? type name = some method → table.ownMethod? other name' = some method' →
      method.serial = method'.serial → type.id = other.id

/-- A method that was made, with a serial number that no method of the table has. -/
structure Loose (table : Types Code) (next : Nat) (method : Method Code) : Prop where
  made : method.serial < next
  apart : ∀ {type : TypeRef} {name : String} {standing : Method Code},
    table.ownMethod? type name = some standing → standing.serial ≠ method.serial

/-- Every compiled body of a table, promoted or not, is one of these. -/
structure Bodies (table : Types Code) (proper : CompiledMethod Code → Prop) : Prop where
  defined : ∀ {type : TypeRef} {name : String} {method : Method Code} {body : CompiledMethod Code},
    table.ownMethod? type name = some method → method.implementation.body? = some body → proper body
  promoted : ∀ {entry : Nat × CompiledMethod Code}, entry ∈ table.promoted → proper entry.2

variable {table between after : Types Code} {type other : TypeRef}

namespace Agree

theorem refl (type : TypeRef) (table : Types Code) : Agree type table table :=
  ⟨rfl, rfl, fun _ => rfl, fun settled => settled, fun _ => rfl⟩

theorem trans (first : Agree type table between) (second : Agree type between after) :
    Agree type table after where
  tables := second.tables.trans first.tables
  point := second.point.trans first.point
  promoted holds := (second.promoted (first.tables ▸ holds)).trans (first.promoted holds)
  settled settled := second.settled (first.settled settled)
  place settled := (second.place (first.settled settled)).trans (first.place settled)

theorem of_entries {state state' : TypeState Code} (there : table.get? type = some state)
    (stands : after.get? type = some state') (lineage : state'.lineage = state.lineage)
    (current : state'.invalidator.current = state.invalidator.current)
    (names : state'.fieldNames = state.fieldNames)
    (capacity : state'.fieldCapacity = state.fieldCapacity)
    (methods : ∀ ancestor ∈ state.lineage, after.methods ancestor = table.methods ancestor)
    (promoted : ∀ {method : Method Code}, (table.methodTables type).Holds method →
      after.promoted? method = table.promoted? method) : Agree type table after where
  tables := by
    simp only [methodTables, Types.lineage, there, stands, lineage]
    exact List.map_congr_left fun ancestor member => by rw [methods ancestor member]
  point := by simp only [switchPoint, there, stands, current]
  promoted := promoted
  settled {name} settled := by
    intro new found
    cases stands.symm.trans found
    have old := settled there
    rwa [TypeState.Settled, names, capacity]
  place _ := by simp only [accessorForRead, TypeState.accessorForRead, there, stands, names]

end Agree

/-- What stands in the tables of a type stands in an ancestor of it. -/
theorem exists_of_holds {method : Method Code} (holds : (table.methodTables type).Holds method) :
    ∃ ancestor ∈ table.lineage type, ∃ name, table.ownMethod? ancestor name = some method := by
  obtain ⟨_, member, name, found⟩ := holds
  obtain ⟨ancestor, above, rfl⟩ := List.mem_map.1 member
  exact ⟨ancestor, above, name, found⟩

/-- The next method to be made stands nowhere. -/
theorem Serials.loose {next : Nat} (serials : table.Serials next) {method : Method Code}
    (new : method.serial = next) : table.Loose (next + 1) method where
  made := new ▸ Nat.lt_succ_self _
  apart found := by
    rw [new]
    exact Nat.ne_of_lt (serials.below found)

theorem Serials.of_unlaid {next : Nat} (serials : table.Serials next)
    (same : after.unlaid = table.unlaid) : after.Serials next := by
  have owned : ∀ type name, after.ownMethod? type name = table.ownMethod? type name := by
    intro type name
    rw [← ownMethod?_unlaid, same, ownMethod?_unlaid]
  exact ⟨fun found => serials.below (owned _ _ ▸ found),
    fun found found' => serials.apart (owned _ _ ▸ found) (owned _ _ ▸ found')⟩

theorem Bodies.of_unlaid {proper : CompiledMethod Code → Prop} (bodies : table.Bodies proper)
    (same : after.unlaid = table.unlaid) : after.Bodies proper where
  defined {type name _ _} found := by
    rw [← ownMethod?_unlaid, same, ownMethod?_unlaid] at found
    exact bodies.defined found
  promoted member := by
    have promoted : after.promoted = table.promoted := (congrArg Types.promoted same :)
    exact bodies.promoted (promoted ▸ member)

/-- Flipping leaves methods and promotions alone, and the token of a type that is not
among those flipped. -/
theorem Flips.agree {ids : List Nat} {before later : Types Code × SwitchPoints}
    (flips : Flips ids before later) {state : TypeState Code}
    (there : before.1.get? type = some state) (spared : type.id ∉ ids) :
    Agree type before.1 later.1 :=
  .of_entries there (flips.kept there spared) rfl rfl rfl rfl
    (fun ancestor _ => flips.methods ancestor) fun _ => by simp only [promoted?, flips.promoted]

theorem Agree.of_unlaid (same : after.unlaid = table.unlaid)
    (settled : ∀ {name : String}, table.Settled type name → after.Settled type name)
    (place : ∀ {name : String}, table.Settled type name →
      after.accessorForRead type name = table.accessorForRead type name) :
    Agree type table after where
  tables := by rw [← methodTables_unlaid, same, methodTables_unlaid]
  point := by rw [← switchPoint_unlaid, same, switchPoint_unlaid]
  promoted _ := by rw [← promoted?_unlaid, same, promoted?_unlaid]
  settled := settled
  place := place

/-- Laying out a name moves no settled one. -/
theorem agree_accessorForWrite (table : Types Code) (type target : TypeRef) (new : String) :
    Agree type table (table.accessorForWrite target new).2 :=
  .of_unlaid (table.unlaid_accessorForWrite target new) (fun settled => settled.laidOut target new)
    fun settled => settled.accessorForRead_eq target new

end Types

namespace Registry

variable {state touched : Registry Code} {change : Change Code} {target : TypeRef}

/-- Descent is a forest, and every type's switch point is in the table. -/
structure Tracked (state : Registry Code) : Prop where
  forest : state.types.Forest
  known : ∀ {type : TypeRef} {its : TypeState Code}, state.types.get? type = some its →
    its.invalidator.current.index < state.points.points.size

/-- Invalidating a type makes the tokens of whatever descends from it invalid. -/
theorem Tracked.other_of_valid (tracked : state.Tracked) {type target : TypeRef}
    {its : TypeState Code} (there : state.types.get? type = some its)
    (live : (state.apply (.invalidate target)).types.isLive type = true)
    (valid : (state.apply (.invalidate target)).points.isValid its.invalidator.current = true) :
    its.isKindOf target = false ∧
      Types.Agree type state.types (state.apply (.invalidate target)).types := by
  have flips := Types.flips_family tracked.forest state.points target
  have lived : its.live = true := by
    obtain ⟨new, stands, live⟩ := Types.isLive_eq_true_iff.1 live
    obtain ⟨old, found, same⟩ := flips.back stands
    cases there.symm.trans found
    rw [same] at live
    exact live
  have member := tracked.forest.mem_family_iff there lived target
  have spared : type.id ∉ (state.types.family target).map TypeRef.id := by
    intro listed
    have gone := flips.flipped there listed (tracked.known there)
    exact Bool.false_ne_true (gone.symm.trans valid)
  exact ⟨Bool.eq_false_iff.2 fun kind => spared (member.2 kind), flips.agree there spared⟩

namespace Touches

theorem tracked (touches : Touches state change target touched) (tracked : state.Tracked) :
    touched.Tracked where
  forest := tracked.forest.of_skeleton touches.skeleton
  known there := by
    obtain ⟨_, _, found, rfl⟩ := touches.get?_back there
    have known := tracked.known found
    exact touches.points ▸ known

/-- A touch shows in what descends from the type only. -/
theorem agree (touches : Touches state change target touched) {next : Nat}
    (serials : state.types.Serials next) {type : TypeRef} {its : TypeState Code}
    (there : state.types.get? type = some its) (unrelated : its.isKindOf target = false) :
    Types.Agree type state.types touched.types := by
  have above : ∀ ancestor ∈ its.lineage, target.id ≠ ancestor.id := by
    intro ancestor member same
    have : its.isKindOf target = true :=
      List.any_eq_true.2 ⟨ancestor, member, beq_iff_eq.2 same.symm⟩
    rw [unrelated] at this
    exact Bool.false_ne_true this
  obtain ⟨_, stands⟩ := touches.get?_forth there
  refine .of_entries there stands rfl rfl rfl rfl
    (fun ancestor member => touches.methods (above ancestor member)) fun {found} holds => ?_
  rcases touches.promoted with kept | ⟨name, body, method, _, own, grown⟩
  · simp only [Types.promoted?, kept]
  · -- the method promoted stands in the type touched, the one found in an ancestor
    obtain ⟨ancestor, member, name', stood⟩ := Types.exists_of_holds holds
    rw [Types.lineage, there] at member
    have different : found.serial ≠ method.serial := fun equal =>
      above ancestor member (serials.apart stood own equal).symm
    simp only [Types.promoted?, grown, List.lookup_cons, beq_false_of_ne different]

end Touches

theorem Tracked.invalidate (tracked : state.Tracked) (target : TypeRef) :
    (state.apply (.invalidate target)).Tracked where
  forest := tracked.forest.of_skeleton
    (Types.flips_family tracked.forest state.points target).skeleton
  known there := by
    have flips := Types.flips_family tracked.forest state.points target
    obtain ⟨old, found, _⟩ := flips.back there
    obtain ⟨invalidator, stands, known⟩ := flips.owner found
    cases stands.symm.trans there
    exact known (tracked.known found)

/-- Making a type shows in no other. -/
theorem agree_create (tracked : state.Tracked) (name : String) (parent? : Option TypeRef)
    (fieldCapacity : Nat) {type : TypeRef} {its : TypeState Code}
    (there : state.types.get? type = some its) :
    Types.Agree type state.types (state.apply (.create name parent? fieldCapacity)).types := by
  have stood := fun {other its} (there : state.types.get? other = some its) =>
    Types.get?_create_of_get? there name parent? fieldCapacity state.points
  obtain ⟨offspring, stands⟩ := stood there
  refine .of_entries there stands rfl rfl rfl rfl (fun ancestor member => ?_) fun _ => ?_
  · obtain ⟨below, above, line⟩ := List.append_of_mem member
    obtain ⟨upper, found, _⟩ := tracked.forest.of_lineage there line
    obtain ⟨offspring, stands⟩ := stood found
    simp only [Types.methods, found, apply, stands]
  · simp only [Types.promoted?, apply, Types.promoted_create]

/-- Releasing a type leaves what its lookups rest on. -/
theorem agree_release (target : TypeRef) {type : TypeRef} {its : TypeState Code}
    (there : state.types.get? type = some its) :
    Types.Agree type state.types (state.apply (.release target)).types := by
  obtain ⟨live, stands⟩ := Types.get?_release_of_get? there target
  exact .of_entries there stands rfl rfl rfl rfl
    (fun other _ => state.types.methods_release target other)
    fun _ => by simp only [Types.promoted?, apply, Types.promoted_release]

/-! ## Layouts do not count -/

theorem Tracked.of_unlaid {other : Registry Code} (tracked : state.Tracked)
    (points : other.points = state.points) (same : other.types.unlaid = state.types.unlaid) :
    other.Tracked where
  forest := tracked.forest.of_skeleton (Types.map_get?_of_unlaid same fun _ => rfl)
  known {type new} there := by
    have equal : (other.types.get? type).map TypeState.invalidator =
        (state.types.get? type).map TypeState.invalidator :=
      Types.map_get?_of_unlaid same (fun _ => rfl) type
    rw [there] at equal
    obtain ⟨old, found, owner⟩ := Option.map_eq_some_iff.1 equal.symm
    rw [points, ← owner]
    exact tracked.known found

/-- **What a valid token vouches for.**  A change that leaves the switch point of a live
type valid leaves all that its lookups rest on. -/
theorem agree_apply (tracked : state.Tracked) {next : Nat} (serials : state.types.Serials next)
    (change : Change Code) {type : TypeRef} {its : TypeState Code}
    (there : state.types.get? type = some its)
    (live : (state.apply change).types.isLive type = true)
    (valid : (state.apply change).points.isValid its.invalidator.current = true) :
    Types.Agree type state.types (state.apply change).types := by
  cases state.effect change with
  | create name parent? fieldCapacity => exact agree_create tracked name parent? fieldCapacity there
  | release target => exact agree_release target there
  | nothing same _ => exact same.symm ▸ .refl type state.types
  | touched touches same _ =>
      rw [same] at live valid ⊢
      obtain ⟨_, stands⟩ := touches.get?_forth there
      obtain ⟨unrelated, rest⟩ := (touches.tracked tracked).other_of_valid stands live valid
      exact (touches.agree serials there unrelated).trans rest

/-! ## What no change undoes -/

/-- Switch points stay flipped, types stay where they are with the layout they have, and
none comes back. -/
structure Carries (before after : Registry Code) : Prop where
  ages : before.points.Ages after.points
  kept : ∀ {type : TypeRef} {its : TypeState Code}, before.types.get? type = some its →
    ∃ its', after.types.get? type = some its' ∧ its'.fieldNames = its.fieldNames ∧
      its'.fieldCapacity = its.fieldCapacity ∧ (its'.live = true → its.live = true)

theorem carries_apply (tracked : state.Tracked) (change : Change Code) :
    Carries state (state.apply change) := by
  cases state.effect change with
  | create name parent? fieldCapacity =>
      refine ⟨.mint state.points 0, fun {_ _} there => ?_⟩
      obtain ⟨_, stands⟩ := Types.get?_create_of_get? there name parent? fieldCapacity state.points
      exact ⟨_, stands, rfl, rfl, id⟩
  | release target =>
      refine ⟨.refl _, fun {type _} there => ?_⟩
      have stood := state.types.get?_release target type
      rw [there] at stood
      split at stood
      · exact ⟨_, stood, rfl, rfl, fun live => absurd live Bool.false_ne_true⟩
      · exact ⟨_, stood, rfl, rfl, id⟩
  | nothing same _ =>
      rw [same]
      exact ⟨.refl _, fun there => ⟨_, there, rfl, rfl, id⟩⟩
  | @touched _ target touched touches same _ =>
      have flips := Types.flips_family (touches.tracked tracked).forest touched.points target
      have ages := flips.ages
      rw [same]
      refine ⟨touches.points ▸ ages, fun {_ _} there => ?_⟩
      obtain ⟨_, stands⟩ := touches.get?_forth there
      obtain ⟨_, stood, _⟩ := flips.owner stands
      exact ⟨_, stood, rfl, rfl, id⟩

theorem tracked_apply (tracked : state.Tracked) (change : Change Code) :
    (state.apply change).Tracked := by
  cases state.effect change with
  | create name parent? fieldCapacity =>
      refine ⟨tracked.forest.create name parent? fieldCapacity state.points, ?_⟩
      intro type _ there
      have minted : (state.apply (.create name parent? fieldCapacity)).points =
          (state.points.mint 0).2 := rfl
      have stood := state.types.get?_create name parent? fieldCapacity state.points type
      rw [show (state.types.create name parent? fieldCapacity state.points).2.1.get? type = some _
        from there] at stood
      rw [minted, SwitchPoints.size_mint]
      split at stood
      · cases stood
        exact Nat.lt_succ_self _
      · obtain ⟨old, found, rfl⟩ := Option.map_eq_some_iff.1 stood.symm
        have known := Nat.lt_succ_of_lt (tracked.known found)
        split <;> exact known
  | release target =>
      refine ⟨tracked.forest.release target, fun {type _} there => ?_⟩
      have stood := state.types.get?_release target type
      rw [show (state.types.release target).get? type = some _ from there] at stood
      split at stood
      · obtain ⟨old, found, rfl⟩ := Option.map_eq_some_iff.1 stood.symm
        have known := tracked.known found
        exact known
      · exact tracked.known stood.symm
  | nothing same _ => exact same.symm ▸ tracked
  | touched touches same _ =>
      rw [same]
      exact (touches.tracked tracked).invalidate _

/-- What a type defines it defined before, unless it is what was just defined. -/
theorem ownMethod?_apply (tracked : state.Tracked) (change : Change Code) {type : TypeRef}
    {name : String} {method : Method Code}
    (found : (state.apply change).types.ownMethod? type name = some method) :
    state.types.ownMethod? type name = some method ∨
      ∃ target, target.id = type.id ∧ change = .define target method := by
  cases state.effect change with
  | create new parent? fieldCapacity =>
      have stood := state.types.get?_create new parent? fieldCapacity state.points type
      left
      by_cases last : type.id = state.types.types.size
      · rw [if_pos last] at stood
        simp [Types.ownMethod?, Types.methods, apply, stood] at found
      · cases there : state.types.get? type with
        | none =>
            rw [if_neg last, there] at stood
            simp [Types.ownMethod?, Types.methods, apply, stood] at found
        | some its =>
            obtain ⟨_, stands⟩ :=
              Types.get?_create_of_get? there new parent? fieldCapacity state.points
            simpa [Types.ownMethod?, Types.methods, apply, stands, there] using found
  | release target =>
      left
      simpa only [Types.ownMethod?, apply, Types.methods_release] using found
  | nothing same _ => exact .inl (same ▸ found)
  | @touched _ target touched touches same _ =>
      have flips := Types.flips_family (touches.tracked tracked).forest touched.points target
      rw [same, Types.ownMethod?, show (touched.apply (.invalidate target)).types.methods type =
        touched.types.methods type from flips.methods type] at found
      exact (touches.owned found).imp_right fun its => ⟨target, its⟩

/-- What is promoted was promoted before, unless it is what was just promoted. -/
theorem promoted_apply (tracked : state.Tracked) (change : Change Code)
    {entry : Nat × CompiledMethod Code} (member : entry ∈ (state.apply change).types.promoted) :
    entry ∈ state.types.promoted ∨ ∃ target name, change = .promote target name entry.2 := by
  cases state.effect change with
  | create name parent? fieldCapacity =>
      left
      simpa only [apply, Types.promoted_create] using member
  | release target =>
      left
      simpa only [apply, Types.promoted_release] using member
  | nothing same _ => exact .inl (same ▸ member)
  | @touched _ target touched touches same _ =>
      have flips := Types.flips_family (touches.tracked tracked).forest touched.points target
      rw [same, show (touched.apply (.invalidate target)).types.promoted = touched.types.promoted
        from flips.promoted] at member
      rcases touches.promoted with kept | ⟨name, body, method, promotes, _, grown⟩
      · exact .inl (kept ▸ member)
      · rw [grown, List.mem_cons] at member
        rcases member with rfl | old
        · exact .inr ⟨target, name, promotes⟩
        · exact .inl old

/-- Serial numbers keep methods apart as long as every definition brings a new one. -/
theorem serials_apply (tracked : state.Tracked) {next later : Nat}
    (serials : state.types.Serials next) (enough : next ≤ later) (change : Change Code)
    (loose : ∀ target method, change = .define target method → state.types.Loose later method) :
    (state.apply change).types.Serials later where
  below found := by
    rcases ownMethod?_apply tracked change found with old | ⟨_, _, new⟩
    · exact Nat.lt_of_lt_of_le (serials.below old) enough
    · exact (loose _ _ new).made
  apart {type other name name' method method'} found found' same := by
    rcases ownMethod?_apply tracked change found with old | ⟨_, here, new⟩ <;>
      rcases ownMethod?_apply tracked change found' with old' | ⟨_, here', new'⟩
    · exact serials.apart old old' same
    · exact absurd same ((loose _ _ new').apart old)
    · exact absurd same.symm ((loose _ _ new).apart old')
    · cases new.symm.trans new'
      exact here.symm.trans here'

/-- Only a definition and a promotion bring bodies. -/
theorem bodies_apply (tracked : state.Tracked) {proper : CompiledMethod Code → Prop}
    (bodies : state.types.Bodies proper) (change : Change Code)
    (brings : ∀ body, change.body? = some body → proper body) :
    (state.apply change).types.Bodies proper where
  defined found has := by
    rcases ownMethod?_apply tracked change found with old | ⟨_, _, new⟩
    · exact bodies.defined old has
    · exact brings _ (new ▸ has)
  promoted member := by
    rcases promoted_apply tracked change member with old | ⟨_, _, new⟩
    · exact bodies.promoted old
    · exact brings _ (new ▸ rfl)

end Registry

end InlineCache
