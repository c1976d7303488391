/-
# InlineCache.Proofs.Guard -- one valid switch point for each type

Every type guards its method table by a switch point of its own, which is valid
(`Types.Guarded`).  Flipping a family keeps that, and flips exactly the family: each
of its types once, and no switch point of anyone else (`Types.renews_family`).
-/
import InlineCache.Proofs.Forest

namespace InlineCache.Types

set_option autoImplicit false

variable {Code : Type}

/-- Every type has a valid switch point of its own. -/
structure Guarded (table : Types Code) (points : SwitchPoints) : Prop where
  again : ∀ {type : TypeRef} {state : TypeState Code}, table.get? type = some state →
    state.invalidator.repeatable = true
  valid : ∀ {type : TypeRef} {state : TypeState Code}, table.get? type = some state →
    points.isValid state.invalidator.current = true
  apart : ∀ {type other : TypeRef} {state state' : TypeState Code},
    table.get? type = some state → table.get? other = some state' →
      state.invalidator.current = state'.invalidator.current → type.id = other.id

/-- From one moment to another the switch points of some types were flipped, and nothing
else happened to the types. -/
structure Flips (ids : List Nat) (before after : Types Code × SwitchPoints) : Prop where
  size : after.1.types.size = before.1.types.size
  promoted : after.1.promoted = before.1.promoted
  ages : before.2.Ages after.2
  kept : ∀ {type : TypeRef} {state : TypeState Code}, before.1.get? type = some state →
    type.id ∉ ids → after.1.get? type = some state
  owner : ∀ {type : TypeRef} {state : TypeState Code}, before.1.get? type = some state →
    ∃ invalidator, after.1.get? type = some { state with invalidator } ∧
      (state.invalidator.current.index < before.2.points.size →
        invalidator.current.index < after.2.points.size)
  flipped : ∀ {type : TypeRef} {state : TypeState Code}, before.1.get? type = some state →
    type.id ∈ ids → state.invalidator.current.index < before.2.points.size →
      after.2.isValid state.invalidator.current = false

/-- They were flipped once each, and no other switch point was. -/
structure Renews (ids : List Nat) (before after : Types Code × SwitchPoints) : Prop
    extends Flips ids before after where
  renewed : ∀ {type : TypeRef} {state : TypeState Code}, before.1.get? type = some state →
    type.id ∈ ids → ∃ invalidator, after.1.get? type = some { state with invalidator } ∧
      invalidator.generation = state.invalidator.generation + 1 ∧
        before.2.points.size ≤ invalidator.current.index
  tokens : ∀ {token : SwitchPoint}, token.index < before.2.points.size →
    before.2.isValid token = true →
      (∀ {type : TypeRef} {state : TypeState Code}, before.1.get? type = some state →
        type.id ∈ ids → state.invalidator.current ≠ token) → after.2.isValid token = true

variable {ids more : List Nat} {before between after : Types Code × SwitchPoints}

namespace Flips

theorem refl (before : Types Code × SwitchPoints) : Flips [] before before where
  size := rfl
  promoted := rfl
  ages := .refl _
  kept there _ := there
  owner {_ state} there := ⟨state.invalidator, there, id⟩
  flipped _ member := by simp at member

theorem trans (first : Flips ids before between) (second : Flips more between after)
    (apart : ids.Disjoint more) : Flips (ids ++ more) before after where
  size := second.size.trans first.size
  promoted := second.promoted.trans first.promoted
  ages := first.ages.trans second.ages
  kept there fresh := by
    rw [List.mem_append, not_or] at fresh
    exact second.kept (first.kept there fresh.1) fresh.2
  owner there := by
    obtain ⟨_, stands, known⟩ := first.owner there
    obtain ⟨invalidator, stood, known'⟩ := second.owner stands
    exact ⟨invalidator, stood, fun old => known' (known old)⟩
  flipped there member known := by
    rcases List.mem_append.1 member with member | member
    · exact second.ages.stale (Nat.lt_of_lt_of_le known first.ages.grows)
        (first.flipped there member known)
    · exact second.flipped (first.kept there fun other => apart other member) member
        (Nat.lt_of_lt_of_le known first.ages.grows)

/-- Nothing comes into being. -/
theorem back (flips : Flips ids before after) {type : TypeRef} {new : TypeState Code}
    (there : after.1.get? type = some new) :
    ∃ state, before.1.get? type = some state ∧
      new = { state with invalidator := new.invalidator } := by
  cases found : before.1.get? type with
  | none =>
      have small := lt_size_of_get? there
      rw [get?_eq_none_iff] at found
      rw [flips.size] at small
      exact absurd small (Nat.not_lt.2 found)
  | some state =>
      obtain ⟨invalidator, stands, _⟩ := flips.owner found
      cases stands.symm.trans there
      exact ⟨state, rfl, rfl⟩

theorem skeleton (flips : Flips ids before after) (type : TypeRef) :
    (after.1.get? type).map TypeState.skeleton = (before.1.get? type).map TypeState.skeleton := by
  cases found : after.1.get? type with
  | none =>
      rw [get?_eq_none_iff, flips.size, ← get?_eq_none_iff] at found
      rw [found]
  | some new =>
      obtain ⟨state, there, same⟩ := flips.back found
      rw [there, same]
      rfl

theorem methods (flips : Flips ids before after) (type : TypeRef) :
    after.1.methods type = before.1.methods type := by
  simp only [Types.methods]
  cases found : before.1.get? type with
  | none =>
      rw [get?_eq_none_iff, ← flips.size, ← get?_eq_none_iff] at found
      rw [found]
  | some state =>
      obtain ⟨_, stands, _⟩ := flips.owner found
      rw [stands]

end Flips

theorem Renews.trans (first : Renews ids before between) (second : Renews more between after)
    (apart : ids.Disjoint more) : Renews (ids ++ more) before after where
  toFlips := first.toFlips.trans second.toFlips apart
  renewed there member := by
    rcases List.mem_append.1 member with member | member
    · obtain ⟨invalidator, stands, next, new⟩ := first.renewed there member
      exact ⟨invalidator, second.kept stands (apart member), next, new⟩
    · have stands := first.kept there fun other => apart other member
      obtain ⟨invalidator, stood, next, new⟩ := second.renewed stands member
      exact ⟨invalidator, stood, next, Nat.le_trans first.ages.grows new⟩
  tokens {token} known valid others := by
    refine second.tokens (Nat.lt_of_lt_of_le known first.ages.grows)
      (first.tokens known valid fun there member => others there (List.mem_append_left _ member))
      fun {type new} there member => ?_
    obtain ⟨state, found, _⟩ := first.back there
    cases (first.kept found fun here => apart here member).symm.trans there
    exact others found (List.mem_append_right _ member)

variable {table : Types Code} {points : SwitchPoints}

/-- Nothing but the owners of switch points matters. -/
theorem Guarded.of_invalidator (guarded : table.Guarded points) {after : Types Code}
    (same : ∀ type, (after.get? type).map TypeState.invalidator =
      (table.get? type).map TypeState.invalidator) : after.Guarded points := by
  have back : ∀ {other : TypeRef} {new : TypeState Code}, after.get? other = some new →
      ∃ old, table.get? other = some old ∧ old.invalidator = new.invalidator := by
    intro other new there
    have equal := same other
    rw [there] at equal
    exact Option.map_eq_some_iff.1 equal.symm
  constructor
  · intro other new there
    obtain ⟨old, found, equal⟩ := back there
    rw [← equal]
    exact guarded.again found
  · intro other new there
    obtain ⟨old, found, equal⟩ := back there
    rw [← equal]
    exact guarded.valid found
  · intro first second new new' there there' current
    obtain ⟨old, found, equal⟩ := back there
    obtain ⟨old', found', equal'⟩ := back there'
    rw [← equal, ← equal'] at current
    exact guarded.apart found found' current

theorem Guarded.release (guarded : table.Guarded points) (type : TypeRef) :
    (table.release type).Guarded points := by
  refine guarded.of_invalidator fun other => ?_
  rw [get?_release]
  split
  · rw [Option.map_map]
    rfl
  · rfl

theorem Guarded.create (guarded : table.Guarded points) (name : String)
    (parent? : Option TypeRef) (fieldCapacity : Nat) :
    (table.create name parent? fieldCapacity points).2.1.Guarded
      (table.create name parent? fieldCapacity points).2.2 := by
  have minted : (table.create name parent? fieldCapacity points).2.2 = (points.mint 0).2 := rfl
  have back : ∀ {other : TypeRef} {new : TypeState Code},
      (table.create name parent? fieldCapacity points).2.1.get? other = some new →
        (other.id = table.types.size ∧
            new.invalidator = (Invalidator.create .methodTable true points).1) ∨
          ∃ old, table.get? other = some old ∧ new.invalidator = old.invalidator := by
    intro other new there
    rw [get?_create] at there
    split at there
    · rename_i last
      cases there
      exact .inl ⟨last, rfl⟩
    · obtain ⟨old, found, rfl⟩ := Option.map_eq_some_iff.1 there
      refine .inr ⟨old, found, ?_⟩
      split <;> rfl
  have known : ∀ {other : TypeRef} {old : TypeState Code}, table.get? other = some old →
      old.invalidator.current ≠ ⟨points.points.size⟩ := by
    intro other old found same
    have := SwitchPoints.lt_size_of_isValid (guarded.valid found)
    rw [same] at this
    exact Nat.lt_irrefl _ this
  constructor
  · intro other new there
    rcases back there with ⟨_, fresh⟩ | ⟨old, found, same⟩
    · rw [fresh]
      rfl
    · rw [same]
      exact guarded.again found
  · intro other new there
    rw [minted]
    rcases back there with ⟨_, fresh⟩ | ⟨old, found, same⟩
    · rw [fresh]
      exact points.isValid_mint_self 0
    · rw [same, SwitchPoints.isValid_mint, guarded.valid found, Bool.true_or]
  · intro first second new new' there there' equal
    rcases back there with ⟨last, fresh⟩ | ⟨old, found, same⟩ <;>
      rcases back there' with ⟨last', fresh'⟩ | ⟨old', found', same'⟩
    · exact last.trans last'.symm
    · rw [fresh, same'] at equal
      exact absurd equal.symm (known found')
    · rw [same, fresh'] at equal
      exact absurd equal (known found)
    · rw [same, same'] at equal
      exact guarded.apart found found' equal

theorem flips_own (table : Types Code) (points : SwitchPoints) (type : TypeRef) :
    Flips [type.id] (table, points) (table.invalidateOwn type points) := by
  cases there : table.get? type with
  | none =>
      rw [invalidateOwn_of_none points there]
      refine { Flips.refl _ with kept := fun found _ => found, flipped := fun found member => ?_ }
      rw [table.get?_of_id_eq (List.mem_singleton.1 member), there] at found
      exact absurd found (by simp)
  | some state =>
      have its : ∀ {other : TypeRef} {state' : TypeState Code}, table.get? other = some state' →
          type.id = other.id → state' = state := by
        intro other state' found same
        rw [table.get?_of_id_eq same.symm, there] at found
        exact (Option.some.inj found).symm
      constructor
      · simp [invalidateOwn, there, modify]
      · simp [invalidateOwn, there, modify]
      · rw [points_invalidateOwn points there]
        exact Invalidator.ages_invalidate _ _
      · intro other state' found different
        rw [get?_invalidateOwn points there, if_neg fun same => different (by simp [same])]
        exact found
      · intro other state' found
        rw [get?_invalidateOwn points there, points_invalidateOwn points there]
        split
        · rename_i same
          obtain rfl := its found same
          exact ⟨_, rfl, Invalidator.lt_size_invalidate⟩
        · exact ⟨state'.invalidator, found, fun known =>
            Nat.lt_of_lt_of_le known (Invalidator.ages_invalidate _ _).grows⟩
      · intro other state' found member _
        obtain rfl := its found (List.mem_singleton.1 member).symm
        rw [points_invalidateOwn points there]
        exact Invalidator.invalidate_flips _ _

theorem renews_own (guarded : table.Guarded points) (type : TypeRef) :
    Renews [type.id] (table, points) (table.invalidateOwn type points) := by
  refine { flips_own table points type with renewed := ?_, tokens := ?_ }
  · intro other state found member
    have same := List.mem_singleton.1 member
    have there : table.get? type = some state := (table.get?_of_id_eq same.symm).trans found
    refine ⟨_, by rw [get?_invalidateOwn points there, if_pos same.symm],
      (Invalidator.invalidate_renews (guarded.again there) (guarded.valid there)).2, ?_⟩
    have renewed := Invalidator.current_invalidate (guarded.again there) (guarded.valid there)
    exact Nat.le_of_eq (congrArg SwitchPoint.index renewed).symm
  · intro token _ valid others
    cases there : table.get? type with
    | none => rwa [invalidateOwn_of_none points there]
    | some state =>
        rw [points_invalidateOwn points there,
          Invalidator.isValid_invalidate (guarded.again there) (guarded.valid there)]
        exact .inr ⟨valid, (others there (by simp)).symm⟩

/-- Flipping one type leaves every type with a valid switch point of its own. -/
theorem Guarded.invalidateOwn (guarded : table.Guarded points) (type : TypeRef) :
    (table.invalidateOwn type points).1.Guarded (table.invalidateOwn type points).2 := by
  cases there : table.get? type with
  | none => rwa [invalidateOwn_of_none points there]
  | some state =>
      have again := guarded.again there
      have valid := guarded.valid there
      have old : ∀ {other : TypeRef} {state' : TypeState Code}, table.get? other = some state' →
          state'.invalidator.current ≠ (state.invalidator.invalidate points).1.current := by
        intro other state' found same
        have known := SwitchPoints.lt_size_of_isValid (guarded.valid found)
        rw [same, Invalidator.current_invalidate again valid] at known
        exact Nat.lt_irrefl _ known
      constructor
      · intro other new found
        rw [get?_invalidateOwn points there] at found
        split at found
        · cases found
          simpa using again
        · exact guarded.again found
      · intro other new found
        rw [points_invalidateOwn points there, Invalidator.isValid_invalidate again valid]
        rw [get?_invalidateOwn points there] at found
        split at found
        · cases found
          exact .inl rfl
        · rename_i different
          exact .inr ⟨guarded.valid found,
            fun equal => different (guarded.apart there found equal.symm)⟩
      · intro first second new new' found found' equal
        rw [get?_invalidateOwn points there] at found found'
        split at found <;> split at found'
        · rename_i here here'
          exact here.symm.trans here'
        · cases found
          exact absurd equal.symm (old found')
        · cases found'
          exact absurd equal (old found)
        · exact guarded.apart found found' equal

/-- Flipping several types, one after the other. -/
def invalidateAll (members : List TypeRef) (state : Types Code × SwitchPoints) :
    Types Code × SwitchPoints :=
  members.foldl (fun state member => state.1.invalidateOwn member state.2) state

theorem flips_all (members : List TypeRef) (distinct : (members.map TypeRef.id).Nodup)
    (state : Types Code × SwitchPoints) :
    Flips (members.map TypeRef.id) state (invalidateAll members state) := by
  induction members generalizing state with
  | nil => exact .refl _
  | cons member rest ih =>
      obtain ⟨fresh, distinct⟩ := List.nodup_cons.1 distinct
      refine (flips_own state.1 state.2 member).trans (ih distinct _) ?_
      exact List.disjoint_left.2 fun id here there => fresh (List.mem_singleton.1 here ▸ there)

theorem renews_all (members : List TypeRef) (distinct : (members.map TypeRef.id).Nodup)
    {state : Types Code × SwitchPoints} (guarded : state.1.Guarded state.2) :
    Renews (members.map TypeRef.id) state (invalidateAll members state) ∧
      (invalidateAll members state).1.Guarded (invalidateAll members state).2 := by
  induction members generalizing state with
  | nil => exact ⟨{ Flips.refl _ with
      renewed := fun _ member => by simp at member, tokens := fun _ valid _ => valid }, guarded⟩
  | cons member rest ih =>
      obtain ⟨fresh, distinct⟩ := List.nodup_cons.1 distinct
      obtain ⟨renews, after⟩ := ih distinct (guarded.invalidateOwn member)
      refine ⟨(renews_own guarded member).trans renews ?_, after⟩
      exact List.disjoint_left.2 fun id here there => fresh (List.mem_singleton.1 here ▸ there)

/-- **Flipping a family flips the family.** -/
theorem flips_family (forest : table.Forest) (points : SwitchPoints) (type : TypeRef) :
    Flips ((table.family type).map TypeRef.id) (table, points)
      (table.invalidateFamily type points) :=
  flips_all _ (forest.nodup_family type) _

/-- **And the family only**, as long as every type has a valid switch point of its own. -/
theorem renews_family (forest : table.Forest) (guarded : table.Guarded points) (type : TypeRef) :
    Renews ((table.family type).map TypeRef.id) (table, points)
        (table.invalidateFamily type points) ∧
      (table.invalidateFamily type points).1.Guarded (table.invalidateFamily type points).2 :=
  renews_all _ (forest.nodup_family type) guarded

end InlineCache.Types
