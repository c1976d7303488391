/-
# InlineCache.SwitchPoint -- one-shot validity tokens and their owners

A guarded fact is something a cache relies on: what a method table answers, what a
global variable holds, that nobody has asked for a safepoint.  A *switch point* is
a token that is valid from the moment it is minted until it is flipped, once and
for good.  A cache that read the fact under a token may use what it read for as
long as the token is valid.

The owner of the fact is an `Invalidator`.  It hands out its current switch point
and flips it when the fact changes.  A repeatable owner installs a fresh switch
point of the next generation, so that later guards start out valid; a one-shot
owner stays with the flipped one.  An owner whose current switch point is already
flipped does nothing.

All switch points of a world live in one table, in the order they were minted.

* `isValid_flip`: flipping a switch point makes it invalid and touches no other;
* `Invalidator.invalidate_flips`: after `invalidate` the switch point handed out
  before it is invalid;
* `Invalidator.invalidate_renews`: a repeatable owner whose switch point was valid
  then hands out a valid one of the next generation;
* `Invalidator.isValid_invalidate`: apart from these two switch points nothing is
  touched.
-/
namespace InlineCache

set_option autoImplicit false

structure SwitchPoint where
  index : Nat
deriving DecidableEq, Repr

structure PointState where
  valid : Bool
  generation : Nat
deriving DecidableEq, Repr

/-- The switch points of a world, in the order they were minted. -/
structure SwitchPoints where
  points : Array PointState := #[]

namespace SwitchPoints

/-- A fresh switch point, valid, of the given generation. -/
def mint (table : SwitchPoints) (generation : Nat) : SwitchPoint × SwitchPoints :=
  (⟨table.points.size⟩, { table with points := table.points.push ⟨true, generation⟩ })

def isValid (table : SwitchPoints) (point : SwitchPoint) : Bool :=
  match table.points[point.index]? with
  | some state => state.valid
  | none => false

def generation (table : SwitchPoints) (point : SwitchPoint) : Nat :=
  match table.points[point.index]? with
  | some state => state.generation
  | none => 0

def flip (table : SwitchPoints) (point : SwitchPoint) : SwitchPoints :=
  { table with points := table.points.modify point.index fun state => { state with valid := false } }

theorem isValid_mint_self (table : SwitchPoints) (generation : Nat) :
    (table.mint generation).2.isValid (table.mint generation).1 = true := by
  simp [mint, isValid]

theorem generation_mint_self (table : SwitchPoints) (generation : Nat) :
    (table.mint generation).2.generation (table.mint generation).1 = generation := by
  simp [mint, SwitchPoints.generation]

theorem lt_size_of_isValid {table : SwitchPoints} {point : SwitchPoint}
    (valid : table.isValid point = true) : point.index < table.points.size := by
  refine Nat.lt_of_not_le fun past => ?_
  simp [isValid, Array.getElem?_eq_none past] at valid

/-- The switch point minted is the one more that is valid. -/
theorem isValid_mint (table : SwitchPoints) (generation : Nat) (point : SwitchPoint) :
    (table.mint generation).2.isValid point =
      (table.isValid point || decide (point = (table.mint generation).1)) := by
  by_cases fresh : point.index = table.points.size
  · have : point = (table.mint generation).1 := by cases point; simp_all [mint]
    rw [this, isValid_mint_self]
    simp
  · have : point ≠ (table.mint generation).1 := fun e => fresh (congrArg SwitchPoint.index e)
    rw [decide_eq_false this, Bool.or_false]
    simp [mint, isValid, Array.getElem?_push, fresh]

@[simp] theorem size_mint (table : SwitchPoints) (generation : Nat) :
    (table.mint generation).2.points.size = table.points.size + 1 := by
  simp [mint]

@[simp] theorem size_flip (table : SwitchPoints) (point : SwitchPoint) :
    (table.flip point).points.size = table.points.size := by
  simp [flip]

/-- Minting leaves every switch point minted before as it was. -/
theorem isValid_mint_of_lt {table : SwitchPoints} {point : SwitchPoint} (generation : Nat)
    (old : point.index < table.points.size) :
    (table.mint generation).2.isValid point = table.isValid point := by
  have : point.index ≠ table.points.size := by omega
  simp [mint, isValid, Array.getElem?_push, this]

/-- Nor does minting touch the generation of a switch point minted before. -/
theorem generation_mint_of_lt {table : SwitchPoints} {point : SwitchPoint} (generation : Nat)
    (old : point.index < table.points.size) :
    (table.mint generation).2.generation point = table.generation point := by
  have : point.index ≠ table.points.size := by omega
  simp [mint, SwitchPoints.generation, Array.getElem?_push, this]

/-- A flip makes its own switch point invalid and touches no other. -/
theorem isValid_flip (table : SwitchPoints) (point other : SwitchPoint) :
    (table.flip point).isValid other = (table.isValid other && decide (other ≠ point)) := by
  simp only [flip, isValid, Array.getElem?_modify]
  by_cases same : point.index = other.index
  · have : other = point := by cases point; cases other; simp_all
    cases table.points[other.index]? <;> simp [same, this]
  · have : other ≠ point := fun e => same (by rw [e])
    simp [same, this]

@[simp] theorem generation_flip (table : SwitchPoints) (point other : SwitchPoint) :
    (table.flip point).generation other = table.generation other := by
  simp only [flip, SwitchPoints.generation, Array.getElem?_modify]
  by_cases same : point.index = other.index <;>
    cases table.points[other.index]? <;> simp [same]

/-- What time does to switch points: more of them are minted, and **one that was flipped
is never valid again**. -/
structure Ages (table later : SwitchPoints) : Prop where
  grows : table.points.size ≤ later.points.size
  stale : ∀ {point : SwitchPoint}, point.index < table.points.size →
    table.isValid point = false → later.isValid point = false

namespace Ages

theorem refl (table : SwitchPoints) : table.Ages table := ⟨Nat.le_refl _, fun _ flipped => flipped⟩

theorem trans {table later last : SwitchPoints} (first : table.Ages later)
    (second : later.Ages last) : table.Ages last where
  grows := Nat.le_trans first.grows second.grows
  stale known flipped :=
    second.stale (Nat.lt_of_lt_of_le known first.grows) (first.stale known flipped)

theorem mint (table : SwitchPoints) (generation : Nat) :
    table.Ages (table.mint generation).2 where
  grows := by simp
  stale known flipped := by rw [isValid_mint_of_lt generation known, flipped]

theorem flip (table : SwitchPoints) (point : SwitchPoint) : table.Ages (table.flip point) where
  grows := by simp
  stale _ flipped := by simp [isValid_flip, flipped]

/-- What is still valid was valid all along. -/
theorem valid {table later : SwitchPoints} (ages : table.Ages later) {point : SwitchPoint}
    (known : point.index < table.points.size) (valid : later.isValid point = true) :
    table.isValid point = true := by
  cases before : table.isValid point with
  | true => rfl
  | false => rw [ages.stale known before] at valid; exact valid

end Ages

end SwitchPoints

/-- What a switch point guards. -/
inductive GuardedFact where
  /-- what a type's method table answers -/
  | methodTable
  /-- what a global variable holds -/
  | global
  /-- that nobody has asked for a safepoint -/
  | checkpoint
deriving DecidableEq, Repr

structure Invalidator where
  kind : GuardedFact
  /-- a fresh switch point replaces each flipped one -/
  repeatable : Bool
  /-- the switch point a new guard captures -/
  current : SwitchPoint
  /-- how many fresh switch points have replaced a flipped one -/
  generation : Nat
deriving DecidableEq, Repr

namespace Invalidator

/-- A new owner with a valid switch point of generation zero. -/
def create (kind : GuardedFact) (repeatable : Bool) (table : SwitchPoints) :
    Invalidator × SwitchPoints :=
  let (point, table) := table.mint 0
  ({ kind, repeatable, current := point, generation := 0 }, table)

/-- The fact changed: flip the current switch point, and replace it when this owner
is repeatable. -/
def invalidate (owner : Invalidator) (table : SwitchPoints) : Invalidator × SwitchPoints :=
  if table.isValid owner.current then
    if owner.repeatable then
      let (point, table) := table.mint (owner.generation + 1)
      ({ owner with current := point, generation := owner.generation + 1 },
        table.flip owner.current)
    else (owner, table.flip owner.current)
  else (owner, table)

/-- A one-shot owner is spent once its switch point is flipped. -/
def isSpent (owner : Invalidator) (table : SwitchPoints) : Bool :=
  !owner.repeatable && !table.isValid owner.current

/-- After `invalidate` the switch point that was current is invalid. -/
theorem invalidate_flips (owner : Invalidator) (table : SwitchPoints) :
    (owner.invalidate table).2.isValid owner.current = false := by
  by_cases valid : table.isValid owner.current
  · by_cases again : owner.repeatable <;>
      simp [invalidate, valid, again, SwitchPoints.isValid_flip]
  · simp [invalidate, valid]

/-- An owner whose switch point was flipped behind its back stays with it. -/
theorem invalidate_of_flipped {owner : Invalidator} {table : SwitchPoints}
    (flipped : table.isValid owner.current = false) :
    owner.invalidate table = (owner, table) := by
  simp [invalidate, flipped]

/-- A repeatable owner whose switch point was valid hands out a valid one of the next
generation. -/
theorem invalidate_renews {owner : Invalidator} {table : SwitchPoints}
    (again : owner.repeatable = true) (valid : table.isValid owner.current = true) :
    (owner.invalidate table).2.isValid (owner.invalidate table).1.current = true ∧
      (owner.invalidate table).1.generation = owner.generation + 1 := by
  have old := SwitchPoints.lt_size_of_isValid valid
  have fresh : (⟨table.points.size⟩ : SwitchPoint) ≠ owner.current := by
    intro e
    have : table.points.size = owner.current.index := congrArg SwitchPoint.index e
    omega
  have live := table.isValid_mint_self (owner.generation + 1)
  simp only [SwitchPoints.mint] at live
  simp [invalidate, valid, again, SwitchPoints.isValid_flip, SwitchPoints.mint, fresh, live]

/-- **Revoking touches two switch points**: the one that was current, and the one that
replaces it. -/
theorem isValid_invalidate {owner : Invalidator} {table : SwitchPoints}
    (again : owner.repeatable = true) (valid : table.isValid owner.current = true)
    (point : SwitchPoint) :
    (owner.invalidate table).2.isValid point = true ↔
      point = (owner.invalidate table).1.current ∨
        (table.isValid point = true ∧ point ≠ owner.current) := by
  have old := SwitchPoints.lt_size_of_isValid valid
  have fresh : (table.mint (owner.generation + 1)).1 ≠ owner.current := by
    intro e
    have : table.points.size = owner.current.index := congrArg SwitchPoint.index e
    omega
  simp only [invalidate, valid, again, if_true, SwitchPoints.isValid_flip,
    SwitchPoints.isValid_mint, Bool.and_eq_true, Bool.or_eq_true, decide_eq_true_eq]
  constructor
  · rintro ⟨known | minted, other⟩
    · exact .inr ⟨known, other⟩
    · exact .inl minted
  · rintro (rfl | ⟨known, other⟩)
    · exact ⟨.inr rfl, fresh⟩
    · exact ⟨.inl known, other⟩

/-- What replaces a switch point is new to the table. -/
theorem current_invalidate {owner : Invalidator} {table : SwitchPoints}
    (again : owner.repeatable = true) (valid : table.isValid owner.current = true) :
    (owner.invalidate table).1.current = ⟨table.points.size⟩ := by
  simp [invalidate, valid, again, SwitchPoints.mint]

theorem ages_invalidate (owner : Invalidator) (table : SwitchPoints) :
    table.Ages (owner.invalidate table).2 := by
  simp only [invalidate]
  split
  · split
    · exact (SwitchPoints.Ages.mint table _).trans (SwitchPoints.Ages.flip _ _)
    · exact SwitchPoints.Ages.flip _ _
  · exact .refl table

/-- What an owner hands out is in the table. -/
theorem lt_size_invalidate {owner : Invalidator} {table : SwitchPoints}
    (known : owner.current.index < table.points.size) :
    (owner.invalidate table).1.current.index < (owner.invalidate table).2.points.size := by
  by_cases valid : table.isValid owner.current
  · by_cases again : owner.repeatable
    · simp [invalidate, valid, again, SwitchPoints.mint]
    · simpa [invalidate, valid, again] using known
  · simpa [invalidate, valid] using known

@[simp] theorem repeatable_invalidate (owner : Invalidator) (table : SwitchPoints) :
    (owner.invalidate table).1.repeatable = owner.repeatable := by
  by_cases valid : table.isValid owner.current
  · by_cases again : owner.repeatable <;> simp [invalidate, valid, again]
  · simp [invalidate, valid]

end Invalidator

end InlineCache
