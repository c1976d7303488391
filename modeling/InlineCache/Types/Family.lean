/-
# InlineCache.Types.Family -- a type with everything that descends from it

A type's method table answers for the type itself and for every type below it.  So
whatever changes the table flips the switch points of the whole *family*: of the type,
and then, generation by generation, of the live types made under it.  `define`,
`remove` and `promote` are the changes; one that changes nothing flips nothing.

A type refers to its parent, so it is released only after every type made under it;
once released its switch point is not flipped any more.
-/
import InlineCache.Types.Basic

namespace InlineCache.Types

set_option autoImplicit false

variable {Code : Type}

/-- The live types made under a type, in the order they were made. -/
def subclasses (table : Types Code) (type : TypeRef) : List TypeRef :=
  match table.get? type with
  | some state => state.offspring.filter fun child => table.isLive child
  | none => []

/-- A type and the live types at most so many generations below it. -/
def descendants (table : Types Code) : Nat → TypeRef → List TypeRef
  | 0, type => [type]
  | generations + 1, type =>
      type :: (table.subclasses type).flatMap (table.descendants generations)

/-- A type and every live type below it: a line of descent is no longer than the
table. -/
def family (table : Types Code) (type : TypeRef) : List TypeRef :=
  table.descendants table.types.size type

def invalidateOwn (table : Types Code) (type : TypeRef) (points : SwitchPoints) :
    Types Code × SwitchPoints :=
  match table.get? type with
  | some state =>
      let (invalidator, points) := state.invalidator.invalidate points
      (table.modify type fun state => { state with invalidator }, points)
  | none => (table, points)

/-- Flip the switch points of a type and of every live type below it. -/
def invalidateFamily (table : Types Code) (type : TypeRef) (points : SwitchPoints) :
    Types Code × SwitchPoints :=
  (table.family type).foldl (fun state member => state.1.invalidateOwn member state.2)
    (table, points)

def define (table : Types Code) (type : TypeRef) (method : Method Code) (points : SwitchPoints) :
    Types Code × SwitchPoints :=
  let table := table.modify type fun state =>
    { state with methods := NameMap.insert state.methods method.name method }
  table.invalidateFamily type points

/-- Take a method out of a type's table; nothing is flipped when there is none. -/
def remove (table : Types Code) (type : TypeRef) (name : String) (points : SwitchPoints) :
    Option (Method Code) × Types Code × SwitchPoints :=
  match table.ownMethod? type name with
  | some method =>
      let table := table.modify type fun state =>
        { state with methods := NameMap.erase state.methods name }
      let (table, points) := table.invalidateFamily type points
      (some method, table, points)
  | none => (none, table, points)

/-- Promote a body for a mixed method of this very type.  Answers whether there was
one. -/
def promote (table : Types Code) (type : TypeRef) (name : String) (body : CompiledMethod Code)
    (points : SwitchPoints) : Bool × Types Code × SwitchPoints :=
  match table.ownMethod? type name with
  | some method =>
      match method.implementation with
      | .mixed _ =>
          let table := { table with promoted := (method.serial, body) :: table.promoted }
          let (table, points) := table.invalidateFamily type points
          (true, table, points)
      | _ => (false, table, points)
  | none => (false, table, points)

/-- Take note that nothing refers to a type any more, unless a type below it does. -/
def release (table : Types Code) (type : TypeRef) : Types Code :=
  if table.subclasses type = [] then table.modify type fun state => { state with live := false }
  else table

theorem invalidateOwn_of_none {table : Types Code} {type : TypeRef} (points : SwitchPoints)
    (missing : table.get? type = none) : table.invalidateOwn type points = (table, points) := by
  simp [invalidateOwn, missing]

/-- Flipping one type shows in that type only. -/
theorem get?_invalidateOwn {table : Types Code} {type : TypeRef} {state : TypeState Code}
    (points : SwitchPoints) (there : table.get? type = some state) (other : TypeRef) :
    (table.invalidateOwn type points).1.get? other =
      if type.id = other.id then
        some { state with invalidator := (state.invalidator.invalidate points).1 }
      else table.get? other := by
  simp only [invalidateOwn, there, get?_modify]
  split
  · rename_i same
    rw [show table.get? other = some state by simp only [← there, get?, same]]
    rfl
  · rfl

theorem points_invalidateOwn {table : Types Code} {type : TypeRef} {state : TypeState Code}
    (points : SwitchPoints) (there : table.get? type = some state) :
    (table.invalidateOwn type points).2 = (state.invalidator.invalidate points).2 := by
  simp [invalidateOwn, there]

/-- Whether a type lives is all that its release changes. -/
theorem get?_release (table : Types Code) (type other : TypeRef) :
    (table.release type).get? other =
      if table.subclasses type = [] ∧ type.id = other.id then
        (table.get? other).map fun state => { state with live := false }
      else table.get? other := by
  by_cases last : table.subclasses type = []
  · simp [release, last, get?_modify]
  · simp [release, last]

/-- A type stays when another, or it itself, is released. -/
theorem get?_release_of_get? {table : Types Code} {type : TypeRef} {state : TypeState Code}
    (there : table.get? type = some state) (target : TypeRef) :
    ∃ live, (table.release target).get? type = some { state with live } := by
  rw [get?_release, there]
  split
  · exact ⟨false, rfl⟩
  · exact ⟨state.live, rfl⟩

@[simp] theorem methods_release (table : Types Code) (target type : TypeRef) :
    (table.release target).methods type = table.methods type := by
  simp only [methods, get?_release]
  by_cases gone : table.subclasses target = [] ∧ target.id = type.id <;>
    cases table.get? type <;> simp [gone]

@[simp] theorem promoted_release (table : Types Code) (target : TypeRef) :
    (table.release target).promoted = table.promoted := by
  simp only [release]
  split <;> rfl

end InlineCache.Types
