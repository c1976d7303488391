/-
# InlineCache.Types.Basic -- types, their methods and their family

A type is made under a parent and keeps its *lineage*: itself first, then its
parent, and so on up to the root.  A method is found in the first method table of
the lineage that has one of the name.

The parent in turn keeps what was made under it, in order.

A type also lays out instance variables: the first few names written become fields
at fixed places, later ones are kept by name.  Once a name has a field it keeps it.

A type lives as long as something refers to it, and nothing can be made under one
that is gone.  The types of a world are in one table, in the order they were made.
-/
import InlineCache.Method.Basic
import InlineCache.NameMap
import InlineCache.SwitchPoint

namespace InlineCache

set_option autoImplicit false

inductive VariableAccessor where
  | field (index : Nat)
  | dictionary (name : String)
deriving DecidableEq, Repr

structure TypeState (Code : Type) where
  ref : TypeRef
  /-- the type itself, its parent, its parent's parent … -/
  lineage : List TypeRef
  /-- the types made under it, in the order they were made, gone ones included -/
  offspring : List TypeRef := []
  methods : NameMap (Method Code) := []
  invalidator : Invalidator
  /-- the names laid out as fields, each at its place -/
  fieldNames : List String := []
  /-- names beyond this many are kept by name -/
  fieldCapacity : Nat
  live : Bool := true

/-- The types of a world, and the bodies promoted for mixed methods. -/
structure Types (Code : Type) where
  types : Array (TypeState Code) := #[]
  /-- the body promoted last for the mixed method of each serial number -/
  promoted : List (Nat × CompiledMethod Code) := []

/-- The method tables that answer for a type, each with the type it belongs to: the
type's own first, then those of its ancestors, the nearest first. -/
abbrev MethodTables (Code : Type) := List (TypeRef × NameMap (Method Code))

namespace MethodTables

variable {Code : Type}

/-- Does one of the tables have this very method? -/
def Holds (tables : MethodTables Code) (method : Method Code) : Prop :=
  ∃ table ∈ tables, ∃ name, NameMap.get? table.2 name = some method

/-- The first method of a name, and the type that defines it. -/
def search? (name : String) : MethodTables Code → Option (Method Code × TypeRef)
  | [] => none
  | (type, methods) :: above =>
      match NameMap.get? methods name with
      | some method => some (method, type)
      | none => search? name above

/-- What a search finds stands in one of the tables. -/
theorem holds_of_search? {name : String} {tables : MethodTables Code}
    {found : Method Code × TypeRef} (searched : search? name tables = some found) :
    Holds tables found.1 := by
  induction tables with
  | nil => simp [search?] at searched
  | cons table rest ih =>
      cases own : NameMap.get? table.2 name with
      | some method =>
          simp only [search?, own, Option.some.injEq] at searched
          subst searched
          exact ⟨table, List.mem_cons_self, name, own⟩
      | none =>
          simp only [search?, own] at searched
          obtain ⟨table, member, there⟩ := ih searched
          exact ⟨table, List.mem_cons_of_mem _ member, there⟩

end MethodTables

namespace TypeState

variable {Code : Type}

def parent? (type : TypeState Code) : Option TypeRef := type.lineage.tail.head?

def isKindOf (type : TypeState Code) (other : TypeRef) : Bool :=
  type.lineage.any fun ancestor => ancestor.id == other.id

def accessorForRead (type : TypeState Code) (name : String) : VariableAccessor :=
  match type.fieldNames.findIdx? (· == name) with
  | some index => .field index
  | none => .dictionary name

/-- Where to write a name, and the layout after that: a new name takes the next
field while there is room. -/
def accessorForWrite (type : TypeState Code) (name : String) :
    VariableAccessor × TypeState Code :=
  match type.accessorForRead name with
  | .field index => (.field index, type)
  | .dictionary name =>
      if type.fieldNames.length < type.fieldCapacity then
        (.field type.fieldNames.length, { type with fieldNames := type.fieldNames ++ [name] })
      else (.dictionary name, type)

/-- A name once laid out as a field stays where it is. -/
theorem accessorForWrite_of_field {state : TypeState Code} {name : String}
    {index : Nat} (laid : state.accessorForRead name = .field index) :
    state.accessorForWrite name = (.field index, state) := by
  simp [accessorForWrite, laid]

end TypeState

namespace Types

variable {Code : Type}

def get? (table : Types Code) (type : TypeRef) : Option (TypeState Code) :=
  table.types[type.id]?

def modify (table : Types Code) (type : TypeRef) (change : TypeState Code → TypeState Code) :
    Types Code :=
  { table with types := table.types.modify type.id change }

/-- Does something still refer to the type? -/
def isLive (table : Types Code) (type : TypeRef) : Bool :=
  match table.get? type with
  | some state => state.live
  | none => false

def lineage (table : Types Code) (type : TypeRef) : List TypeRef :=
  match table.get? type with
  | some state => state.lineage
  | none => []

def methods (table : Types Code) (type : TypeRef) : NameMap (Method Code) :=
  match table.get? type with
  | some state => state.methods
  | none => []

def ownMethod? (table : Types Code) (type : TypeRef) (name : String) : Option (Method Code) :=
  NameMap.get? (table.methods type) name

/-- The method tables that answer for a type. -/
def methodTables (table : Types Code) (type : TypeRef) : MethodTables Code :=
  (table.lineage type).map fun ancestor => (ancestor, table.methods ancestor)

/-- The method a type has or inherits, and the type that defines it. -/
def search? (table : Types Code) (type : TypeRef) (name : String) :
    Option (Method Code × TypeRef) :=
  (table.methodTables type).search? name

/-- The switch point that guards what a type's method table answers. -/
def switchPoint (table : Types Code) (type : TypeRef) : SwitchPoint :=
  match table.get? type with
  | some state => state.invalidator.current
  | none => ⟨0⟩

/-- A new type under a parent that is still there, with a switch point of its own. -/
def create (table : Types Code) (name : String) (parent? : Option TypeRef)
    (fieldCapacity : Nat) (points : SwitchPoints) : TypeRef × Types Code × SwitchPoints :=
  let ref : TypeRef := ⟨table.types.size, name⟩
  let parent? := parent?.filter fun parent => table.isLive parent
  let above := match parent? with
    | some parent => table.lineage parent
    | none => []
  let (invalidator, points) := Invalidator.create .methodTable true points
  let table := match parent? with
    | some parent => table.modify parent fun state =>
        { state with offspring := state.offspring ++ [ref] }
    | none => table
  (ref,
    { table with
        types := table.types.push
          { ref, lineage := ref :: above, invalidator, fieldCapacity } },
    points)

def promoted? (table : Types Code) (method : Method Code) : Option (CompiledMethod Code) :=
  table.promoted.lookup method.serial

def activeBody (table : Types Code) (method : Method Code) (interpreted : CompiledMethod Code) :
    CompiledMethod Code :=
  (table.promoted? method).getD interpreted

def isKindOf (table : Types Code) (type other : TypeRef) : Bool :=
  match table.get? type with
  | some state => state.isKindOf other
  | none => false

/-- How many names a type lays out as fields. -/
def fieldCount (table : Types Code) (type : TypeRef) : Nat :=
  match table.get? type with
  | some state => state.fieldNames.length
  | none => 0

def accessorForRead (table : Types Code) (type : TypeRef) (name : String) : VariableAccessor :=
  match table.get? type with
  | some state => state.accessorForRead name
  | none => .dictionary name

def accessorForWrite (table : Types Code) (type : TypeRef) (name : String) :
    VariableAccessor × Types Code :=
  match table.get? type with
  | some state =>
      let (accessor, state) := state.accessorForWrite name
      (accessor, table.modify type fun _ => state)
  | none => (.dictionary name, table)

theorem get?_modify (table : Types Code) (type other : TypeRef)
    (change : TypeState Code → TypeState Code) :
    (table.modify type change).get? other =
      if type.id = other.id then (table.get? other).map change else table.get? other := by
  simp only [modify, get?, Array.getElem?_modify]

theorem isLive_eq_true_iff {table : Types Code} {type : TypeRef} :
    table.isLive type = true ↔ ∃ state, table.get? type = some state ∧ state.live = true := by
  simp only [isLive]
  cases table.get? type <;> simp

theorem isKindOf_of_get? {table : Types Code} {type : TypeRef} {state : TypeState Code}
    (there : table.get? type = some state) (other : TypeRef) :
    table.isKindOf type other = state.isKindOf other := by
  simp only [isKindOf, there]

/-- A new type comes last; besides it only the list of its parent changes. -/
theorem get?_create (table : Types Code) (name : String) (parent? : Option TypeRef)
    (fieldCapacity : Nat) (points : SwitchPoints) (other : TypeRef) :
    (table.create name parent? fieldCapacity points).2.1.get? other =
      if other.id = table.types.size then
        some
          { ref := ⟨table.types.size, name⟩
            lineage := ⟨table.types.size, name⟩ ::
              ((parent?.filter fun parent => table.isLive parent).map table.lineage).getD []
            invalidator := (Invalidator.create .methodTable true points).1
            fieldCapacity }
      else (table.get? other).map fun state =>
        if (parent?.filter fun parent => table.isLive parent).any fun parent =>
            parent.id = other.id then
          { state with offspring := state.offspring ++ [⟨table.types.size, name⟩] }
        else state := by
  cases under : parent?.filter fun parent => table.isLive parent with
  | none => simp [create, under, get?, Array.getElem?_push, eq_comm]
  | some parent =>
      by_cases last : other.id = table.types.size
      · simp only [create, under, get?, modify, last, Array.getElem?_push, Array.size_modify, if_true]
        rfl
      · by_cases here : parent.id = other.id <;>
          simp [create, under, get?, modify, last, here, Array.getElem?_push,
            Array.getElem?_modify]

/-- A type that was there stays as it is, its list of offspring apart. -/
theorem get?_create_of_get? {table : Types Code} {type : TypeRef} {state : TypeState Code}
    (there : table.get? type = some state) (name : String) (parent? : Option TypeRef)
    (fieldCapacity : Nat) (points : SwitchPoints) :
    ∃ offspring, (table.create name parent? fieldCapacity points).2.1.get? type =
      some { state with offspring } := by
  have old : type.id ≠ table.types.size := by
    intro last
    rw [get?, last, Array.getElem?_size] at there
    cases there
  rw [get?_create, if_neg old, there]
  refine ⟨if (parent?.filter fun parent => table.isLive parent).any fun parent =>
    parent.id = type.id then state.offspring ++ [⟨table.types.size, name⟩] else state.offspring, ?_⟩
  simp only [Option.map_some]
  split <;> rfl

@[simp] theorem promoted_create (table : Types Code) (name : String) (parent? : Option TypeRef)
    (fieldCapacity : Nat) (points : SwitchPoints) :
    (table.create name parent? fieldCapacity points).2.1.promoted = table.promoted := by
  simp only [create]
  split <;> rfl

end Types

end InlineCache
