/-
# InlineCache.Objects -- objects and their instance variables

An object keeps the variables its type has laid out as fields in an array, at the
places of the layout, and the others by name.  An accessor says which; the array
grows when a field past its end is written.  A reference that names another type than
the object was made with refers to nothing.
-/
import InlineCache.Slots
import InlineCache.Types.Basic

namespace InlineCache

set_option autoImplicit false

structure ObjectState where
  type : TypeRef
  fields : Slots := #[]
  dictionary : NameMap Value := []

/-- The objects of a world, in the order they were made. -/
structure Objects where
  objects : Array ObjectState := #[]

namespace ObjectState

def get? (state : ObjectState) : VariableAccessor → Option Value
  | .field index => state.fields.read index
  | .dictionary name => NameMap.get? state.dictionary name

def set (state : ObjectState) (accessor : VariableAccessor) (value : Value) : ObjectState :=
  match accessor with
  | .field index => { state with fields := state.fields.write index value }
  | .dictionary name => { state with dictionary := NameMap.insert state.dictionary name value }

@[simp] theorem type_set (state : ObjectState) (accessor : VariableAccessor) (value : Value) :
    (state.set accessor value).type = state.type := by
  cases accessor <;> rfl

/-- **A write shows through its own accessor only.** -/
theorem get?_set (state : ObjectState) (accessor other : VariableAccessor) (value : Value) :
    (state.set accessor value).get? other =
      if accessor = other then some value else state.get? other := by
  cases accessor <;> cases other <;>
    simp [set, get?, Slots.read_write, NameMap.get?_insert, eq_comm]

end ObjectState

namespace Objects

/-- A new object, with an empty slot for each field its type has laid out. -/
def create (table : Objects) (type : TypeRef) (fieldCount : Nat) : ObjectRef × Objects :=
  (⟨table.objects.size, type⟩,
    { table with objects := table.objects.push { type, fields := Slots.empty fieldCount } })

def find? (table : Objects) (object : ObjectRef) : Option ObjectState :=
  (table.objects[object.id]?).filter fun state => state.type = object.type

def get? (table : Objects) (object : ObjectRef) (accessor : VariableAccessor) : Option Value :=
  (table.find? object).bind fun state => state.get? accessor

def set (table : Objects) (object : ObjectRef) (accessor : VariableAccessor) (value : Value) :
    Objects :=
  { table with
      objects := table.objects.modify object.id fun state =>
        if state.type = object.type then state.set accessor value else state }

end Objects

end InlineCache
