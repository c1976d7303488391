/-
# InlineCache.Proofs.Layout -- where variables are kept does not show

A type lays out the first names written as fields; once a name has its place it keeps
it (`TypeState.Settled`), whatever else is laid out.  Objects follow the layout of
their type (`Objects.Fits`): nothing is kept past the last field, and nothing by name
that could have had a field.

* `Fits.get?_laidOut`: so laying out a name changes no variable of any object;
* `Objects.get?_set_settled`: and a variable reads as it was last written.
-/
import InlineCache.Objects
import Mathlib.Data.List.Basic

namespace InlineCache

set_option autoImplicit false

variable {Code : Type}

namespace TypeState

variable {state : TypeState Code} {name other : String} {accessor : VariableAccessor}

/-- The name has its place: writing it lays out nothing any more. -/
def Settled (state : TypeState Code) (name : String) : Prop :=
  name ∈ state.fieldNames ∨ state.fieldCapacity ≤ state.fieldNames.length

theorem accessorForRead_eq_field_iff {index : Nat} :
    state.accessorForRead name = .field index ↔
      state.fieldNames.findIdx? (· == name) = some index := by
  simp only [accessorForRead]
  cases state.fieldNames.findIdx? (· == name) <;> simp

theorem accessorForRead_eq_dictionary_iff :
    state.accessorForRead name = .dictionary other ↔ name ∉ state.fieldNames ∧ name = other := by
  simp only [accessorForRead]
  cases found : state.fieldNames.findIdx? (· == name) with
  | none =>
      have := List.findIdx?_eq_none_iff.1 found
      simp only [VariableAccessor.dictionary.injEq, iff_and_self]
      rintro - member
      simpa using this name member
  | some index =>
      obtain ⟨small, here, -⟩ := List.findIdx?_eq_some_iff_getElem.1 found
      have : name ∈ state.fieldNames := by
        rw [← eq_of_beq here]
        exact List.getElem_mem small
      simp [this]

/-- A field is one of the layout's. -/
theorem lt_length_of_field {index : Nat} (laid : state.accessorForRead name = .field index) :
    index < state.fieldNames.length ∧ state.fieldNames[index]? = some name := by
  obtain ⟨small, here, -⟩ :=
    List.findIdx?_eq_some_iff_getElem.1 (accessorForRead_eq_field_iff.1 laid)
  exact ⟨small, by rw [List.getElem?_eq_getElem small, eq_of_beq here]⟩

theorem accessorForRead_inj (same : state.accessorForRead name = state.accessorForRead other) :
    name = other := by
  cases place : state.accessorForRead name with
  | field index =>
      have here := (lt_length_of_field place).2
      rw [(lt_length_of_field (same.symm.trans place)).2] at here
      exact (Option.some.inj here).symm
  | dictionary key =>
      rw [(accessorForRead_eq_dictionary_iff.1 place).2,
        (accessorForRead_eq_dictionary_iff.1 (same.symm.trans place)).2]

theorem accessorForWrite_of_settled (settled : state.Settled name) :
    state.accessorForWrite name = (state.accessorForRead name, state) := by
  cases place : state.accessorForRead name with
  | field index => exact accessorForWrite_of_field place
  | dictionary key =>
      obtain ⟨fresh, rfl⟩ := accessorForRead_eq_dictionary_iff.1 place
      have full : ¬ state.fieldNames.length < state.fieldCapacity :=
        Nat.not_lt.2 (settled.resolve_left fresh)
      simp [accessorForWrite, place, full]

theorem accessorForWrite_of_not_settled (new : ¬ state.Settled name) :
    state.accessorForWrite name =
      (.field state.fieldNames.length, { state with fieldNames := state.fieldNames ++ [name] }) := by
  rw [Settled, not_or, Nat.not_le] at new
  have place : state.accessorForRead name = .dictionary name :=
    accessorForRead_eq_dictionary_iff.2 ⟨new.1, rfl⟩
  simp [accessorForWrite, place, new.2]

theorem accessorForWrite_snd (state : TypeState Code) (name : String) :
    (state.accessorForWrite name).2 =
      { state with fieldNames := (state.accessorForWrite name).2.fieldNames } := by
  by_cases settled : state.Settled name
  · rw [accessorForWrite_of_settled settled]
  · rw [accessorForWrite_of_not_settled settled]

/-- Laying out a name settles it, and keeps what is settled. -/
theorem Settled.accessorForWrite (settled : name = other ∨ state.Settled name) :
    (state.accessorForWrite other).2.Settled name := by
  by_cases old : state.Settled other
  · rw [accessorForWrite_of_settled old]
    rcases settled with rfl | settled
    · exact old
    · exact settled
  · rw [accessorForWrite_of_not_settled old]
    rcases settled with rfl | member | full
    · exact .inl (by simp)
    · exact .inl (List.mem_append_left _ member)
    · exact .inr (by simpa using Nat.le_succ_of_le full)

/-- Where a name is found after another was laid out. -/
theorem accessorForRead_accessorForWrite (state : TypeState Code) (other name : String) :
    (state.accessorForWrite other).2.accessorForRead name =
      if name = other then (state.accessorForWrite other).1 else state.accessorForRead name := by
  by_cases old : state.Settled other
  · rw [accessorForWrite_of_settled old]
    split
    · rename_i same
      rw [same]
    · rfl
  · have fresh : other ∉ state.fieldNames := fun member => old (.inl member)
    rw [accessorForWrite_of_not_settled old]
    by_cases same : name = other
    · subst same
      have missing : state.fieldNames.findIdx? (· == name) = none :=
        List.findIdx?_eq_none_iff.2 fun key member =>
          beq_eq_false_iff_ne.2 fun equal => fresh (equal ▸ member)
      simp [accessorForRead, List.findIdx?_append, missing]
    · have different : (other == name) = false := by simpa using Ne.symm same
      simp only [accessorForRead, List.findIdx?_append, List.findIdx?_cons, different, same,
        if_false]
      cases state.fieldNames.findIdx? (· == name) <;> simp

theorem Settled.accessorForRead_eq (settled : state.Settled name) (other : String) :
    (state.accessorForWrite other).2.accessorForRead name = state.accessorForRead name := by
  rw [accessorForRead_accessorForWrite]
  split
  · rename_i same
    subst same
    rw [accessorForWrite_of_settled settled]
  · rfl

end TypeState

namespace Types

variable {table : Types Code} {type other : TypeRef} {name asked : String}

/-- The name has its place in objects of the type. -/
def Settled (table : Types Code) (type : TypeRef) (name : String) : Prop :=
  ∀ ⦃state : TypeState Code⦄, table.get? type = some state → state.Settled name

theorem modify_of_get? {state : TypeState Code} (there : table.get? type = some state) :
    table.modify type (fun _ => state) = table := by
  have same : table.types.modify type.id (fun _ => state) = table.types := by
    refine Array.ext_getElem? fun place => ?_
    rw [Array.getElem?_modify]
    split
    · rename_i here
      rw [← here, show table.types[type.id]? = some state from there]
      rfl
    · rfl
  rw [modify, same]

theorem accessorForWrite_of_settled (settled : table.Settled type name) :
    table.accessorForWrite type name = (table.accessorForRead type name, table) := by
  cases there : table.get? type with
  | none => simp [accessorForWrite, accessorForRead, there]
  | some state =>
      simp [accessorForWrite, accessorForRead, there,
        TypeState.accessorForWrite_of_settled (settled there), modify_of_get? there]

theorem accessorForRead_inj
    (same : table.accessorForRead type name = table.accessorForRead type asked) : name = asked := by
  cases there : table.get? type with
  | none => simpa [accessorForRead, there] using same
  | some state =>
      simp only [accessorForRead, there] at same
      exact TypeState.accessorForRead_inj same

theorem get?_accessorForWrite (table : Types Code) (type other : TypeRef) (name : String) :
    (table.accessorForWrite type name).2.get? other =
      if type.id = other.id then (table.get? other).map fun state => (state.accessorForWrite name).2
      else table.get? other := by
  cases there : table.get? type with
  | none =>
      simp only [accessorForWrite, there]
      split
      · rename_i same
        rw [show table.get? other = none by rw [← there]; simp only [get?, same]]
        rfl
      · rfl
  | some state =>
      simp only [accessorForWrite, there, get?_modify]
      split
      · rename_i same
        rw [show table.get? other = some state by rw [← there]; simp only [get?, same]]
        rfl
      · rfl

/-- A settled name keeps its place, whatever is laid out. -/
theorem Settled.laidOut (settled : table.Settled type name) (target : TypeRef) (new : String) :
    (table.accessorForWrite target new).2.Settled type name := by
  intro state found
  rw [get?_accessorForWrite] at found
  split at found
  · obtain ⟨old, there, rfl⟩ := Option.map_eq_some_iff.1 found
    exact .accessorForWrite (.inr (settled there))
  · exact settled found

theorem Settled.accessorForRead_eq (settled : table.Settled type name) (target : TypeRef)
    (new : String) :
    (table.accessorForWrite target new).2.accessorForRead type name =
      table.accessorForRead type name := by
  simp only [accessorForRead, get?_accessorForWrite]
  by_cases same : target.id = type.id
  · cases there : table.get? type with
    | none => simp [same]
    | some state => simpa [same] using (settled there).accessorForRead_eq new
  · simp [same]

theorem settled_accessorForWrite (table : Types Code) (type : TypeRef) (name : String) :
    (table.accessorForWrite type name).2.Settled type name := by
  intro state found
  rw [get?_accessorForWrite, if_pos rfl] at found
  obtain ⟨old, _, rfl⟩ := Option.map_eq_some_iff.1 found
  exact .accessorForWrite (.inl rfl)

/-- A name is written where it will be read. -/
theorem accessorForRead_accessorForWrite (table : Types Code) (type : TypeRef) (name : String) :
    (table.accessorForWrite type name).2.accessorForRead type name =
      (table.accessorForWrite type name).1 := by
  simp only [accessorForRead, get?_accessorForWrite]
  cases there : table.get? type with
  | none => simp [accessorForWrite, there]
  | some state => simp [accessorForWrite, there, TypeState.accessorForRead_accessorForWrite]

/-- **To write a name again lays out nothing.** -/
theorem accessorForWrite_again (table : Types Code) (type : TypeRef) (name : String) :
    (table.accessorForWrite type name).2.accessorForWrite type name =
      table.accessorForWrite type name := by
  rw [accessorForWrite_of_settled (table.settled_accessorForWrite type name),
    table.accessorForRead_accessorForWrite]

end Types

/-! ## What does not depend on the layout -/

/-- A type without its layout. -/
def TypeState.unlaid (state : TypeState Code) : TypeState Code := { state with fieldNames := [] }

namespace Types

/-- The types without their layouts. -/
def unlaid (table : Types Code) : Types Code :=
  { table with types := table.types.map TypeState.unlaid }

variable (table : Types Code) (type : TypeRef)

@[simp] theorem get?_unlaid : table.unlaid.get? type = (table.get? type).map TypeState.unlaid := by
  simp [unlaid, get?]

/-- Whatever is not about layouts is the same in tables that differ in layouts only. -/
theorem map_get?_of_unlaid {table after : Types Code} (same : after.unlaid = table.unlaid)
    {α : Type} {about : TypeState Code → α} (plain : ∀ its, about its.unlaid = about its)
    (type : TypeRef) : (after.get? type).map about = (table.get? type).map about := by
  have read : ∀ table : Types Code,
      (table.unlaid.get? type).map about = (table.get? type).map about := by
    intro table
    rw [get?_unlaid, Option.map_map]
    exact congrArg (Option.map · _) (funext plain)
  rw [← read, same, read]

@[simp] theorem size_unlaid : table.unlaid.types.size = table.types.size := Array.size_map

@[simp] theorem lineage_unlaid : table.unlaid.lineage type = table.lineage type := by
  simp only [lineage, get?_unlaid]
  cases table.get? type <;> rfl

@[simp] theorem methods_unlaid : table.unlaid.methods type = table.methods type := by
  simp only [methods, get?_unlaid]
  cases table.get? type <;> rfl

@[simp] theorem ownMethod?_unlaid (name : String) :
    table.unlaid.ownMethod? type name = table.ownMethod? type name := by
  simp only [ownMethod?, methods_unlaid]

@[simp] theorem methodTables_unlaid : table.unlaid.methodTables type = table.methodTables type := by
  simp only [methodTables, lineage_unlaid, methods_unlaid]

@[simp] theorem switchPoint_unlaid : table.unlaid.switchPoint type = table.switchPoint type := by
  simp only [switchPoint, get?_unlaid]
  cases table.get? type <;> rfl

@[simp] theorem isLive_unlaid : table.unlaid.isLive type = table.isLive type := by
  simp only [isLive, get?_unlaid]
  cases table.get? type <;> rfl

@[simp] theorem promoted?_unlaid (method : Method Code) :
    table.unlaid.promoted? method = table.promoted? method := rfl

@[simp] theorem unlaid_accessorForWrite (name : String) :
    (table.accessorForWrite type name).2.unlaid = table.unlaid := by
  cases there : table.get? type with
  | none => simp [accessorForWrite, there]
  | some state =>
      have same : (state.accessorForWrite name).2.unlaid = state.unlaid := by
        rw [state.accessorForWrite_snd name]
        rfl
      simp only [accessorForWrite, there, unlaid, modify, mk.injEq, and_true]
      refine Array.ext_getElem? fun place => ?_
      simp only [Array.getElem?_map, Array.getElem?_modify]
      split
      · rename_i here
        rw [← here, show table.types[type.id]? = some state from there]
        exact congrArg some same
      · rfl

end Types

/-- An object keeps its variables where the layout says: nothing past the last field, and
nothing by name that has a field or could have had one. -/
structure ObjectState.Fits (object : ObjectState) (state : TypeState Code) : Prop where
  fields : ∀ {index : Nat}, state.fieldNames.length ≤ index → object.fields.read index = none
  named : ∀ {name : String} {value : Value}, NameMap.get? object.dictionary name = some value →
    name ∉ state.fieldNames ∧ state.fieldCapacity ≤ state.fieldNames.length

namespace ObjectState.Fits

variable {object : ObjectState} {state : TypeState Code}

/-- Laying out a name moves no variable. -/
theorem get?_laidOut (fits : object.Fits state) (new name : String) :
    object.get? ((state.accessorForWrite new).2.accessorForRead name) =
      object.get? (state.accessorForRead name) := by
  by_cases old : state.Settled new
  · rw [TypeState.accessorForWrite_of_settled old]
  · rw [TypeState.accessorForRead_accessorForWrite]
    split
    · -- the new field is empty, and nothing was kept by the name
      rename_i same
      subst same
      have fresh : name ∉ state.fieldNames := fun member => old (.inl member)
      rw [TypeState.accessorForWrite_of_not_settled old,
        TypeState.accessorForRead_eq_dictionary_iff.2 ⟨fresh, rfl⟩]
      refine (fits.fields (Nat.le_refl _)).trans (Eq.symm ?_)
      refine Option.eq_none_iff_forall_ne_some.2 fun value kept => ?_
      exact old (.inr (fits.named kept).2)
    · rfl

theorem accessorForWrite (fits : object.Fits state) (new : String) :
    object.Fits (state.accessorForWrite new).2 := by
  by_cases old : state.Settled new
  · rwa [TypeState.accessorForWrite_of_settled old]
  · rw [TypeState.accessorForWrite_of_not_settled old]
    refine ⟨fun past => fits.fields ?_, fun kept => ?_⟩
    · rw [List.length_append] at past
      exact Nat.le_of_add_right_le past
    · exact absurd (Or.inr (fits.named kept).2) old

theorem set (fits : object.Fits state) {name : String} (settled : state.Settled name)
    (value : Value) : (object.set (state.accessorForRead name) value).Fits state := by
  cases place : state.accessorForRead name with
  | field index =>
      have small := (TypeState.lt_length_of_field place).1
      refine ⟨fun {other} past => ?_, fits.named⟩
      have different : other ≠ index := by omega
      simpa [ObjectState.set, Slots.read_write, different] using fits.fields past
  | dictionary key =>
      obtain ⟨fresh, rfl⟩ := TypeState.accessorForRead_eq_dictionary_iff.1 place
      refine ⟨fits.fields, fun {other _} kept => ?_⟩
      simp only [ObjectState.set, NameMap.get?_insert] at kept
      split at kept
      · rename_i same
        exact ⟨same ▸ fresh, settled.resolve_left fresh⟩
      · exact fits.named kept

end ObjectState.Fits

namespace Objects

/-- Every object fits its type. -/
def Fits (objects : Objects) (table : Types Code) : Prop :=
  ∀ ⦃place : Nat⦄ ⦃object : ObjectState⦄, objects.objects[place]? = some object →
    ∃ state, table.get? object.type = some state ∧ object.Fits state

variable {objects : Objects} {table : Types Code}

theorem find?_eq_some_iff {ref : ObjectRef} {object : ObjectState} :
    objects.find? ref = some object ↔
      objects.objects[ref.id]? = some object ∧ object.type = ref.type := by
  simp [find?, Option.filter_eq_some_iff]

theorem find?_set (objects : Objects) (ref other : ObjectRef) (accessor : VariableAccessor)
    (value : Value) :
    (objects.set ref accessor value).find? other =
      (objects.find? other).map fun object =>
        if other = ref then object.set accessor value else object := by
  obtain ⟨id, type⟩ := other
  obtain ⟨id', type'⟩ := ref
  simp only [find?, set, Array.getElem?_modify, ObjectRef.mk.injEq]
  cases objects.objects[id]? with
  | none => split <;> rfl
  | some object =>
      have kept : ∀ written : Prop, [Decidable written] →
          (if written then object.set accessor value else object).type = object.type := by
        intro written _
        split
        · exact object.type_set accessor value
        · rfl
      by_cases named : object.type = type
      · subst named
        by_cases here : id' = id
        · subst here
          by_cases its : object.type = type' <;> simp [Option.filter, its]
        · have elsewhere : id ≠ id' := Ne.symm here
          simp [Option.filter, here, elsewhere]
      · by_cases here : id' = id <;> simp [Option.filter, here, kept, named]

/-- **Laying out a name changes no variable of any object.** -/
theorem Fits.get?_laidOut (fits : objects.Fits table) (type : TypeRef) (new : String)
    (ref : ObjectRef) (name : String) :
    objects.get? ref ((table.accessorForWrite type new).2.accessorForRead ref.type name) =
      objects.get? ref (table.accessorForRead ref.type name) := by
  cases found : objects.find? ref with
  | none => simp [get?, found]
  | some object =>
      obtain ⟨there, its⟩ := find?_eq_some_iff.1 found
      obtain ⟨state, stands, fit⟩ := fits there
      rw [its] at stands
      simp only [get?, found, Types.accessorForRead, Types.get?_accessorForWrite, stands,
        Option.bind_some]
      by_cases same : type.id = ref.type.id
      · simpa [same] using fit.get?_laidOut new name
      · simp [same]

theorem Fits.accessorForWrite (fits : objects.Fits table) (type : TypeRef) (new : String) :
    objects.Fits (table.accessorForWrite type new).2 := by
  intro place object there
  obtain ⟨state, stands, fit⟩ := fits there
  rw [Types.get?_accessorForWrite, stands]
  split
  · exact ⟨_, rfl, fit.accessorForWrite new⟩
  · exact ⟨_, rfl, fit⟩

theorem Fits.set (fits : objects.Fits table) {ref : ObjectRef} {name : String}
    (settled : table.Settled ref.type name) (value : Value) :
    (objects.set ref (table.accessorForRead ref.type name) value).Fits table := by
  intro place object there
  simp only [Objects.set, Array.getElem?_modify] at there
  split at there
  · obtain ⟨old, found, rfl⟩ := Option.map_eq_some_iff.1 there
    obtain ⟨state, stands, fit⟩ := fits found
    split
    · rename_i its
      have place : table.accessorForRead ref.type name = state.accessorForRead name := by
        simp only [Types.accessorForRead, ← its, stands]
      refine ⟨state, ?_, place ▸ fit.set (settled (its ▸ stands)) value⟩
      rw [ObjectState.type_set]
      exact stands
    · exact ⟨state, stands, fit⟩
  · exact fits there

/-- **A variable reads as it was written last**, and no other changes. -/
theorem get?_set_settled (objects : Objects) (table : Types Code) (ref other : ObjectRef)
    (name asked : String) (value : Value) :
    (objects.set ref (table.accessorForRead ref.type name) value).get? other
        (table.accessorForRead other.type asked) =
      if other = ref ∧ asked = name then (objects.find? ref).map fun _ => value
      else objects.get? other (table.accessorForRead other.type asked) := by
  simp only [get?, find?_set]
  by_cases same : other = ref
  · subst same
    cases objects.find? other with
    | none => simp
    | some object =>
        simp only [Option.map_some, if_true, Option.bind_some, ObjectState.get?_set, true_and]
        by_cases equal : asked = name
        · subst equal
          simp
        · have apart : table.accessorForRead other.type name ≠
              table.accessorForRead other.type asked :=
            fun place => equal (Types.accessorForRead_inj place).symm
          simp [equal, apart]
  · cases objects.find? other <;> simp [same]

/-- A new object has nothing to fit yet. -/
theorem Fits.create (fits : objects.Fits table) {type : TypeRef} {state : TypeState Code}
    (there : table.get? type = some state) (fieldCount : Nat) :
    (objects.create type fieldCount).2.Fits table := by
  intro place object found
  simp only [Objects.create, Array.getElem?_push] at found
  split at found
  · cases found
    exact ⟨state, there, fun _ => Slots.read_empty _ _, fun kept => by simp at kept⟩
  · exact fits found

/-- Only layouts matter. -/
theorem Fits.of_layout (fits : objects.Fits table) {after : Types Code}
    (same : ∀ {type : TypeRef} {state : TypeState Code}, table.get? type = some state →
      ∃ state', after.get? type = some state' ∧ state'.fieldNames = state.fieldNames ∧
        state'.fieldCapacity = state.fieldCapacity) : objects.Fits after := by
  intro place object there
  obtain ⟨state, stands, fit⟩ := fits there
  obtain ⟨state', stood, names, capacity⟩ := same stands
  exact ⟨state', stood, ⟨fun past => fit.fields (names ▸ past),
    fun kept => by rw [names, capacity]; exact fit.named kept⟩⟩

end Objects

end InlineCache
