/-
# InlineCache.Proofs.Changes -- what can be done with the types of a world

Types are made and released, and their methods defined, removed and promoted
(`Change`); `Registry` keeps the types together with the switch points.

A change comes to one of four things (`Registry.Effect`): a new type, a type gone,
nothing, or a touch of one type's methods followed by an invalidation of its family.
What follows about changes goes by these four.
-/
import InlineCache.Proofs.Guard

namespace InlineCache

set_option autoImplicit false

/-- What can be done with the types of a world. -/
inductive Change (Code : Type) where
  | create (name : String) (parent? : Option TypeRef) (fieldCapacity : Nat)
  | define (target : TypeRef) (method : Method Code)
  | remove (target : TypeRef) (name : String)
  | promote (target : TypeRef) (name : String) (body : CompiledMethod Code)
  | invalidate (target : TypeRef)
  /-- nothing refers to the type any more -/
  | release (target : TypeRef)

/-- Everything about a type but its methods. -/
def TypeState.bare {Code : Type} (its : TypeState Code) : TypeState Code :=
  { its with methods := [] }

/-- The types of a world with its switch points. -/
structure Registry (Code : Type) where
  types : Types Code := {}
  points : SwitchPoints := {}

namespace Registry

variable {Code : Type}

def apply (state : Registry Code) : Change Code → Registry Code
  | .create name parent? fieldCapacity =>
      let (_, types, points) := state.types.create name parent? fieldCapacity state.points
      { types, points }
  | .define target method =>
      let (types, points) := state.types.define target method state.points
      { types, points }
  | .remove target name =>
      let (_, types, points) := state.types.remove target name state.points
      { types, points }
  | .promote target name body =>
      let (_, types, points) := state.types.promote target name body state.points
      { types, points }
  | .invalidate target =>
      let (types, points) := state.types.invalidateFamily target state.points
      { types, points }
  | .release target => { state with types := state.types.release target }

def run (state : Registry Code) (changes : List (Change Code)) : Registry Code :=
  changes.foldl apply state

/-- Does a change strike a type: is it made to the type or to an ancestor, and does it
change what a method table answers? -/
def strikes (state : Registry Code) (type : TypeRef) : Change Code → Bool
  | .create .. => false
  | .define target _ => state.types.isKindOf type target
  | .remove target name =>
      state.types.isKindOf type target && (state.types.remove target name state.points).1.isSome
  | .promote target name body =>
      state.types.isKindOf type target && (state.types.promote target name body state.points).1
  | .invalidate target => state.types.isKindOf type target
  | .release _ => false

/-- A touch of one type's methods: of its method table, or of the body promoted for one
of its mixed methods. -/
structure Touches (state : Registry Code) (change : Change Code) (target : TypeRef)
    (touched : Registry Code) : Prop where
  points : touched.points = state.points
  entries : ∀ type, (touched.types.get? type).map TypeState.bare =
    (state.types.get? type).map TypeState.bare
  methods : ∀ {type : TypeRef}, target.id ≠ type.id →
    touched.types.methods type = state.types.methods type
  owned : ∀ {type : TypeRef} {name : String} {method : Method Code},
    touched.types.ownMethod? type name = some method →
      state.types.ownMethod? type name = some method ∨
        (target.id = type.id ∧ change = .define target method)
  promoted : touched.types.promoted = state.types.promoted ∨
    ∃ name body method, change = .promote target name body ∧
      state.types.ownMethod? target name = some method ∧
        touched.types.promoted = (method.serial, body) :: state.types.promoted

inductive Effect (state : Registry Code) : Change Code → Prop where
  | create (name : String) (parent? : Option TypeRef) (fieldCapacity : Nat) :
      Effect state (.create name parent? fieldCapacity)
  | release (target : TypeRef) : Effect state (.release target)
  | nothing {change : Change Code} (same : state.apply change = state)
      (spared : ∀ type, state.strikes type change = false) : Effect state change
  | touched {change : Change Code} {target : TypeRef} {touched : Registry Code}
      (touches : Touches state change target touched)
      (same : state.apply change = touched.apply (.invalidate target))
      (struck : ∀ type, state.strikes type change = state.types.isKindOf type target) :
      Effect state change

namespace Touches

variable {state touched : Registry Code} {change : Change Code} {target : TypeRef}

theorem map_get? (touches : Touches state change target touched) {α : Type}
    {about : TypeState Code → α} (plain : ∀ its, about its.bare = about its) (type : TypeRef) :
    (touched.types.get? type).map about = (state.types.get? type).map about := by
  have same := congrArg (Option.map about) (touches.entries type)
  simpa only [Option.map_map, Function.comp_def, plain] using same

theorem skeleton (touches : Touches state change target touched) (type : TypeRef) :
    (touched.types.get? type).map TypeState.skeleton =
      (state.types.get? type).map TypeState.skeleton :=
  touches.map_get? (fun _ => rfl) type

theorem invalidator (touches : Touches state change target touched) (type : TypeRef) :
    (touched.types.get? type).map TypeState.invalidator =
      (state.types.get? type).map TypeState.invalidator :=
  touches.map_get? (fun _ => rfl) type

/-- A type is there after a touch exactly when it was before, and differs in its methods
at most. -/
theorem get?_forth (touches : Touches state change target touched) {type : TypeRef}
    {old : TypeState Code} (there : state.types.get? type = some old) :
    ∃ methods, touched.types.get? type = some { old with methods } := by
  have same := touches.entries type
  rw [there] at same
  obtain ⟨new, stands, equal⟩ := Option.map_eq_some_iff.1 same
  refine ⟨new.methods, stands.trans (congrArg some ?_)⟩
  exact congrArg (fun its : TypeState Code => { its with methods := new.methods }) equal

theorem get?_back (touches : Touches state change target touched) {type : TypeRef}
    {new : TypeState Code} (there : touched.types.get? type = some new) :
    ∃ old methods, state.types.get? type = some old ∧ new = { old with methods } := by
  have same := touches.entries type
  rw [there] at same
  obtain ⟨old, found, _⟩ := Option.map_eq_some_iff.1 same.symm
  obtain ⟨methods, stands⟩ := touches.get?_forth found
  exact ⟨old, methods, found, Option.some.inj (there.symm.trans stands)⟩

/-- Kinship is read off the lineage. -/
theorem isKindOf (touches : Touches state change target touched) (type other : TypeRef) :
    touched.types.isKindOf type other = state.types.isKindOf type other := by
  have read : ∀ table : Types Code, table.isKindOf type other =
      ((table.get? type).map fun its => its.isKindOf other).getD false := by
    intro table
    simp only [Types.isKindOf]
    cases table.get? type <;> rfl
  rw [read, read, touches.map_get? fun _ => rfl]

end Touches

variable (state : Registry Code)

theorem touches_modify (change : Change Code) (target : TypeRef)
    (edit : NameMap (Method Code) → NameMap (Method Code))
    (owned : ∀ {methods : NameMap (Method Code)} {name : String} {method : Method Code},
      NameMap.get? (edit methods) name = some method →
        NameMap.get? methods name = some method ∨ change = .define target method) :
    Touches state change target { state with
      types := state.types.modify target fun its => { its with methods := edit its.methods } } where
  points := rfl
  entries type := by
    simp only [Types.get?_modify]
    split
    · cases state.types.get? type <;> rfl
    · rfl
  methods {type} other := by simp only [Types.methods, Types.get?_modify, other, if_false]
  owned {type name method} found := by
    simp only [Types.ownMethod?, Types.methods, Types.get?_modify] at found ⊢
    split at found
    · rename_i new stands
      split at stands
      · rename_i same
        obtain ⟨old, there, rfl⟩ := Option.map_eq_some_iff.1 stands
        rw [there]
        exact (owned found).imp_right fun its => ⟨same, its⟩
      · rw [stands]
        exact .inl found
    · simp at found
  promoted := .inl rfl

/-- **What a change comes to.** -/
theorem effect (change : Change Code) : Effect state change := by
  cases change with
  | create name parent? fieldCapacity => exact .create name parent? fieldCapacity
  | release target => exact .release target
  | invalidate target =>
      exact .touched ⟨rfl, fun _ => rfl, fun _ => rfl, .inl, .inl rfl⟩ rfl fun _ => rfl
  | define target method =>
      refine .touched (state.touches_modify _ target
        (fun methods => NameMap.insert methods method.name method) fun {_ name found} new => ?_)
        rfl fun _ => rfl
      rw [NameMap.get?_insert] at new
      split at new
      · cases new
        exact .inr rfl
      · exact .inl new
  | remove target name =>
      cases own : state.types.ownMethod? target name with
      | none =>
          exact .nothing (by simp [apply, Types.remove, own])
            fun type => by simp [strikes, Types.remove, own]
      | some method =>
          refine .touched (state.touches_modify _ target
            (fun methods => NameMap.erase methods name) fun {_ other found} new => ?_)
            (by simp [apply, Types.remove, own]) fun type => by simp [strikes, Types.remove, own]
          rw [NameMap.get?_erase] at new
          split at new
          · simp at new
          · exact .inl new
  | promote target name body =>
      have nothing : state.types.promote target name body state.points =
          (false, state.types, state.points) → Effect state (.promote target name body) :=
        fun still => .nothing (by simp [apply, still]) fun type => by simp [strikes, still]
      cases own : state.types.ownMethod? target name with
      | none => exact nothing (by simp [Types.promote, own])
      | some method =>
          cases kind : method.implementation with
          | mixed interpreted =>
              let touched : Registry Code := { state with types := { state.types with
                promoted := (method.serial, body) :: state.types.promoted } }
              have touches : Touches state (.promote target name body) target touched :=
                ⟨rfl, fun _ => rfl, fun _ => rfl, .inl, .inr ⟨name, body, method, rfl, own, rfl⟩⟩
              exact .touched touches (by simp [apply, Types.promote, own, kind, touched])
                fun type => by simp [strikes, Types.promote, own, kind]
          | _ => exact nothing (by simp [Types.promote, own, kind])

end Registry

end InlineCache
