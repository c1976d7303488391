/-
# InlineCache.Proofs.Inheritance -- who feels the definition of a method

A type answers a name with its own entry, and without one as its parent does
(`Types.Forest.search?_eq`); an entry may be a tombstone, which answers too and is then not
found.  So a definition is felt by the types that have nothing of their own between them and
it, itself included (`Types.Inherits`), and by these for its own name only.

* `Types.Forest.downward`: induction from the root of a line of descent down;
* `Types.Restocks.search?_of_inherits`, `Types.Restocks.search?_eq`: one entry changed, seen
  from below;
* `Types.definition_felt_by_heirs`: what changes for whom, and that a removal undoes it.
-/
import InlineCache.Proofs.Invalidation
import InlineCache.Types.Lookup

namespace InlineCache

set_option autoImplicit false

variable {Code : Type}

namespace MethodTables

theorem search?_nil (name : String) : search? name ([] : MethodTables Code) = none := rfl

theorem search?_cons (name : String) (table : TypeRef × NameMap (Method Code))
    (above : MethodTables Code) :
    search? name (table :: above) =
      ((NameMap.get? table.2 name).map fun method => (method, table.1)).or
        (search? name above) := by
  cases own : NameMap.get? table.2 name <;> simp [search?, own]

end MethodTables

namespace Types

/-- A type of the table, by its own reference. -/
def Has (table : Types Code) (type : TypeRef) : Prop :=
  (table.get? type).map TypeState.ref = some type

instance (table : Types Code) (type : TypeRef) : Decidable (table.Has type) :=
  inferInstanceAs (Decidable (_ = _))

/-- The parent that a type was made under. -/
def parent? (table : Types Code) (type : TypeRef) : Option TypeRef :=
  (table.get? type).bind TypeState.parent?

/-- A type takes a name from another: from itself, or, with no entry for the name, as its
parent does. -/
inductive Inherits (table : Types Code) (name : String) (source : TypeRef) : TypeRef → Prop where
  | own : Inherits table name source source
  | above {type parent : TypeRef} (made : table.parent? type = some parent)
      (bare : table.ownMethod? type name = none) (inherits : Inherits table name source parent) :
      Inherits table name source type

/-- What a lookup through all ancestors finds: the method and the type that defines it. -/
def finds? (table : Types Code) (type : TypeRef) (name : String) :
    Option (Method Code × TypeRef) :=
  (table.lookup .hierarchy type name).found?.map fun entry => (entry.method, entry.owner)

theorem finds?_eq (table : Types Code) (type : TypeRef) (name : String) :
    table.finds? type name =
      (table.search? type name).filter fun found => !found.1.isUndefined := by
  rw [finds?, found?_lookup, Option.map_map]
  simp only [resolve?, LookupRule.hierarchy, LookupRule.visible, if_true, search?]
  exact Option.map_id'

/-! ## Up a line of descent -/

namespace Forest

variable {table after : Types Code} {type parent source : TypeRef} {name : String}

/-- A parent is there, and was there first. -/
theorem has_parent (forest : table.Forest) (has : table.Has type)
    (made : table.parent? type = some parent) : table.Has parent ∧ parent.id < type.id := by
  obtain ⟨state, there, rfl⟩ := Option.map_eq_some_iff.1 has
  rw [parent?, there, Option.bind_some, TypeState.parent?] at made
  rcases forest.descent there with root | ⟨upper, stands, under⟩
  · simp [root] at made
  · obtain ⟨_, own⟩ := forest.lineage_eq stands
    obtain rfl : upper.ref = parent := by simpa [under.lineage, own] using made
    exact ⟨Option.map_eq_some_iff.2 ⟨upper, stands, rfl⟩, under.older⟩

/-- **From the root of a line of descent down**: what holds of a type as soon as it holds of
its parent holds of every type. -/
theorem downward (forest : table.Forest) {motive : TypeRef → Prop}
    (step : ∀ type, table.Has type →
      (∀ parent, table.parent? type = some parent → motive parent) → motive type)
    (has : table.Has type) : motive type := by
  generalize rank : type.id = place
  induction place using Nat.strongRecOn generalizing type with
  | ind place ih =>
      refine step type has fun parent made => ?_
      obtain ⟨stands, older⟩ := forest.has_parent has made
      exact ih parent.id (rank ▸ older) stands rfl

/-- **A type answers with its own entry, or else as its parent does.** -/
theorem search?_eq (forest : table.Forest) (has : table.Has type) (name : String) :
    table.search? type name =
      ((table.ownMethod? type name).map fun method => (method, type)).or
        ((table.parent? type).bind fun parent => table.search? parent name) := by
  obtain ⟨state, there, rfl⟩ := Option.map_eq_some_iff.1 has
  rcases forest.descent there with root | ⟨upper, stands, under⟩
  · have made : state.parent? = none := by simp [TypeState.parent?, root]
    simp only [search?, methodTables, lineage, parent?, there, made, root, List.map_cons,
      List.map_nil, MethodTables.search?_cons, MethodTables.search?_nil, ownMethod?,
      Option.bind_some, Option.bind_none]
  · obtain ⟨_, own⟩ := forest.lineage_eq stands
    have made : state.parent? = some upper.ref := by
      simp [TypeState.parent?, under.lineage, own]
    simp only [search?, methodTables, lineage, parent?, there, made, under.lineage, stands,
      List.map_cons, MethodTables.search?_cons, ownMethod?, Option.bind_some]

/-- What is inherited comes from a type no younger. -/
theorem le_of_inherits (forest : table.Forest) (has : table.Has type)
    (inherits : table.Inherits name source type) : source.id ≤ type.id := by
  induction inherits with
  | own => exact Nat.le_refl _
  | above made _ _ ih =>
      obtain ⟨stands, older⟩ := forest.has_parent has made
      exact Nat.le_of_lt (Nat.lt_of_le_of_lt (ih stands) older)

end Forest

/-! ## One entry more or less -/

section

variable {table after last : Types Code} {type target : TypeRef} {name : String}
  {held? : Option (Method Code)}

theorem has_of_skeleton
    (same : (after.get? type).map TypeState.skeleton = (table.get? type).map TypeState.skeleton)
    (has : table.Has type) : after.Has type := by
  obtain ⟨state, there, rfl⟩ := Option.map_eq_some_iff.1 has
  rw [there] at same
  obtain ⟨new, stands, equal⟩ := Option.map_eq_some_iff.1 same
  exact Option.map_eq_some_iff.2 ⟨new, stands, (TypeState.skeleton_eq_iff.1 equal).1⟩

theorem parent?_of_skeleton
    (same : (after.get? type).map TypeState.skeleton = (table.get? type).map TypeState.skeleton) :
    after.parent? type = table.parent? type := by
  have read : ∀ table : Types Code, table.parent? type =
      ((table.get? type).map TypeState.skeleton).bind fun state => state.2.1.tail.head? := by
    intro table
    rw [parent?, Option.bind_map]
    rfl
  rw [read, read, same]

theorem Has.eq_of_id_eq (has : table.Has type) (has' : table.Has target)
    (same : target.id = type.id) : target = type := by
  obtain ⟨state, there, rfl⟩ := Option.map_eq_some_iff.1 has
  obtain ⟨state', there', rfl⟩ := Option.map_eq_some_iff.1 has'
  rw [table.get?_of_id_eq same, there] at there'
  rw [Option.some.inj there']

/-- The same types, with the entry of one of them under one name changed to this. -/
structure Restocks (target : TypeRef) (name : String) (held? : Option (Method Code))
    (before after : Types Code) : Prop where
  skeleton : ∀ type, (after.get? type).map TypeState.skeleton =
    (before.get? type).map TypeState.skeleton
  own : ∀ type asked, after.ownMethod? type asked =
    if target.id = type.id ∧ name = asked then held? else before.ownMethod? type asked

theorem Restocks.trans {next? : Option (Method Code)}
    (restocks : Restocks target name held? table after)
    (again : Restocks target name next? after last) :
    Restocks target name next? table last where
  skeleton type := (again.skeleton type).trans (restocks.skeleton type)
  own type asked := by
    rw [again.own, restocks.own]
    split <;> rfl

/-- To edit the methods of a type and flip its family restocks it. -/
theorem restocks_edit (forest : table.Forest) (target : TypeRef)
    (edit : NameMap (Method Code) → NameMap (Method Code))
    (edited : ∀ asked, NameMap.get? (edit (table.methods target)) asked =
      if name = asked then held? else table.ownMethod? target asked)
    (has : table.Has target) (points : SwitchPoints) :
    Restocks target name held? table
      ((table.modify target fun state => { state with methods := edit state.methods })
        |>.invalidateFamily target points).1 := by
  let touched := table.modify target fun state => { state with methods := edit state.methods }
  obtain ⟨state, there, _⟩ := Option.map_eq_some_iff.1 has
  have skeleton : ∀ type, (touched.get? type).map TypeState.skeleton =
      (table.get? type).map TypeState.skeleton := by
    intro type
    simp only [touched, get?_modify]
    split
    · cases table.get? type <;> rfl
    · rfl
  have flips := flips_family (forest.of_skeleton skeleton) points target
  refine ⟨fun type => (flips.skeleton type).trans (skeleton type), fun type asked => ?_⟩
  rw [ownMethod?, flips.methods]
  by_cases here : target.id = type.id
  · have there' := (table.get?_of_id_eq here).symm.trans there
    have own : touched.methods type = edit (table.methods target) := by
      simp only [methods, touched, get?_modify, if_pos here, there, there', Option.map_some]
    rw [own, edited]
    simp only [here, true_and, ownMethod?, methods, there, there']
  · have own : touched.methods type = table.methods type := by
      simp only [methods, touched, get?_modify, if_neg here]
    rw [own, if_neg fun both => here both.1]
    rfl

theorem restocks_define (forest : table.Forest) (has : table.Has target) (method : Method Code)
    (points : SwitchPoints) :
    Restocks target method.name (some method) table (table.define target method points).1 :=
  restocks_edit forest target (fun methods => NameMap.insert methods method.name method)
    (fun _ => NameMap.get?_insert _ _ _ _) has points

theorem restocks_remove (forest : table.Forest) (has : table.Has target) (name : String)
    (points : SwitchPoints) :
    Restocks target name none table (table.remove target name points).2.1 := by
  cases own : table.ownMethod? target name with
  | none =>
      simp only [remove, own]
      refine ⟨fun _ => rfl, fun type asked => ?_⟩
      split
      · rename_i here
        obtain ⟨same, rfl⟩ := here
        rw [← own, ownMethod?, ownMethod?, methods, methods, table.get?_of_id_eq same]
      · rfl
  | some method =>
      simp only [remove, own]
      exact restocks_edit forest target (fun methods => NameMap.erase methods name)
        (fun _ => NameMap.get?_erase _ _ _) has points

namespace Restocks

/-- **Felt.**  Whoever inherits from the type that was given a method is answered with it. -/
theorem search?_of_inherits {method : Method Code} (forest : table.Forest)
    (restocks : Restocks target name (some method) table after) (has : table.Has type)
    (inherits : table.Inherits name target type) :
    after.search? type name = some (method, target) := by
  have grown := forest.of_skeleton restocks.skeleton
  induction inherits with
  | own =>
      rw [grown.search?_eq (has_of_skeleton (restocks.skeleton _) has), restocks.own,
        if_pos ⟨rfl, rfl⟩, Option.map_some, Option.some_or]
  | above made bare inherits ih =>
      obtain ⟨stands, older⟩ := forest.has_parent has made
      have younger := forest.le_of_inherits stands inherits
      rw [grown.search?_eq (has_of_skeleton (restocks.skeleton _) has), restocks.own,
        if_neg fun here => by omega, bare, parent?_of_skeleton (restocks.skeleton _), made]
      exact ih stands

/-- **Not felt.**  A change of one entry shows to no type that does not inherit it, nor under
another name; and to none if the entry is what it was. -/
theorem search?_eq (forest : table.Forest) (restocks : Restocks target name held? table after)
    (known : table.Has target) {asked : String} (has : table.Has type)
    (kept : asked = name → table.Inherits name target type →
      held? = table.ownMethod? target name) :
    after.search? type asked = table.search? type asked := by
  have grown := forest.of_skeleton restocks.skeleton
  refine forest.downward (motive := fun type =>
    (asked = name → table.Inherits name target type → held? = table.ownMethod? target name) →
      after.search? type asked = table.search? type asked) ?_ has kept
  intro type has ih kept
  have own : after.ownMethod? type asked = table.ownMethod? type asked := by
    rw [restocks.own]
    split
    · rename_i here
      obtain ⟨same, rfl⟩ := here
      obtain rfl := has.eq_of_id_eq known same
      exact kept rfl .own
    · rfl
  rw [grown.search?_eq (has_of_skeleton (restocks.skeleton _) has), forest.search?_eq has, own]
  cases bare : table.ownMethod? type asked with
  | some method => rfl
  | none =>
      rw [parent?_of_skeleton (restocks.skeleton _), Option.map_none, Option.none_or,
        Option.none_or]
      cases made : table.parent? type with
      | none => rfl
      | some parent =>
          refine ih parent made fun same inherits => kept same (.above made ?_ inherits)
          rw [← same, bare]

end Restocks

end

/-- **A definition is felt where it must be.**  In a forest of types, as every run of changes
leaves it (`Registry.sound_run`), with tombstones and methods of a name at any height, a type
that is given a method changes what a lookup finds for those that inherit the name from it
and for no others, and under no other name.  These find the method at that type, or nothing
if it is a tombstone.  And if the type had no entry of the name before, to remove the method
again gives every lookup what it found before. -/
theorem definition_felt_by_heirs {table : Types Code} (forest : table.Forest) {target : TypeRef}
    (known : table.Has target) (method : Method Code) (points : SwitchPoints) :
    let after := table.define target method points
    (∀ type name, table.Has type →
        ¬ (name = method.name ∧ table.Inherits method.name target type) →
          after.1.finds? type name = table.finds? type name) ∧
      (∀ type, table.Has type → table.Inherits method.name target type →
        after.1.finds? type method.name =
          if method.isUndefined then none else some (method, target)) ∧
        (table.ownMethod? target method.name = none →
          ∀ type name, table.Has type →
            (after.1.remove target method.name after.2).2.1.finds? type name =
              table.finds? type name) := by
  intro after
  have defined : Restocks target method.name (some method) table after.1 :=
    restocks_define forest known method points
  refine ⟨fun type name has spared => ?_, fun type has inherits => ?_, fun bare type name has => ?_⟩
  · rw [finds?_eq, finds?_eq, defined.search?_eq forest known has
      fun same inherits => absurd ⟨same, inherits⟩ spared]
  · rw [finds?_eq, defined.search?_of_inherits forest has inherits]
    cases undefined : method.isUndefined <;> simp [undefined]
  · have removed := restocks_remove (forest.of_skeleton defined.skeleton)
      (has_of_skeleton (defined.skeleton _) known) method.name after.2
    rw [finds?_eq, finds?_eq, (defined.trans removed).search?_eq forest known has
      fun _ _ => bare.symm]

/-- A method of an animal is felt by a puppy, and not by a fish that undefined its name. -/
theorem definition_felt_by_heirs_of_puppy :
    let speak : Method Unit := { serial := 1, name := "speak", implementation := .attrReader "say" }
    let mute : Method Unit := { serial := 2, name := "speak", implementation := .undefined }
    let before : Registry Unit := Registry.run {}
      [.create "Animal" none 4, .create "Dog" (some ⟨0, "Animal"⟩) 4,
        .create "Puppy" (some ⟨1, "Dog"⟩) 4, .create "Fish" (some ⟨0, "Animal"⟩) 4,
        .define ⟨3, "Fish"⟩ mute]
    let after := before.types.define ⟨0, "Animal"⟩ speak before.points
    after.1.finds? ⟨2, "Puppy"⟩ speak.name = some (speak, ⟨0, "Animal"⟩) ∧
      after.1.finds? ⟨3, "Fish"⟩ speak.name = before.types.finds? ⟨3, "Fish"⟩ speak.name ∧
        (after.1.remove ⟨0, "Animal"⟩ speak.name after.2).2.1.finds? ⟨2, "Puppy"⟩ speak.name =
          before.types.finds? ⟨2, "Puppy"⟩ speak.name := by
  intro speak mute before
  have forest : before.types.Forest := (Registry.sound_run (Registry.sound_empty {}) _).forest
  obtain ⟨spared, felt, undone⟩ :=
    definition_felt_by_heirs forest (show before.types.Has ⟨0, "Animal"⟩ by decide +kernel) speak
      before.points
  have bare : ∀ type ∈ [(⟨0, "Animal"⟩ : TypeRef), ⟨1, "Dog"⟩, ⟨2, "Puppy"⟩],
      before.types.ownMethod? type speak.name = none := by
    simp only [← Option.isNone_iff_eq_none]
    decide +kernel
  have puppy : before.types.parent? ⟨2, "Puppy"⟩ = some ⟨1, "Dog"⟩ := by decide +kernel
  have dog : before.types.parent? ⟨1, "Dog"⟩ = some ⟨0, "Animal"⟩ := by decide +kernel
  have inherits : before.types.Inherits speak.name ⟨0, "Animal"⟩ ⟨2, "Puppy"⟩ :=
    .above puppy (bare _ (by simp)) (.above dog (bare _ (by simp)) .own)
  have apart : ¬ before.types.Inherits speak.name ⟨0, "Animal"⟩ ⟨3, "Fish"⟩ := by
    intro inherits
    have tombstone : (before.types.ownMethod? ⟨3, "Fish"⟩ speak.name).isSome = true := by
      decide +kernel
    cases inherits with
    | above _ bare _ => simp [bare] at tombstone
  have first := felt ⟨2, "Puppy"⟩ (by decide +kernel) inherits
  have second := spared ⟨3, "Fish"⟩ speak.name (by decide +kernel) fun both => apart both.2
  have third := undone (bare _ (by simp)) ⟨2, "Puppy"⟩ speak.name (by decide +kernel)
  rw [if_neg (by decide)] at first
  exact ⟨first, second, third⟩

end Types

end InlineCache
