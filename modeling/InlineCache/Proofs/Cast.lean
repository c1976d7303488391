/-
# InlineCache.Proofs.Cast -- the classes and the methods that the scenarios share

Scenarios run one after another in one world, so a scenario finds the classes that earlier
ones opened and the methods that they defined.  What it can find is little: a class has the
parent that every scenario gives it, and every method in its table is one of a handful
(`Role`).  Types like that are a *cast*, in which it does not matter who went before.

* `Cast.define`, `Cast.create`: to play a role, and to open a class, keep it;
* `Cast.search?_own`, `Cast.search?_under`: so a class answers with the role that it plays
  itself, or else as its parent does.
-/
import InlineCache.Demo.Scenario
import InlineCache.Proofs.Inheritance
import InlineCache.Proofs.Layout

namespace InlineCache

set_option autoImplicit false

namespace Types

variable {Code : Type} {table after : Types Code} {type : TypeRef}

theorem isLive_of_skeleton
    (same : (after.get? type).map TypeState.skeleton = (table.get? type).map TypeState.skeleton) :
    after.isLive type = table.isLive type := by
  have read : ∀ table : Types Code, table.isLive type =
      (((table.get? type).map TypeState.skeleton).map fun state => state.2.2.2).getD false := by
    intro table
    simp only [isLive]
    cases table.get? type <;> rfl
  rw [read, read, same]

theorem skeleton_of_unlaid (same : after.unlaid = table.unlaid) (type : TypeRef) :
    (after.get? type).map TypeState.skeleton = (table.get? type).map TypeState.skeleton :=
  map_get?_of_unlaid same (fun _ => rfl) type

theorem ownMethod?_of_unlaid (same : after.unlaid = table.unlaid) (type : TypeRef)
    (name : String) : after.ownMethod? type name = table.ownMethod? type name := by
  rw [← ownMethod?_unlaid, same, ownMethod?_unlaid]

/-! ## A type that was made -/

/-- What a new type leaves as it was: every type that was there, its offspring apart. -/
structure Spares (table after : Types Code) (type : TypeRef) : Prop where
  has : after.Has type
  live : after.isLive type = table.isLive type
  parent : after.parent? type = table.parent? type
  own : ∀ name, after.ownMethod? type name = table.ownMethod? type name

theorem spares_create (has : table.Has type) (name : String) (parent? : Option TypeRef)
    (fieldCapacity : Nat) (points : SwitchPoints) :
    Spares table (table.create name parent? fieldCapacity points).2.1 type := by
  obtain ⟨state, there, rfl⟩ := Option.map_eq_some_iff.1 has
  obtain ⟨offspring, stands⟩ := get?_create_of_get? there name parent? fieldCapacity points
  refine ⟨?_, ?_, ?_, fun asked => ?_⟩
  · rw [Has, stands, Option.map_some]
  · simp only [isLive, stands, there]
  · rw [Types.parent?, Types.parent?, stands, there]
    rfl
  · simp only [ownMethod?, methods, stands, there]

theorem get?_create_self {parent : TypeRef} (live : table.isLive parent = true) (name : String)
    (fieldCapacity : Nat) (points : SwitchPoints) :
    (table.create name (some parent) fieldCapacity points).2.1.get? ⟨table.types.size, name⟩ =
      some
        { ref := ⟨table.types.size, name⟩
          lineage := ⟨table.types.size, name⟩ :: table.lineage parent
          invalidator := (Invalidator.create .methodTable true points).1
          fieldCapacity } := by
  rw [get?_create, if_pos rfl, Option.filter_some, if_pos live]
  rfl

/-- A type made under one that lives has that one for its parent, and no methods. -/
theorem create_under (forest : table.Forest) {parent : TypeRef} (has : table.Has parent)
    (live : table.isLive parent = true) (name : String) (fieldCapacity : Nat)
    (points : SwitchPoints) :
    let made := table.create name (some parent) fieldCapacity points
    made.2.1.Has made.1 ∧ made.2.1.isLive made.1 = true ∧
      made.2.1.parent? made.1 = some parent ∧ ∀ asked, made.2.1.ownMethod? made.1 asked = none := by
  intro made
  have stands : made.2.1.get? made.1 = _ := get?_create_self live name fieldCapacity points
  refine ⟨?_, ?_, ?_, fun asked => ?_⟩
  · rw [Has, stands]
    rfl
  · simp only [isLive, stands]
  · obtain ⟨state, there, rfl⟩ := Option.map_eq_some_iff.1 has
    obtain ⟨above, own⟩ := forest.lineage_eq there
    simp only [parent?, stands, Option.bind_some, TypeState.parent?, lineage, there, own,
      List.tail_cons, List.head?_cons]
  · simp only [ownMethod?, methods, stands, NameMap.get?_nil]

end Types

theorem NameMap.mem_of_get? {α : Type} {map : NameMap α} {name : String} {entry : α}
    (there : NameMap.get? map name = some entry) : (name, entry) ∈ map := by
  induction map with
  | nil => cases there
  | cons head rest ih =>
      obtain ⟨other, old⟩ := head
      rw [NameMap.get?] at there
      split at there
      · rename_i same
        cases there
        exact same ▸ List.mem_cons_self
      · exact List.mem_cons_of_mem _ (ih there)

namespace World

variable {Code Host : Type}

/-- The built-in types do not depend on the settings. -/
theorem createBuiltins_options (options : Options) (refs : List TypeRef) :
    ∀ world : World Code Host, ({ world with options }).createBuiltins refs =
      { world.createBuiltins refs with options } := by
  induction refs with
  | nil => exact fun _ => rfl
  | cons builtin rest ih =>
      intro world
      let made := world.createType builtin.name (if builtin = TypeRef.basicObject then none
        else if builtin = TypeRef.object then some TypeRef.basicObject
        else some TypeRef.object) defaultFieldCapacity
      exact ih { made.2 with classes := NameMap.insert world.classes builtin.name made.1 }

theorem forest_createBuiltins (refs : List TypeRef) : ∀ {world : World Code Host},
    world.types.Forest → (world.createBuiltins refs).types.Forest := by
  induction refs with
  | nil => exact fun forest => forest
  | cons builtin rest ih => exact fun forest => ih (forest.create builtin.name _ _ _)

end World

namespace Demo

open World

/-! ## Who can be there -/

/-- The methods of the scenarios, and the one that every world starts with. -/
inductive Role where
  | raise
  | plus
  | corners
  | read
  | write
  | haunt
deriving DecidableEq, Repr

namespace Role

def owner : Role → String
  | raise => "BasicObject"
  | plus => "Integer"
  | corners => "Shape"
  | read | write => "Point"
  | haunt => "Ghost"

def name : Role → String
  | raise | haunt => World.methodMissing
  | plus => "+"
  | corners => "corners"
  | read => "x"
  | write => "x="

def isPrivate : Role → Bool
  | raise => true
  | _ => false

def implementation : Role → Implementation DemoCode
  | raise => World.defaultMissing
  | plus => .native (.create (.code .add) [.value])
  | corners => cornersMethod
  | read => .attrReader "@x"
  | write => .attrWriter "@x"
  | haunt => .native (.create (.code .echo) [.values])

structure PlayedBy (role : Role) (method : Method DemoCode) : Prop where
  visibility : method.isPrivate = role.isPrivate
  body : method.implementation = role.implementation

theorem eq_of_name_eq {role other : Role} (owner : role.owner = other.owner)
    (name : role.name = other.name) : role = other := by
  revert owner name
  cases role <;> cases other <;> decide

theorem PlayedBy.isUndefined {role : Role} {method : Method DemoCode}
    (played : role.PlayedBy method) : method.isUndefined = false := by
  rw [Method.isUndefined, played.body]
  cases role <;> rfl

end Role

def parentName? (name : String) : Option String :=
  if name = TypeRef.basicObject.name then none
  else if name = TypeRef.object.name then some TypeRef.basicObject.name
  else if name = "Triangle" ∨ name = "Square" then some "Shape"
  else some TypeRef.object.name

/-- **A cast**: classes with the parents and the methods that the scenarios give them. -/
structure Cast (classes : NameMap TypeRef) (types : Types DemoCode) : Prop where
  basicObject : NameMap.get? classes TypeRef.basicObject.name = some TypeRef.basicObject
  object : NameMap.get? classes TypeRef.object.name = some TypeRef.object
  integer : NameMap.get? classes TypeRef.integer.name = some TypeRef.integer
  named : ∀ {name : String} {type : TypeRef}, NameMap.get? classes name = some type →
    type.name = name
  has : ∀ {name : String} {type : TypeRef}, NameMap.get? classes name = some type →
    types.Has type
  live : ∀ {name : String} {type : TypeRef}, NameMap.get? classes name = some type →
    types.isLive type = true
  root : types.parent? TypeRef.basicObject = none
  under : ∀ {name upper : String} {type : TypeRef}, NameMap.get? classes name = some type →
    parentName? name = some upper →
      ∃ parent, NameMap.get? classes upper = some parent ∧ types.parent? type = some parent
  played : ∀ {name asked : String} {type : TypeRef} {method : Method DemoCode},
    NameMap.get? classes name = some type → types.ownMethod? type asked = some method →
      ∃ role : Role, role.owner = name ∧ role.name = asked ∧ role.PlayedBy method
  raises : (types.ownMethod? TypeRef.basicObject World.methodMissing).isSome = true

namespace Cast

variable {classes : NameMap TypeRef} {types after : Types DemoCode} {name asked : String}
  {type : TypeRef} {role : Role}

/-! ## What keeps a cast -/

theorem of_skeleton (cast : Cast classes types)
    (skeleton : ∀ type, (after.get? type).map TypeState.skeleton =
      (types.get? type).map TypeState.skeleton)
    (own : ∀ {name asked : String} {type : TypeRef} {method : Method DemoCode},
      NameMap.get? classes name = some type → after.ownMethod? type asked = some method →
        types.ownMethod? type asked = some method ∨
          ∃ role : Role, role.owner = name ∧ role.name = asked ∧ role.PlayedBy method)
    (raises : (after.ownMethod? TypeRef.basicObject World.methodMissing).isSome = true) :
    Cast classes after where
  basicObject := cast.basicObject
  object := cast.object
  integer := cast.integer
  named := cast.named
  has class_ := Types.has_of_skeleton (skeleton _) (cast.has class_)
  live class_ := (Types.isLive_of_skeleton (skeleton _)).trans (cast.live class_)
  root := (Types.parent?_of_skeleton (skeleton _)).trans cast.root
  under class_ upper := (cast.under class_ upper).imp fun _ stands =>
    stands.imp_right (Types.parent?_of_skeleton (skeleton _)).trans
  played class_ stands := (own class_ stands).elim (cast.played class_) id
  raises := raises

theorem of_unlaid (cast : Cast classes types) (same : after.unlaid = types.unlaid) :
    Cast classes after :=
  cast.of_skeleton (Types.skeleton_of_unlaid same)
    (fun _ stands => .inl (by rwa [Types.ownMethod?_of_unlaid same] at stands))
    (by rw [Types.ownMethod?_of_unlaid same]; exact cast.raises)

/-- **A class plays a role.** -/
theorem define (cast : Cast classes types) (forest : types.Forest)
    (class_ : NameMap.get? classes role.owner = some type) {method : Method DemoCode}
    (named : method.name = role.name) (plays : role.PlayedBy method) (points : SwitchPoints) :
    Cast classes (types.define type method points).1 := by
  have restocks := Types.restocks_define forest (cast.has class_) method points
  refine cast.of_skeleton restocks.skeleton (fun {name asked other _} class' stands => ?_) ?_
  · rw [restocks.own] at stands
    split at stands
    · rename_i here
      obtain ⟨same, rfl⟩ := here
      cases stands
      have its := (cast.has class').eq_of_id_eq (cast.has class_) same
      exact .inr ⟨role, by rw [← cast.named class_, its, cast.named class'], named.symm, plays⟩
    · exact .inl stands
  · rw [restocks.own]
    split
    · rfl
    · exact cast.raises

/-- **A class is opened** under the parent that it is to have. -/
theorem create (cast : Cast classes types) (forest : types.Forest)
    (new : NameMap.get? classes name = none) {upper : String} (below : parentName? name = some upper)
    {parent : TypeRef} (stands : NameMap.get? classes upper = some parent) (fieldCapacity : Nat)
    (points : SwitchPoints) :
    Cast (NameMap.insert classes name (types.create name (some parent) fieldCapacity points).1)
      (types.create name (some parent) fieldCapacity points).2.1 := by
  obtain ⟨hasNew, liveNew, parentNew, bareNew⟩ :=
    Types.create_under forest (cast.has stands) (cast.live stands) name fieldCapacity points
  have spares : ∀ {other type}, NameMap.get? classes other = some type →
      Types.Spares types (types.create name (some parent) fieldCapacity points).2.1 type :=
    fun class_ => Types.spares_create (cast.has class_) name (some parent) fieldCapacity points
  have kept : ∀ {other type}, NameMap.get? classes other = some type →
      NameMap.get? (NameMap.insert classes name
        (types.create name (some parent) fieldCapacity points).1) other = some type := by
    intro other type class_
    rw [NameMap.get?_insert, if_neg fun same => by rw [same, class_] at new; cases new]
    exact class_
  have cases_ : ∀ {other type}, NameMap.get? (NameMap.insert classes name
      (types.create name (some parent) fieldCapacity points).1) other = some type →
        (other = name ∧ type = (types.create name (some parent) fieldCapacity points).1) ∨
          NameMap.get? classes other = some type := by
    intro other type class_
    rw [NameMap.get?_insert] at class_
    split at class_
    · rename_i same
      exact .inl ⟨same.symm, (Option.some.inj class_).symm⟩
    · exact .inr class_
  refine ⟨kept cast.basicObject, kept cast.object, kept cast.integer, fun class_ => ?_,
    fun class_ => ?_, fun class_ => ?_, ?_, fun class_ upper => ?_, fun class_ own => ?_, ?_⟩
  · rcases cases_ class_ with ⟨rfl, rfl⟩ | old
    · rfl
    · exact cast.named old
  · rcases cases_ class_ with ⟨rfl, rfl⟩ | old
    · exact hasNew
    · exact (spares old).has
  · rcases cases_ class_ with ⟨rfl, rfl⟩ | old
    · exact liveNew
    · rw [(spares old).live]
      exact cast.live old
  · rw [(spares cast.basicObject).parent]
    exact cast.root
  · rcases cases_ class_ with ⟨rfl, rfl⟩ | old
    · obtain rfl := Option.some.inj (below.symm.trans upper)
      exact ⟨parent, kept stands, parentNew⟩
    · obtain ⟨parent', stands', made⟩ := cast.under old upper
      exact ⟨parent', kept stands', by rw [(spares old).parent]; exact made⟩
  · rcases cases_ class_ with ⟨rfl, rfl⟩ | old
    · rw [bareNew] at own
      cases own
    · rw [(spares old).own] at own
      exact cast.played old own
  · rw [(spares cast.basicObject).own]
    exact cast.raises

/-! ## What a cast answers -/

/-- **A class answers with the role that it plays.** -/
theorem search?_own (cast : Cast classes types) (forest : types.Forest) (role : Role)
    (class_ : NameMap.get? classes role.owner = some type)
    (plays : (types.ownMethod? type role.name).isSome = true) :
    ∃ method, types.search? type role.name = some (method, type) ∧ role.PlayedBy method := by
  obtain ⟨method, own⟩ := Option.isSome_iff_exists.1 plays
  obtain ⟨other, owner, name, played⟩ := cast.played class_ own
  obtain rfl := Role.eq_of_name_eq owner name
  exact ⟨method, by rw [forest.search?_eq (cast.has class_), own]; rfl, played⟩

/-- A class without a role for a name has no method of it. -/
theorem ownMethod?_of_bare (cast : Cast classes types)
    (class_ : NameMap.get? classes name = some type)
    (bare : ∀ role : Role, role.owner = name → role.name ≠ asked) :
    types.ownMethod? type asked = none := by
  refine Option.eq_none_iff_forall_ne_some.2 fun method stands => ?_
  obtain ⟨role, owner, named, _⟩ := cast.played class_ stands
  exact bare role owner named

/-- **A class without a role for a name answers as its parent does.** -/
theorem search?_under (cast : Cast classes types) (forest : types.Forest)
    (class_ : NameMap.get? classes name = some type) {upper : String}
    (below : parentName? name = some upper) {parent : TypeRef}
    (stands : NameMap.get? classes upper = some parent)
    (bare : ∀ role : Role, role.owner = name → role.name ≠ asked) :
    types.search? type asked = types.search? parent asked := by
  obtain ⟨its, same, made⟩ := cast.under class_ below
  obtain rfl := Option.some.inj (stands.symm.trans same)
  rw [forest.search?_eq (cast.has class_), cast.ownMethod?_of_bare class_ bare, made,
    Option.map_none, Option.none_or, Option.bind_some]

/-- What nobody plays is not found at the root. -/
theorem search?_basicObject (cast : Cast classes types) (forest : types.Forest)
    (bare : ∀ role : Role, role.owner = TypeRef.basicObject.name → role.name ≠ asked) :
    types.search? TypeRef.basicObject asked = none := by
  rw [forest.search?_eq (cast.has cast.basicObject), cast.ownMethod?_of_bare cast.basicObject bare,
    cast.root]
  rfl

end Cast

/-! ## The cast of a fresh world -/

/-- The built-in classes, before any method is defined. -/
def emptyStage : DemoWorld := (blank {} .hierarchy none ()).createBuiltins TypeRef.builtins

theorem forest_emptyStage : emptyStage.types.Forest :=
  forest_createBuiltins _ (by rw [types_blank]; exact .empty)

/-- A cast is complete once every object raises what it does not understand. -/
theorem cast_emptyStage {method : Method DemoCode} (named : method.name = methodMissing)
    (played : Role.raise.PlayedBy method) (points : SwitchPoints) :
    Cast emptyStage.classes (emptyStage.types.define TypeRef.basicObject method points).1 := by
  obtain ⟨basicObject, object, integer, has, root, bare, entries⟩ :
      NameMap.get? emptyStage.classes TypeRef.basicObject.name = some TypeRef.basicObject ∧
        NameMap.get? emptyStage.classes TypeRef.object.name = some TypeRef.object ∧
        NameMap.get? emptyStage.classes TypeRef.integer.name = some TypeRef.integer ∧
        emptyStage.types.Has TypeRef.basicObject ∧
        emptyStage.types.parent? TypeRef.basicObject = none ∧
        (∀ its ∈ emptyStage.types.types.toList, its.methods.isEmpty = true) ∧
        ∀ entry ∈ emptyStage.classes, entry.2.name = entry.1 ∧ emptyStage.types.Has entry.2 ∧
          emptyStage.types.isLive entry.2 = true ∧
            (parentName? entry.1).all (fun upper =>
              (NameMap.get? emptyStage.classes upper).isSome &&
                emptyStage.types.parent? entry.2 = NameMap.get? emptyStage.classes upper) = true := by
    decide +kernel
  have restocks := Types.restocks_define forest_emptyStage has method points
  have silent : ∀ type name, emptyStage.types.ownMethod? type name = none := by
    intro type name
    simp only [Types.ownMethod?, Types.methods]
    split
    · rename_i its there
      rw [List.isEmpty_iff.1 (bare its (Array.mem_toList_iff.2 (Array.mem_of_getElem? there)))]
      rfl
    · rfl
  have class_ := fun {name type}
    (class_ : NameMap.get? emptyStage.classes name = some type) => entries _ (NameMap.mem_of_get? class_)
  refine ⟨basicObject, object, integer, fun there => (class_ there).1,
    fun there => Types.has_of_skeleton (restocks.skeleton _) (class_ there).2.1,
    fun there => (Types.isLive_of_skeleton (restocks.skeleton _)).trans (class_ there).2.2.1,
    (Types.parent?_of_skeleton (restocks.skeleton _)).trans root, ?_, ?_, ?_⟩
  · intro name upper type there below
    have under := (class_ there).2.2.2
    rw [below, Option.all_some, Bool.and_eq_true, decide_eq_true_eq] at under
    obtain ⟨parent, stands⟩ := Option.isSome_iff_exists.1 under.1
    exact ⟨parent, stands, (Types.parent?_of_skeleton (restocks.skeleton _)).trans
      (under.2.trans stands)⟩
  · intro name asked type its there own
    rw [restocks.own, silent] at own
    split at own
    · rename_i here
      cases own
      obtain ⟨same, rfl⟩ := here
      obtain rfl : TypeRef.basicObject = type := (class_ there).2.1.eq_of_id_eq has same
      exact ⟨.raise, (class_ there).1, named.symm, played⟩
    · cases own
  · rw [restocks.own, if_pos ⟨rfl, named⟩]
    rfl

theorem cast_create (options : Options) :
    Cast (create options .hierarchy none () : DemoWorld).classes
      (create options .hierarchy none () : DemoWorld).types := by
  have built : (blank options .hierarchy none () : DemoWorld).createBuiltins TypeRef.builtins =
      { emptyStage with options } :=
    createBuiltins_options options TypeRef.builtins (blank {} .hierarchy none ())
  have complete : ∀ {world : DemoWorld}, (∀ {method : Method DemoCode},
      method.name = methodMissing → Role.raise.PlayedBy method → ∀ points : SwitchPoints,
        Cast world.classes (world.types.define TypeRef.basicObject method points).1) →
      let made := ({ world with options } : DemoWorld).createMethod methodMissing true defaultMissing
      Cast (made.2.define TypeRef.basicObject made.1).classes
        (made.2.define TypeRef.basicObject made.1).types :=
    fun holds => holds rfl ⟨rfl, rfl⟩ _
  unfold create
  rw [built]
  exact complete cast_emptyStage

end Demo

end InlineCache
