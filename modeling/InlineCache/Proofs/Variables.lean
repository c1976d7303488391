/-
# InlineCache.Proofs.Variables -- an object is a map from names to values

An object keeps some variables as fields and others by name, and the layout of its type
grows while objects and accessors taken earlier stay in use.  None of that shows.  Here a
world goes on by the events that have to do with variables (`Journal.Event`), and what is
written is noted: types are made with any number of fields, objects are made, accessors are
taken for writing and kept, and variables are written by name, by attribute writers, and
through kept accessors as bound thunks write them.

* `Journal.Sound`: what every event keeps.  Objects fit the layout of their types, a kept
  accessor is where its variable is read now, and every variable reads as it was written
  last;
* `Journal.reads_last_written`: so by every way to read a variable it is what was written
  last by any way to write it, and an event that writes one variable changes no other.
-/
import InlineCache.Proofs.Layout
import InlineCache.Send.Specialize

namespace InlineCache

set_option autoImplicit false

variable {Code Host : Type}

abbrev Variable := ObjectRef × String

/-- An accessor that was taken for writing a variable of a type's objects. -/
structure KeptAccessor where
  type : TypeRef
  name : String
  accessor : VariableAccessor

/-- A world, the accessors that were taken in it, and what was written, the latest first. -/
structure Journal (Code Host : Type) where
  world : World Code Host
  kept : Array KeptAccessor := #[]
  writes : List (Variable × Value) := []

/-- An object that is made is there with empty fields; no other reference finds it. -/
theorem Objects.find?_create (objects : Objects) (type : TypeRef) (fieldCount : Nat)
    (object : ObjectRef) :
    (objects.create type fieldCount).2.find? object =
      if object = (objects.create type fieldCount).1 then
        some { type, fields := Slots.empty fieldCount }
      else objects.find? object := by
  obtain ⟨id, its⟩ := object
  simp only [find?, create, Array.getElem?_push, ObjectRef.mk.injEq]
  by_cases new : id = objects.objects.size
  · subst new
    by_cases same : type = its
    · simp [same]
    · have different : its ≠ type := Ne.symm same
      simp [same, different]
  · simp [new]

namespace Journal

/-- What can happen to variables.  Types and objects are known by their references, kept
accessors by the order in which they were taken. -/
inductive Event where
  | createType (name : String) (parent? : Option TypeRef) (fieldCapacity : Nat)
  | createObject (type : TypeRef)
  /-- take an accessor for writing, and keep it -/
  | keep (type : TypeRef) (name : String)
  | set (object : ObjectRef) (name : String) (value : Value)
  /-- call an attribute reader by the generic convention -/
  | callReader (context : ContextRef) (name : String) (call : Call)
  /-- call an attribute writer by the generic convention -/
  | callWriter (context : ContextRef) (name : String) (call : Call)
  /-- write through a kept accessor, as a thunk guarded by its type does -/
  | writeThrough (number : Nat) (receiver value : Value)

def start (options : Options) (rule : LookupRule Code) (coverage : Option Coverage) (host : Host) :
    Journal Code Host :=
  { world := World.create options rule coverage host }

def isMade (state : Journal Code Host) (object : ObjectRef) : Bool :=
  (state.world.objects.find? object).isSome

/-- The kept accessor of a number that suits a receiver: an object of the type it was taken
for. -/
def suiting? (state : Journal Code Host) (number : Nat) (object : ObjectRef) :
    Option KeptAccessor :=
  state.kept[number]?.filter fun its => its.type.id = object.type.id

/-- The variable that an event writes, and the value.  Nothing is written in what is no
object. -/
def written? (state : Journal Code Host) : Event → Option (Variable × Value)
  | .set object name value => if state.isMade object then some ((object, name), value) else none
  | .callWriter _ name { receiver := .object object, args := [value], .. } =>
      if state.isMade object then some ((object, name), value) else none
  | .writeThrough number (.object object) value =>
      if state.isMade object then
        (state.suiting? number object).map fun its => ((object, its.name), value)
      else none
  | _ => none

def move (state : Journal Code Host) : Event → World Code Host
  | .createType name parent? fieldCapacity =>
      (state.world.createType name parent? fieldCapacity).2
  | .createObject type =>
      if (state.world.types.get? type).isSome then (state.world.createObject type).2
      else state.world
  | .keep type name =>
      if (state.world.types.get? type).isSome then (state.world.accessorForWrite type name).2
      else state.world
  | .set object name value => state.world.setVariable object name value
  | .callReader context name call => (World.callReader context name call state.world).2
  | .callWriter context name call => (World.callWriter context name call state.world).2
  | .writeThrough number receiver value =>
      match receiver with
      | .object object =>
          match state.suiting? number object with
          | some its => (state.world.writeThrough its.accessor receiver value).2
          | none => state.world
      | _ => state.world

/-- The accessors that are kept after an event. -/
def keeping (state : Journal Code Host) : Event → Array KeptAccessor
  | .keep type name =>
      if (state.world.types.get? type).isSome then
        state.kept.push { type, name, accessor := (state.world.accessorForWrite type name).1 }
      else state.kept
  | _ => state.kept

def step (state : Journal Code Host) (event : Event) : Journal Code Host where
  world := state.move event
  kept := state.keeping event
  writes := (state.written? event).toList ++ state.writes

def run (state : Journal Code Host) (events : List Event) : Journal Code Host :=
  events.foldl step state

/-- The value that was written last in a variable. -/
def last (state : Journal Code Host) (variable_ : Variable) : Option Value :=
  state.writes.lookup variable_

def read (world : World Code Host) (variable_ : Variable) : Option Value :=
  world.getVariable variable_.1 variable_.2

/-- A kept accessor is where its variable is read now, for good. -/
structure Current (types : Types Code) (its : KeptAccessor) : Prop where
  made : (types.get? its.type).isSome = true
  settled : types.Settled its.type its.name
  place : its.accessor = types.accessorForRead its.type its.name

/-- **What every event keeps.** -/
structure Sound (state : Journal Code Host) : Prop where
  fits : state.world.objects.Fits state.world.types
  current : ∀ {number : Nat} {its : KeptAccessor}, state.kept[number]? = some its →
    Current state.world.types its
  reads : ∀ variable_, read state.world variable_ = state.last variable_

/-! ## What may happen to a world -/

variable {world after : World Code Host} {state : Journal Code Host}

/-- A variable of an object that was not made has no value. -/
theorem read_of_unmade {object : ObjectRef} (unmade : world.objects.find? object = none)
    (name : String) : read world (object, name) = none := by
  simp only [read, World.getVariable, Objects.get?, unmade, Option.bind_none]

/-- The world may go on as long as variables keep their values, objects their layout and
accessors their places. -/
structure Keeps (before after : World Code Host) : Prop where
  fits : before.objects.Fits before.types → after.objects.Fits after.types
  current : ∀ {its : KeptAccessor}, Current before.types its → Current after.types its
  reads : before.objects.Fits before.types →
    ∀ variable_, read after variable_ = read before variable_

theorem keeps_of_same (types : after.types = world.types)
    (objects : after.objects = world.objects) : Keeps world after where
  fits fits := by
    rw [types, objects]
    exact fits
  current its := by
    rw [types]
    exact its
  reads _ variable_ := by
    simp only [read, World.getVariable, types, objects]

/-- An accessor stays current as long as its type keeps its layout. -/
theorem Current.of_kept {before after : Types Code} {its : KeptAccessor}
    (current : Current before its)
    (kept : ∀ {state : TypeState Code}, before.get? its.type = some state →
      ∃ state', after.get? its.type = some state' ∧ state'.fieldNames = state.fieldNames ∧
        state'.fieldCapacity = state.fieldCapacity) : Current after its := by
  obtain ⟨state, there⟩ := Option.isSome_iff_exists.1 current.made
  obtain ⟨state', stands, names, capacity⟩ := kept there
  refine ⟨by rw [stands]; rfl, fun found stood => ?_, ?_⟩
  · obtain rfl : state' = found := Option.some.inj (stands.symm.trans stood)
    rw [TypeState.Settled, names, capacity]
    exact current.settled there
  · rw [current.place]
    simp only [Types.accessorForRead, TypeState.accessorForRead, there, stands, names]

/-- A new type is nothing to the objects and accessors of others. -/
theorem keeps_createType (world : World Code Host) (name : String) (parent? : Option TypeRef)
    (fieldCapacity : Nat) : Keeps world (world.createType name parent? fieldCapacity).2 := by
  have stays : ∀ {type : TypeRef} {its : TypeState Code}, world.types.get? type = some its →
      ∃ its', (world.createType name parent? fieldCapacity).2.types.get? type = some its' ∧
        its'.fieldNames = its.fieldNames ∧ its'.fieldCapacity = its.fieldCapacity := by
    intro type its there
    obtain ⟨offspring, stands⟩ :=
      Types.get?_create_of_get? there name parent? fieldCapacity world.points
    exact ⟨_, stands, rfl, rfl⟩
  have place : ∀ {type : TypeRef} (asked : String), (world.types.get? type).isSome = true →
      (world.createType name parent? fieldCapacity).2.types.accessorForRead type asked =
        world.types.accessorForRead type asked := by
    intro type asked made
    obtain ⟨its, there⟩ := Option.isSome_iff_exists.1 made
    obtain ⟨its', stands, names, -⟩ := stays there
    simp only [Types.accessorForRead, there, stands, TypeState.accessorForRead, names]
  refine ⟨fun fits => fits.of_layout stays, fun current => current.of_kept stays, ?_⟩
  rintro fits ⟨object, asked⟩
  cases found : world.objects.find? object with
  | none => rw [read_of_unmade found, read_of_unmade (by exact found)]
  | some its =>
      obtain ⟨there, type⟩ := Objects.find?_eq_some_iff.1 found
      obtain ⟨_, stands, -⟩ := fits there
      have made : (world.types.get? object.type).isSome = true := by
        rw [← type, stands]
        rfl
      exact congrArg (world.objects.get? object) (place asked made)

/-- A new object has no variables, and is nothing to the others. -/
theorem keeps_createObject (world : World Code Host) {type : TypeRef}
    (made : (world.types.get? type).isSome = true) : Keeps world (world.createObject type).2 := by
  obtain ⟨its, there⟩ := Option.isSome_iff_exists.1 made
  refine ⟨fun fits => fits.create there _, id, ?_⟩
  rintro fits ⟨object, name⟩
  have found := world.objects.find?_create type (world.types.fieldCount type) object
  simp only [read, World.getVariable, World.createObject, Objects.get?, found]
  split
  · -- nothing refers to the new object before it is made
    rename_i new
    have unmade : world.objects.find? object = none := by
      subst new
      simp [Objects.find?, Objects.create]
    rw [unmade]
    cases world.types.accessorForRead object.type name with
    | field index => exact Slots.read_empty _ _
    | dictionary key => rfl
  · rfl

/-- To take an accessor lays a name out, which moves no variable. -/
theorem keeps_accessorForWrite (world : World Code Host) (type : TypeRef) (name : String) :
    Keeps world (world.accessorForWrite type name).2 where
  fits fits := fits.accessorForWrite type name
  current {its} current := by
    refine ⟨?_, current.settled.laidOut type name, ?_⟩
    · obtain ⟨old, there⟩ := Option.isSome_iff_exists.1 current.made
      have stands := world.types.get?_accessorForWrite type its.type name
      rw [there] at stands
      simp only [World.accessorForWrite, stands]
      split <;> rfl
    · exact current.place.trans (current.settled.accessorForRead_eq type name).symm
  reads fits variable_ := fits.get?_laidOut type name variable_.1 variable_.2

/-- An accessor that is taken now is current. -/
theorem current_accessorForWrite {types : Types Code} {type : TypeRef}
    (made : (types.get? type).isSome = true) (name : String) :
    Current (types.accessorForWrite type name).2
      ⟨type, name, (types.accessorForWrite type name).1⟩ := by
  refine ⟨?_, types.settled_accessorForWrite type name,
    (types.accessorForRead_accessorForWrite type name).symm⟩
  obtain ⟨old, found⟩ := Option.isSome_iff_exists.1 made
  have stands := types.get?_accessorForWrite type type name
  rw [found, if_pos rfl] at stands
  rw [stands]
  rfl

/-- A write through an accessor that is where the variable is read shows in that variable
only. -/
theorem read_writeObject (object : ObjectRef) (name : String) (value : Value)
    (variable_ : Variable) :
    read (world.writeObject object (world.types.accessorForRead object.type name) value) variable_ =
      if variable_ = (object, name) then (world.objects.find? object).map fun _ => value
      else read world variable_ := by
  obtain ⟨other, asked⟩ := variable_
  have shown := world.objects.get?_set_settled world.types object other name asked value
  simp only [read, World.getVariable, World.writeObject, Prod.mk.injEq]
  exact shown

namespace Sound

theorem keeps (sound : Sound state) (keeps : Keeps state.world after) :
    Sound { state with world := after } where
  fits := keeps.fits sound.fits
  current there := keeps.current (sound.current there)
  reads variable_ := (keeps.reads sound.fits variable_).trans (sound.reads variable_)

theorem keep (sound : Sound state) {type : TypeRef} (name : String)
    (made : (state.world.types.get? type).isSome = true) :
    Sound { state with
      world := (state.world.accessorForWrite type name).2
      kept := state.kept.push
        { type, name, accessor := (state.world.accessorForWrite type name).1 } } := by
  have later := sound.keeps (keeps_accessorForWrite state.world type name)
  refine ⟨later.fits, fun {number its} there => ?_, later.reads⟩
  simp only [Array.getElem?_push] at there
  split at there
  · obtain rfl := Option.some.inj there
    exact current_accessorForWrite made name
  · exact later.current there

/-- **A write of a settled variable** through the accessor where it is read. -/
theorem write (sound : Sound state) {object : ObjectRef} {name : String}
    (settled : state.world.types.Settled object.type name) (value : Value) :
    Sound { state with
      world := state.world.writeObject object
        (state.world.types.accessorForRead object.type name) value
      writes := (if state.isMade object then some ((object, name), value) else none).toList ++
        state.writes } where
  fits := sound.fits.set settled value
  current there := by
    obtain ⟨made, settled', place⟩ := sound.current there
    exact ⟨made, settled', place⟩
  reads variable_ := by
    refine (read_writeObject object name value variable_).trans ?_
    rw [sound.reads]
    by_cases made : state.isMade object = true
    · obtain ⟨its, found⟩ := Option.isSome_iff_exists.1 made
      simp only [last, found, made, if_true, Option.toList_some, List.singleton_append,
        Option.map_some, List.lookup_cons]
      by_cases same : variable_ = (object, name)
      · simp [same]
      · have different : (variable_ == (object, name)) = false := beq_false_of_ne same
        rw [if_neg same, different]
    · -- nothing was ever written in what is no object
      have unmade : state.world.objects.find? object = none := by
        simpa [isMade] using made
      have never := sound.reads (object, name)
      rw [read_of_unmade unmade] at never
      simp only [last, unmade, made, Option.map_none]
      split
      · rename_i same
        rw [same]
        exact never
      · rfl

theorem set (sound : Sound state) (object : ObjectRef) (name : String) (value : Value) :
    Sound { state with
      world := state.world.setVariable object name value
      writes := (if state.isMade object then some ((object, name), value) else none).toList ++
        state.writes } := by
  have later := sound.keeps (keeps_accessorForWrite state.world object.type name)
  have settled := state.world.types.settled_accessorForWrite object.type name
  have place := state.world.types.accessorForRead_accessorForWrite object.type name
  have written := later.write settled value
  simp only [World.accessorForWrite, place] at written
  exact written

end Sound

/-! ## Each event -/

/-- A kept accessor that suits an object is where its variable is read in that object. -/
theorem Sound.suiting (sound : Sound state) {number : Nat} {object : ObjectRef}
    {its : KeptAccessor} (suits : state.suiting? number object = some its) :
    state.world.types.Settled object.type its.name ∧
      its.accessor = state.world.types.accessorForRead object.type its.name := by
  obtain ⟨there, same⟩ := Option.filter_eq_some_iff.1 suits
  have entry : state.world.types.get? object.type = state.world.types.get? its.type := by
    simp only [Types.get?, of_decide_eq_true same]
  obtain ⟨-, settled, place⟩ := sound.current there
  refine ⟨fun old found => settled (entry ▸ found), place.trans ?_⟩
  simp only [Types.accessorForRead, entry]

/-- **Every event keeps it.** -/
theorem sound_step (sound : Sound state) (event : Event) : Sound (state.step event) := by
  cases event with
  | createType name parent? fieldCapacity =>
      exact sound.keeps (keeps_createType state.world name parent? fieldCapacity)
  | createObject type =>
      simp only [step, move, keeping, written?]
      split
      · rename_i made
        exact sound.keeps (keeps_createObject state.world made)
      · exact sound
  | keep type name =>
      simp only [step, move, keeping, written?]
      by_cases made : (state.world.types.get? type).isSome = true
      · rw [if_pos made, if_pos made]
        exact sound.keep name made
      · rw [if_neg made, if_neg made]
        exact sound
  | set object name value => exact sound.set object name value
  | callReader context name call =>
      have cleared : Sound { state with world := state.world.setKwargs context false } :=
        sound.keeps (keeps_of_same rfl rfl)
      obtain ⟨receiver, args, block⟩ := call
      cases args with
      | nil => exact cleared
      | cons arg rest => exact cleared
  | callWriter context name call =>
      have cleared : Sound { state with world := state.world.setKwargs context false } :=
        sound.keeps (keeps_of_same rfl rfl)
      obtain ⟨receiver, args, block⟩ := call
      cases receiver with
      | object object =>
          match args with
          | [] => exact cleared
          | [value] => exact cleared.set object name value
          | _ :: _ :: _ => exact cleared
      | _ =>
          match args with
          | [] => exact cleared
          | [value] => exact cleared
          | _ :: _ :: _ => exact cleared
  | writeThrough number receiver value =>
      cases receiver with
      | object object =>
          simp only [step, move, keeping, written?]
          cases suits : state.suiting? number object with
          | none =>
              simp only [Option.map_none, ite_self]
              exact sound
          | some its =>
              obtain ⟨settled, place⟩ := sound.suiting suits
              simp only [Option.map_some, World.writeThrough, place]
              exact sound.write settled value
      | _ => exact sound

theorem sound_run (sound : Sound state) (events : List Event) : Sound (state.run events) := by
  induction events generalizing state with
  | nil => exact sound
  | cons event rest ih => exact ih (sound_step sound event)

theorem sound_start (options : Options) (rule : LookupRule Code) (coverage : Option Coverage)
    (host : Host) : Sound (start options rule coverage host) := by
  have none_ : (World.create options rule coverage host).objects = {} :=
    World.create_induction (motive := fun world => world.objects = {}) rfl
      (fun _ _ _ _ empty => empty) (fun _ empty => empty)
  refine ⟨fun place object there => ?_, fun there => ?_, fun variable_ => ?_⟩
  · simp [start, none_] at there
  · simp [start] at there
  · refine read_of_unmade ?_ variable_.2
    simp [start, none_, Objects.find?]

/-! ## Every way to read, and every way to write -/

theorem Sound.get?_suiting (sound : Sound state) {number : Nat} {object : ObjectRef}
    {its : KeptAccessor} (suits : state.suiting? number object = some its) :
    state.world.objects.get? object its.accessor = state.last (object, its.name) := by
  rw [(sound.suiting suits).2]
  exact sound.reads (object, its.name)

/-- An event that writes a variable gives it the value, and no other variable another. -/
theorem Sound.read_step (sound : Sound state) (event : Event) (variable_ : Variable) :
    read (state.step event).world variable_ =
      match state.written? event with
      | some (written, value) =>
          if variable_ = written then some value else read state.world variable_
      | none => read state.world variable_ := by
  rw [(sound_step sound event).reads, sound.reads]
  simp only [last, step]
  cases state.written? event with
  | none => rfl
  | some entry =>
      obtain ⟨written, value⟩ := entry
      simp only [Option.toList_some, List.singleton_append, List.lookup_cons]
      by_cases same : variable_ = written
      · simp [same]
      · have different : (variable_ == written) = false := beq_false_of_ne same
        rw [if_neg same, different]

/-- **An object is a map from names to values.**  Whatever was done to a fresh world, every
variable of every object is, by name, what was written in it last by any of the ways to
write it, and unset if nothing was.  An attribute reader answers with that, or with nil if
it is unset, and so does every accessor taken earlier for the type of the object, and every
bound thunk that keeps one.  And whatever is written next, it is written in one variable and
changes no other. -/
theorem reads_last_written (options : Options) (rule : LookupRule Code)
    (coverage : Option Coverage) (host : Host) (events : List Event) :
    let state : Journal Code Host := (start options rule coverage host).run events
    (∀ object name,
      state.world.getVariable object name = state.last (object, name) ∧
        (∀ exec context method owner sent, method.implementation = .attrReader name →
          (World.callMethod exec context method owner sent { receiver := .object object }
            state.world).1 = .ok ((state.last (object, name)).getD .nil)) ∧
        ∀ number its, state.suiting? number object = some its → its.name = name →
          state.world.objects.get? object its.accessor = state.last (object, name) ∧
            ∀ exec context bound args, bound.invoker = .readVariable its.accessor →
              (World.invoke exec context bound { receiver := .object object, args }
                state.world).1 = .ok ((state.last (object, name)).getD .nil)) ∧
      ∀ event,
        (∀ written value, state.written? event = some (written, value) →
          (state.step event).world.getVariable written.1 written.2 = some value) ∧
        ∀ object name, (∀ value, state.written? event ≠ some ((object, name), value)) →
          (state.step event).world.getVariable object name =
            state.world.getVariable object name := by
  intro state
  have sound : Sound state := sound_run (sound_start options rule coverage host) events
  refine ⟨fun object name => ⟨sound.reads (object, name), ?_, ?_⟩, fun event => ⟨?_, ?_⟩⟩
  · intro exec context method owner sent reads
    have named : state.world.getVariable object name = state.last (object, name) :=
      sound.reads (object, name)
    simp only [World.callMethod, reads, World.callReader, World.readAttribute]
    rw [← named]
    rfl
  · rintro number its suits rfl
    have kept := sound.get?_suiting suits
    refine ⟨kept, fun exec context bound args reads => ?_⟩
    simp only [World.invoke, reads, World.readThrough]
    rw [← kept]
    rfl
  · intro written value writes
    refine (sound.read_step event written).trans ?_
    rw [writes]
    exact if_pos rfl
  · intro object name other
    refine (sound.read_step event (object, name)).trans ?_
    cases writes : state.written? event with
    | none => rfl
    | some entry =>
        obtain ⟨written, value⟩ := entry
        refine if_neg ?_
        rintro rfl
        exact other value writes

/-- A type with room for one field, an object made before anything is laid out, and two
accessors: "a" takes the field, "b" is kept by name.  What was written through accessors
and by an attribute writer is read by name, and what was written by name is read through an
accessor. -/
theorem reads_last_written_of_two :
    let point : TypeRef := ⟨12, "Point"⟩
    let object : ObjectRef := ⟨0, point⟩
    let state : Journal Unit Unit := (start {} .hierarchy none ()).run
      [.createType "Point" none 1, .createObject point, .keep point "a", .keep point "b",
        .set object "b" (.int 1), .writeThrough 0 (.object object) (.int 2),
        .callWriter ⟨0⟩ "b" { receiver := .object object, args := [.int 3] }]
    (state.world.getVariable object "a").bind Value.int? = some 2 ∧
      (state.world.getVariable object "b").bind Value.int? = some 3 ∧
        state.world.getVariable object "c" = none ∧
        (∃ its, state.suiting? 1 object = some its ∧ its.accessor = .dictionary "b" ∧
          (state.world.objects.get? object its.accessor).bind Value.int? = some 3) ∧
            ((state.step (.set object "a" .nil)).world.getVariable object "b").bind Value.int? =
              some 3 := by
  intro point object state
  have facts : (state.last (object, "a")).bind Value.int? = some 2 ∧
      (state.last (object, "b")).bind Value.int? = some 3 ∧
        (state.last (object, "c")).isNone = true ∧
          (state.suiting? 1 object).map KeptAccessor.name = some "b" ∧
            (state.suiting? 1 object).map KeptAccessor.accessor = some (.dictionary "b") ∧
              (state.written? (.set object "a" .nil)).map Prod.fst = some (object, "a") := by
    decide +kernel
  obtain ⟨two, three, unset, named, place, writes⟩ := facts
  obtain ⟨all, next⟩ := @reads_last_written Unit Unit {} .hierarchy none ()
    [.createType "Point" none 1, .createObject point, .keep point "a", .keep point "b",
      .set object "b" (.int 1), .writeThrough 0 (.object object) (.int 2),
      .callWriter ⟨0⟩ "b" { receiver := .object object, args := [.int 3] }]
  obtain ⟨its, suits, name⟩ := Option.map_eq_some_iff.1 named
  rw [suits] at place
  obtain ⟨-, -, through⟩ := all object "b"
  have kept := (through 1 its suits name).1
  refine ⟨?_, ?_, ?_, ⟨its, suits, Option.some.inj place, ?_⟩, ?_⟩
  · rw [(all object "a").1]
    exact two
  · rw [(all object "b").1]
    exact three
  · rw [(all object "c").1]
    exact Option.isNone_iff_eq_none.1 unset
  · rw [kept]
    exact three
  · have other : ∀ value, state.written? (.set object "a" .nil) ≠ some ((object, "b"), value) := by
      intro value equal
      rw [equal] at writes
      have names : "b" = "a" := congrArg Prod.snd (Option.some.inj writes)
      exact absurd names (by decide)
    rw [(next (.set object "a" .nil)).2 object "b" other, (all object "b").1]
    exact three

end Journal

end InlineCache
