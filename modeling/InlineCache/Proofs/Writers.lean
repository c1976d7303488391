/-
# InlineCache.Proofs.Writers -- writing an attribute through its place

A writer is run by the generic convention, which finds the place of the variable in the
receiver's type at each call, or by a bound thunk, which keeps the place that was found
when it was built.  A name that has a place keeps it (`current_evolves`), so both write to
the same place, however long the thunk was kept.

They refuse a receiver that is no object, but not in the same words: the thunk has nothing
but the place left, and a field says nothing about its name.

* `writers_agree_iff`: both leave the same world, and come to the same exactly if the
  receiver is an object, or the place is one by name;
* `writers_differ`: a small integer is refused in two ways.
-/
import InlineCache.Proofs.Coherence
import InlineCache.Proofs.Variables

namespace InlineCache

set_option autoImplicit false

variable {Code Host : Type}

/-! ## A place is kept for good -/

namespace World

open Journal

variable {proper : CompiledMethod Code → Prop} {exec : Exec Code Host}
  {world after : World Code Host} {its : KeptAccessor}

/-- **Every step keeps a current accessor current.** -/
theorem current_step (sound : world.Sound proper) (step : Step proper world after)
    (current : Current world.types its) : Current after.types its := by
  cases step with
  | @change change _ _ =>
      refine current.of_kept fun there => ?_
      obtain ⟨state', stands, names, capacity, _⟩ :=
        (Registry.carries_apply sound.tracked change).kept there
      exact ⟨state', stands, names, capacity⟩
  | object _ | site => exact current
  | write object name value => exact (keeps_accessorForWrite world object.type name).current current
  | layout type name => exact (keeps_accessorForWrite world type name).current current
  | @link ref site type _ _ =>
      obtain ⟨_, laid, _, result, lays, _⟩ := world.link_spec ref site type
      rw [result]
      show Current laid.types its
      cases lays with
      | nothing log => exact current
      | name target name log => exact (keeps_accessorForWrite world target name).current current
  | elsewhere _ _ types => exact types ▸ current

theorem current_evolves (sound : world.Sound proper) (evolves : Evolves proper world after)
    (current : Current world.types its) : Current after.types its := by
  induction evolves with
  | refl => exact current
  | tail earlier step ih => exact current_step (sound.evolves earlier) step ih

/-! ## What is said to a receiver that is no object -/

/-- Different names are refused in different words. -/
theorem cannotSet_inj {first second : String} {receiver : Value} :
    cannotSet first receiver = cannotSet second receiver ↔ first = second := by
  simp only [cannotSet, Fault.typeMismatch.injEq, String.append_left_inj, String.append_right_inj]

/-- A place by name is called what its variable is called, and a field is not. -/
theorem accessorName_eq_iff (types : Types Code) (type : TypeRef) (name : String) :
    accessorName (types.accessorForRead type name) = name ↔
      types.accessorForRead type name = .dictionary name ∨ name = "instance variable" := by
  cases place : types.accessorForRead type name with
  | field index => simp [accessorName, eq_comm]
  | dictionary key =>
      have same : key = name := by
        cases there : types.get? type with
        | none =>
            simp only [Types.accessorForRead, there, VariableAccessor.dictionary.injEq] at place
            exact place.symm
        | some state =>
            simp only [Types.accessorForRead, there] at place
            exact (TypeState.accessorForRead_eq_dictionary_iff.1 place).2.symm
      simp [accessorName, same]

/-- What is no object is refused by its place. -/
theorem writeThrough_of_plain {receiver : Value} (plain : ∀ target, receiver ≠ .object target)
    (world : World Code Host) (accessor : VariableAccessor) (value : Value) :
    world.writeThrough accessor receiver value =
      (.error (cannotSet (accessorName accessor) receiver), world) := by
  unfold writeThrough
  split
  · exact absurd rfl (plain _)
  · rfl

/-- What is no object is refused by the name of the variable. -/
theorem writeAttribute_of_plain {receiver : Value} (plain : ∀ target, receiver ≠ .object target)
    (world : World Code Host) (name : String) (value : Value) :
    world.writeAttribute name receiver value = (.error (cannotSet name receiver), world) := by
  unfold writeAttribute
  split
  · exact absurd rfl (plain _)
  · rfl

/-! ## The two ways to write -/

/-- An object is written to alike. -/
theorem writeThrough_of_object {target : ObjectRef} {name : String}
    (settled : world.types.Settled target.type name) (value : Value) :
    world.writeThrough (world.types.accessorForRead target.type name) (.object target) value =
      world.writeAttribute name (.object target) value := by
  simp only [writeThrough, writeAttribute, setVariable_of_settled settled]

section Writer

variable {entry : CacheEntry Code} {variable_ name : String} {options : Options}
  {shape : CallShape} {bound : BoundThunk Code}

/-- A thunk that was built for a writer keeps the place of the variable. -/
theorem specialize_writer {type : TypeRef}
    (writer : entry.method.implementation = .attrWriter variable_)
    (made : (world.types.get? type).isSome = true)
    (built : (world.specialize options name shape type entry).1 = some bound) :
    ∃ accessor, bound = ⟨name, entry, .writeVariable accessor⟩ ∧
      Current (world.specialize options name shape type entry).2.types
        ⟨type, variable_, accessor⟩ := by
  simp only [World.specialize, Types.specialize, writer] at built ⊢
  split at built
  · rename_i binds
    rw [if_pos binds]
    exact ⟨_, (Option.some.inj built).symm, current_accessorForWrite made variable_⟩
  · cases built

/-- **The two ways to write an attribute** leave the same world, whatever the receiver and
the layout are and however long ago the thunk was built.  They come to the same exactly if
the receiver is an object, or its type keeps the variable by name, or the variable is called
what every field is called. -/
theorem writers_agree_iff (lawful : Lawful proper exec) (reachable : Reachable proper exec world)
    (writer : entry.method.implementation = .attrWriter variable_) {call : Call} {value : Value}
    (args : call.args = [value])
    (made : (world.types.get? call.receiver.typeOf).isSome = true)
    (built : (world.specialize options name shape call.receiver.typeOf entry).1 = some bound)
    {later : World Code Host}
    (evolves : Evolves proper (world.specialize options name shape call.receiver.typeOf entry).2
      later) (context : ContextRef) :
    let through := invoke exec context bound call later
    let called := callMethod exec context entry.method entry.owner name call later
    through.2 = called.2 ∧
      (through.1 = called.1 ↔
        (∃ target, call.receiver = .object target) ∨
          later.types.accessorForRead call.receiver.typeOf variable_ = .dictionary variable_ ∨
          variable_ = "instance variable") := by
  intro through called
  have sound : (world.specialize options name shape call.receiver.typeOf entry).2.Sound proper :=
    (sound_of_reachable lawful reachable).laysOut (.specialize world options name shape _ entry)
  obtain ⟨accessor, rfl, current⟩ := specialize_writer writer made built
  have current := current_evolves sound evolves current
  have place : accessor = later.types.accessorForRead call.receiver.typeOf variable_ :=
    current.place
  have write : through =
      (later.setKwargs context false).writeThrough accessor call.receiver value := by
    simp only [through, invoke, args, List.headD_cons]
  have writes : called =
      (later.setKwargs context false).writeAttribute variable_ call.receiver value := by
    simp only [called, callMethod, writer, callWriter, args]
  rw [write, writes, place]
  by_cases object : ∃ target, call.receiver = .object target
  · obtain ⟨target, receiver⟩ := object
    have settled : (later.setKwargs context false).types.Settled target.type variable_ := by
      have its := current.settled
      rwa [receiver] at its
    rw [receiver]
    have same := writeThrough_of_object settled value
    exact ⟨congrArg Prod.snd same, fun _ => .inl ⟨target, rfl⟩, fun _ => congrArg Prod.fst same⟩
  · have plain : ∀ target, call.receiver ≠ .object target := fun target its => object ⟨target, its⟩
    rw [writeThrough_of_plain plain, writeAttribute_of_plain plain]
    refine ⟨rfl, ?_⟩
    rw [Except.error.injEq, cannotSet_inj, accessorName_eq_iff]
    exact ⟨.inr, fun named => named.resolve_left object⟩

end Writer

/-! ## One writer -/

def silent : Exec Unit Unit := fun _ _ world => (.ok .nil, world)

/-- What a send to objects of a type finds, in a world where they have one more writer. -/
def writing (type : TypeRef) (name variable_ : String) : CacheEntry Unit × World Unit Unit :=
  let fresh : World Unit Unit := create {} .hierarchy none ()
  let made := fresh.createMethod name false (.attrWriter variable_)
  let world := made.2.change (.define type made.1)
  (⟨made.1, type, world.types.switchPoint type⟩, world)

theorem lawful_silent : Lawful (fun _ => True) silent := fun _ _ _ _ => .refl

theorem reachable_writing (type : TypeRef) (name variable_ : String) :
    Reachable (fun _ => True) silent (writing type name variable_).2 :=
  .define lawful_silent (.fresh {} .hierarchy none ()) type name false (.attrWriter variable_)
    fun _ _ => trivial

/-- A variable of an object is written through a thunk that was built before another one
was laid out. -/
theorem writers_agree_iff_of_object :
    let entry := (writing TypeRef.object "v=" "@v").1
    let made := (writing TypeRef.object "v=" "@v").2.createObject TypeRef.object
    let call : Call := { receiver := .object made.1, args := [.int 7] }
    let built := made.2.specialize {} "v=" { argCount := 1 } TypeRef.object entry
    let later := (built.2.accessorForWrite TypeRef.object "@w").2
    let called := callMethod silent ⟨0⟩ entry.method entry.owner "v=" call later
    (called.2.getVariable made.1 "@v").isSome = true ∧
      ∃ bound, built.1 = some bound ∧ invoke silent ⟨0⟩ bound call later = called := by
  intro entry made call built later called
  have facts : (called.2.getVariable made.1 "@v").isSome = true ∧ built.1.isSome = true ∧
      (made.2.types.get? TypeRef.object).isSome = true ∧
      (writing TypeRef.object "v=" "@v").2.types.isLive TypeRef.object = true := by
    decide +kernel
  obtain ⟨written, builds, there, live⟩ := facts
  obtain ⟨bound, builds⟩ := Option.isSome_iff_exists.1 builds
  have reached : Reachable (fun _ => True) silent made.2 :=
    (reachable_writing TypeRef.object "v=" "@v").step (.object _ live)
  have evolves : Evolves (fun _ => True) built.2 later :=
    .single (.layout built.2 TypeRef.object "@w")
  have writer : entry.method.implementation = .attrWriter "@v" := rfl
  have args : call.args = [.int 7] := rfl
  obtain ⟨worlds, outcomes⟩ :=
    writers_agree_iff lawful_silent reached writer args there builds evolves ⟨0⟩
  exact ⟨written, bound, builds, Prod.ext (outcomes.2 (.inl ⟨made.1, rfl⟩)) worlds⟩

def message? : Outcome → Option String
  | .ok _ => none
  | .error fault => some fault.message

/-- **One refusal in two wordings.** -/
theorem writers_differ :
    let entry := (writing TypeRef.integer "v=" "@v").1
    let world := (writing TypeRef.integer "v=" "@v").2
    let call : Call := { receiver := .int 5, args := [.int 1] }
    let built := world.specialize {} "v=" { argCount := 1 } TypeRef.integer entry
    let through := built.1.map fun bound => invoke silent ⟨0⟩ bound call built.2
    let called := callMethod silent ⟨0⟩ entry.method entry.owner "v=" call built.2
    Reachable (fun _ => True) silent world ∧
      through.map (message? ∘ Prod.fst) = some (some "can't set instance variable on 5") ∧
      message? called.1 = some "can't set @v on 5" :=
  ⟨reachable_writing TypeRef.integer "v=" "@v", by decide +kernel⟩

end World

end InlineCache
