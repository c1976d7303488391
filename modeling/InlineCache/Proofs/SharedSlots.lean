/-
# InlineCache.Proofs.SharedSlots -- the slots of shared scopes are cells

One slot is reached from many places: from its own scope and from every scope inside it, at
another depth from each; by local sites, which have three ways to get at it; and by the
scope directly.  A slot past the declared variables comes into being when it is written.
None of that shows.  A slot is a cell that holds what was written last in it, from
wherever.

What carries this is that chains of scopes never change: a scope is made around one that is
there (`DynamicScopes.Rooted`), so no later scope gets into an older chain.

* `DynamicScopes.ancestor?_create`, `ancestor?_setLocal`: chains stay as they are;
* `LocalSite.get_of_fits`: all ways to get at a slot read the same;
* `DynamicScopes.Run.sound`: after any run every slot has what was written last in it;
* `DynamicScopes.Run.slots_are_cells`: the same as seen from a local site, with what a write
  changes and what it leaves.
-/
import InlineCache.Scope.Local

namespace InlineCache

set_option autoImplicit false

/-- A value written from a scope: so many scopes out, and in which slot there. -/
structure SlotWrite where
  scope : ScopeRef
  depth : Nat
  offset : Nat
  value : Value

namespace LocalSite

/-- The access of a site is made for its coordinates. -/
def Fits (site : LocalSite) : Prop :=
  match site.access with
  | .specialized slot => site.depth = 0 ∧ slot = site.offset
  | .depthZero => site.depth = 0
  | .walk => True

theorem fits_create (depth offset : Nat) : (create depth offset).Fits := by
  by_cases near : depth = 0
  · by_cases low : offset < specializedSlots <;> simp [create, Fits, near, low]
  · simp [create, Fits, near]

/-- **Whatever the access, the slot is the same.** -/
theorem get_of_fits {site : LocalSite} (fits : site.Fits) (table : DynamicScopes)
    (scope : ScopeRef) : site.get table scope = table.value scope site.offset site.depth := by
  obtain ⟨depth, offset, access⟩ := site
  cases access with
  | specialized slot =>
      obtain ⟨rfl, rfl⟩ := fits
      rfl
  | depthZero =>
      obtain rfl := fits
      rfl
  | walk => rfl

/-- A site writes where the scope itself would. -/
theorem set_fst (site : LocalSite) (table : DynamicScopes) (scope : ScopeRef) (value : Value) :
    (site.set table scope value).1 = (table.setValue scope site.offset site.depth value).2 := by
  simp only [set]
  split <;> rename_i equal <;> rw [equal]

end LocalSite

namespace DynamicScopes

variable {table : DynamicScopes} {scope owner : ScopeRef} {depth offset : Nat}

/-- The scope is in the table. -/
def Has (table : DynamicScopes) (scope : ScopeRef) : Prop := scope.index < table.scopes.size

/-- A scope was made after the scope around it. -/
def Rooted (table : DynamicScopes) : Prop :=
  ∀ scope outer, table.parent? scope = some outer → outer.index < scope.index

/-! ## Chains of scopes -/

theorem ancestor?_succ (table : DynamicScopes) (depth : Nat) (scope : ScopeRef) :
    table.ancestor? (depth + 1) scope = (table.parent? scope).bind (table.ancestor? depth) := by
  cases outer : table.parent? scope <;> simp [ancestor?, outer]

/-- Scopes of one table with the same parents have the same chains. -/
theorem ancestor?_congr {after : DynamicScopes}
    (same : ∀ scope, after.parent? scope = table.parent? scope) (depth : Nat) (scope : ScopeRef) :
    after.ancestor? depth scope = table.ancestor? depth scope := by
  induction depth generalizing scope with
  | zero => rfl
  | succ depth ih =>
      rw [ancestor?_succ, ancestor?_succ, same]
      exact Option.bind_congr fun outer _ => ih outer

theorem ancestor?_setLocal (table : DynamicScopes) (target : ScopeRef) (place : Nat)
    (value : Value) (depth : Nat) (scope : ScopeRef) :
    (table.setLocal target place value).ancestor? depth scope = table.ancestor? depth scope :=
  ancestor?_congr (fun scope => table.parent?_setLocal target scope place value) depth scope

/-- Whatever is around a scope of the table is in the table. -/
theorem Rooted.has_of_ancestor? (rooted : table.Rooted) (there : table.Has scope)
    (reached : table.ancestor? depth scope = some owner) : table.Has owner := by
  induction depth generalizing scope with
  | zero => exact Option.some.inj reached ▸ there
  | succ depth ih =>
      rw [ancestor?_succ] at reached
      obtain ⟨outer, around, reached⟩ := Option.bind_eq_some_iff.1 reached
      exact ih (Nat.lt_trans (rooted scope outer around) there) reached

/-! ## A new scope -/

section

variable (layout : StaticScope) (around : Option ScopeRef)

theorem parent?_create (table : DynamicScopes) (scope : ScopeRef) :
    (table.create layout around).2.parent? scope =
      if scope.index = table.scopes.size then around else table.parent? scope := by
  by_cases new : scope.index = table.scopes.size <;>
    simp [parent?, create, Array.getElem?_push, new]

theorem Has.create (there : table.Has scope) : (table.create layout around).2.Has scope := by
  simp only [Has, DynamicScopes.create, Array.size_push] at there ⊢
  omega

theorem Rooted.create (rooted : table.Rooted) (there : ∀ outer ∈ around, table.Has outer) :
    (table.create layout around).2.Rooted := by
  intro scope outer parent
  rw [parent?_create] at parent
  split at parent
  · rename_i new
    rw [new]
    exact there outer parent
  · exact rooted scope outer parent

/-- A new scope gets into no chain that is there. -/
theorem ancestor?_create (rooted : table.Rooted) (there : table.Has scope) (depth : Nat) :
    (table.create layout around).2.ancestor? depth scope = table.ancestor? depth scope := by
  induction depth generalizing scope with
  | zero => rfl
  | succ depth ih =>
      have old : ¬ scope.index = table.scopes.size := Nat.ne_of_lt there
      rw [ancestor?_succ, ancestor?_succ, parent?_create, if_neg old]
      exact Option.bind_congr fun outer parent =>
        ih (Nat.lt_trans (rooted scope outer parent) there)

/-- Its slots are empty, and the others are as they were. -/
theorem valueAt_create (table : DynamicScopes) (owner : ScopeRef) (offset : Nat) :
    (table.create layout around).2.valueAt owner offset = table.valueAt owner offset := by
  by_cases new : owner.index = table.scopes.size
  · simp [valueAt, create, new, Slots.read_empty]
  · simp [valueAt, create, Array.getElem?_push, new]

end

/-! ## What was written last -/

/-- Was this slot written? -/
def hits (table : DynamicScopes) (owner : ScopeRef) (offset : Nat) (write : SlotWrite) : Bool :=
  write.offset == offset && table.ancestor? write.depth write.scope == some owner

/-- The value written last in a slot; the latest write comes first. -/
def lastWritten? (table : DynamicScopes) (writes : List SlotWrite) (owner : ScopeRef)
    (offset : Nat) : Option Value :=
  (writes.find? (table.hits owner offset)).map SlotWrite.value

theorem lastWritten?_cons (table : DynamicScopes) (write : SlotWrite) (writes : List SlotWrite)
    (owner : ScopeRef) (offset : Nat) :
    table.lastWritten? (write :: writes) owner offset =
      if table.hits owner offset write then some write.value
      else table.lastWritten? writes owner offset := by
  by_cases hit : table.hits owner offset write <;> simp [lastWritten?, hit]

/-- What was written last is a matter of chains. -/
theorem lastWritten?_congr {after : DynamicScopes} {writes : List SlotWrite}
    (same : ∀ write ∈ writes, after.ancestor? write.depth write.scope =
      table.ancestor? write.depth write.scope) (owner : ScopeRef) (offset : Nat) :
    after.lastWritten? writes owner offset = table.lastWritten? writes owner offset := by
  induction writes with
  | nil => rfl
  | cons write rest ih =>
      obtain ⟨first, others⟩ := List.forall_mem_cons.1 same
      have hit : after.hits owner offset write = table.hits owner offset write := by
        simp only [hits, first]
      rw [lastWritten?_cons, lastWritten?_cons, hit, ih others]

/-! ## Runs -/

/-- A table of scopes that was built from nothing, in any order, by making scopes inside
others and writing slots, with what was written. -/
inductive Run : DynamicScopes → List SlotWrite → Prop where
  | nothing : Run {} []
  | create {table : DynamicScopes} {writes : List SlotWrite} (run : Run table writes)
      (layout : StaticScope) {around : Option ScopeRef}
      (there : ∀ outer ∈ around, table.Has outer) : Run (table.create layout around).2 writes
  /-- write a slot from a scope -/
  | setValue {table : DynamicScopes} {writes : List SlotWrite} (run : Run table writes)
      {scope : ScopeRef} (there : table.Has scope) (offset depth : Nat) (value : Value) :
      Run (table.setValue scope offset depth value).2 (⟨scope, depth, offset, value⟩ :: writes)
  /-- write a slot from a scope through a local site -/
  | setLocalSite {table : DynamicScopes} {writes : List SlotWrite} (run : Run table writes)
      {scope : ScopeRef} (there : table.Has scope) (depth offset : Nat) (value : Value) :
      Run ((LocalSite.create depth offset).set table scope value).1
        (⟨scope, depth, offset, value⟩ :: writes)

/-- **What every step keeps.** -/
structure Sound (table : DynamicScopes) (writes : List SlotWrite) : Prop where
  rooted : table.Rooted
  known : ∀ write ∈ writes, table.Has write.scope
  holds : ∀ owner offset, table.valueAt owner offset = table.lastWritten? writes owner offset

variable {writes : List SlotWrite}

theorem Sound.create (sound : Sound table writes) (layout : StaticScope)
    {around : Option ScopeRef} (there : ∀ outer ∈ around, table.Has outer) :
    Sound (table.create layout around).2 writes where
  rooted := sound.rooted.create layout around there
  known write member := (sound.known write member).create layout around
  holds owner offset := by
    rw [valueAt_create, sound.holds]
    exact (lastWritten?_congr (fun write member =>
      ancestor?_create layout around sound.rooted (sound.known write member) _) owner offset).symm

/-- A write in the slot that the chain leads to is the latest there. -/
theorem Sound.setLocal (sound : Sound table writes) (there : table.Has scope)
    (reached : table.ancestor? depth scope = some owner) (offset : Nat) (value : Value) :
    Sound (table.setLocal owner offset value) (⟨scope, depth, offset, value⟩ :: writes) where
  rooted inner outer parent := by
    rw [parent?_setLocal] at parent
    exact sound.rooted inner outer parent
  known write member := by
    have kept : table.Has write.scope := by
      rcases List.mem_cons.1 member with rfl | earlier
      · exact there
      · exact sound.known write earlier
    simpa only [Has, DynamicScopes.setLocal, Array.size_modify] using kept
  holds other slot := by
    have known : table.Has owner := sound.rooted.has_of_ancestor? there reached
    have same : (table.setLocal owner offset value).lastWritten? writes other slot =
        table.lastWritten? writes other slot :=
      lastWritten?_congr (fun write _ => table.ancestor?_setLocal owner offset value _ _) other slot
    rw [valueAt_setLocal _ _ _ _ _ _ known, lastWritten?_cons, same, sound.holds]
    simp only [hits, ancestor?_setLocal, reached, Bool.and_eq_true, beq_iff_eq, Option.some.injEq]
    by_cases here : other = owner ∧ slot = offset
    · rw [if_pos here, if_pos ⟨here.2.symm, here.1.symm⟩]
    · rw [if_neg here, if_neg fun hit => here ⟨hit.2.symm, hit.1.symm⟩]

theorem Sound.setValue (sound : Sound table writes) (there : table.Has scope)
    (offset depth : Nat) (value : Value) :
    Sound (table.setValue scope offset depth value).2
      (⟨scope, depth, offset, value⟩ :: writes) := by
  cases reached : table.ancestor? depth scope with
  | some owner =>
      simp only [DynamicScopes.setValue, reached]
      exact sound.setLocal there reached offset value
  | none =>
      simp only [DynamicScopes.setValue, reached]
      refine ⟨sound.rooted, List.forall_mem_cons.2 ⟨there, sound.known⟩, fun other slot => ?_⟩
      rw [sound.holds, lastWritten?_cons]
      simp [hits, reached]

theorem Run.sound (run : Run table writes) : Sound table writes := by
  induction run with
  | nothing =>
      refine ⟨fun scope outer parent => ?_, fun write member => absurd member List.not_mem_nil,
        fun owner offset => rfl⟩
      simp [parent?] at parent
  | create run layout there sound => exact sound.create layout there
  | setValue run there offset depth value sound => exact sound.setValue there offset depth value
  | setLocalSite run there depth offset value sound =>
      rw [LocalSite.set_fst]
      exact sound.setValue there offset depth value

/-- What a write from a scope changes, and what it leaves. -/
theorem Rooted.setValue_eq (rooted : table.Rooted) (there : table.Has scope) (offset depth : Nat)
    (value : Value) :
    let after := (table.setValue scope offset depth value).2
    (∀ steps inner, after.ancestor? steps inner = table.ancestor? steps inner) ∧
      (table.ancestor? depth scope = none → after = table) ∧
        ∀ owner, table.ancestor? depth scope = some owner → ∀ other slot,
          after.valueAt other slot =
            if other = owner ∧ slot = offset then some value else table.valueAt other slot := by
  intro after
  cases reached : table.ancestor? depth scope with
  | none =>
      have same : after = table := by simp only [after, setValue, reached]
      exact ⟨fun _ _ => by rw [same], fun _ => same, nofun⟩
  | some owner =>
      have written : after = table.setLocal owner offset value := by
        simp only [after, setValue, reached]
      rw [written]
      refine ⟨table.ancestor?_setLocal owner offset value, nofun, ?_⟩
      rintro _ ⟨⟩ other slot
      exact valueAt_setLocal _ _ _ _ _ _ (rooted.has_of_ancestor? there reached)

/-- **Slots are cells.**  Scopes were made inside one another in any way, and slots written
from anywhere.  Then a scope, and a local site whatever its access, reads in a slot so many
scopes out what was written there last, from whatever scope and through whatever depth; and
nothing, or nil, if nothing was or if the chain is not that long.  A write leaves all chains
and every other slot as they are, and everything when the chain is too short. -/
theorem Run.slots_are_cells (run : Run table writes) (there : table.Has scope)
    (depth offset : Nat) :
    let site := LocalSite.create depth offset
    let held := (table.ancestor? depth scope).bind fun owner =>
      table.lastWritten? writes owner offset
    (table.value scope offset depth = held ∧ site.get table scope = held ∧
        site.getOrNil table scope = held.getD .nil ∧
          ∀ access, LocalSite.Fits ⟨depth, offset, access⟩ →
            LocalSite.get ⟨depth, offset, access⟩ table scope = held) ∧
      ∀ value : Value,
        let after := (table.setValue scope offset depth value).2
        (site.set table scope value).1 = after ∧
          (∀ steps inner, after.ancestor? steps inner = table.ancestor? steps inner) ∧
            (table.ancestor? depth scope = none → after = table) ∧
              ∀ owner, table.ancestor? depth scope = some owner → ∀ other slot,
                after.valueAt other slot =
                  if other = owner ∧ slot = offset then some value
                  else table.valueAt other slot := by
  intro site held
  have sound := run.sound
  have read : table.value scope offset depth = held := by
    simp only [held, DynamicScopes.value]
    cases table.ancestor? depth scope with
    | none => rfl
    | some owner => exact sound.holds owner offset
  have got : site.get table scope = held :=
    (LocalSite.get_of_fits (LocalSite.fits_create depth offset) table scope).trans read
  refine ⟨⟨read, got, ?_, fun access fits => ?_⟩, fun value => ⟨?_, ?_⟩⟩
  · rw [LocalSite.getOrNil, got]
  · exact (LocalSite.get_of_fits fits table scope).trans read
  · exact site.set_fst table scope value
  · exact sound.rooted.setValue_eq there offset depth value

/-- Two blocks inside one method.  What the first block wrote past the variables of the
method, and the method itself wrote over, is what the second block reads; a write that goes
too far out is nowhere. -/
theorem Run.slots_are_cells_of_two :
    let method : StaticScope := { kind := .method, locals := ["a"] }
    let block : StaticScope := { kind := .block, locals := ["x"], parent := some method }
    let made : DynamicScopes :=
      ((({} : DynamicScopes).create method none).2.create block (some ⟨0⟩)).2
    let table := (made.create block (some ⟨0⟩)).2
    let first := ((LocalSite.create 1 11).set table ⟨1⟩ (.int 1)).1
    let second := (first.setValue ⟨0⟩ 11 0 (.int 2)).2
    let third := ((LocalSite.create 2 11).set second ⟨1⟩ (.int 3)).1
    ((LocalSite.create 1 11).get third ⟨2⟩).bind Value.int? = some 2 ∧
      ((LocalSite.create 0 0).getOrNil third ⟨2⟩).isNil = true ∧
        (third.setValue ⟨1⟩ 0 2 (.int 4)).2 = third := by
  intro method block made table first second third
  have fresh : Run table [] := by
    refine .create (.create (.create .nothing method ?_) block ?_) block ?_ <;>
      simp [Has, DynamicScopes.create]
  have there : table.Has ⟨1⟩ ∧ first.Has ⟨0⟩ ∧ second.Has ⟨1⟩ ∧ third.Has ⟨2⟩ ∧ third.Has ⟨1⟩ := by
    simp only [Has]
    decide +kernel
  have run := Run.setLocalSite (.setValue (.setLocalSite fresh there.1 1 11 (.int 1)) there.2.1 11 0
    (.int 2)) there.2.2.1 2 11 (.int 3)
  obtain ⟨⟨-, read, -⟩, -⟩ := run.slots_are_cells there.2.2.2.1 1 11
  obtain ⟨⟨-, -, nil, -⟩, -⟩ := run.slots_are_cells there.2.2.2.1 0 0
  obtain ⟨-, writes⟩ := run.slots_are_cells there.2.2.2.2 2 0
  refine ⟨?_, ?_, (writes (.int 4)).2.2.1 ?_⟩
  · rw [read]
    decide +kernel
  · rw [nil]
    decide +kernel
  · decide +kernel

end DynamicScopes

end InlineCache
