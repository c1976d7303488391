/-
# InlineCache.Proofs.Invalidation -- what invalidates the tokens of a type

A token taken from a type stands for what the method tables of the type and its
ancestors said at that moment.  Along any run of changes to the types of a world it is
flipped exactly by the changes that *strike* the type: by a definition, a removal that
removed something, a promotion that found its method, or a plain invalidation, on the
type itself or on one of its ancestors (`Registry.strikes`).

* `Registry.leaves_apply`: what one change leaves of a type it did or did not strike;
* `Registry.exact_invalidation`: over whole runs a token is valid exactly as long as
  nothing struck its type, the generation counts the strikes since the type was made,
  and the type's own switch point is always valid.
-/
import InlineCache.Proofs.Changes

namespace InlineCache

set_option autoImplicit false

namespace Registry

variable {Code : Type}

/-- The changes of a run that struck a type. -/
def struck (type : TypeRef) : Registry Code → List (Change Code) → List (Change Code)
  | _, [] => []
  | state, change :: rest =>
      if state.strikes type change then change :: struck type (state.apply change) rest
      else struck type (state.apply change) rest

/-- Descent is a forest, and every type has a valid switch point of its own. -/
structure Sound (state : Registry Code) : Prop where
  forest : state.types.Forest
  guarded : state.types.Guarded state.points

/-- What changes leave of a type that they struck so many times. -/
structure Leaves (hits : Nat) (type : TypeRef) (before after : Registry Code) : Prop where
  ages : before.points.Ages after.points
  stays : ∀ {state : TypeState Code}, before.types.get? type = some state →
    ∃ state', after.types.get? type = some state'
  counted : ∀ {state state' : TypeState Code}, before.types.get? type = some state →
    after.types.get? type = some state' → state'.live = true →
      state.live = true ∧
      state'.invalidator.generation = state.invalidator.generation + hits ∧
      (hits = 0 → state'.invalidator = state.invalidator) ∧
      (hits ≠ 0 → after.points.isValid state.invalidator.current = false)

variable {state touched : Registry Code} {change : Change Code} {target : TypeRef}

namespace Touches

theorem sound (touches : Touches state change target touched) (sound : state.Sound) :
    touched.Sound where
  forest := sound.forest.of_skeleton touches.skeleton
  guarded := touches.points ▸ sound.guarded.of_invalidator touches.invalidator

/-- What follows after a touch follows from before it. -/
theorem leaves (touches : Touches state change target touched) {hits : Nat} {type : TypeRef}
    {after : Registry Code} (leaves : Leaves hits type touched after) :
    Leaves hits type state after where
  ages := touches.points ▸ leaves.ages
  stays there := by
    obtain ⟨_, stands⟩ := touches.get?_forth there
    exact leaves.stays stands
  counted there stood live := by
    obtain ⟨_, stands⟩ := touches.get?_forth there
    have counted := leaves.counted stands stood live
    exact counted

end Touches

/-! ## One change -/

theorem Leaves.refl (state : Registry Code) (type : TypeRef) : Leaves 0 type state state where
  ages := .refl _
  stays there := ⟨_, there⟩
  counted there stands live := by
    cases there.symm.trans stands
    exact ⟨live, rfl, fun _ => rfl, fun some_ => absurd rfl some_⟩

theorem Leaves.trans {first second : Nat} {type : TypeRef} {before between after : Registry Code}
    (sound : before.Sound) (leaves : Leaves first type before between)
    (further : Leaves second type between after) :
    Leaves (first + second) type before after where
  ages := leaves.ages.trans further.ages
  stays there := by
    obtain ⟨_, stands⟩ := leaves.stays there
    exact further.stays stands
  counted there stood live := by
    obtain ⟨_, stands⟩ := leaves.stays there
    obtain ⟨lived, next, same, flipped⟩ := further.counted stands stood live
    obtain ⟨lived', next', same', flipped'⟩ := leaves.counted there stands lived
    refine ⟨lived', by omega, fun none_ => ?_, fun some_ => ?_⟩
    · rw [same (by omega), same' (by omega)]
    · by_cases here : first = 0
      · rw [← same' here]
        exact flipped (by omega)
      · have known := SwitchPoints.lt_size_of_isValid (sound.guarded.valid there)
        exact further.ages.stale (Nat.lt_of_lt_of_le known leaves.ages.grows) (flipped' here)

theorem sound_invalidate (sound : state.Sound) (target : TypeRef) :
    (state.apply (.invalidate target)).Sound where
  forest := sound.forest.of_skeleton
    (Types.flips_family sound.forest state.points target).skeleton
  guarded := (Types.renews_family sound.forest sound.guarded target).2

/-- **Invalidating a type strikes whatever descends from it, and nothing else.** -/
theorem leaves_invalidate (sound : state.Sound) (type target : TypeRef) :
    Leaves (state.types.isKindOf type target).toNat type state
      (state.apply (.invalidate target)) := by
  have renews := (Types.renews_family sound.forest sound.guarded target).1
  refine ⟨renews.ages, fun {old} there => ?_, fun {old last} there stands live => ?_⟩
  · obtain ⟨_, stands, _⟩ := renews.owner there
    exact ⟨_, stands⟩
  · obtain ⟨invalidator, stood, _⟩ := renews.owner there
    cases stood.symm.trans stands
    have member := sound.forest.mem_family_iff there live target
    rw [Types.isKindOf_of_get? there]
    refine ⟨live, ?_⟩
    cases kind : old.isKindOf target with
    | true =>
        obtain ⟨_, stood', next, _⟩ := renews.renewed there (member.2 kind)
        cases stood.symm.trans stood'
        refine ⟨next, fun none_ => absurd none_ (by simp), fun _ => ?_⟩
        exact renews.flipped there (member.2 kind)
          (SwitchPoints.lt_size_of_isValid (sound.guarded.valid there))
    | false =>
        have spared : type.id ∉ (state.types.family target).map TypeRef.id := by
          rw [member, kind]
          exact Bool.false_ne_true
        obtain rfl : invalidator = old.invalidator := congrArg TypeState.invalidator
          (Option.some.inj (stood.symm.trans (renews.kept there spared)))
        exact ⟨rfl, fun _ => rfl, fun some_ => absurd rfl some_⟩

theorem leaves_create (state : Registry Code) (type : TypeRef) (name : String)
    (parent? : Option TypeRef) (fieldCapacity : Nat) :
    Leaves 0 type state (state.apply (.create name parent? fieldCapacity)) := by
  have stood := state.types.get?_create name parent? fieldCapacity state.points type
  have minted : (state.apply (.create name parent? fieldCapacity)).points =
      (state.points.mint 0).2 := rfl
  have old : ∀ {old}, state.types.get? type = some old → type.id ≠ state.types.types.size :=
    fun there => Nat.ne_of_lt (Types.lt_size_of_get? there)
  refine ⟨.mint _ _, fun {_} there => ?_, fun {before after} there stands live => ?_⟩
  · rw [if_neg (old there), there] at stood
    exact ⟨_, stood⟩
  · rw [if_neg (old there), there] at stood
    cases stood.symm.trans stands
    simp only at live ⊢
    split at live <;> rename_i its <;> simp_all

theorem leaves_release (state : Registry Code) (type target : TypeRef) :
    Leaves 0 type state (state.apply (.release target)) := by
  have stood := state.types.get?_release target type
  refine ⟨.refl _, fun {_} there => ?_, fun {before after} there stands live => ?_⟩
  · rw [there] at stood
    split at stood <;> exact ⟨_, stood⟩
  · rw [there] at stood
    split at stood
    · cases stood.symm.trans stands
      simp at live
    · cases stood.symm.trans stands
      exact ⟨live, rfl, fun _ => rfl, fun some_ => absurd rfl some_⟩

/-- **One change strikes what it is said to strike.** -/
theorem leaves_apply (sound : state.Sound) (type : TypeRef) (change : Change Code) :
    Leaves (state.strikes type change).toNat type state (state.apply change) := by
  cases state.effect change with
  | create name parent? fieldCapacity => exact leaves_create state type name parent? fieldCapacity
  | release target => exact leaves_release state type target
  | nothing same spared =>
      rw [same, spared]
      exact .refl state type
  | touched touches same struck =>
      rw [same, struck, ← touches.isKindOf]
      exact touches.leaves (leaves_invalidate (touches.sound sound) type _)

theorem sound_apply (sound : state.Sound) (change : Change Code) : (state.apply change).Sound := by
  cases state.effect change with
  | create name parent? fieldCapacity =>
      exact ⟨sound.forest.create name parent? fieldCapacity state.points,
        sound.guarded.create name parent? fieldCapacity⟩
  | release target => exact ⟨sound.forest.release target, sound.guarded.release target⟩
  | nothing same _ => exact same.symm ▸ sound
  | touched touches same _ =>
      rw [same]
      exact sound_invalidate (touches.sound sound) _

/-! ## The switch points of others -/

/-- A switch point guards no type's method table. -/
structure Foreign (state : Registry Code) (token : SwitchPoint) : Prop where
  known : token.index < state.points.points.size
  apart : ∀ {type : TypeRef} {its : TypeState Code}, state.types.get? type = some its →
    its.invalidator.current ≠ token

theorem Touches.foreign {token : SwitchPoint} (touches : Touches state change target touched)
    (foreign : state.Foreign token) : touched.Foreign token where
  known := touches.points ▸ foreign.known
  apart there same := by
    obtain ⟨_, _, found, rfl⟩ := touches.get?_back there
    exact foreign.apart found same

theorem Foreign.invalidate {token : SwitchPoint} (foreign : state.Foreign token)
    (sound : state.Sound) (target : TypeRef) :
    (state.apply (.invalidate target)).Foreign token ∧
      (state.apply (.invalidate target)).points.isValid token = state.points.isValid token := by
  have renews := (Types.renews_family sound.forest sound.guarded target).1
  have grows := renews.ages.grows
  refine ⟨⟨Nat.lt_of_lt_of_le foreign.known grows, fun {type new} there same => ?_⟩, ?_⟩
  · obtain ⟨old, found, _⟩ := renews.back there
    by_cases member : type.id ∈ (state.types.family target).map TypeRef.id
    · obtain ⟨invalidator, stands, _, fresh⟩ := renews.renewed found member
      cases stands.symm.trans there
      have known := foreign.known
      rw [← same] at known
      exact absurd known (Nat.not_lt.2 fresh)
    · cases (renews.kept found member).symm.trans there
      exact foreign.apart found same
  · rw [Bool.eq_iff_iff]
    exact ⟨renews.ages.valid foreign.known,
      fun valid => renews.tokens foreign.known valid fun there _ => foreign.apart there⟩

theorem Foreign.create {token : SwitchPoint} (foreign : state.Foreign token) (name : String)
    (parent? : Option TypeRef) (fieldCapacity : Nat) :
    (state.apply (.create name parent? fieldCapacity)).Foreign token ∧
      (state.apply (.create name parent? fieldCapacity)).points.isValid token =
        state.points.isValid token := by
  have minted : (state.apply (.create name parent? fieldCapacity)).points =
      (state.points.mint 0).2 := rfl
  refine ⟨⟨?_, fun {type new} there same => ?_⟩, ?_⟩
  · rw [minted, SwitchPoints.size_mint]
    exact Nat.lt_succ_of_lt foreign.known
  · have stood := state.types.get?_create name parent? fieldCapacity state.points type
    rw [show (state.types.create name parent? fieldCapacity state.points).2.1.get? type = some new
      from there] at stood
    split at stood
    · cases stood
      have known := foreign.known
      rw [← same] at known
      exact Nat.lt_irrefl _ known
    · obtain ⟨old, found, rfl⟩ := Option.map_eq_some_iff.1 stood.symm
      refine foreign.apart found (Eq.trans ?_ same)
      split <;> rfl
  · rw [minted, SwitchPoints.isValid_mint_of_lt 0 foreign.known]

/-- **Whatever is done to the types of a world, it leaves the switch points of others
alone.** -/
theorem Foreign.apply {token : SwitchPoint} (foreign : state.Foreign token) (sound : state.Sound)
    (change : Change Code) :
    (state.apply change).Foreign token ∧
      (state.apply change).points.isValid token = state.points.isValid token := by
  cases state.effect change with
  | create name parent? fieldCapacity => exact foreign.create name parent? fieldCapacity
  | release target =>
      refine ⟨⟨foreign.known, fun {type new} there same => ?_⟩, rfl⟩
      have stood := state.types.get?_release target type
      rw [show (state.types.release target).get? type = some new from there] at stood
      split at stood
      · obtain ⟨old, found, rfl⟩ := Option.map_eq_some_iff.1 stood.symm
        exact foreign.apart found same
      · exact foreign.apart stood.symm same
  | nothing same _ => exact ⟨same.symm ▸ foreign, by rw [same]⟩
  | touched touches same _ =>
      rw [same, ← touches.points]
      exact (touches.foreign foreign).invalidate (touches.sound sound) _

/-! ## Runs -/

theorem sound_run (sound : state.Sound) (changes : List (Change Code)) :
    (state.run changes).Sound := by
  induction changes generalizing state with
  | nil => exact sound
  | cons change rest ih => exact ih (sound_apply sound change)

/-- **A run strikes a type as often as its changes do.** -/
theorem leaves_run (sound : state.Sound) (type : TypeRef) (changes : List (Change Code)) :
    Leaves (struck type state changes).length type state (state.run changes) := by
  induction changes generalizing state with
  | nil => exact .refl state type
  | cons change rest ih =>
      have both := (leaves_apply sound type change).trans sound (ih (sound_apply sound change))
      change Leaves _ type state ((state.apply change).run rest)
      by_cases hit : state.strikes type change <;>
        simpa [struck, hit, Nat.add_comm] using both

theorem struck_append (type : TypeRef) (state : Registry Code) (first second : List (Change Code)) :
    struck type state (first ++ second) =
      struck type state first ++ struck type (state.run first) second := by
  induction first generalizing state with
  | nil => rfl
  | cons change rest ih =>
      by_cases hit : state.strikes type change <;> simp [struck, hit, ih, run]

theorem sound_empty (points : SwitchPoints) : ({ points } : Registry Code).Sound where
  forest := .empty
  guarded := ⟨fun there => by simp [Types.get?] at there, fun there => by simp [Types.get?] at there,
    fun there => by simp [Types.get?] at there⟩

/-- **Exact invalidation.**  Let a type be made and, some changes later, its switch point
be taken.  As long as the type is there, the token is valid exactly when nothing has
struck the type since; the generation counts what has struck it since it was made; and
the switch point it would hand out now is valid. -/
theorem exact_invalidation (before : List (Change Code)) (name : String)
    (parent? : Option TypeRef) (fieldCapacity : Nat) (middle later : List (Change Code)) :
    let fresh : Registry Code := Registry.run {} before
    let type : TypeRef := ⟨fresh.types.types.size, name⟩
    let made := fresh.apply (.create name parent? fieldCapacity)
    let taken := made.run middle
    let now := taken.run later
    now.types.isLive type = true →
      (now.points.isValid (taken.types.switchPoint type) = true ↔ struck type taken later = []) ∧
        ((now.types.get? type).map fun state => state.invalidator.generation) =
          some (struck type made (middle ++ later)).length ∧
        now.points.isValid (now.types.switchPoint type) = true := by
  intro fresh type made taken now live
  have sound : made.Sound := sound_apply (sound_run (sound_empty {}) before) _
  obtain ⟨first, born, start⟩ : ∃ first, made.types.get? type = some first ∧
      first.invalidator.generation = 0 := by
    refine ⟨_, (fresh.types.get?_create name parent? fieldCapacity fresh.points type).trans
      (if_pos rfl), rfl⟩
  have earlier := leaves_run sound type middle
  have further := leaves_run (sound_run sound middle) type later
  obtain ⟨then_, stands⟩ := earlier.stays born
  obtain ⟨last, stood⟩ := further.stays stands
  obtain ⟨_, found, alive⟩ := Types.isLive_eq_true_iff.1 live
  cases found.symm.trans stood
  obtain ⟨lived, next, same, flipped⟩ := further.counted stands stood alive
  obtain ⟨_, next', _, _⟩ := earlier.counted born stands lived
  have valid := (sound_run (sound_run sound middle) later).guarded.valid stood
  have token : taken.types.switchPoint type = then_.invalidator.current := by
    simp only [Types.switchPoint, show taken.types.get? type = some then_ from stands]
  refine ⟨?_, ?_, ?_⟩
  · rw [token]
    by_cases none_ : struck type taken later = []
    · have kept := same (by rw [show struck type (made.run middle) later = [] from none_]; rfl)
      exact iff_of_true (kept ▸ valid) none_
    · have gone := flipped (by simpa using none_)
      exact iff_of_false (by simp [now, taken, gone]) none_
  · rw [struck_append, List.length_append]
    simp only [show now.types.get? type = some last from stood, Option.map_some]
    rw [next, next', start, Nat.zero_add]
  · simpa only [Types.switchPoint, show now.types.get? type = some last from stood] using valid

/-- A sibling's method leaves the token of a square alone, one of `Object` does not. -/
theorem exact_invalidation_of_square :
    let area : Method Unit := { serial := 1, name := "area", implementation := .attrReader "area" }
    let before : List (Change Unit) :=
      [.create "Object" none 4, .create "Shape" (some ⟨0, "Object"⟩) 4]
    let later : List (Change Unit) :=
      [.create "Circle" (some ⟨1, "Shape"⟩) 4, .define ⟨3, "Circle"⟩ area,
        .remove ⟨0, "Object"⟩ "area", .define ⟨0, "Object"⟩ area]
    let taken := (Registry.run {} before).apply (.create "Square" (some ⟨1, "Shape"⟩) 4)
    let now := taken.run later
    now.types.isLive ⟨2, "Square"⟩ = true ∧
      now.points.isValid (taken.types.switchPoint ⟨2, "Square"⟩) = false ∧
      ((now.types.get? ⟨2, "Square"⟩).map fun state => state.invalidator.generation) = some 1 := by
  intro area before later taken now
  have hits : (struck ⟨2, "Square"⟩ taken later).length = 1 := by decide +kernel
  have live : now.types.isLive ⟨2, "Square"⟩ = true := by decide +kernel
  obtain ⟨token, generation, _⟩ :=
    exact_invalidation before "Square" (some ⟨1, "Shape"⟩) 4 [] later live
  refine ⟨live, Bool.eq_false_iff.2 fun valid => ?_, generation.trans (congrArg some hits)⟩
  exact Nat.one_ne_zero (hits.symm.trans (congrArg List.length (token.1 valid)))

end Registry

end InlineCache
