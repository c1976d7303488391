/-
# InlineCache.Proofs.Forest -- lines of descent, followed from either end

A type knows its line of descent from its `lineage`, and its parent knows it from the
list of its `offspring`.  Invalidation walks the lists of offspring; lookup walks the
lineage.  `Forest` says that the two agree:

* `Forest.of_lineage`: every ancestor in a lineage is in the table, with the rest of
  the lineage for its own, and lives at least as long;
* `Forest.mem_family_iff`: the family of a type has a live type exactly when the type
  is in its lineage;
* `Forest.nodup_family`: and has it once.

Every operation of the table keeps a forest (`Forest.create`, `Forest.release`,
`Forest.of_skeleton`).
-/
import InlineCache.Types.Family
import Mathlib.Data.List.Nodup

namespace InlineCache

set_option autoImplicit false

variable {Code : Type}

namespace TypeState

/-- What descent goes by: the type, its lineage, its offspring, and whether it lives. -/
def skeleton (state : TypeState Code) : TypeRef × List TypeRef × List TypeRef × Bool :=
  (state.ref, state.lineage, state.offspring, state.live)

/-- A type was made under another. -/
structure MadeUnder (child parent : TypeState Code) : Prop where
  older : parent.ref.id < child.ref.id
  lineage : child.lineage = child.ref :: parent.lineage
  listed : child.ref ∈ parent.offspring
  outlived : child.live = true → parent.live = true

theorem skeleton_eq_iff {state other : TypeState Code} :
    state.skeleton = other.skeleton ↔ state.ref = other.ref ∧ state.lineage = other.lineage ∧
      state.offspring = other.offspring ∧ state.live = other.live := by
  simp [skeleton]

theorem MadeUnder.of_skeleton {child parent child' parent' : TypeState Code}
    (under : child.MadeUnder parent) (same : child'.skeleton = child.skeleton)
    (same' : parent'.skeleton = parent.skeleton) : child'.MadeUnder parent' := by
  obtain ⟨ref, lineage, _, live⟩ := skeleton_eq_iff.1 same
  obtain ⟨ref', lineage', offspring', live'⟩ := skeleton_eq_iff.1 same'
  exact
    { older := by rw [ref, ref']; exact under.older
      lineage := by rw [ref, lineage, lineage']; exact under.lineage
      listed := by rw [ref, offspring']; exact under.listed
      outlived := by rw [live, live']; exact under.outlived }

/-! ## A type after another was released or made -/

section

variable (type made : TypeRef) (under? : Option TypeRef) (state : TypeState Code)

/-- A type after a release, which may be its own. -/
def released : TypeState Code :=
  if type.id = state.ref.id then { state with live := false } else state

@[simp] theorem ref_released : (state.released type).ref = state.ref := by
  simp only [released]
  split <;> rfl

@[simp] theorem lineage_released : (state.released type).lineage = state.lineage := by
  simp only [released]
  split <;> rfl

@[simp] theorem offspring_released : (state.released type).offspring = state.offspring := by
  simp only [released]
  split <;> rfl

/-- A type after another was made, which may be under it. -/
def adopting : TypeState Code :=
  if under?.any fun parent => parent.id = state.ref.id then
    { state with offspring := state.offspring ++ [made] }
  else state

@[simp] theorem ref_adopting : (state.adopting made under?).ref = state.ref := by
  simp only [adopting]
  split <;> rfl

@[simp] theorem lineage_adopting : (state.adopting made under?).lineage = state.lineage := by
  simp only [adopting]
  split <;> rfl

@[simp] theorem live_adopting : (state.adopting made under?).live = state.live := by
  simp only [adopting]
  split <;> rfl

theorem mem_offspring_adopting {child : TypeRef} :
    child ∈ (state.adopting made under?).offspring ↔ child ∈ state.offspring ∨
      child = made ∧ ∃ parent, under? = some parent ∧ parent.id = state.ref.id := by
  simp only [adopting, Option.any_eq_true, decide_eq_true_eq]
  split
  · rename_i its
    simp [its]
  · rename_i its
    simp [its]

end

/-- Who was made under another still was after a release, unless the other is the one
released and the child lives. -/
theorem MadeUnder.released {type : TypeRef} {child parent : TypeState Code}
    (under : child.MadeUnder parent) (other : child.live = true → type.id ≠ parent.ref.id) :
    (child.released type).MadeUnder (parent.released type) where
  older := by simpa using under.older
  lineage := by simpa using under.lineage
  listed := by simpa using under.listed
  outlived live := by
    have lived : child.live = true := by
      simp only [TypeState.released] at live
      split at live
      · simp at live
      · exact live
    simpa [TypeState.released, other lived] using under.outlived lived

theorem MadeUnder.adopting {child parent : TypeState Code} (under : child.MadeUnder parent)
    (made : TypeRef) (under? : Option TypeRef) :
    (child.adopting made under?).MadeUnder (parent.adopting made under?) where
  older := by simpa using under.older
  lineage := by simpa using under.lineage
  listed := (mem_offspring_adopting made under? parent).2 (.inl (by simpa using under.listed))
  outlived := by simpa using under.outlived

end TypeState

namespace Types

/-- **The types form a forest.** -/
structure Forest (table : Types Code) : Prop where
  /-- a type is at its own place -/
  placed : ∀ {type : TypeRef} {state : TypeState Code}, table.get? type = some state →
    state.ref.id = type.id
  /-- a type is a root or was made under another -/
  descent : ∀ {type : TypeRef} {state : TypeState Code}, table.get? type = some state →
    state.lineage = [state.ref] ∨
      ∃ parent, table.get? parent.ref = some parent ∧ state.MadeUnder parent
  /-- and what a type lists was made under it -/
  offspring : ∀ {type child : TypeRef} {state : TypeState Code}, table.get? type = some state →
    child ∈ state.offspring →
      ∃ made, table.get? child = some made ∧ made.ref = child ∧ made.MadeUnder state
  distinct : ∀ {type : TypeRef} {state : TypeState Code}, table.get? type = some state →
    state.offspring.Nodup

theorem get?_of_id_eq (table : Types Code) {type other : TypeRef} (same : type.id = other.id) :
    table.get? type = table.get? other := by
  simp only [get?, same]

theorem lt_size_of_get? {table : Types Code} {type : TypeRef} {state : TypeState Code}
    (there : table.get? type = some state) : type.id < table.types.size :=
  (Array.getElem?_eq_some_iff.1 there).1

theorem get?_eq_none_iff {table : Types Code} {type : TypeRef} :
    table.get? type = none ↔ table.types.size ≤ type.id :=
  Array.getElem?_eq_none_iff

/-- The type that is made next. -/
def newcomer (table : Types Code) (name : String) (under? : Option TypeRef)
    (invalidator : Invalidator) (fieldCapacity : Nat) : TypeState Code :=
  { ref := ⟨table.types.size, name⟩
    lineage := ⟨table.types.size, name⟩ :: (under?.map table.lineage).getD []
    invalidator
    fieldCapacity }

/-- Generation zero is the type itself. -/
theorem self_mem_descendants (table : Types Code) (generations : Nat)
    (type : TypeRef) : type ∈ table.descendants generations type := by
  cases generations <;> simp [descendants]

theorem family_of_none {table : Types Code} {type : TypeRef} (none_ : table.get? type = none) :
    table.family type = [type] := by
  simp only [family]
  cases table.types.size <;> simp [descendants, subclasses, none_]

namespace Forest

variable {table : Types Code} {type other : TypeRef} {state upper : TypeState Code}

theorem get?_ref (forest : table.Forest) (there : table.get? type = some state) :
    table.get? state.ref = some state := by
  rw [← there]
  exact table.get?_of_id_eq (forest.placed there)

/-- A lineage starts with the type itself. -/
theorem lineage_eq (forest : table.Forest) (there : table.get? type = some state) :
    ∃ above, state.lineage = state.ref :: above := by
  rcases forest.descent there with root | ⟨parent, _, made⟩
  · exact ⟨[], root⟩
  · exact ⟨parent.lineage, made.lineage⟩

/-- A lineage belongs to one type. -/
theorem eq_of_lineage_eq (forest : table.Forest) (there : table.get? type = some state)
    (stands : table.get? other = some upper) (same : state.lineage = upper.lineage) :
    state = upper := by
  obtain ⟨_, own⟩ := forest.lineage_eq there
  obtain ⟨_, its⟩ := forest.lineage_eq stands
  have named : state.ref = upper.ref := (List.cons.inj (own.symm.trans (same.trans its))).1
  have found := forest.get?_ref there
  rw [named, forest.get?_ref stands] at found
  exact (Option.some.inj found).symm

/-- **Up the lineage**: an ancestor has the rest of the lineage for its own, and lives
at least as long. -/
theorem of_lineage (forest : table.Forest) {below above : List TypeRef} {ancestor : TypeRef}
    (there : table.get? type = some state) (lineage : state.lineage = below ++ ancestor :: above) :
    ∃ upper, table.get? ancestor = some upper ∧ upper.ref = ancestor ∧
      upper.lineage = ancestor :: above ∧ (state.live = true → upper.live = true) := by
  induction below generalizing type state with
  | nil =>
      obtain ⟨_, own⟩ := forest.lineage_eq there
      have here : state.ref = ancestor := (List.cons.inj (own.symm.trans lineage)).1
      exact ⟨state, here ▸ forest.get?_ref there, here, lineage, id⟩
  | cons first below ih =>
      rcases forest.descent there with root | ⟨parent, stands, made⟩
      · rw [root] at lineage
        simp at lineage
      · have rest : parent.lineage = below ++ ancestor :: above :=
          (List.cons.inj (made.lineage.symm.trans lineage)).2
        obtain ⟨upper, found, named, line, lives⟩ := ih stands rest
        exact ⟨upper, found, named, line, fun live => lives (made.outlived live)⟩

/-- A lineage is no longer than the place of its type allows, since parents come
first. -/
theorem length_lineage_le (forest : table.Forest) (there : table.get? type = some state) :
    state.lineage.length ≤ state.ref.id + 1 := by
  generalize line : state.lineage = lineage
  induction lineage generalizing type state with
  | nil => simp
  | cons first above ih =>
      rcases forest.descent there with root | ⟨parent, stands, made⟩
      · rw [root] at line
        simp [← (List.cons.inj line).2]
      · have rest : parent.lineage = above := (List.cons.inj (made.lineage.symm.trans line)).2
        have shorter := ih stands rest
        have older := made.older
        simp only [List.length_cons]
        omega

/-- To be of a kind is to have its lineage at the end of one's own. -/
theorem isKindOf_iff (forest : table.Forest) (there : table.get? type = some state)
    (above : table.get? other = some upper) :
    state.isKindOf other = true ↔ ∃ below, state.lineage = below ++ upper.lineage := by
  simp only [TypeState.isKindOf, List.any_eq_true, beq_iff_eq]
  constructor
  · rintro ⟨ancestor, member, same⟩
    obtain ⟨below, rest, line⟩ := List.append_of_mem member
    obtain ⟨found, stands, _, lineage, _⟩ := forest.of_lineage there line
    have : found = upper := by
      rw [table.get?_of_id_eq same, above] at stands
      exact (Option.some.inj stands).symm
    exact ⟨below, by rw [line, ← this, lineage]⟩
  · rintro ⟨below, line⟩
    obtain ⟨rest, own⟩ := forest.lineage_eq above
    exact ⟨upper.ref, by simp [line, own], forest.placed above⟩

/-! ## The family -/

/-- A live type is listed by the type it was made under. -/
theorem mem_subclasses_iff (forest : table.Forest) (there : table.get? type = some state)
    {child : TypeRef} :
    child ∈ table.subclasses type ↔
      ∃ made, table.get? child = some made ∧ made.ref = child ∧ made.live = true ∧
        made.MadeUnder state := by
  simp only [subclasses, there, List.mem_filter, isLive]
  constructor
  · rintro ⟨listed, live⟩
    obtain ⟨made, found, named, under⟩ := forest.offspring there listed
    exact ⟨made, found, named, by simpa [found] using live, under⟩
  · rintro ⟨made, found, rfl, live, under⟩
    exact ⟨under.listed, by simpa [found] using live⟩

/-- **Down the lists of offspring**: a member of the family has the lineage of the type
at the end of its own. -/
theorem lineage_of_mem_descendants (forest : table.Forest) {generations : Nat} {member : TypeRef}
    (there : table.get? type = some state)
    (descends : member ∈ table.descendants generations type) :
    ∃ lower below, table.get? member = some lower ∧ lower.lineage = below ++ state.lineage := by
  induction generations generalizing type state with
  | zero =>
      obtain rfl : member = type := by simpa [descendants] using descends
      exact ⟨state, [], there, rfl⟩
  | succ generations ih =>
      rcases List.mem_cons.1 descends with rfl | further
      · exact ⟨state, [], there, rfl⟩
      · obtain ⟨child, listed, descends⟩ := List.mem_flatMap.1 further
        obtain ⟨made, found, rfl, _, under⟩ := (forest.mem_subclasses_iff there).1 listed
        obtain ⟨lower, below, stands, line⟩ := ih found descends
        exact ⟨lower, below ++ [made.ref], stands, by simp [line, under.lineage]⟩

/-- Whoever has the lineage of a type after its own name was made under it. -/
theorem madeUnder_of_lineage (forest : table.Forest) (there : table.get? type = some state)
    {made : TypeState Code} (stands : table.get? other = some made)
    (line : made.lineage = made.ref :: state.lineage) : made.MadeUnder state := by
  rcases forest.descent stands with root | ⟨parent, found, under⟩
  · obtain ⟨_, own⟩ := forest.lineage_eq there
    simp [root, own] at line
  · have same : parent.lineage = state.lineage :=
      (List.cons.inj (under.lineage.symm.trans line)).2
    rwa [forest.eq_of_lineage_eq found there same] at under

/-- A live type of the lineage is reached within as many generations as lie between. -/
theorem mem_descendants (forest : table.Forest) {generations : Nat} {lower : TypeState Code}
    (there : table.get? type = some state) (stands : table.get? other = some lower)
    (live : lower.live = true) {below : List TypeRef} (few : below.length ≤ generations)
    (line : lower.lineage = below ++ state.lineage) :
    ∃ member ∈ table.descendants generations type, member.id = other.id := by
  induction generations generalizing type state below with
  | zero =>
      obtain rfl : below = [] := List.length_eq_zero_iff.1 (Nat.le_zero.1 few)
      have same := forest.eq_of_lineage_eq stands there line
      exact ⟨type, table.self_mem_descendants 0 type,
        by rw [← forest.placed there, ← forest.placed stands, same]⟩
  | succ generations ih =>
      rcases List.eq_nil_or_concat below with rfl | ⟨shorter, child, rfl⟩
      · have same := forest.eq_of_lineage_eq stands there line
        exact ⟨type, table.self_mem_descendants _ type,
          by rw [← forest.placed there, ← forest.placed stands, same]⟩
      · rw [List.concat_eq_append, List.append_assoc] at line
        obtain ⟨made, found, rfl, lineage, lives⟩ := forest.of_lineage stands line
        have under := forest.madeUnder_of_lineage there found lineage
        have listed := (forest.mem_subclasses_iff there).2 ⟨made, found, rfl, lives live, under⟩
        have shorter_ : shorter.length ≤ generations := by simpa using few
        obtain ⟨member, descends, same⟩ := ih found shorter_ (line.trans (by rw [lineage]; rfl))
        exact ⟨member, List.mem_cons_of_mem _ (List.mem_flatMap.2 ⟨_, listed, descends⟩), same⟩

/-- **The family of a type has a live type exactly when it is of that kind.** -/
theorem mem_family_iff (forest : table.Forest) {lower : TypeState Code}
    (stands : table.get? other = some lower) (live : lower.live = true) (type : TypeRef) :
    other.id ∈ (table.family type).map TypeRef.id ↔ lower.isKindOf type = true := by
  cases there : table.get? type with
  | none =>
      refine iff_of_false ?_ ?_
      · rw [family_of_none there]
        simp only [List.map_cons, List.map_nil, List.mem_singleton]
        intro same
        rw [table.get?_of_id_eq same, there] at stands
        exact absurd stands (by simp)
      · simp only [TypeState.isKindOf, List.any_eq_true, beq_iff_eq]
        rintro ⟨ancestor, member, same⟩
        obtain ⟨below, above, line⟩ := List.append_of_mem member
        obtain ⟨upper, found, _⟩ := forest.of_lineage stands line
        rw [table.get?_of_id_eq same, there] at found
        exact absurd found (by simp)
  | some state =>
      rw [forest.isKindOf_iff stands there]
      constructor
      · intro listed
        obtain ⟨member, descends, same⟩ := List.mem_map.1 listed
        obtain ⟨found, below, stood, line⟩ := forest.lineage_of_mem_descendants there descends
        rw [table.get?_of_id_eq same, stands] at stood
        exact ⟨below, Option.some.inj stood ▸ line⟩
      · rintro ⟨below, line⟩
        refine List.mem_map.2 (forest.mem_descendants there stands live ?_ line)
        have length := forest.length_lineage_le stands
        have small := lt_size_of_get? (forest.get?_ref stands)
        simp only [line, List.length_append] at length
        omega

/-- No type descends from one made after it. -/
theorem le_of_mem_descendants (forest : table.Forest) {generations : Nat} {member : TypeRef}
    (there : table.get? type = some state)
    (descends : member ∈ table.descendants generations type) : type.id ≤ member.id := by
  induction generations generalizing type state with
  | zero =>
      obtain rfl : member = type := by simpa [descendants] using descends
      exact Nat.le_refl _
  | succ generations ih =>
      rcases List.mem_cons.1 descends with rfl | further
      · exact Nat.le_refl _
      · obtain ⟨child, listed, descends⟩ := List.mem_flatMap.1 further
        obtain ⟨made, found, rfl, _, under⟩ := (forest.mem_subclasses_iff there).1 listed
        have older := under.older
        rw [forest.placed there] at older
        exact Nat.le_trans (Nat.le_of_lt older) (ih found descends)

/-- **The family of a type has every type once.** -/
theorem nodup_descendants (forest : table.Forest) (generations : Nat)
    (there : table.get? type = some state) :
    ((table.descendants generations type).map TypeRef.id).Nodup := by
  induction generations generalizing type state with
  | zero => simp [descendants]
  | succ generations ih =>
      have under : ∀ child ∈ table.subclasses type, ∃ made, table.get? child = some made ∧
          made.ref = child ∧ type.id < child.id ∧ made.lineage = child :: state.lineage := by
        intro child listed
        obtain ⟨made, found, rfl, _, under⟩ := (forest.mem_subclasses_iff there).1 listed
        exact ⟨made, found, rfl, forest.placed there ▸ under.older, under.lineage⟩
      have several : (table.subclasses type).Nodup := by
        simpa only [subclasses, there] using (forest.distinct there).filter _
      simp only [descendants, List.map_cons, List.nodup_cons, List.map_flatMap, List.nodup_flatMap]
      refine ⟨?_, ?_, several.pairwise_of_forall_ne ?_⟩
      · intro again
        obtain ⟨child, listed, below⟩ := List.mem_flatMap.1 again
        obtain ⟨member, descends, same⟩ := List.mem_map.1 below
        obtain ⟨made, found, _, younger, _⟩ := under child listed
        have older := forest.le_of_mem_descendants found descends
        omega
      · intro child listed
        obtain ⟨made, found, _⟩ := under child listed
        exact ih found
      · -- a common descendant would have both in the same place of its lineage
        intro first listed second listed' different id below below'
        obtain ⟨member, descends, same⟩ := List.mem_map.1 below
        obtain ⟨member', descends', same'⟩ := List.mem_map.1 below'
        obtain ⟨made, found, _, _, line⟩ := under first listed
        obtain ⟨made', found', _, _, line'⟩ := under second listed'
        obtain ⟨lower, between, stands, whole⟩ := forest.lineage_of_mem_descendants found descends
        obtain ⟨lower', between', stands', whole'⟩ :=
          forest.lineage_of_mem_descendants found' descends'
        rw [table.get?_of_id_eq (same'.trans same.symm), stands] at stands'
        cases Option.some.inj stands'
        rw [whole, line, line'] at whole'
        have split : (between ++ [first]) ++ state.lineage =
            (between' ++ [second]) ++ state.lineage := by simpa using whole'
        have lasts := List.append_cancel_right split
        exact different (by simpa using (List.append_inj' lasts rfl).2)

theorem nodup_family (forest : table.Forest) (type : TypeRef) :
    ((table.family type).map TypeRef.id).Nodup := by
  cases there : table.get? type with
  | none => simp [family_of_none there]
  | some state => exact forest.nodup_descendants _ there

/-! ## What keeps a forest -/

theorem get?_of_skeleton {after : Types Code} {new : TypeState Code}
    (same : ∀ type, (after.get? type).map TypeState.skeleton =
      (table.get? type).map TypeState.skeleton) (there : after.get? type = some new) :
    ∃ old, table.get? type = some old ∧ old.skeleton = new.skeleton := by
  have := same type
  rw [there] at this
  exact Option.map_eq_some_iff.1 this.symm

theorem of_skeleton (forest : table.Forest) {after : Types Code}
    (same : ∀ type, (after.get? type).map TypeState.skeleton =
      (table.get? type).map TypeState.skeleton) : after.Forest where
  placed there := by
    obtain ⟨old, found, equal⟩ := get?_of_skeleton same there
    rw [← (TypeState.skeleton_eq_iff.1 equal).1]
    exact forest.placed found
  descent {type state} there := by
    obtain ⟨old, found, equal⟩ := get?_of_skeleton same there
    obtain ⟨ref, lineage, _⟩ := TypeState.skeleton_eq_iff.1 equal
    rw [← ref, ← lineage]
    refine (forest.descent found).imp_right ?_
    rintro ⟨parent, stands, under⟩
    obtain ⟨parent', stands', equal'⟩ := get?_of_skeleton (fun type => (same type).symm) stands
    refine ⟨parent', ?_, under.of_skeleton equal.symm equal'⟩
    rw [(TypeState.skeleton_eq_iff.1 equal').1]
    exact stands'
  offspring {type child state} there listed := by
    obtain ⟨old, found, equal⟩ := get?_of_skeleton same there
    rw [← (TypeState.skeleton_eq_iff.1 equal).2.2.1] at listed
    obtain ⟨made, stands, named, under⟩ := forest.offspring found listed
    obtain ⟨made', stands', equal'⟩ := get?_of_skeleton (fun type => (same type).symm) stands
    exact ⟨made', stands', (TypeState.skeleton_eq_iff.1 equal').1.trans named,
      under.of_skeleton equal' equal.symm⟩
  distinct there := by
    obtain ⟨old, found, equal⟩ := get?_of_skeleton same there
    rw [← (TypeState.skeleton_eq_iff.1 equal).2.2.1]
    exact forest.distinct found

theorem empty : ({} : Types Code).Forest where
  placed there := by simp [get?] at there
  descent there := by simp [get?] at there
  offspring there := by simp [get?] at there
  distinct there := by simp [get?] at there

/-- A type is released only after everything made under it. -/
theorem release (forest : table.Forest) (type : TypeRef) : (table.release type).Forest := by
  by_cases last : table.subclasses type = []
  case neg => rwa [show table.release type = table by simp [Types.release, last]]
  have stood : ∀ other, (table.release type).get? other =
      (table.get? other).map (TypeState.released type) := by
    intro other
    rw [get?_release]
    cases there : table.get? other with
    | none => simp
    | some state =>
        by_cases here : type.id = other.id <;>
          simp [TypeState.released, last, here, forest.placed there]
  have under : ∀ {child parent : TypeState Code}, table.get? child.ref = some child →
      table.get? parent.ref = some parent → child.MadeUnder parent →
        (child.released type).MadeUnder (parent.released type) := by
    intro child parent there above under
    refine under.released fun live same => ?_
    have listed := (forest.mem_subclasses_iff ((table.get?_of_id_eq same).trans above)).2
      ⟨child, there, rfl, live, under⟩
    simp [last] at listed
  constructor
  · intro other state there
    rw [stood] at there
    obtain ⟨old, found, rfl⟩ := Option.map_eq_some_iff.1 there
    simpa using forest.placed found
  · intro other state there
    rw [stood] at there
    obtain ⟨old, found, rfl⟩ := Option.map_eq_some_iff.1 there
    rw [TypeState.ref_released, TypeState.lineage_released]
    refine (forest.descent found).imp_right ?_
    rintro ⟨parent, stands, made⟩
    refine ⟨parent.released type, ?_, under (forest.get?_ref found) stands made⟩
    rw [TypeState.ref_released, stood, stands]
    rfl
  · intro other child state there listed
    rw [stood] at there
    obtain ⟨old, found, rfl⟩ := Option.map_eq_some_iff.1 there
    rw [TypeState.offspring_released] at listed
    obtain ⟨made, stands, rfl, above⟩ := forest.offspring found listed
    refine ⟨made.released type, ?_, made.ref_released type,
      under stands (forest.get?_ref found) above⟩
    rw [stood, stands]
    rfl
  · intro other state there
    rw [stood] at there
    obtain ⟨old, found, rfl⟩ := Option.map_eq_some_iff.1 there
    simpa using forest.distinct found

/-- A forest with one more type, a root or the last of its parent's offspring. -/
theorem grown (forest : table.Forest) {after : Types Code} {new : TypeState Code}
    {under? : Option TypeRef}
    (stood : ∀ other, after.get? other = if other.id = table.types.size then some new
      else (table.get? other).map (TypeState.adopting new.ref under?))
    (placed : new.ref.id = table.types.size) (childless : new.offspring = [])
    (root : under? = none → new.lineage = [new.ref])
    (youngest : ∀ {parent : TypeRef}, under? = some parent → ∃ state,
      table.get? parent = some state ∧ new.MadeUnder (state.adopting new.ref under?)) :
    after.Forest := by
  have stands : after.get? new.ref = some new := by rw [stood, if_pos placed]
  have forth : ∀ {other state}, table.get? other = some state →
      after.get? other = some (state.adopting new.ref under?) := by
    intro other state there
    rw [stood, if_neg (Nat.ne_of_lt (lt_size_of_get? there)), there]
    rfl
  have back : ∀ {other state'}, after.get? other = some state' →
      (other.id = new.ref.id ∧ state' = new) ∨
        ∃ state, table.get? other = some state ∧ state' = state.adopting new.ref under? := by
    intro other state' there
    rw [stood] at there
    split at there
    · rename_i last
      exact .inl ⟨last.trans placed.symm, (Option.some.inj there).symm⟩
    · obtain ⟨state, found, same⟩ := Option.map_eq_some_iff.1 there
      exact .inr ⟨state, found, same.symm⟩
  constructor
  · intro other state there
    rcases back there with ⟨last, rfl⟩ | ⟨old, found, rfl⟩
    · exact last.symm
    · simpa using forest.placed found
  · intro other state there
    rcases back there with ⟨_, rfl⟩ | ⟨old, found, rfl⟩
    · cases its : under? with
      | none => exact .inl (root its)
      | some parent =>
          obtain ⟨above, found, made⟩ := youngest its
          have known := forth (forest.get?_ref found)
          rw [← TypeState.ref_adopting state.ref under? above] at known
          exact .inr ⟨_, known, made⟩
    · rw [TypeState.ref_adopting, TypeState.lineage_adopting]
      refine (forest.descent found).imp_right ?_
      rintro ⟨parent, above, made⟩
      have known := forth above
      rw [← TypeState.ref_adopting new.ref under? parent] at known
      exact ⟨_, known, made.adopting _ _⟩
  · intro other child state there member
    rcases back there with ⟨_, rfl⟩ | ⟨old, found, rfl⟩
    · simp [childless] at member
    · rcases (TypeState.mem_offspring_adopting new.ref under? old).1 member with
        listed | ⟨rfl, parent, its, same⟩
      · obtain ⟨made, known, rfl, above⟩ := forest.offspring found listed
        exact ⟨_, forth known, made.ref_adopting _ _, above.adopting _ _⟩
      · obtain ⟨above, known, made⟩ := youngest its
        rw [table.get?_of_id_eq same, forest.get?_ref found] at known
        cases known
        exact ⟨new, stands, rfl, made⟩
  · intro other state there
    rcases back there with ⟨_, rfl⟩ | ⟨old, found, rfl⟩
    · simp [childless]
    · simp only [TypeState.adopting]
      split
      · refine (forest.distinct found).append (List.nodup_singleton _) ?_
        intro child member fresh
        obtain rfl := List.mem_singleton.1 fresh
        obtain ⟨made, known, _⟩ := forest.offspring found member
        exact Nat.ne_of_lt (lt_size_of_get? known) placed
      · exact forest.distinct found

/-- A new type is a root, or was made under a type that lives. -/
theorem create (forest : table.Forest) (name : String) (parent? : Option TypeRef)
    (fieldCapacity : Nat) (points : SwitchPoints) :
    (table.create name parent? fieldCapacity points).2.1.Forest := by
  let under? := parent?.filter fun parent => table.isLive parent
  let new := table.newcomer name under? (Invalidator.create .methodTable true points).1 fieldCapacity
  have stood : ∀ other, (table.create name parent? fieldCapacity points).2.1.get? other =
      if other.id = table.types.size then some new
      else (table.get? other).map (TypeState.adopting new.ref under?) := by
    intro other
    rw [get?_create]
    split
    · rfl
    · cases there : table.get? other with
      | none => rfl
      | some state => simp [TypeState.adopting, forest.placed there, under?, new, newcomer]
  refine forest.grown stood rfl rfl (fun none_ => ?_) fun {parent} some_ => ?_
  · simp [new, newcomer, none_]
  · have live : table.isLive parent = true := by
      simpa using (Option.filter_eq_some_iff.1 some_).2
    obtain ⟨state, there, lives⟩ := isLive_eq_true_iff.1 live
    have placed := forest.placed there
    refine ⟨state, there, ?_, ?_, ?_, fun _ => ?_⟩
    · rw [TypeState.ref_adopting, placed]
      exact lt_size_of_get? there
    · simp [new, newcomer, some_, Types.lineage, there]
    · exact (TypeState.mem_offspring_adopting _ _ state).2 (.inr ⟨rfl, parent, some_, placed.symm⟩)
    · rw [TypeState.live_adopting]
      exact lives

end Forest

end Types

end InlineCache
