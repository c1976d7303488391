/-
# InlineCache.Proofs.Addresses -- a local variable and its slot

A compiler resolves a name to two coordinates, and a local site goes by these through the
scopes of a running activation.  Both sides count the same steps outward: a name has the
coordinates of the nearest scope that declares it and of its first place there
(`StaticScope.Addresses`), and around an activation stand activations of the very scopes
that stand around its static scope (`DynamicScopes.Mirrors`).  So what is written at the
coordinates of a name is read at the coordinates of that name, from any scope on the way
out, and at those of no other.

* `StaticScope.resolve_eq_some_iff`, `resolve_eq_none_iff`: what resolution answers;
* `DynamicScopes.Mirrors.ancestor`: the two chains go together;
* `DynamicScopes.Mirrors.depth_eq`: and meet no scope twice;
* `StaticScope.locals_addressed`: names and slots.
-/
import InlineCache.Proofs.SharedSlots

namespace InlineCache

set_option autoImplicit false

/-! ## Names and coordinates -/

namespace StaticScope

/-- The scope so many steps out, if the chain is that long. -/
def around? : Nat → StaticScope → Option StaticScope
  | 0, scope => some scope
  | depth + 1, scope => scope.parent.bind (around? depth)

/-- The coordinates of a name: the nearest scope that declares it is so many steps out, and
there its first place is this. -/
def Addresses (scope : StaticScope) (name : String) (depth offset : Nat) : Prop :=
  ∃ owner, scope.around? depth = some owner ∧
    owner.locals[offset]? = some name ∧ (∀ place < offset, owner.locals[place]? ≠ some name) ∧
      ∀ nearer < depth, ∀ inner, scope.around? nearer = some inner → name ∉ inner.locals

theorem getElem?_enclosing (scope : StaticScope) (depth : Nat) :
    scope.enclosing[depth]? = scope.around? depth := by
  induction depth generalizing scope with
  | zero => rw [enclosing_eq]; rfl
  | succ depth ih =>
      rw [enclosing_eq, List.getElem?_cons_succ, around?]
      cases scope.parent with
      | none => rfl
      | some outer => exact ih outer

theorem around?_add (scope : StaticScope) {steps : Nat} {mid : StaticScope}
    (reached : scope.around? steps = some mid) (depth : Nat) :
    scope.around? (steps + depth) = mid.around? depth := by
  induction steps generalizing scope with
  | zero => rw [Nat.zero_add, Option.some.inj reached]
  | succ steps ih =>
      obtain ⟨outer, parent, reached⟩ := Option.bind_eq_some_iff.1 reached
      rw [Nat.add_right_comm, around?, parent, Option.bind_some, ih outer reached]

theorem length_enclosing (scope : StaticScope) {depth : Nat} {outer : StaticScope}
    (reached : scope.around? depth = some outer) :
    scope.enclosing.length = depth + outer.enclosing.length := by
  induction depth generalizing scope with
  | zero => rw [Nat.zero_add, Option.some.inj reached]
  | succ depth ih =>
      obtain ⟨parent, around, reached⟩ := Option.bind_eq_some_iff.1 reached
      rw [enclosing_eq, around, Option.map_some, Option.getD_some, List.length_cons,
        ih parent reached]
      omega

theorem findIdx?_eq_some_iff {locals : List String} {name : String} {offset : Nat} :
    locals.findIdx? (· == name) = some offset ↔
      locals[offset]? = some name ∧ ∀ place < offset, locals[place]? ≠ some name := by
  rw [List.findIdx?_eq_some_iff_getElem]
  constructor
  · rintro ⟨inside, here, before⟩
    refine ⟨List.getElem?_eq_some_iff.2 ⟨inside, by simpa using here⟩, fun place less equal => ?_⟩
    obtain ⟨_, named⟩ := List.getElem?_eq_some_iff.1 equal
    exact before place less (by simp [named])
  · rintro ⟨here, before⟩
    obtain ⟨inside, named⟩ := List.getElem?_eq_some_iff.1 here
    refine ⟨inside, by simp [named], fun place less equal => before place less ?_⟩
    exact List.getElem?_eq_some_iff.2 ⟨Nat.lt_trans less inside, by simpa using equal⟩

theorem findIdx?_eq_none_iff {locals : List String} {name : String} :
    locals.findIdx? (· == name) = none ↔ name ∉ locals := by
  rw [List.findIdx?_eq_none_iff]
  constructor
  · intro missed member
    simpa using missed name member
  · intro missed other member
    exact beq_false_of_ne fun same => missed (same ▸ member)

/-- Among scopes, the first that declares a name is at this place, and there the name's
first place is this. -/
def Located (name : String) (scopes : List StaticScope) (depth offset : Nat) : Prop :=
  ∃ owner, scopes[depth]? = some owner ∧ owner.locals[offset]? = some name ∧
    (∀ place < offset, owner.locals[place]? ≠ some name) ∧
      ∀ nearer < depth, ∀ inner, scopes[nearer]? = some inner → name ∉ inner.locals

section

variable {name : String} {scope : StaticScope} {outer : List StaticScope} {depth offset : Nat}

theorem located_zero_iff :
    Located name (scope :: outer) 0 offset ↔
      scope.locals.findIdx? (· == name) = some offset := by
  rw [findIdx?_eq_some_iff]
  constructor
  · rintro ⟨owner, there, its, earlier, -⟩
    obtain rfl : scope = owner := Option.some.inj there
    exact ⟨its, earlier⟩
  · rintro ⟨its, earlier⟩
    exact ⟨scope, rfl, its, earlier, fun nearer less => absurd less (Nat.not_lt_zero _)⟩

theorem located_succ_iff :
    Located name (scope :: outer) (depth + 1) offset ↔
      name ∉ scope.locals ∧ Located name outer depth offset := by
  constructor
  · rintro ⟨owner, there, its, earlier, passed⟩
    refine ⟨passed 0 (Nat.succ_pos _) scope rfl, owner, there, its, earlier, ?_⟩
    exact fun nearer less => passed (nearer + 1) (Nat.succ_lt_succ less)
  · rintro ⟨missed, owner, there, its, earlier, passed⟩
    refine ⟨owner, there, its, earlier, fun nearer less inner stands => ?_⟩
    cases nearer with
    | zero => exact Option.some.inj stands ▸ missed
    | succ nearer => exact passed nearer (Nat.lt_of_succ_lt_succ less) inner stands

end

theorem locate_eq_some_iff {name : String} {scopes : List StaticScope} {depth offset : Nat} :
    locate name scopes = some (depth, offset) ↔ Located name scopes depth offset := by
  induction scopes generalizing depth with
  | nil => simp [locate, Located]
  | cons scope outer ih =>
      cases depth with
      | zero =>
          rw [located_zero_iff]
          cases found : scope.locals.findIdx? (· == name) <;> simp [locate, found]
      | succ depth =>
          rw [located_succ_iff, ← ih, ← findIdx?_eq_none_iff]
          cases found : scope.locals.findIdx? (· == name) <;> simp [locate, found]

theorem locate_eq_none_iff {name : String} {scopes : List StaticScope} :
    locate name scopes = none ↔ ∀ scope ∈ scopes, name ∉ scope.locals := by
  induction scopes with
  | nil => simp [locate]
  | cons scope outer ih =>
      cases found : scope.locals.findIdx? (· == name) with
      | some first =>
          have here := List.mem_of_getElem? (findIdx?_eq_some_iff.1 found).1
          simp [locate, found, here]
      | none =>
          have missed := findIdx?_eq_none_iff.1 found
          simp [locate, found, missed, ih]

/-- **The nearest scope that declares it, at its first place there.** -/
theorem resolve_eq_some_iff {scope : StaticScope} {name : String} {depth offset : Nat} :
    scope.resolve name = some (depth, offset) ↔ scope.Addresses name depth offset := by
  simp only [resolve, locate_eq_some_iff, Located, Addresses, getElem?_enclosing]

/-- An inner declaration hides an outer one of the same name. -/
example :
    let outer : StaticScope := { kind := .method, locals := ["b", "a"] }
    let inner : StaticScope := { kind := .block, locals := ["a"], parent := some outer }
    inner.resolve "a" = some (0, 0) ∧ inner.resolve "b" = some (1, 0) := by
  decide

theorem resolve_eq_none_iff {scope : StaticScope} {name : String} :
    scope.resolve name = none ↔
      ∀ depth outer, scope.around? depth = some outer → name ∉ outer.locals := by
  simp only [resolve, locate_eq_none_iff, ← getElem?_enclosing, List.mem_iff_getElem?]
  exact ⟨fun all depth outer there => all outer ⟨depth, there⟩,
    fun all outer ⟨depth, there⟩ => all depth outer there⟩

theorem Addresses.name_eq {scope : StaticScope} {name other : String} {depth offset : Nat}
    (addresses : scope.Addresses name depth offset)
    (addresses' : scope.Addresses other depth offset) : name = other := by
  obtain ⟨owner, there, its, -⟩ := addresses
  obtain ⟨owner', there', its', -⟩ := addresses'
  obtain rfl : owner = owner' := Option.some.inj (there.symm.trans there')
  exact Option.some.inj (its.symm.trans its')

/-- Seen from a scope on the way out, a variable is so many steps nearer. -/
theorem Addresses.outward {scope mid : StaticScope} {name : String} {steps depth offset : Nat}
    (addresses : scope.Addresses name (steps + depth) offset)
    (reached : scope.around? steps = some mid) : mid.Addresses name depth offset := by
  obtain ⟨owner, there, its, earlier, passed⟩ := addresses
  have onward := scope.around?_add reached
  refine ⟨owner, (onward depth).symm.trans there, its, earlier, fun nearer less inner stands => ?_⟩
  exact passed (steps + nearer) (Nat.add_lt_add_left less steps) inner
    ((onward nearer).trans stands)

theorem Addresses.getElem? {scope owner : StaticScope} {name : String} {depth offset : Nat}
    (addresses : scope.Addresses name depth offset) (reached : scope.around? depth = some owner) :
    owner.locals[offset]? = some name := by
  obtain ⟨owner', there, its, -⟩ := addresses
  exact Option.some.inj (there.symm.trans reached) ▸ its

/-- Two scopes on the way out see one variable under a name unless the outer one stands beyond
the variable of the inner one. -/
theorem Addresses.unhidden {scope mid mid' : StaticScope} {name : String}
    {steps steps' depth depth' offset offset' : Nat} (addresses : mid.Addresses name depth offset)
    (reached : scope.around? steps = some mid) (reached' : scope.around? steps' = some mid')
    (addresses' : mid'.Addresses name depth' offset') (within : steps ≤ steps')
    (near : steps' ≤ steps + depth) : steps' + depth' = steps + depth ∧ offset' = offset := by
  obtain ⟨rest, rfl⟩ := Nat.exists_eq_add_of_le within
  obtain ⟨left, rfl⟩ := Nat.exists_eq_add_of_le (Nat.le_of_add_le_add_left near)
  have onward : mid.around? rest = some mid' := (scope.around?_add reached rest).symm.trans reached'
  have again := resolve_eq_some_iff.2 (addresses.outward onward)
  rw [resolve_eq_some_iff.2 addresses'] at again
  obtain ⟨rfl, rfl⟩ := Prod.mk.inj (Option.some.inj again)
  exact ⟨Nat.add_assoc _ _ _, rfl⟩

end StaticScope

/-! ## Activations of a chain of scopes -/

namespace DynamicScopes

/-- An activation of a scope inside activations of the scopes around it, in none of which
anything was assigned yet. -/
inductive Mirrors (table : DynamicScopes) : ScopeRef → StaticScope → Prop where
  | outermost {scope : ScopeRef} {layout : StaticScope}
      (there : table.scopes[scope.index]? =
        some ⟨layout, none, Slots.empty layout.locals.length⟩)
      (parent : layout.parent = none) : Mirrors table scope layout
  | inside {scope around : ScopeRef} {layout outer : StaticScope}
      (there : table.scopes[scope.index]? =
        some ⟨layout, some around, Slots.empty layout.locals.length⟩)
      (parent : layout.parent = some outer) (outward : Mirrors table around outer) :
      Mirrors table scope layout

/-- Activate a scope, and before it the scopes around it. -/
def activate (table : DynamicScopes) : StaticScope → ScopeRef × DynamicScopes
  | scope@⟨_, _, none, _, _, _⟩ => table.create scope none
  | scope@⟨_, _, some outer, _, _, _⟩ =>
      let (around, table) := table.activate outer
      table.create scope (some around)

def slotCount? (table : DynamicScopes) (scope : ScopeRef) : Option Nat :=
  (table.scopes[scope.index]?).map fun state => state.values.size

variable {table : DynamicScopes} {scope : ScopeRef} {layout : StaticScope}

theorem ancestor?_add (table : DynamicScopes) {scope inner : ScopeRef} {steps : Nat}
    (reached : table.ancestor? steps scope = some inner) (depth : Nat) :
    table.ancestor? (steps + depth) scope = table.ancestor? depth inner := by
  induction steps generalizing scope with
  | zero => rw [Nat.zero_add, Option.some.inj reached]
  | succ steps ih =>
      rw [ancestor?_succ] at reached
      obtain ⟨outer, parent, reached⟩ := Option.bind_eq_some_iff.1 reached
      rw [Nat.add_right_comm, ancestor?_succ, parent, Option.bind_some, ih reached]

theorem Mirrors.create (mirrors : table.Mirrors scope layout) (other : StaticScope)
    (around : Option ScopeRef) : (table.create other around).2.Mirrors scope layout := by
  have stays : ∀ {scope : ScopeRef} {state : DynamicScope},
      table.scopes[scope.index]? = some state →
        (table.create other around).2.scopes[scope.index]? = some state := by
    intro scope state there
    have old : scope.index ≠ table.scopes.size :=
      Nat.ne_of_lt (Array.getElem?_eq_some_iff.1 there).1
    simp only [DynamicScopes.create, Array.getElem?_push, old, if_false, there]
  induction mirrors with
  | outermost there parent => exact .outermost (stays there) parent
  | inside there parent _ ih => exact .inside (stays there) parent ih

/-- **Every chain of scopes can be activated**, whatever else is in the table. -/
theorem mirrors_activate (table : DynamicScopes) (layout : StaticScope) :
    (table.activate layout).2.Mirrors (table.activate layout).1 layout := by
  match layout with
  | ⟨_, _, none, _, _, _⟩ => exact .outermost (by simp [activate, create]) rfl
  | ⟨_, _, some outer, _, _, _⟩ =>
      have outward := table.mirrors_activate outer
      exact .inside (by simp [activate, create]) rfl (outward.create _ _)

namespace Mirrors

theorem layout_eq (mirrors : table.Mirrors scope layout) :
    ∃ around, table.scopes[scope.index]? =
      some ⟨layout, around, Slots.empty layout.locals.length⟩ := by
  cases mirrors with
  | outermost there _ => exact ⟨_, there⟩
  | inside there _ _ => exact ⟨_, there⟩

theorem parent? (mirrors : table.Mirrors scope layout) :
    (table.parent? scope = none ∧ layout.parent = none) ∨
      ∃ around outer, table.parent? scope = some around ∧ layout.parent = some outer ∧
        table.Mirrors around outer := by
  cases mirrors with
  | outermost there parent => exact .inl ⟨by simp only [DynamicScopes.parent?, there], parent⟩
  | inside there parent outward =>
      exact .inr ⟨_, _, by simp only [DynamicScopes.parent?, there], parent, outward⟩

/-- **The two chains go together**, step by step. -/
theorem ancestor (mirrors : table.Mirrors scope layout) {depth : Nat} {outer : StaticScope}
    (reached : layout.around? depth = some outer) :
    ∃ owner, table.ancestor? depth scope = some owner ∧ table.Mirrors owner outer := by
  induction depth generalizing scope layout with
  | zero => exact ⟨scope, rfl, Option.some.inj reached ▸ mirrors⟩
  | succ depth ih =>
      obtain ⟨above, parent, reached⟩ := Option.bind_eq_some_iff.1 reached
      rcases mirrors.parent? with ⟨-, none_⟩ | ⟨around, outer, stands, its, outward⟩
      · rw [none_] at parent
        cases parent
      · obtain rfl : outer = above := Option.some.inj (its.symm.trans parent)
        rw [ancestor?_succ, stands, Option.bind_some]
        exact ih outward reached

theorem at_ancestor (mirrors : table.Mirrors scope layout) {depth : Nat} {outer : StaticScope}
    {inner : ScopeRef} (reached : layout.around? depth = some outer)
    (stands : table.ancestor? depth scope = some inner) : table.Mirrors inner outer := by
  obtain ⟨_, stood, outward⟩ := mirrors.ancestor reached
  exact Option.some.inj (stood.symm.trans stands) ▸ outward

/-- No scope is met twice on the way out. -/
theorem depth_eq {owner : ScopeRef} {outer outer' : StaticScope}
    (stands : table.Mirrors owner outer) (stands' : table.Mirrors owner outer') {depth depth' : Nat}
    (reached : layout.around? depth = some outer)
    (reached' : layout.around? depth' = some outer') : depth = depth' := by
  obtain ⟨_, there⟩ := stands.layout_eq
  obtain ⟨_, there'⟩ := stands'.layout_eq
  obtain rfl : outer = outer' := by
    have same := Option.some.inj (there.symm.trans there')
    exact congrArg DynamicScope.layout same
  have length := layout.length_enclosing reached
  have length' := layout.length_enclosing reached'
  omega

theorem has (mirrors : table.Mirrors scope layout) : table.Has scope := by
  obtain ⟨_, there⟩ := mirrors.layout_eq
  exact (Array.getElem?_eq_some_iff.1 there).1

theorem valueAt_eq_none (mirrors : table.Mirrors scope layout) (offset : Nat) :
    table.valueAt scope offset = none := by
  obtain ⟨_, there⟩ := mirrors.layout_eq
  simp only [valueAt, there, Slots.read_empty]

/-- A declared variable has a slot from the start, so to write it makes none. -/
theorem slotCount?_setLocal (mirrors : table.Mirrors scope layout) {offset : Nat}
    (declared : offset < layout.locals.length) (value : Value) (other : ScopeRef) :
    (table.setLocal scope offset value).slotCount? other = table.slotCount? other := by
  obtain ⟨_, there⟩ := mirrors.layout_eq
  simp only [slotCount?, setLocal, Array.getElem?_modify]
  by_cases here : scope.index = other.index
  · rw [if_pos here, ← here, there]
    simp only [Option.map_some, Slots.size_write, Slots.empty, Array.size_replicate]
    rw [Nat.max_eq_left declared]
  · rw [if_neg here]

/-- The slot that the coordinates of a name lead to. -/
theorem set_eq (mirrors : table.Mirrors scope layout) {name : String} {depth offset : Nat}
    (addresses : layout.Addresses name depth offset) (value : Value) :
    ∃ owner outer, layout.around? depth = some outer ∧ offset < outer.locals.length ∧
      table.ancestor? depth scope = some owner ∧ table.Mirrors owner outer ∧
        ((LocalSite.create depth offset).set table scope value).1 =
          table.setLocal owner offset value := by
  obtain ⟨outer, there, its, -⟩ := addresses
  obtain ⟨owner, reached, stands⟩ := mirrors.ancestor there
  refine ⟨owner, outer, there, (List.getElem?_eq_some_iff.1 its).1, reached, stands, ?_⟩
  rw [LocalSite.set_fst]
  simp only [LocalSite.create, setValue, reached]

/-- **What is written under a name is read under that name**, wherever on the way out the two
are resolved with no other variable of the name between; and under no other name. -/
theorem get_set (mirrors : table.Mirrors scope layout) {steps steps' : Nat}
    {mid mid' : StaticScope} {inner inner' : ScopeRef}
    (reached : layout.around? steps = some mid)
    (stands : table.ancestor? steps scope = some inner)
    (reached' : layout.around? steps' = some mid')
    (stands' : table.ancestor? steps' scope = some inner')
    {name other : String} {depth offset depth' offset' : Nat}
    (addresses : mid.Addresses name depth offset)
    (addresses' : mid'.Addresses other depth' offset') (value : Value) :
    (LocalSite.create depth' offset').get
        ((LocalSite.create depth offset).set table inner value).1 inner' =
      if other = name ∧ steps ≤ steps' + depth' ∧ steps' ≤ steps + depth then some value
      else none := by
  obtain ⟨owner, outer, there, -, along, fresh, written⟩ :=
    (mirrors.at_ancestor reached stands).set_eq addresses value
  obtain ⟨owner', outer', there', -, along', fresh', -⟩ :=
    (mirrors.at_ancestor reached' stands').set_eq addresses' value
  have far := (layout.around?_add reached depth).trans there
  have far' := (layout.around?_add reached' depth').trans there'
  have same : (owner' = owner ∧ offset' = offset) ↔
      (other = name ∧ steps ≤ steps' + depth' ∧ steps' ≤ steps + depth) := by
    constructor
    · rintro ⟨rfl, rfl⟩
      have level : steps' + depth' = steps + depth := fresh'.depth_eq fresh far' far
      rw [level] at far'
      obtain rfl : outer' = outer := Option.some.inj (far'.symm.trans far)
      have named : other = name := Option.some.inj
        ((addresses'.getElem? there').symm.trans (addresses.getElem? there))
      exact ⟨named, by omega, by omega⟩
    · rintro ⟨rfl, near, near'⟩
      obtain ⟨level, rfl⟩ : steps' + depth' = steps + depth ∧ offset' = offset := by
        rcases Nat.le_total steps steps' with within | within
        · exact addresses.unhidden reached reached' addresses' within near'
        · obtain ⟨level, place⟩ := addresses'.unhidden reached' reached addresses within near
          exact ⟨level.symm, place.symm⟩
      rw [← table.ancestor?_add stands] at along
      rw [← table.ancestor?_add stands', level] at along'
      exact ⟨Option.some.inj (along'.symm.trans along), rfl⟩
  rw [LocalSite.get_eq_value, written, DynamicScopes.value, ancestor?_setLocal, along']
  simp only [valueAt_setLocal _ _ _ _ _ _ fresh.has, fresh'.valueAt_eq_none, same]

end Mirrors

end DynamicScopes

/-- **Names and slots.**  A name resolves to the nearest scope that declares it and its first
place there, to nothing if no scope around declares it, and never where another name does.
Every chain of scopes can be activated.  Among fresh activations a variable that is written
at the coordinates of its name makes no slot.  It is read at the coordinates of that name from
every scope of the chain with no other variable of the name between it and the write, and no
other name that is visible from a scope of the chain reads anything. -/
theorem StaticScope.locals_addressed (layout : StaticScope) :
    (∀ name depth offset,
        layout.resolve name = some (depth, offset) ↔ layout.Addresses name depth offset) ∧
      (∀ name, layout.resolve name = none ↔
        ∀ depth outer, layout.around? depth = some outer → name ∉ outer.locals) ∧
      (∀ name other place, layout.resolve name = some place → layout.resolve other = some place →
        name = other) ∧
      (∀ table : DynamicScopes,
        (table.activate layout).2.Mirrors (table.activate layout).1 layout) ∧
      ∀ table scope, DynamicScopes.Mirrors table scope layout →
        ∀ steps mid inner name depth offset value, layout.around? steps = some mid →
          table.ancestor? steps scope = some inner → mid.resolve name = some (depth, offset) →
            let after := ((LocalSite.create depth offset).set table inner value).1
            (∀ other, after.slotCount? other = table.slotCount? other) ∧
              ∀ steps' mid' inner' other depth' offset', layout.around? steps' = some mid' →
                table.ancestor? steps' scope = some inner' →
                  mid'.resolve other = some (depth', offset') →
                    (LocalSite.create depth' offset').get after inner' =
                      if other = name ∧ steps ≤ steps' + depth' ∧ steps' ≤ steps + depth
                      then some value else none := by
  refine ⟨fun name depth offset => resolve_eq_some_iff, fun name => resolve_eq_none_iff, ?_,
    fun table => table.mirrors_activate layout, ?_⟩
  · rintro name other ⟨depth, offset⟩ its its'
    exact (resolve_eq_some_iff.1 its).name_eq (resolve_eq_some_iff.1 its')
  · intro table scope mirrors steps mid inner name depth offset value reached stands its after
    have addresses := resolve_eq_some_iff.1 its
    refine ⟨fun other => ?_, ?_⟩
    · obtain ⟨owner, outer, -, declared, -, fresh, written⟩ :=
        (mirrors.at_ancestor reached stands).set_eq addresses value
      simp only [after, written]
      exact fresh.slotCount?_setLocal declared value other
    · intro steps' mid' inner' other depth' offset' reached' stands' its'
      exact mirrors.get_set reached stands reached' stands' addresses
        (resolve_eq_some_iff.1 its') value

/-- A block in a block in a method, with a name declared twice in one scope and a name that
is hidden by an inner one. -/
theorem StaticScope.locals_addressed_of_hidden :
    let method : StaticScope := { kind := .method, locals := ["a", "b", "a"] }
    let block : StaticScope := { kind := .block, locals := ["b"], parent := some method }
    let inmost : StaticScope := { kind := .block, locals := ["c", "c"], parent := some block }
    let (scope, table) := ({} : DynamicScopes).activate inmost
    let after := ((LocalSite.create 0 1).set table ⟨0⟩ (.int 1)).1
    method.resolve "b" = some (0, 1) ∧ after.slotCount? ⟨0⟩ = some 3 ∧
      (LocalSite.create 0 1).get after ⟨0⟩ = some (.int 1) ∧
        (LocalSite.create 1 0).get after scope = none ∧
          (LocalSite.create 2 0).get after scope = none := by
  intro method block inmost
  obtain ⟨-, -, -, activated, slots⟩ := locals_addressed inmost
  obtain ⟨count, reads⟩ :=
    slots _ _ (activated {}) 2 method ⟨0⟩ "b" 0 1 (.int 1) rfl rfl (by decide)
  refine ⟨by decide, count ⟨0⟩, ?_, ?_, ?_⟩
  · exact (reads 2 method ⟨0⟩ "b" 0 1 rfl rfl (by decide)).trans (if_pos (by decide))
  · exact (reads 0 inmost _ "b" 1 0 rfl rfl (by decide)).trans (if_neg (by decide))
  · exact (reads 0 inmost _ "a" 2 0 rfl rfl (by decide)).trans (if_neg (by decide))

end InlineCache
