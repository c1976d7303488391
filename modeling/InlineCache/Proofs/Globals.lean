/-
# InlineCache.Proofs.Globals -- globals, what guards them, and what sites keep of them

Every place that reads a global keeps its own copy of the value, under the switch point
that guarded the variable when it was read.  Each operation on the table of globals is
described here by what it does to two things: the value of every name, and the switch
point that guards it.

* `Globals.Guarded`: every variable has a switch point of its own, whatever is defined and
  revoked, so to revoke one leaves the copies of the others alone;
* `GlobalSite.fetched_get`: a read of a site without a valid copy goes to the variable, and
  the site reads directly from then on or keeps a copy of the value that was read;
* `GlobalSite.value_get`: so a read answers with the valid copy that is kept, or else with
  the value of the variable.
-/
import InlineCache.Global.Site

namespace InlineCache

set_option autoImplicit false

variable {Code : Type}

/-- Revoking leaves alone every switch point that was known, except the current one. -/
theorem Invalidator.isValid_invalidate_of_ne {owner : Invalidator} {points : SwitchPoints}
    {point : SwitchPoint} (known : point.index < points.points.size)
    (other : point ≠ owner.current) :
    (owner.invalidate points).2.isValid point = points.isValid point := by
  unfold Invalidator.invalidate
  split
  · split
    · dsimp only
      rw [SwitchPoints.isValid_flip, SwitchPoints.isValid_mint_of_lt _ known]
      simp [other]
    · dsimp only
      rw [SwitchPoints.isValid_flip]
      simp [other]
  · rfl

/-- What guards after revoking guarded before, or is new to the table. -/
theorem Invalidator.current_invalidate_or (owner : Invalidator) (points : SwitchPoints) :
    (owner.invalidate points).1.current = owner.current ∨
      (owner.invalidate points).1.current = ⟨points.points.size⟩ := by
  unfold Invalidator.invalidate
  split
  · split
    · exact .inr rfl
    · exact .inl rfl
  · exact .inl rfl

namespace Globals

variable {table : Globals Code} {points : SwitchPoints} {name other : String}
  {scope : GlobalScope} {token : SwitchPoint}

/-! ## Each operation on the table, seen through values and switch points -/

theorem define_of_some {variable_ : GlobalVariable Code}
    (there : NameMap.get? table name = some variable_) (scope : GlobalScope)
    (points : SwitchPoints) : table.define name scope points = (table, points) := by
  simp only [define, there]

theorem define_of_none (new : NameMap.get? table name = none) (scope : GlobalScope)
    (points : SwitchPoints) :
    table.define name scope points =
      (NameMap.insert table name
        { name, scope, invalidator := (Invalidator.create .global true points).1 },
      (points.mint 0).2) := by
  simp only [define, new, Invalidator.create]

theorem isSome_define (table : Globals Code) (name : String) (scope : GlobalScope)
    (points : SwitchPoints) :
    (NameMap.get? (table.define name scope points).1 name).isSome = true := by
  cases there : NameMap.get? table name with
  | some variable_ => rw [define_of_some there, there]; rfl
  | none => rw [define_of_none there, NameMap.get?_insert, if_pos rfl]; rfl

@[simp] theorem value_define (table : Globals Code) (name other : String) (scope : GlobalScope)
    (points : SwitchPoints) :
    (table.define name scope points).1.value other = table.value other := by
  cases there : NameMap.get? table name with
  | some variable_ => rw [define_of_some there]
  | none =>
      rw [define_of_none there]
      by_cases same : name = other
      · subst same
        simp [Globals.value, NameMap.get?_insert, there]
      · simp [Globals.value, NameMap.get?_insert, same]

/-- To make sure of names gives nothing a value. -/
theorem value_defineAll (names : List String) (table : Globals Code) (points : SwitchPoints)
    (other : String) :
    (Globals.defineAll names table points).1.value other = table.value other := by
  induction names generalizing table points with
  | nil => rfl
  | cons name rest ih =>
      have first : (table.mention name points).1.value other = table.value other :=
        table.value_define name other (defaultScope name) points
      simp only [Globals.defineAll, ih, first]

theorem ages_define (table : Globals Code) (name : String) (scope : GlobalScope)
    (points : SwitchPoints) : points.Ages (table.define name scope points).2 := by
  cases there : NameMap.get? table name with
  | some variable_ => rw [define_of_some there]; exact .refl points
  | none => rw [define_of_none there]; exact .mint points 0

/-- A definition flips nothing, and nothing known becomes valid by it. -/
theorem isValid_define (known : token.index < points.points.size) :
    (table.define name scope points).2.isValid token = points.isValid token := by
  cases there : NameMap.get? table name with
  | some variable_ => rw [define_of_some there]
  | none => rw [define_of_none there]; exact SwitchPoints.isValid_mint_of_lt 0 known

/-- A variable that is there keeps its switch point. -/
theorem switchPoint?_define (there : table.switchPoint? other = some token) :
    (table.define name scope points).1.switchPoint? other = some token := by
  cases found : NameMap.get? table name with
  | some variable_ => rw [define_of_some found, there]
  | none =>
      have different : name ≠ other := by
        rintro rfl
        simp [switchPoint?, found] at there
      rw [define_of_none found, switchPoint?, NameMap.get?_insert, if_neg different]
      exact there

/-- The one variable more that a definition makes is guarded by a new switch point. -/
theorem switchPoint?_of_define
    (there : (table.define name scope points).1.switchPoint? other = some token) :
    table.switchPoint? other = some token ∨
      (NameMap.get? table name = none ∧ other = name ∧ token = ⟨points.points.size⟩) := by
  cases found : NameMap.get? table name with
  | some variable_ =>
      rw [define_of_some found] at there
      exact .inl there
  | none =>
      rw [define_of_none found, switchPoint?, NameMap.get?_insert] at there
      split at there
      · rename_i same
        exact .inr ⟨rfl, same.symm, (Option.some.inj there).symm⟩
      · exact .inl there

theorem switchPoint?_modify (change : GlobalVariable Code → GlobalVariable Code)
    (keeps : ∀ its, (change its).invalidator = its.invalidator) (table : Globals Code)
    (name other : String) :
    Globals.switchPoint? (NameMap.modify table name change) other = table.switchPoint? other := by
  simp only [switchPoint?, NameMap.get?_modify]
  split
  · rw [Option.map_map]
    exact congrArg (Option.map · _) (funext fun its => by simp only [Function.comp, keeps])
  · rfl

theorem switchPoint?_assign (table : Globals Code) (name other : String) (value : Value) :
    (table.assign name value).switchPoint? other = table.switchPoint? other :=
  switchPoint?_modify (fun its => { its with value, writes := its.writes + 1 }) (fun _ => rfl)
    table name other

theorem value_modify (change : GlobalVariable Code → GlobalVariable Code)
    (keeps : ∀ its, (change its).value = its.value) (table : Globals Code) (name other : String) :
    Globals.value (NameMap.modify table name change) other = table.value other := by
  simp only [Globals.value, NameMap.get?_modify]
  by_cases same : name = other
  · rw [if_pos same]
    cases NameMap.get? table other with
    | none => rfl
    | some its => exact keeps its
  · rw [if_neg same]

@[simp] theorem value_invalidate (table : Globals Code) (name other : String)
    (points : SwitchPoints) : (table.invalidate name points).1.value other = table.value other := by
  cases there : NameMap.get? table name with
  | none => simp only [invalidate, there]
  | some variable_ =>
      simp only [invalidate, there]
      exact value_modify
        (fun its => { its with invalidator := (variable_.invalidator.invalidate points).1 })
        (fun _ => rfl) table name other

theorem switchPoint?_invalidate_of_ne (different : name ≠ other) :
    (table.invalidate name points).1.switchPoint? other = table.switchPoint? other := by
  unfold invalidate
  split
  · simp only [switchPoint?, NameMap.get?_modify, different, if_false]
  · rfl

/-- What guards a variable that was revoked is the switch point it had, or a new one. -/
theorem switchPoint?_of_invalidate
    (there : (table.invalidate name points).1.switchPoint? name = some token) :
    table.switchPoint? name = some token ∨ token = ⟨points.points.size⟩ := by
  unfold invalidate at there
  split at there
  · rename_i variable_ found
    simp only [switchPoint?, NameMap.get?_modify, if_true, found, Option.map_some,
      Option.some.injEq] at there ⊢
    rw [← there]
    exact (variable_.invalidator.current_invalidate_or points).imp_left Eq.symm
  · exact .inl there

theorem ages_invalidate (table : Globals Code) (name : String) (points : SwitchPoints) :
    points.Ages (table.invalidate name points).2 := by
  unfold invalidate
  split
  · exact Invalidator.ages_invalidate _ points
  · exact .refl points

/-- **To revoke a variable flips the switch point that guarded it.** -/
theorem invalidate_flips (there : table.switchPoint? name = some token) :
    (table.invalidate name points).2.isValid token = false := by
  obtain ⟨variable_, found, rfl⟩ := Option.map_eq_some_iff.1 there
  simp only [invalidate, found]
  exact Invalidator.invalidate_flips _ points

theorem isValid_invalidate_of_ne (known : token.index < points.points.size)
    (other : table.switchPoint? name ≠ some token) :
    (table.invalidate name points).2.isValid token = points.isValid token := by
  unfold invalidate
  split
  · rename_i variable_ found
    refine Invalidator.isValid_invalidate_of_ne known ?_
    rintro rfl
    exact other (by simp [switchPoint?, found])
  · rfl

/-- What guards after a variable was revoked is in the table. -/
theorem lt_size_of_invalidate
    (known : ∀ {token}, table.switchPoint? name = some token → token.index < points.points.size)
    (there : (table.invalidate name points).1.switchPoint? name = some token) :
    token.index < (table.invalidate name points).2.points.size := by
  unfold invalidate at there ⊢
  split at there
  · rename_i variable_ found
    simp only [switchPoint?, NameMap.get?_modify, if_true, found, Option.map_some,
      Option.some.injEq] at there
    rw [← there]
    exact Invalidator.lt_size_invalidate (known (by simp [switchPoint?, found]))
  · rename_i none_
    simp [switchPoint?, none_] at there

/-! ## Every variable has a switch point of its own -/

/-- Every variable is guarded by a switch point of the table, and no two by the same. -/
structure Guarded (table : Globals Code) (points : SwitchPoints) : Prop where
  known : ∀ {name : String} {token : SwitchPoint}, table.switchPoint? name = some token →
    token.index < points.points.size
  apart : ∀ {name other : String} {token : SwitchPoint}, table.switchPoint? name = some token →
    table.switchPoint? other = some token → name = other

namespace Guarded

/-- Only switch points matter, and more of them do no harm. -/
theorem of_switchPoint? (guarded : table.Guarded points) {after : Globals Code}
    {later : SwitchPoints} (same : ∀ name, after.switchPoint? name = table.switchPoint? name)
    (grows : points.points.size ≤ later.points.size) : after.Guarded later where
  known there := Nat.lt_of_lt_of_le (guarded.known ((same _).symm.trans there)) grows
  apart there found := guarded.apart ((same _).symm.trans there) ((same _).symm.trans found)

theorem define (guarded : table.Guarded points) (name : String) (scope : GlobalScope) :
    (table.define name scope points).1.Guarded (table.define name scope points).2 := by
  have grows := (table.ages_define name scope points).grows
  have fresh : ∀ {other : String}, table.switchPoint? other ≠ some ⟨points.points.size⟩ := by
    intro other there
    exact Nat.lt_irrefl _ (guarded.known there)
  refine ⟨fun {other token} there => ?_, fun {other other' token} there found => ?_⟩
  · rcases switchPoint?_of_define there with old | ⟨new, rfl, rfl⟩
    · exact Nat.lt_of_lt_of_le (guarded.known old) grows
    · rw [define_of_none new]
      simp
  · rcases switchPoint?_of_define there with old | ⟨-, rfl, rfl⟩
    · rcases switchPoint?_of_define found with old' | ⟨-, rfl, rfl⟩
      · exact guarded.apart old old'
      · exact absurd old fresh
    · rcases switchPoint?_of_define found with old' | ⟨-, rfl, -⟩
      · exact absurd old' fresh
      · rfl

theorem invalidate (guarded : table.Guarded points) (name : String) :
    (table.invalidate name points).1.Guarded (table.invalidate name points).2 := by
  have grows := (table.ages_invalidate name points).grows
  have fresh : ∀ {other : String}, table.switchPoint? other ≠ some ⟨points.points.size⟩ := by
    intro other there
    exact Nat.lt_irrefl _ (guarded.known there)
  -- the switch point of another variable is one it had, so not that of the one revoked
  have elsewhere : ∀ {other : String} {token : SwitchPoint}, name ≠ other →
      (table.invalidate name points).1.switchPoint? name = some token →
        (table.invalidate name points).1.switchPoint? other ≠ some token := by
    intro other token different there found
    rw [switchPoint?_invalidate_of_ne different] at found
    rcases switchPoint?_of_invalidate there with old | rfl
    · exact different (guarded.apart old found)
    · exact fresh found
  refine ⟨fun {other token} there => ?_, fun {other other' token} there found => ?_⟩
  · by_cases same : name = other
    · subst same
      exact lt_size_of_invalidate guarded.known there
    · rw [switchPoint?_invalidate_of_ne same] at there
      exact Nat.lt_of_lt_of_le (guarded.known there) grows
  · by_cases same : name = other
    · subst same
      by_cases same' : name = other'
      · exact same'
      · exact absurd found (elsewhere same' there)
    · by_cases same' : name = other'
      · subst same'
        exact absurd there (elsewhere same found)
      · rw [switchPoint?_invalidate_of_ne same] at there
        rw [switchPoint?_invalidate_of_ne same'] at found
        exact guarded.apart there found

theorem nil (points : SwitchPoints) : Guarded ([] : Globals Code) points where
  known there := by cases there
  apart there := by cases there

theorem defineAll (guarded : table.Guarded points) (names : List String) :
    (Globals.defineAll names table points).1.Guarded (Globals.defineAll names table points).2 := by
  induction names generalizing table points with
  | nil => exact guarded
  | cons name rest ih => exact ih (guarded.define name (defaultScope name))

end Guarded

end Globals

/-! ## What a read answers, and what it leaves -/

namespace GlobalSite

/-- The copy that a site keeps under a valid switch point. -/
def held? (site : GlobalSite) (points : SwitchPoints) : Option Value :=
  match site.read.load with
  | .cached token value => if points.isValid token then some value else none
  | _ => none

theorem held?_eq_some_iff {site : GlobalSite} {points : SwitchPoints} {value : Value} :
    site.held? points = some value ↔
      ∃ token, site.read.load = .cached token value ∧ points.isValid token = true := by
  unfold held?
  cases site.read.load with
  | unlinked => simp
  | uncached => simp
  | cached token kept =>
      constructor
      · intro held
        dsimp only at held
        by_cases valid : points.isValid token = true
        · rw [if_pos valid] at held
          exact ⟨token, by rw [Option.some.inj held], valid⟩
        · rw [if_neg valid] at held
          cases held
      · rintro ⟨_, same, valid⟩
        cases same
        exact if_pos valid

/-- Only the validity of the switch point it keeps matters to a site. -/
theorem held?_congr {site : GlobalSite} {points later : SwitchPoints}
    (same : ∀ {token value}, site.read.load = .cached token value →
      later.isValid token = points.isValid token) : site.held? later = site.held? points := by
  unfold held?
  cases kept : site.read.load with
  | cached token value => simp only [same kept]
  | unlinked => rfl
  | uncached => rfl

variable {site : GlobalSite} {globals : Globals Code} {points : SwitchPoints}

/-- A site that keeps a valid copy answers with it, and nothing changes. -/
theorem get_of_held {value : Value} (held : site.held? points = some value) (options : Options)
    (globals : Globals Code) :
    site.get options globals points = { value, site, globals, points } := by
  obtain ⟨token, kept, valid⟩ := held?_eq_some_iff.1 held
  simp only [get, kept, valid, if_true]

/-- A read that goes to the variable: what it answers, and what the site may answer from
next time. -/
structure Fetched (site : GlobalSite) (globals : Globals Code) (points : SwitchPoints)
    (after : ReadResult Code) : Prop where
  value : after.value = globals.value site.name
  name : after.site.name = site.name
  table : (after.globals, after.points) = (globals, points) ∨
    (after.globals, after.points) = globals.mention site.name points
  read : after.site.read.load = .uncached ∨
    ∃ token, after.globals.switchPoint? site.name = some token ∧
      after.site.read.load = .cached token (globals.value site.name)

namespace Fetched

variable {after : ReadResult Code}

/-- To go to the variable gives no variable another value. -/
theorem value_globals (fetched : Fetched site globals points after) (name : String) :
    after.globals.value name = globals.value name := by
  rcases fetched.table with same | mentioned
  · rw [(Prod.mk.inj same).1]
  · rw [show after.globals = _ from congrArg Prod.fst mentioned]
    exact globals.value_define _ _ _ _

theorem ages (fetched : Fetched site globals points after) : points.Ages after.points := by
  rcases fetched.table with same | mentioned
  · rw [(Prod.mk.inj same).2]
    exact .refl points
  · rw [show after.points = _ from congrArg Prod.snd mentioned]
    exact globals.ages_define _ _ points

theorem isValid (fetched : Fetched site globals points after) {token : SwitchPoint}
    (known : token.index < points.points.size) :
    after.points.isValid token = points.isValid token := by
  rcases fetched.table with same | mentioned
  · rw [(Prod.mk.inj same).2]
  · rw [show after.points = _ from congrArg Prod.snd mentioned]
    exact Globals.isValid_define known

theorem switchPoint? (fetched : Fetched site globals points after) {name : String}
    {token : SwitchPoint} (there : globals.switchPoint? name = some token) :
    after.globals.switchPoint? name = some token := by
  rcases fetched.table with same | mentioned
  · rw [(Prod.mk.inj same).1]
    exact there
  · rw [show after.globals = _ from congrArg Prod.fst mentioned]
    exact Globals.switchPoint?_define there

theorem guarded (fetched : Fetched site globals points after)
    (guarded : globals.Guarded points) : after.globals.Guarded after.points := by
  rcases fetched.table with same | mentioned
  · rw [(Prod.mk.inj same).1, (Prod.mk.inj same).2]
    exact guarded
  · rw [show after.globals = _ from congrArg Prod.fst mentioned,
      show after.points = _ from congrArg Prod.snd mentioned]
    exact guarded.define _ _

end Fetched

theorem fetched_relink (site : GlobalSite) (options : Options) (globals : Globals Code)
    (points : SwitchPoints) :
    Fetched site globals points (site.relink options globals points) := by
  obtain ⟨variable_, there⟩ := Option.isSome_iff_exists.1
    (globals.isSome_define site.name (defaultScope site.name) points)
  have same : (globals.define site.name (defaultScope site.name) points).1.value site.name =
      globals.value site.name := globals.value_define _ _ _ _
  have stored : variable_.value = globals.value site.name := by
    rw [← same]
    simp only [Globals.value, there]
  -- whatever is counted at the site, it reads directly or keeps a copy from now on
  have direct : ∀ (counted : GlobalSite) (log : List LogLine), counted.name = site.name →
      Fetched site globals points (counted.demote
        (globals.define site.name (defaultScope site.name) points).1
        (globals.define site.name (defaultScope site.name) points).2 log) := by
    intro counted log name
    refine ⟨?_, name, .inr rfl, .inl rfl⟩
    rw [value_demote, name, same]
  have copies : ∀ (counted : GlobalSite) (log : List LogLine), counted.name = site.name →
      Fetched site globals points
        { value := variable_.value
          site := { counted with
            read := counted.read.store (.cached variable_.invalidator.current variable_.value) }
          globals := (globals.define site.name (defaultScope site.name) points).1
          points := (globals.define site.name (defaultScope site.name) points).2
          log } := by
    intro counted log name
    refine ⟨stored, name, .inr rfl, .inr ⟨variable_.invalidator.current, ?_, ?_⟩⟩
    · simp only [Globals.switchPoint?, there, Option.map_some]
    · rw [← stored]
      rfl
  simp only [relink, Globals.mention, there]
  by_cases plain : variable_.isCacheable = true
  · rw [if_neg (by simp [plain])]
    cases site.read.load with
    | unlinked => exact copies site _ rfl
    | uncached => exact copies site _ rfl
    | cached token value =>
        by_cases spent : options.globalMaxFail < site.failures + 1
        · simp only [Bool.true_and, if_true, decide_eq_true_eq, spent]
          exact direct _ _ rfl
        · simp only [Bool.true_and, if_true, decide_eq_true_eq, spent, if_false]
          exact copies { site with failures := site.failures + 1 } _ rfl
  · rw [if_pos (by simp [plain])]
    exact direct site _ rfl

/-- **A read without a valid copy goes to the variable.** -/
theorem fetched_get (none_ : site.held? points = none) (options : Options)
    (globals : Globals Code) : Fetched site globals points (site.get options globals points) := by
  unfold held? at none_
  cases kept : site.read.load with
  | cached token value =>
      have flipped : ¬ points.isValid token = true := by
        intro valid
        simp [kept, valid] at none_
      simp only [get, kept, if_neg flipped]
      exact site.fetched_relink options globals points
  | unlinked =>
      simp only [get, kept]
      exact site.fetched_relink options globals points
  | uncached =>
      simp only [get, kept]
      exact ⟨rfl, rfl, .inl rfl, .inl kept⟩

/-- **What a read answers**: the copy that is kept under a valid switch point, or else the
value of the variable. -/
theorem value_get (site : GlobalSite) (options : Options) (globals : Globals Code)
    (points : SwitchPoints) :
    (site.get options globals points).value =
      (site.held? points).getD (globals.value site.name) := by
  cases held : site.held? points with
  | some value =>
      rw [get_of_held held]
      rfl
  | none => exact (fetched_get held options globals).value

end GlobalSite

end InlineCache
