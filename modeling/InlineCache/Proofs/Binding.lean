/-
# InlineCache.Proofs.Binding -- what a site binds, and when that is still right

A binding is *coherent* (`World.Coherent`) when to bind the site for the type again would
give the same binding and lay out nothing.  `bind_spec`: what a site binds is
coherent at that moment.  `Coherent.of_agree`: it stays so as long as everything the
lookups of the type rest on stays.

`link_spec` says what a link leaves behind: a world that has at most logged something and
laid out a variable, and a chain with entries that were there and at most one more.
-/
import InlineCache.Proofs.Agreement
import InlineCache.Send.Site

namespace InlineCache

set_option autoImplicit false

/-- The site as the program spells it. -/
def CallSite.declared {Code : Type} (site : CallSite Code) : CallSite Code :=
  { site with target := .create .link, failures := 0, links := 0 }

theorem CallSite.spelling_of_declared {Code : Type} {site other : CallSite Code}
    (same : other.declared = site.declared) :
    other.name = site.name ∧ other.shape = site.shape ∧ other.callType = site.callType :=
  ⟨(congrArg CallSite.name same :), (congrArg CallSite.shape same :),
    (congrArg CallSite.callType same :)⟩

namespace Invoker

variable {Code : Type}

def body? : Invoker Code → Option (CompiledMethod Code)
  | compiledEntry method _ | compiledChecked method => some method
  | _ => none

/-- The accessor that an invoker reads or writes through. -/
def accessor? : Invoker Code → Option VariableAccessor
  | readVariable accessor | writeVariable accessor => some accessor
  | _ => none

end Invoker

namespace Types

variable {Code : Type} {table after : Types Code} {type : TypeRef}

/-! ## Building an invoker -/

/-- Building an invoker lays out one variable at most. -/
theorem specialize_snd (table : Types Code) (options : Options) (shape : CallShape)
    (type : TypeRef) (method : Method Code) :
    (table.specialize options shape type method).2 = table ∨
      ∃ name, (table.specialize options shape type method).2 =
        (table.accessorForWrite type name).2 := by
  unfold specialize
  split
  case h_5 name _ | h_6 name _ =>
    split
    · exact .inr ⟨name, rfl⟩
    · exact .inl rfl
  all_goals exact .inl rfl

/-- **To build it again gives the same invoker and lays out nothing.** -/
theorem specialize_again (table : Types Code) (options : Options) (shape : CallShape)
    (type : TypeRef) (method : Method Code) :
    (table.specialize options shape type method).2.specialize options shape type method =
      table.specialize options shape type method := by
  unfold specialize
  cases method.implementation with
  | attrReader name =>
      by_cases bound : options.attrBinding ∧ shape.argCount = 0 ∧ ¬ shape.hasBlock
      · simp only [if_pos bound, table.accessorForWrite_again]
      · simp only [if_neg bound]
  | attrWriter name =>
      by_cases bound : options.attrBinding ∧ shape.argCount = 1 ∧ ¬ shape.hasBlock
      · simp only [if_pos bound, table.accessorForWrite_again]
      · simp only [if_neg bound]
  | _ => rfl

theorem settled_of_accessorForWrite {name : String}
    (same : (table.accessorForWrite type name).2 = table) : table.Settled type name := by
  have laid := table.settled_accessorForWrite type name
  rwa [same] at laid

/-- An invoker that was built without laying out anything is still the one to build. -/
theorem Agree.specialize (agree : Agree type table after) {options : Options} {shape : CallShape}
    {method : Method Code} (holds : (table.methodTables type).Holds method)
    {invoker : Option (Invoker Code)}
    (fixed : table.specialize options shape type method = (invoker, table)) :
    after.specialize options shape type method = (invoker, after) := by
  have place : ∀ name, (table.accessorForWrite type name).2 = table →
      after.accessorForWrite type name = ((table.accessorForWrite type name).1, after) := by
    intro name same
    have settled := settled_of_accessorForWrite same
    rw [accessorForWrite_of_settled settled, accessorForWrite_of_settled (agree.settled settled),
      agree.place settled]
  unfold Types.specialize at fixed ⊢
  cases kind : method.implementation with
  | attrReader name =>
      simp only [kind] at fixed ⊢
      split at fixed
      · obtain ⟨rfl, same⟩ := Prod.mk.inj fixed
        rw [if_pos ‹_›, place name same]
      · obtain ⟨rfl, _⟩ := Prod.mk.inj fixed
        rw [if_neg ‹_›]
  | attrWriter name =>
      simp only [kind] at fixed ⊢
      split at fixed
      · obtain ⟨rfl, same⟩ := Prod.mk.inj fixed
        rw [if_pos ‹_›, place name same]
      · obtain ⟨rfl, _⟩ := Prod.mk.inj fixed
        rw [if_neg ‹_›]
  | mixed interpreted =>
      simp only [kind] at fixed ⊢
      obtain ⟨rfl, _⟩ := Prod.mk.inj fixed
      rw [agree.promoted holds]
  | _ =>
      simp only [kind] at fixed ⊢
      obtain ⟨rfl, _⟩ := Prod.mk.inj fixed
      rfl

/-- The compiled body that a method runs now. -/
def compiledBody? (table : Types Code) (method : Method Code) : Option (CompiledMethod Code) :=
  match method.implementation with
  | .compiled body => some body
  | .mixed interpreted => some (table.activeBody method interpreted)
  | _ => none

theorem Bodies.compiledBody {proper : CompiledMethod Code → Prop} (bodies : table.Bodies proper)
    {name : String} {method : Method Code} (stands : table.ownMethod? type name = some method)
    {body : CompiledMethod Code} (runs : table.compiledBody? method = some body) : proper body := by
  unfold compiledBody? at runs
  split at runs
  · rename_i kind
    cases runs
    exact bodies.defined stands (by rw [kind]; rfl)
  · rename_i interpreted kind
    cases runs
    unfold activeBody
    cases promoted : table.promoted? method with
    | none => exact bodies.defined stands (by rw [kind]; rfl)
    | some body =>
        obtain ⟨earlier, later, same, _⟩ := List.lookup_eq_some_iff.1 promoted
        have member : (method.serial, body) ∈ table.promoted := by simp [same]
        exact bodies.promoted member
  · cases runs

/-- **The invokers that suit a method**: the generic convention, and for each kind of
method those that may be built for the shape. -/
inductive Suits (table : Types Code) (shape : CallShape) (type : TypeRef) (method : Method Code) :
    Invoker Code → Prop where
  | generic : Suits table shape type method .generic
  | native {native : NativeMethod Code} (kind : method.implementation = .native native)
      (fixed : 0 ≤ shape.argCount)
      (accepted : native.signature.checkShape shape.argCount = .accepted) :
      Suits table shape type method (.native native)
  | nativeList {native : NativeMethod Code} (kind : method.implementation = .native native) :
      Suits table shape type method (.nativeList native)
  | handleEntry {handle : HandleMethod Code} {entry : Code}
      (kind : method.implementation = .handle handle) (fixed : 0 ≤ shape.argCount)
      (chosen : EntryTable.get? handle.handles shape.argCount.toNat = some entry) :
      Suits table shape type method (.handleEntry entry)
  | handleTable {handle : HandleMethod Code} (kind : method.implementation = .handle handle) :
      Suits table shape type method (.handleTable handle)
  | compiledEntry {body : CompiledMethod Code} (runs : table.compiledBody? method = some body)
      (accepted : body.signature.checkShape shape.argCount = .accepted) :
      Suits table shape type method
        (.compiledEntry body
          ((EntryTable.get? body.specific shape.argCount.toNat).getD body.entry))
  | compiledChecked {body : CompiledMethod Code} (runs : table.compiledBody? method = some body) :
      Suits table shape type method (.compiledChecked body)
  | readVariable {name : String} (kind : method.implementation = .attrReader name)
      (count : shape.argCount = 0) (settled : table.Settled type name) :
      Suits table shape type method (.readVariable (table.accessorForRead type name))
  | writeVariable {name : String} (kind : method.implementation = .attrWriter name)
      (count : shape.argCount = 1) (settled : table.Settled type name) :
      Suits table shape type method (.writeVariable (table.accessorForRead type name))

namespace Suits

variable {shape : CallShape} {method : Method Code} {invoker : Invoker Code}

theorem of_native {native : NativeMethod Code} (kind : method.implementation = .native native)
    (built : Invoker.ofNative? shape native = some invoker) :
    Suits table shape type method invoker := by
  unfold Invoker.ofNative? at built
  split at built
  · cases built
  · split at built
    · rename_i fits
      cases built
      exact .native kind (fits.2.1 ▸ fits.1) fits.2.2
    · split at built <;> cases built
      exact .nativeList kind

theorem of_handle {handle : HandleMethod Code} (kind : method.implementation = .handle handle)
    (built : Invoker.ofHandle? shape handle = some invoker) :
    Suits table shape type method invoker := by
  unfold Invoker.ofHandle? at built
  dsimp only at built
  split at built
  · rename_i entry specific
    cases built
    split at specific
    · exact .handleEntry kind ‹_› specific
    · cases specific
  · split at built <;> cases built
    exact .handleTable kind

theorem of_compiled {body : CompiledMethod Code} (runs : table.compiledBody? method = some body) :
    Suits table shape type method (.ofCompiled shape body) := by
  unfold Invoker.ofCompiled
  split
  · exact .compiledEntry runs ‹_›
  · exact .compiledChecked runs

theorem of_specialize {options : Options}
    (fixed : table.specialize options shape type method = (some invoker, table)) :
    Suits table shape type method invoker := by
  unfold specialize at fixed
  cases kind : method.implementation with
  | native native =>
      simp only [kind, Prod.mk.injEq, and_true] at fixed
      split at fixed
      · exact .of_native kind fixed
      · cases fixed
  | handle handle =>
      simp only [kind, Prod.mk.injEq, and_true] at fixed
      split at fixed
      · exact .of_handle kind fixed
      · cases fixed
  | compiled body =>
      simp only [kind, Prod.mk.injEq, and_true] at fixed
      split at fixed <;> cases fixed
      exact .of_compiled (by rw [compiledBody?, kind])
  | mixed interpreted =>
      simp only [kind, Prod.mk.injEq, and_true] at fixed
      split at fixed
      · obtain ⟨body, promoted, rfl⟩ := Option.map_eq_some_iff.1 fixed
        refine .of_compiled ?_
        simp only [compiledBody?, kind, activeBody, promoted, Option.getD_some]
      · cases fixed
  | attrReader name =>
      simp only [kind] at fixed
      split at fixed
      · rename_i bound
        obtain ⟨built, same⟩ := Prod.mk.inj fixed
        cases built
        have settled := settled_of_accessorForWrite same
        rw [accessorForWrite_of_settled settled]
        exact .readVariable kind bound.2.1 settled
      · cases fixed
  | attrWriter name =>
      simp only [kind] at fixed
      split at fixed
      · rename_i bound
        obtain ⟨built, same⟩ := Prod.mk.inj fixed
        cases built
        have settled := settled_of_accessorForWrite same
        rw [accessorForWrite_of_settled settled]
        exact .writeVariable kind bound.2.1 settled
      · cases fixed
  | undefined => simp [kind] at fixed

/-- What runs a compiled body runs the one that the method runs now. -/
theorem body_eq (suits : Suits table shape type method invoker) {body : CompiledMethod Code}
    (runs : invoker.body? = some body) : table.compiledBody? method = some body := by
  cases suits with
  | compiledEntry its _ | compiledChecked its => exact its.trans runs
  | _ => cases runs

/-- What goes through an accessor is an attribute's, and the accessor is the place of its
variable. -/
theorem accessor_eq (suits : Suits table shape type method invoker) {accessor : VariableAccessor}
    (through : invoker.accessor? = some accessor) :
    ∃ name, (method.implementation = .attrReader name ∨ method.implementation = .attrWriter name) ∧
      table.Settled type name ∧ accessor = table.accessorForRead type name := by
  cases suits with
  | readVariable kind _ settled => exact ⟨_, .inl kind, settled, (Option.some.inj through).symm⟩
  | writeVariable kind _ settled => exact ⟨_, .inr kind, settled, (Option.some.inj through).symm⟩
  | _ => cases through

end Suits

theorem holds_of_lookup {rule : LookupRule Code} {name : String} {entry : CacheEntry Code}
    (found : (table.lookup rule type name).found? = some entry) :
    (table.methodTables type).Holds entry.method := by
  rw [found?_lookup] at found
  obtain ⟨_, resolved, rfl⟩ := Option.map_eq_some_iff.1 found
  exact rule.stands resolved

/-- Tables that agree on a type answer its lookups alike. -/
theorem Agree.lookup (agree : Agree type table after) (rule : LookupRule Code) (name : String) :
    after.lookup rule type name = table.lookup rule type name := by
  simp only [Types.lookup, resolve?, agree.tables, agree.point]

end Types

namespace World

variable {Code Host : Type} {world after : World Code Host} {site : CallSite Code}
  {type : TypeRef} {bound : BoundThunk Code}

theorem resolveSend_eq_callable {name : String} {callType : CallType} {entry : CacheEntry Code}
    (resolved : world.resolveSend type name callType = .callable entry) :
    (world.lookup type name).found? = some entry := by
  simp only [resolveSend] at resolved
  split at resolved
  · split at resolved
    · cases resolved
      assumption
    · cases resolved
  · cases resolved

/-- **A binding is coherent** when to bind the site for the type now would give it, and
would lay out nothing. -/
def Coherent (world : World Code Host) (site : CallSite Code) (type : TypeRef)
    (bound : BoundThunk Code) : Prop :=
  match world.resolveSend type site.name site.callType with
  | .callable entry =>
      ∃ invoker, world.types.specialize world.options site.shape type entry.method =
          (invoker, world.types) ∧
        bound = { name := site.name, entry, invoker := invoker.getD .generic }
  | .missing reason (some handler) => bound = .missing site.name reason handler
  | .missing _ none => False

/-- A coherent binding of a method is of the method that is found, and is run as suits. -/
theorem Coherent.callable (coherent : world.Coherent site type bound) {entry : CacheEntry Code}
    (resolved : world.resolveSend type site.name site.callType = .callable entry) :
    bound.name = site.name ∧ bound.entry = entry ∧
      Types.Suits world.types site.shape type entry.method bound.invoker := by
  simp only [Coherent, resolved] at coherent
  obtain ⟨_ | invoker, fixed, rfl⟩ := coherent
  · exact ⟨rfl, rfl, .generic⟩
  · exact ⟨rfl, rfl, .of_specialize fixed⟩

/-- A coherent binding of a missing method is of the handler that is found. -/
theorem Coherent.missing (coherent : world.Coherent site type bound) {reason : MissingReason}
    {handler? : Option (CacheEntry Code)}
    (resolved : world.resolveSend type site.name site.callType = .missing reason handler?) :
    ∃ handler, handler? = some handler ∧ bound = .missing site.name reason handler := by
  simp only [Coherent, resolved] at coherent
  cases handler? with
  | none => exact coherent.elim
  | some handler => exact ⟨handler, rfl, coherent⟩

theorem Coherent.of_declared {other : CallSite Code} (coherent : world.Coherent site type bound)
    (same : other.declared = site.declared) : world.Coherent other type bound := by
  obtain ⟨name, shape, callType⟩ := CallSite.spelling_of_declared same
  simpa only [Coherent, name, shape, callType] using coherent

/-- A binding stays right as long as what the lookups of its type rest on stays. -/
theorem Coherent.of_agree (coherent : world.Coherent site type bound)
    (agree : Types.Agree type world.types after.types) (options : after.options = world.options)
    (rule : after.rule = world.rule) : after.Coherent site type bound := by
  have resolved : after.resolveSend type site.name site.callType =
      world.resolveSend type site.name site.callType := by
    simp only [resolveSend, lookup, rule, agree.lookup]
  simp only [Coherent, resolved, options] at coherent ⊢
  cases found : world.resolveSend type site.name site.callType with
  | callable entry =>
      simp only [found] at coherent ⊢
      obtain ⟨invoker, fixed, same⟩ := coherent
      have holds := Types.holds_of_lookup (resolveSend_eq_callable found)
      exact ⟨invoker, agree.specialize holds fixed, same⟩
  | missing reason handler =>
      simp only [found] at coherent ⊢
      cases handler <;> exact coherent

/-- The number of a type is what counts. -/
theorem Coherent.of_id_eq {other : TypeRef} (coherent : world.Coherent site type bound)
    (same : other.id = type.id) : world.Coherent site other bound := by
  have there : ∀ table : Types Code, table.get? other = table.get? type :=
    fun table => Types.get?_of_id_eq table same
  simpa only [Coherent, resolveSend, lookup, Types.lookup, Types.resolve?, Types.methodTables,
    Types.lineage, Types.switchPoint, Types.specialize, Types.accessorForWrite, Types.modify,
    there, same] using coherent

/-! ## Linking -/

/-- Something was logged, and perhaps a variable laid out. -/
inductive LaysOut (world : World Code Host) : World Code Host → Prop where
  | nothing (log : Array LogLine) : LaysOut world { world with log }
  | name (type : TypeRef) (name : String) (log : Array LogLine) :
      LaysOut world { (world.accessorForWrite type name).2 with log }

namespace LaysOut

theorem refl (world : World Code Host) : LaysOut world world := .nothing world.log

theorem sayBinding (lays : LaysOut world after) (text : String) :
    LaysOut world (after.sayBinding text) := by
  unfold World.sayBinding
  split
  · cases lays with
    | nothing log => exact .nothing _
    | name type name log => exact .name type name _
  · exact lays

theorem sayBinding_if (lays : LaysOut world after) (full : Prop) [Decidable full]
    (text : String) : LaysOut world (if full then after.sayBinding text else after) := by
  split
  · exact lays.sayBinding text
  · exact lays

theorem specialize (world : World Code Host) (options : Options) (name : String)
    (shape : CallShape) (type : TypeRef) (entry : CacheEntry Code) :
    LaysOut world (world.specialize options name shape type entry).2 := by
  have types : (world.specialize options name shape type entry).2 = { world with
      types := (world.types.specialize options shape type entry.method).2 } := rfl
  rw [types]
  rcases world.types.specialize_snd options shape type entry.method with same | ⟨variable_, same⟩
  · rw [same]
    exact .refl world
  · rw [same]
    exact .name type variable_ world.log

theorem agree (lays : LaysOut world after) (type : TypeRef) :
    Types.Agree type world.types after.types := by
  cases lays with
  | nothing log => exact .refl type world.types
  | name target name log => exact Types.agree_accessorForWrite world.types type target name

theorem unlaid (lays : LaysOut world after) : after.types.unlaid = world.types.unlaid := by
  cases lays with
  | nothing log => rfl
  | name type name log => exact world.types.unlaid_accessorForWrite type name

theorem options (lays : LaysOut world after) : after.options = world.options := by
  cases lays <;> rfl

theorem rule (lays : LaysOut world after) : after.rule = world.rule := by
  cases lays <;> rfl

theorem points (lays : LaysOut world after) : after.points = world.points := by
  cases lays <;> rfl

theorem sites (lays : LaysOut world after) : after.sites = world.sites := by
  cases lays <;> rfl

end LaysOut

theorem Coherent.sayBinding (coherent : world.Coherent site type bound) (text : String) :
    (world.sayBinding text).Coherent site type bound := by
  have lays := (LaysOut.refl world).sayBinding text
  exact coherent.of_agree (lays.agree type) lays.options lays.rule

theorem Coherent.sayBinding_if (coherent : world.Coherent site type bound) (full : Prop)
    [Decidable full] (text : String) :
    (if full then world.sayBinding text else world).Coherent site type bound := by
  split
  · exact coherent.sayBinding text
  · exact coherent

theorem coherent_specialize {entry : CacheEntry Code}
    (resolved : world.resolveSend type site.name site.callType = .callable entry) :
    (world.specialize world.options site.name site.shape type entry).2.Coherent site type
      ((world.specialize world.options site.name site.shape type entry).1.getD
        (.generic site.name entry)) := by
  have lays := LaysOut.specialize world world.options site.name site.shape type entry
  -- the lookup is answered after the layout as it was before
  have still : (world.specialize world.options site.name site.shape type entry).2.resolveSend
      type site.name site.callType = .callable entry := by
    rw [← resolved]
    simp only [resolveSend, lookup, lays.rule, (lays.agree type).lookup]
  have built : ∀ invoker? : Option (Invoker Code),
      (invoker?.map fun invoker => BoundThunk.mk site.name entry invoker).getD
        (.generic site.name entry) = ⟨site.name, entry, invoker?.getD .generic⟩ := by
    intro invoker?
    cases invoker? <;> rfl
  simp only [Coherent, still]
  exact ⟨(world.types.specialize world.options site.shape type entry.method).1,
    world.types.specialize_again world.options site.shape type entry.method, built _⟩

/-- **What a site binds is coherent.** -/
theorem bind_spec (world : World Code Host) (site : CallSite Code) (type : TypeRef) :
    LaysOut world (world.bind site type).2 ∧
      ∀ {guard bound declined}, (world.bind site type).1 = some (guard, bound, declined) →
        guard = ⟨type.id, world.types.switchPoint type⟩ ∧
          (world.bind site type).2.Coherent site type bound := by
  unfold World.bind
  cases resolved : world.resolveSend type site.name site.callType with
  | missing reason handler =>
      cases handler with
      | none => exact ⟨.refl world, fun bound => nomatch bound⟩
      | some handler =>
          refine ⟨(LaysOut.refl world).sayBinding _, fun {_ _ _} bound => ?_⟩
          cases bound
          refine ⟨rfl, Coherent.sayBinding ?_ _⟩
          simp only [Coherent, resolved]
  | callable entry =>
      have lays := LaysOut.specialize world world.options site.name site.shape type entry
      have coherent := coherent_specialize resolved
      dsimp only
      revert lays coherent
      generalize world.specialize world.options site.name site.shape type entry = built
      obtain ⟨_ | target, later⟩ := built
      · intro lays coherent
        refine ⟨lays.sayBinding _, fun {_ _ _} bound => ?_⟩
        cases bound
        exact ⟨rfl, coherent.sayBinding _⟩
      · intro lays coherent
        refine ⟨lays.sayBinding _, fun {_ _ _} bound => ?_⟩
        cases bound
        exact ⟨rfl, coherent.sayBinding _⟩

theorem declared_countLink (site : CallSite Code) : (countLink site).declared = site.declared := by
  unfold countLink
  split <;> rfl

theorem load_countLink (site : CallSite Code) :
    (countLink site).target.load = site.target.load := by
  unfold countLink
  split <;> rfl

/-- A new chain has the new entry, and others that the old one had. -/
theorem mem_relinked {points : SwitchPoints} {typeId : Nat} {thunk : Thunk Code} {full : Prop}
    [Decidable full] {new entry : TypeGuard × BoundThunk Code}
    (member : entry ∈ (Thunk.chain (new :: (if full then [] else keptEntries points typeId thunk))
      .link).entries) : entry = new ∨ entry ∈ thunk.entries := by
  have none_ : (Thunk.link : Thunk Code).entries = [] := rfl
  rw [Thunk.entries_chain, none_, List.append_nil, List.mem_cons] at member
  refine member.imp_right fun old => ?_
  split at old
  · simp at old
  · exact (List.mem_filter.1 old).1

/-- **What a link leaves behind.** -/
theorem link_spec (world : World Code Host) (ref : SiteRef) (site : CallSite Code)
    (type : TypeRef) :
    ∃ (bound? : Option (BoundThunk Code)) (after : World Code Host) (linked : CallSite Code),
      world.link ref site type = (bound?, after.modifySite ref fun _ => linked) ∧
        LaysOut world after ∧ linked.declared = site.declared ∧
        (∀ bound, bound? = some bound → after.Coherent site type bound) ∧
        ∀ {guard bound}, (guard, bound) ∈ linked.target.load.entries →
          (guard, bound) ∈ site.target.load.entries ∨
            (guard = ⟨type.id, world.types.switchPoint type⟩ ∧ after.Coherent site type bound) := by
  obtain ⟨lays, spec⟩ := world.bind_spec site type
  have declared := declared_countLink site
  have load := load_countLink site
  unfold World.link
  simp only
  split
  · -- too many failures: the site is not to cache any more
    refine ⟨_, _, _, rfl, (LaysOut.refl world).sayBinding _, declared, fun _ bound => (nomatch bound),
      fun {_ _} member => nomatch member⟩
  · revert lays spec
    generalize world.bind site type = bound
    obtain ⟨_ | ⟨guard, bound, declined⟩, after⟩ := bound
    · intro lays _
      exact ⟨none, after, _, rfl, lays, declared, fun _ bound => (nomatch bound),
        fun {_ _} member => .inl (load ▸ member)⟩
    · intro lays spec
      obtain ⟨rfl, coherent⟩ := spec rfl
      dsimp only
      generalize counting : (if declined = true then
        { countLink site with failures := (countLink site).failures + 1 } else countLink site) =
          counted
      have shown : counted.declared = site.declared := by
        rw [← counting, ← declared]
        split <;> rfl
      have loaded : counted.target.load = site.target.load := by
        rw [← counting, ← load]
        split <;> rfl
      -- whether the chain is restarted shows in the log only
      refine ⟨some bound, _, _, rfl, lays.sayBinding_if _ _, shown, fun _ same => ?_,
        fun {_ _} member => ?_⟩
      · cases same
        exact coherent.sayBinding_if _ _
      · rw [DispatchCell.load_store] at member
        rcases mem_relinked member with new | old
        · cases new
          exact .inr ⟨rfl, coherent.sayBinding_if _ _⟩
        · exact .inl (loaded ▸ old)

end World

end InlineCache
