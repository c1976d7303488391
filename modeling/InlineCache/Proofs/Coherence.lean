/-
# InlineCache.Proofs.Coherence -- a cached entry is what a lookup finds now

A world is reachable when a fresh one comes to it by steps, by calls through any sites
and by uncached sends, in any order (`World.Reachable`).  Every such world is sound,
whatever lawful code runs behind its methods.

* `sound_of_reachable`: the invariant holds in every reachable world;
* `coherent_of_valid`: an entry whose token is valid holds the method, the owner, the
  body and the accessor that its lookup and its layout give now, or the handler of
  missing methods and the reason of the miss;
* `dispatch_by_words`: guards that hold 32 bits of a type's number tell the types apart,
  as long as no more than 2^32 of them were made.
-/
import InlineCache.Proofs.Calls

namespace InlineCache.World

set_option autoImplicit false

variable {Code Host : Type} {proper : CompiledMethod Code → Prop} {world : World Code Host}
  {exec : Exec Code Host}

/-- What a fresh world comes to by steps and calls. -/
inductive Reachable (proper : CompiledMethod Code → Prop) (exec : Exec Code Host) :
    World Code Host → Prop where
  | fresh (options : Options) (rule : LookupRule Code) (coverage : Option Coverage) (host : Host) :
      Reachable proper exec (create options rule coverage host)
  | step {world after : World Code Host} (reached : Reachable proper exec world)
      (step : Step proper world after) : Reachable proper exec after
  | call {world : World Code Host} (reached : Reachable proper exec world) (context : ContextRef)
      (site : SiteRef) (call : Call) (live : world.types.isLive call.receiver.typeOf = true) :
      Reachable proper exec (callSite exec context site call world).2
  | send {world : World Code Host} (reached : Reachable proper exec world) (context : ContextRef)
      (name : String) (callType : CallType) (call : Call) :
      Reachable proper exec (send exec context name callType call world).2

theorem Reachable.evolves {after : World Code Host} (reached : Reachable proper exec world)
    (evolves : Evolves proper world after) : Reachable proper exec after := by
  induction evolves with
  | refl => exact reached
  | tail _ step ih => exact .step ih step

/-- A world without types, objects and sites is sound. -/
theorem sound_of_empty (types : world.types = {}) (objects : world.objects = {})
    (sites : world.sites = #[]) : world.Sound proper := by
  have none_ : ∀ type, world.types.get? type = none := by
    intro type
    rw [types]
    rfl
  have nothing : ∀ type name, world.types.ownMethod? type name = none := by
    intro type name
    simp only [Types.ownMethod?, Types.methods, none_]
    rfl
  refine ⟨⟨?_, fun there => ?_⟩, ⟨fun found => ?_, fun found => ?_⟩,
    ⟨fun found => ?_, fun member => ?_⟩, fun _ _ there => ?_, fun there => ?_⟩
  · have forest : world.types.Forest := types ▸ .empty
    exact forest
  · cases there.symm.trans (none_ _)
  · cases (nothing _ _).symm.trans found
  · cases (nothing _ _).symm.trans found
  · cases (nothing _ _).symm.trans found
  · simp [types] at member
  · simp [objects] at there
  · simp [site?, sites] at there

theorem sound_create (options : Options) (rule : LookupRule Code) (coverage : Option Coverage)
    (host : Host) : (create options rule coverage host).Sound proper := by
  refine create_induction (motive := Sound proper) ?_ ?_ ?_
  · exact sound_of_empty (types_blank options rule coverage host) rfl rfl
  · intro world name parent? classes sound
    exact sound.of_change (.create name parent? defaultFieldCapacity) rfl rfl rfl rfl rfl
      (Nat.le_refl _) (fun _ _ defines => by cases defines) fun _ brought => by cases brought
  · intro world sound
    exact sound.evolves (evolves_define sound TypeRef.basicObject methodMissing true defaultMissing
      fun _ compiled => by cases compiled)

/-- **Every reachable world is sound.** -/
theorem sound_of_reachable (lawful : Lawful proper exec) (reachable : Reachable proper exec world) :
    world.Sound proper := by
  induction reachable with
  | fresh options rule coverage host => exact sound_create options rule coverage host
  | step _ step ih => exact ih.step step
  | call _ context site call live ih =>
      exact ih.evolves (evolves_callSite lawful ih context site call live)
  | send _ context name callType call ih =>
      exact ih.evolves (evolving_send lawful context name callType call ih)

/-- A method that is made and given to a type of a reachable world leaves another. -/
theorem Reachable.define (lawful : Lawful proper exec) (reached : Reachable proper exec world)
    (target : TypeRef) (name : String) (isPrivate : Bool) (implementation : Implementation Code)
    (brings : ∀ body, implementation.body? = some body → proper body) :
    Reachable proper exec
      ((world.createMethod name isPrivate implementation).2.change
        (.define target (world.createMethod name isPrivate implementation).1)) :=
  reached.evolves
    (evolves_define (sound_of_reachable lawful reached) target name isPrivate implementation brings)

/-- What a send resolves to, by what is found and what the call may reach. -/
theorem resolveSend_of_callable {type : TypeRef} {name : String} {callType : CallType}
    {entry : CacheEntry Code} (found : (world.lookup type name).found? = some entry)
    (may : callType.mayCall entry.method = true) :
    world.resolveSend type name callType = .callable entry := by
  simp only [resolveSend, found, may, if_true]

theorem resolveSend_of_missing {type : TypeRef} {name : String} {callType : CallType}
    (none_ : ∀ entry, (world.lookup type name).found? = some entry →
      callType.mayCall entry.method = false) :
    world.resolveSend type name callType =
      .missing (callType.missingReason (world.lookup type name).found?.isSome)
        (world.lookup type methodMissing).found? := by
  unfold resolveSend
  cases found : (world.lookup type name).found? with
  | none => rfl
  | some entry => simp [none_ entry found]

/-- **Inline cache coherence.**  Take any entry of any chain in a reachable world, its
token still valid and its type alive.  If the name is found now and may be called, the
entry is exactly what is found; a compiled body is the one active now, and an accessor is
the one to write the variable through now.  Otherwise the entry is the handler of missing
methods that is found now, with the reason that this lookup gives. -/
theorem coherent_of_valid (lawful : Lawful proper exec) (reachable : Reachable proper exec world)
    {ref : SiteRef} {site : CallSite Code} (there : world.site? ref = some site)
    {guard : TypeGuard} {bound : BoundThunk Code}
    (chained : (guard, bound) ∈ site.target.load.entries)
    (valid : world.points.isValid guard.token = true) {type : TypeRef}
    (guarded : type.id = guard.typeId) (live : world.types.isLive type = true) :
    (∀ entry, (world.lookup type site.name).found? = some entry →
      site.callType.mayCall entry.method = true →
        bound.entry = entry ∧ (∀ reason, bound.invoker ≠ .missing reason) ∧
          (∀ body, bound.invoker.body? = some body →
            world.types.compiledBody? entry.method = some body) ∧
          ∀ accessor, bound.invoker.accessor? = some accessor →
            ∃ name, (entry.method.implementation = .attrReader name ∨
                entry.method.implementation = .attrWriter name) ∧
              (world.types.accessorForWrite type name).1 = accessor) ∧
      ((∀ entry, (world.lookup type site.name).found? = some entry →
          site.callType.mayCall entry.method = false) →
        ∃ handler, (world.lookup type methodMissing).found? = some handler ∧
          bound = .missing site.name
            (site.callType.missingReason (world.lookup type site.name).found?.isSome) handler) := by
  have sound := sound_of_reachable lawful reachable
  obtain ⟨_, coherent⟩ := (sound.faithful there chained).coherent guarded live valid
  refine ⟨fun entry found may => ?_, fun none_ => ?_⟩
  · obtain ⟨_, same, suits⟩ := coherent.callable (resolveSend_of_callable found may)
    refine ⟨same, fun reason missing => ?_, fun body => suits.body_eq, fun accessor through => ?_⟩
    · rw [missing] at suits
      cases suits
    · obtain ⟨name, kind, settled, rfl⟩ := suits.accessor_eq through
      exact ⟨name, kind, by rw [Types.accessorForWrite_of_settled settled]⟩
  · exact coherent.missing (resolveSend_of_missing none_)

/-- A site that called a mixed method before and after its body was promoted has an
entry of that method which runs the promoted body. -/
theorem coherent_of_promoted :
    let answer : Exec Bool Unit := fun code _ world => (.ok (.bool code), world)
    let body : Bool → CompiledMethod Bool := fun code =>
      { entry := code, scope := { kind := .method, locals := [] } }
    let fresh : World Bool Unit := create {} .hierarchy none ()
    let made := fresh.createMethod "twice" false (.mixed (body false))
    let linked := (callSite answer ⟨0⟩ ⟨0⟩ { receiver := .int 1 }
      ((made.2.change (.define TypeRef.object made.1)).createSite (.create "twice" {} .normal)).2).2
    let world := (callSite answer ⟨0⟩ ⟨0⟩ { receiver := .int 1 }
      (linked.change (.promote TypeRef.object "twice" (body true)))).2
    ∃ site guard bound, world.site? ⟨0⟩ = some site ∧ (guard, bound) ∈ site.target.load.entries ∧
      world.points.isValid guard.token = true ∧ bound.entry.owner = TypeRef.object ∧
        bound.entry.method.serial = made.1.serial ∧
          bound.invoker.body?.map CompiledMethod.entry = some true := by
  intro answer body fresh made linked world
  have lawful : Lawful (fun _ => True) answer := fun _ _ _ _ => .refl
  have defined := Reachable.define lawful (.fresh {} .hierarchy none ()) TypeRef.object "twice"
    false (.mixed (body false)) fun _ _ => trivial
  have once : Reachable (fun _ => True) answer linked :=
    .call (.step defined (.site _ "twice" {} .normal)) ⟨0⟩ ⟨0⟩ { receiver := .int 1 }
      (by decide +kernel)
  have promoting : Step (fun _ => True) linked
      (linked.change (.promote TypeRef.object "twice" (body true))) :=
    .change linked (fun _ _ defines => by cases defines) fun _ _ => trivial
  have reachable : Reachable (fun _ => True) answer world :=
    .call (.step once promoting) ⟨0⟩ ⟨0⟩ { receiver := .int 1 } (by decide +kernel)
  have facts : (world.site? ⟨0⟩).any (fun site => site.name == "twice" && site.callType == .normal &&
      site.target.load.entries.any fun entry => entry.1.passes world.points TypeRef.integer.id &&
        entry.2.invoker.body?.isSome) = true ∧ world.types.isLive TypeRef.integer = true ∧
      (world.lookup TypeRef.integer "twice").found?.any (fun entry =>
        CallType.mayCall .normal entry.method && entry.owner == TypeRef.object &&
          entry.method.serial == made.1.serial &&
            (world.types.compiledBody? entry.method).any CompiledMethod.entry) = true := by
    decide +kernel
  obtain ⟨sited, live, found⟩ := facts
  obtain ⟨site, there, sited⟩ := Option.any_eq_true _ _ |>.1 sited
  simp only [Bool.and_eq_true, beq_iff_eq, List.any_eq_true, Prod.exists] at sited
  obtain ⟨⟨name, callType⟩, guard, bound, chained, passes, compiled⟩ := sited
  obtain ⟨entry, found, holds⟩ := Option.any_eq_true _ _ |>.1 found
  simp only [Bool.and_eq_true, beq_iff_eq, TypeGuard.passes] at holds passes
  obtain ⟨⟨⟨may, owner⟩, serial⟩, promoted⟩ := holds
  obtain ⟨rfl, _, bodies, _⟩ := (coherent_of_valid lawful reachable there chained passes.2
    passes.1.symm live).1 entry (name ▸ found) (callType ▸ may)
  refine ⟨site, guard, bound, there, chained, passes.2, owner, serial, ?_⟩
  obtain ⟨body', runs⟩ := Option.isSome_iff_exists.1 compiled
  rw [bodies body' runs] at promoted
  rw [runs]
  exact congrArg some promoted

/-! ## Numbers of types in 32 bits -/

/-- What a guard of 32 bits holds of a type's number.  Types are counted from one on, and the
count starts over after the last word. -/
def word (typeId : Nat) : UInt32 := .ofNat (typeId + 1)

theorem beq_word {size first second : Nat} (few : size ≤ UInt32.size) (made : first < size)
    (made' : second < size) : (word first == word second) = (first == second) := by
  rw [Bool.eq_iff_iff, beq_iff_eq, beq_iff_eq, ← UInt32.toNat_inj, word, word,
    UInt32.toNat_ofNat', UInt32.toNat_ofNat']
  simp only [UInt32.size] at few
  omega

/-- Dispatch by guards that hold words. -/
def dispatchWord (points : SwitchPoints) (typeWord : UInt32) : Thunk Code → Dispatch Code
  | .link => .link
  | .guarded guard target fallback =>
      if word guard.typeId == typeWord && points.isValid guard.token then .bound target
      else dispatchWord points typeWord fallback
  | .megamorphic => .megamorphic

theorem dispatchWord_eq {size : Nat} (few : size ≤ UInt32.size) (points : SwitchPoints)
    {typeId : Nat} (made : typeId < size) {thunk : Thunk Code}
    (guards : ∀ entry ∈ thunk.entries, entry.1.typeId < size) :
    dispatchWord points (word typeId) thunk = thunk.dispatch points typeId := by
  induction thunk with
  | link | megamorphic => rfl
  | guarded guard target fallback ih =>
      obtain ⟨first, rest⟩ := List.forall_mem_cons.1 guards
      rw [dispatchWord, beq_word few first made, ih rest]
      rfl

/-- **32 bits tell the types apart.**  In a reachable world of at most 2^32 types, dispatch by
words comes to what dispatch by numbers does, and a link keeps the same entries. -/
theorem dispatch_by_words (lawful : Lawful proper exec) (reachable : Reachable proper exec world)
    (few : world.types.types.size ≤ UInt32.size) {ref : SiteRef} {site : CallSite Code}
    (there : world.site? ref = some site) {type : TypeRef}
    (made : type.id < world.types.types.size) :
    dispatchWord world.points (word type.id) site.target.load =
        site.target.load.dispatch world.points type.id ∧
      (site.target.load.entries.filter fun entry =>
          word entry.1.typeId != word type.id && world.points.isValid entry.1.token) =
        keptEntries world.points type.id site.target.load := by
  have guards : ∀ entry ∈ site.target.load.entries, entry.1.typeId < world.types.types.size :=
    fun _ chained => ((sound_of_reachable lawful reachable).faithful there chained).made
  refine ⟨dispatchWord_eq few _ made guards, List.filter_congr fun entry chained => ?_⟩
  rw [bne, beq_word few (guards entry chained) made, bne]

/-- One type more, and a guard takes the last for the first. -/
example : word 0 = word UInt32.size := by decide

end InlineCache.World
