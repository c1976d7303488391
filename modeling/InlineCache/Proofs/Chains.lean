/-
# InlineCache.Proofs.Chains -- the chain that a site keeps

A link that binds puts its entry in front of the entries of other types whose guards still
hold, in the order they have, or starts the chain anew when there are as many of those as
the settings allow.  A link that gives up leaves no chain, and one that finds nothing to bind
leaves the chain alone (`Rechains`).

A run of a site is told here by the entries that its links add (`Chains`), with anything in
between that leaves the settings and the site alone; whatever methods are defined, removed
or promoted belongs to that.

* `Chained.rechains`: what one link keeps of a chain: its types differ, it is no longer than
  allowed, and in front stands the entry that was added last;
* `chain_structure`: so it is after any run, and the next link that binds spares exactly the
  entries that it has to.
-/
import InlineCache.Proofs.Budget
import InlineCache.Proofs.Facts

namespace InlineCache.World

set_option autoImplicit false

variable {Code Host : Type} {world after start : World Code Host} {ref : SiteRef}
  {site : CallSite Code} {type : TypeRef}

/-! ## What a link does to the chain -/

/-- The entry that a link for a type adds, by the thunk that it has bound. -/
def entryFor (world : World Code Host) (type : TypeRef) (bound : BoundThunk Code) :
    TypeGuard × BoundThunk Code :=
  (⟨type.id, world.types.switchPoint type⟩, bound)

/-- What a link makes of the target of a site, by the thunk that it has bound. -/
inductive Rechains (world : World Code Host) (site : CallSite Code) (type : TypeRef) :
    Option (BoundThunk Code) → Thunk Code → Prop where
  | gaveUp : Rechains world site type none .megamorphic
  | unbound : Rechains world site type none site.target.load
  | binds (bound : BoundThunk Code) : Rechains world site type (some bound)
      (.chain (world.entryFor type bound :: world.spared site type) .link)

/-- A link that binds puts its entry in front of what is spared. -/
theorem Rechains.of_some {bound : BoundThunk Code} {thunk : Thunk Code}
    (rechains : Rechains world site type (some bound) thunk) :
    thunk = .chain (world.entryFor type bound :: world.spared site type) .link := by
  cases rechains
  rfl

theorem LaysOut.site? (lays : LaysOut world after) (ref : SiteRef) :
    after.site? ref = world.site? ref := by
  rw [World.site?, World.site?, lays.sites]

/-- **What a link leaves of the chain.** -/
theorem link_rechains (there : world.site? ref = some site) (type : TypeRef) :
    ∃ linked, (world.link ref site type).2.site? ref = some linked ∧
      (world.link ref site type).2.options = world.options ∧
      Rechains world site type (world.link ref site type).1 linked.target.load := by
  -- the site of a world in which something was laid out at most
  have leaves : ∀ {after : World Code Host} {linked : CallSite Code}, LaysOut world after →
      (after.modifySite ref fun _ => linked).site? ref = some linked := fun lays =>
    site?_modifySite ((lays.site? ref).trans there)
  by_cases spent : world.Spent site
  · have lays := (LaysOut.refl world).sayBinding (site.render ++ "\tmegamorphic after " ++
      toString (countLink site).failures ++ " relinks, no longer caching")
    have result : world.link ref site type = _ := if_pos spent
    rw [result]
    exact ⟨_, leaves lays, lays.options, by rw [DispatchCell.load_store]; exact .gaveUp⟩
  · have lays := (world.bind_spec site type).1
    have result : world.link ref site type = _ := if_neg spent
    rcases bind_cases spent type with ⟨_, binds⟩ | ⟨bound, binds, _⟩
    · have binds : world.bind site type = (none, (world.bind site type).2) := Prod.ext binds rfl
      rw [binds] at result
      rw [result]
      exact ⟨_, leaves lays, lays.options, by rw [target_countLink]; exact .unbound⟩
    · have binds : world.bind site type = (_, (world.bind site type).2) := Prod.ext binds rfl
      rw [binds] at result
      rw [result]
      refine ⟨_, leaves (lays.sayBinding_if _ _), (lays.sayBinding_if _ _).options, ?_⟩
      -- a declined binding counts one failure more; the chain is built alike
      simp only [DispatchCell.load_store, lays.points, lays.options]
      cases world.declines site type with
      | false =>
          simp only [Bool.false_eq_true, if_false, target_countLink]
          exact .binds bound
      | true =>
          simp only [if_true, target_countLink]
          exact .binds bound

/-! ## What holds of a chain -/

/-- **A chain in order.**  Its target was given up, or is a chain of entries for different
types, no more of them than allowed, with the entry added last in front. -/
inductive Chained (limit : Nat) (added : List (TypeGuard × BoundThunk Code)) :
    Thunk Code → Prop where
  | gaveUp : Chained limit added .megamorphic
  | chain (entries : List (TypeGuard × BoundThunk Code))
      (distinct : (entries.map fun entry => entry.1.typeId).Nodup)
      (short : entries.length ≤ max 1 limit) (head : entries.head? = added.getLast?) :
      Chained limit added (.chain entries .link)

namespace Chained

variable {limit : Nat} {added : List (TypeGuard × BoundThunk Code)} {thunk : Thunk Code}

theorem shape (chained : Chained limit added thunk) :
    thunk = .megamorphic ∨ ∃ entries, thunk = .chain entries .link ∧
      (entries.map fun entry => entry.1.typeId).Nodup ∧ entries.length ≤ max 1 limit ∧
      entries.head? = added.getLast? := by
  cases chained with
  | gaveUp => exact .inl rfl
  | chain entries distinct short head => exact .inr ⟨entries, rfl, distinct, short, head⟩

theorem nodup (chained : Chained limit added thunk) :
    (thunk.entries.map fun entry => entry.1.typeId).Nodup := by
  cases chained with
  | gaveUp => exact List.nodup_nil
  | chain entries distinct short head =>
      rwa [Thunk.entries_chain, show (Thunk.link : Thunk Code).entries = [] from rfl,
        List.append_nil]

end Chained

/-- What is spared is kept, or nothing is. -/
theorem spared_eq_or (world : World Code Host) (site : CallSite Code) (type : TypeRef) :
    world.spared site type = [] ∨
      (world.spared site type = keptEntries world.points type.id site.target.load ∧
        (world.spared site type).length < world.options.maxPoly.toNat) := by
  unfold spared
  dsimp only
  split
  · exact .inl rfl
  · rename_i room
    exact .inr ⟨rfl, Nat.not_le.1 room⟩

/-- A new entry has room in front of what is spared. -/
theorem length_spared_le (world : World Code Host) (site : CallSite Code) (type : TypeRef) :
    (world.spared site type).length + 1 ≤ max 1 world.options.maxPoly.toNat := by
  rcases world.spared_eq_or site type with none_ | ⟨_, room⟩
  · rw [none_]
    exact Nat.le_max_left ..
  · exact Nat.le_trans room (Nat.le_max_right ..)

/-- What is spared are entries of the old chain, in their order, for other types. -/
theorem spared_sublist (world : World Code Host) (site : CallSite Code) (type : TypeRef) :
    (world.spared site type).Sublist site.target.load.entries ∧
      ∀ entry ∈ world.spared site type, entry.1.typeId ≠ type.id := by
  rcases world.spared_eq_or site type with none_ | ⟨kept, _⟩
  · rw [none_]
    exact ⟨List.nil_sublist _, fun _ member => nomatch member⟩
  · rw [kept]
    refine ⟨List.filter_sublist, fun entry member => ?_⟩
    have holds := (List.mem_filter.1 member).2
    rw [Bool.and_eq_true, bne_iff_ne] at holds
    exact holds.1

/-- To make a method and to change the tables of types is to leave every site alone. -/
theorem apart_define (ref : SiteRef) (world : World Code Host) (name : String) (isPrivate : Bool)
    (implementation : Implementation Code) (change : Change Code) :
    Apart ref world ((world.createMethod name isPrivate implementation).2.change change) :=
  ⟨rfl, rfl⟩

/-- **A link keeps a chain in order.** -/
theorem Chained.rechains {limit : Nat} {added : List (TypeGuard × BoundThunk Code)}
    {bound? : Option (BoundThunk Code)} {thunk : Thunk Code}
    (chained : Chained limit added site.target.load) (allowed : world.options.maxPoly.toNat = limit)
    (rechains : Rechains world site type bound? thunk) :
    Chained limit (added ++ (bound?.map (world.entryFor type)).toList) thunk := by
  cases rechains with
  | gaveUp => exact .gaveUp
  | unbound => simpa using chained
  | binds bound =>
      obtain ⟨sublist, others⟩ := world.spared_sublist site type
      refine .chain _ ?_ (allowed ▸ world.length_spared_le site type) (by simp)
      rw [List.map_cons, List.nodup_cons]
      refine ⟨fun member => ?_, (sublist.map _).nodup chained.nodup⟩
      obtain ⟨entry, spared, same⟩ := List.mem_map.1 member
      exact others entry spared same

/-! ## Runs of a site -/

/-- A run of a site with the entries that its links add: it links when dispatch on it says
so, and otherwise anything may happen that leaves the settings and the site alone. -/
inductive Chains (ref : SiteRef) :
    World Code Host → List (TypeGuard × BoundThunk Code) → World Code Host → Prop where
  | start (world : World Code Host) : Chains ref world [] world
  | apart {start world after : World Code Host} {added : List (TypeGuard × BoundThunk Code)}
      (chains : Chains ref start added world) (apart : Apart ref world after) :
      Chains ref start added after
  | link {start world : World Code Host} {added : List (TypeGuard × BoundThunk Code)}
      (chains : Chains ref start added world) {site : CallSite Code} {type : TypeRef}
      (there : world.site? ref = some site)
      (missed : site.target.load.dispatch world.points type.id = .link) :
      Chains ref start
        (added ++ ((world.link ref site type).1.map (world.entryFor type)).toList)
        (world.link ref site type).2

variable {added more : List (TypeGuard × BoundThunk Code)}

namespace Chains

theorem trans (chains : Chains ref start added world) (further : Chains ref world more after) :
    Chains ref start (added ++ more) after := by
  induction further with
  | start => simpa using chains
  | apart _ apart ih => exact .apart ih apart
  | link _ there missed ih =>
      rw [← List.append_assoc]
      exact .link ih there missed

theorem of_goes {events : List LinkEvent} (goes : Goes ref start events world) :
    ∃ added, Chains ref start added world := by
  induction goes with
  | start => exact ⟨[], .start _⟩
  | apart _ apart ih => exact ih.imp fun _ chains => .apart chains apart
  | link _ there missed ih =>
      obtain ⟨_, chains⟩ := ih
      exact ⟨_, .link chains there missed⟩

/-- Every call is such a run, if the code that it runs leaves the site to calls. -/
theorem calling {exec : Exec Code Host} (tame : Tame (Apart ref) exec) (context : ContextRef)
    (world : World Code Host) (calling : Calling Code) :
    ∃ added, Chains ref world added (calling.run exec context world).2 := by
  obtain ⟨_, goes⟩ := (engine_goes ref).calling
    (tame.keeps (engine_goes ref) fun apart => ⟨[], .once apart⟩) context world calling
  exact of_goes goes

theorem chained {name : String} {shape : CallShape} {callType : CallType}
    (fresh : start.site? ref = some (.create name shape callType))
    (chains : Chains ref start added world) :
    world.options = start.options ∧ ∃ site, world.site? ref = some site ∧
      Chained start.options.maxPoly.toNat added site.target.load := by
  induction chains with
  | start => exact ⟨rfl, _, fresh, .chain [] List.nodup_nil (Nat.zero_le _) rfl⟩
  | apart _ apart ih =>
      obtain ⟨options, site, there, chained⟩ := ih
      exact ⟨apart.1.trans options, site, apart.2.trans there, chained⟩
  | @link world _ _ site type there missed ih =>
      obtain ⟨options, _, same, chained⟩ := ih
      cases there.symm.trans same
      obtain ⟨linked, stands, settings, rechains⟩ := link_rechains there type
      exact ⟨settings.trans options, linked, stands,
        chained.rechains (by rw [options]) rechains⟩

end Chains

/-- **The chain of a site and what it evicts.**  Take any run of a new site: calls of any
kind, also in each other's code, and in between anything that is not done to the site.  Its
target was given up, or is a chain that ends in a link, of entries for different types, at
most as many as the settings allow and one in any case, with the entry added last in front.
The next link that binds puts its entry in front of the entries of all other types whose
guards still hold, in their order, unless there are as many of those as allowed, when it
drops them.  And whatever is called next carries the run on. -/
theorem chain_structure {exec : Exec Code Host} (tame : Tame (Apart ref) exec) {name : String}
    {shape : CallShape} {callType : CallType}
    (fresh : start.site? ref = some (.create name shape callType))
    (chains : Chains ref start added world) :
    ∃ site, world.site? ref = some site ∧
      (site.target.load = .megamorphic ∨
        ∃ entries, site.target.load = .chain entries .link ∧
          (entries.map fun entry => entry.1.typeId).Nodup ∧
          entries.length ≤ max 1 start.options.maxPoly.toNat ∧
          entries.head? = added.getLast?) ∧
      (∀ type bound, (world.link ref site type).1 = some bound →
        let others := site.target.load.entries.filter fun entry =>
          entry.1.typeId != type.id && world.points.isValid entry.1.token
        ∃ linked, (world.link ref site type).2.site? ref = some linked ∧
          linked.target.load = .chain
            ((⟨type.id, world.types.switchPoint type⟩, bound) ::
              if start.options.maxPoly.toNat ≤ others.length then [] else others) .link) ∧
      ∀ context calling, ∃ more,
        Chains ref start (added ++ more) (Calling.run exec context world calling).2 := by
  obtain ⟨options, site, there, chained⟩ := chains.chained fresh
  refine ⟨site, there, chained.shape, fun type bound binds => ?_, fun context calling => ?_⟩
  · obtain ⟨linked, stands, _, rechains⟩ := link_rechains there type
    rw [binds] at rechains
    rw [← options]
    exact ⟨linked, stands, rechains.of_some⟩
  · exact (Chains.calling tame context world calling).imp fun more further => chains.trans further

/-- A site that may chain two types has called three.  The method was given to the first of
these again in between, so that the entry for that was not spared; and the next type starts
the chain anew. -/
theorem chain_structure_of_three :
    let fresh : World Deed Unit := create { maxPoly := 2 } .hierarchy none ()
    let define := fun (type : TypeRef) (world : World Deed Unit) =>
      (world.createMethod "size" false (keyworded .answer)).2.change
        (.define type (world.createMethod "size" false (keyworded .answer)).1)
    let sited := (define TypeRef.object fresh).createSite (.create "size" {} .normal)
    let called := fun receiver world =>
      (Calling.run (Deed.enact 0) ⟨0⟩ world (.site ⟨0⟩ { receiver })).2
    let world := called (.bool true)
      (define TypeRef.integer (called .nil (called (.int 1) sited.2)))
    let types := fun site : CallSite Deed => site.target.load.entries.map fun e => e.1.typeId
    ∃ added site linked, Chains ⟨0⟩ sited.2 added world ∧ world.site? ⟨0⟩ = some site ∧
      types site = [TypeRef.trueClass.id, TypeRef.nilClass.id] ∧
      site.target.load.entries.head? = added.getLast? ∧
      (world.link ⟨0⟩ site TypeRef.falseClass).2.site? ⟨0⟩ = some linked ∧
      types linked = [TypeRef.falseClass.id] := by
  intro fresh define sited called world types
  have tame : Tame (Apart ⟨0⟩) (Deed.enact 0 : Exec Deed Unit) := Deed.tame_enact _ 0
  have first : sited.1 = ⟨0⟩ := by decide +kernel
  have new : sited.2.site? ⟨0⟩ = some (.create "size" {} .normal) := first ▸ site?_createSite _ _
  have calls : ∀ receiver world, ∃ added, Chains ⟨0⟩ world added (called receiver world) :=
    fun receiver world => Chains.calling tame ⟨0⟩ world (.site ⟨0⟩ { receiver })
  obtain ⟨once, one⟩ := calls (.int 1) sited.2
  obtain ⟨twice, two⟩ := calls .nil (called (.int 1) sited.2)
  obtain ⟨thrice, three⟩ := calls (.bool true)
    (define TypeRef.integer (called .nil (called (.int 1) sited.2)))
  have chains : Chains ⟨0⟩ sited.2 (once ++ twice ++ thrice) world :=
    .trans (.apart (one.trans two) (apart_define ⟨0⟩ _ _ _ _ _)) three
  obtain ⟨site, there, chained, binds, _⟩ := chain_structure tame new chains
  have facts : (world.site? ⟨0⟩).any (fun site =>
      types site == [TypeRef.trueClass.id, TypeRef.nilClass.id] &&
        (world.link ⟨0⟩ site TypeRef.falseClass).1.isSome &&
        (site.target.load.entries.filter fun entry =>
          entry.1.typeId != TypeRef.falseClass.id && world.points.isValid entry.1.token).length ==
            sited.2.options.maxPoly.toNat) = true := by
    decide +kernel
  obtain ⟨_, same, facts⟩ := Option.any_eq_true _ _ |>.1 facts
  cases there.symm.trans same
  simp only [Bool.and_eq_true, beq_iff_eq, Option.isSome_iff_exists] at facts
  obtain ⟨⟨its, bound, bind⟩, full⟩ := facts
  obtain ⟨linked, stands, restarted⟩ := binds _ bound bind
  rw [if_pos (Nat.le_of_eq full.symm)] at restarted
  refine ⟨_, site, linked, chains, there, its, ?_, stands, congrArg (fun thunk : Thunk Deed =>
    thunk.entries.map fun entry => entry.1.typeId) restarted⟩
  rcases chained with gaveUp | ⟨entries, loaded, _, _, head⟩
  · simp only [types, gaveUp] at its
    cases its
  · rw [loaded, Thunk.entries_chain]
    simpa [Thunk.entries] using head

end InlineCache.World
