/-
# InlineCache.Proofs.Budget -- how often a site links

A link does one of four things (`LinkEvent`): it binds the method that was found, it binds
it generically because the specialised binding was declined, it finds nothing to bind, or
it gives up.  `link_relinks` says what each of them leaves of the site.

A run of a site (`Goes`) is the list of its links, with anything in between that leaves the
settings and the site alone; every call of whatever kind is such a run.

* `relinks_within_budget`: the two counters are functions of that list, the site gives up
  exactly at the first link after its first that would count one failure too many, and
  after that nothing about it changes.
-/
import InlineCache.Proofs.Opening
import Mathlib.Algebra.Group.Nat.Defs

namespace InlineCache

set_option autoImplicit false

inductive LinkEvent where
  /-- a specialised binding, or the handler of missing methods -/
  | bound
  /-- no specialised binding could be made -/
  | declined
  /-- there is neither method nor handler -/
  | unbound
  /-- the site has failed too often and is megamorphic now -/
  | gaveUp
deriving DecidableEq, Repr

/-- The failures that a link counts beyond being one more. -/
def LinkEvent.penalty : LinkEvent → UInt32
  | .declined => 1
  | _ => 0

namespace World

variable {Code Host : Type} {world after : World Code Host} {ref : SiteRef}
  {site linked : CallSite Code} {type : TypeRef} {event : LinkEvent} {events : List LinkEvent}

/-! ## What a link does to its site -/

/-- Does the specialised binding decline the method that a site finds for a type? -/
def declines (world : World Code Host) (site : CallSite Code) (type : TypeRef) : Bool :=
  match world.resolveSend type site.name site.callType with
  | .callable entry =>
      (world.types.specialize world.options site.shape type entry.method).1.isNone
  | .missing _ _ => false

/-- Has a site that is about to link for another time failed too often? -/
def Spent (world : World Code Host) (site : CallSite Code) : Prop :=
  site.links ≠ 0 ∧ world.options.maxFail < (countLink site).failures

instance (world : World Code Host) (site : CallSite Code) : Decidable (world.Spent site) :=
  inferInstanceAs (Decidable (site.links ≠ 0 ∧ world.options.maxFail < (countLink site).failures))

/-- What a link of a site comes to for a type. -/
def linkEvent (world : World Code Host) (site : CallSite Code) (type : TypeRef) : LinkEvent :=
  if world.Spent site then .gaveUp
  else
    match world.resolveSend type site.name site.callType with
    | .callable _ => if world.declines site type then .declined else .bound
    | .missing _ (some _) => .bound
    | .missing _ none => .unbound

/-- The entries that a new one is put in front of, unless there are too many. -/
def spared (world : World Code Host) (site : CallSite Code) (type : TypeRef) :
    List (TypeGuard × BoundThunk Code) :=
  let kept := keptEntries world.points type.id site.target.load
  if world.options.maxPoly.toNat ≤ kept.length then [] else kept

/-- What a link does to the target of a site. -/
inductive Retargets (world : World Code Host) (site : CallSite Code) (type : TypeRef) :
    LinkEvent → DispatchCell (Thunk Code) → Prop where
  | gaveUp : Retargets world site type .gaveUp (site.target.store .megamorphic)
  | unbound : Retargets world site type .unbound site.target
  | binds {event : LinkEvent} (binds : event = .bound ∨ event = .declined)
      (bound : BoundThunk Code) :
      Retargets world site type event (site.target.store
        (.chain ((⟨type.id, world.types.switchPoint type⟩, bound) :: world.spared site type) .link))

/-- What a link leaves of a site. -/
structure Relinks (world : World Code Host) (site : CallSite Code) (type : TypeRef)
    (event : LinkEvent) (linked : CallSite Code) : Prop where
  declared : linked.declared = site.declared
  links : linked.links = site.links + 1
  failures : linked.failures = (countLink site).failures + event.penalty
  target : Retargets world site type event linked.target

theorem links_countLink (site : CallSite Code) : (countLink site).links = site.links + 1 := by
  unfold countLink
  split
  · rename_i first
    rw [first]
  · rfl

theorem target_countLink (site : CallSite Code) : (countLink site).target = site.target := by
  unfold countLink
  split <;> rfl

/-- A link after the first is one failure more, if the number holds one more. -/
theorem toNat_failures_countLink (room : site.failures.toNat + 1 < 2 ^ 32) :
    (countLink site).failures.toNat = (if site.links = 0 then 0 else 1) + site.failures.toNat := by
  unfold countLink
  split
  · exact (Nat.zero_add _).symm
  · show (site.failures + 1).toNat = _
    rw [UInt32.toNat_add, Nat.add_comm]
    exact Nat.mod_eq_of_lt (Nat.add_comm _ _ ▸ room)

/-- A site that links and does not give up finds nothing to bind, or binds what it finds
for its type, and knows whether a specialised binding was declined. -/
theorem bind_cases (unspent : ¬ world.Spent site) (type : TypeRef) :
    (world.linkEvent site type = .unbound ∧ (world.bind site type).1 = none) ∨
      ∃ bound, (world.bind site type).1 =
          some (⟨type.id, world.types.switchPoint type⟩, bound, world.declines site type) ∧
        world.linkEvent site type = if world.declines site type then .declined else .bound := by
  simp only [linkEvent, if_neg unspent]
  unfold World.bind declines
  cases world.resolveSend type site.name site.callType with
  | missing reason handler? =>
      cases handler? with
      | none => exact .inl ⟨rfl, rfl⟩
      | some handler => exact .inr ⟨_, rfl, rfl⟩
  | callable entry =>
      refine .inr ?_
      simp only [World.specialize]
      cases (world.types.specialize world.options site.shape type entry.method).1 with
      | none => exact ⟨_, rfl, by simp⟩
      | some invoker => exact ⟨_, rfl, by simp⟩

/-- **What a link leaves behind**: a world in which something was logged and laid out at
most, and the site as `Relinks` says. -/
theorem link_relinks (world : World Code Host) (ref : SiteRef) (site : CallSite Code)
    (type : TypeRef) :
    ∃ (after : World Code Host) (linked : CallSite Code), LaysOut world after ∧
      (world.link ref site type).2 = after.modifySite ref (fun _ => linked) ∧
      Relinks world site type (world.linkEvent site type) linked := by
  have declared := declared_countLink site
  have links := links_countLink site
  have target := target_countLink site
  by_cases spent : world.Spent site
  · have event : world.linkEvent site type = .gaveUp := by rw [linkEvent, if_pos spent]
    have result : world.link ref site type = _ := if_pos spent
    rw [event]
    refine ⟨_, _, (LaysOut.refl world).sayBinding _, congrArg Prod.snd result, declared, links,
      (UInt32.add_zero _).symm, ?_⟩
    rw [target]
    exact .gaveUp
  · have lays := (world.bind_spec site type).1
    have result : world.link ref site type = _ := if_neg spent
    rcases bind_cases spent type with ⟨event, binds⟩ | ⟨bound, binds, event⟩
    · have binds : world.bind site type = (none, (world.bind site type).2) := Prod.ext binds rfl
      rw [binds] at result
      rw [event]
      refine ⟨_, _, lays, congrArg Prod.snd result, declared, links, (UInt32.add_zero _).symm, ?_⟩
      rw [target]
      exact .unbound
    · have binds : world.bind site type = (_, (world.bind site type).2) := Prod.ext binds rfl
      rw [binds] at result
      rw [event]
      refine ⟨_, _, lays.sayBinding_if _ _, congrArg Prod.snd result, ?_⟩
      have chained : ∀ event, (event = .bound ∨ event = .declined) → Retargets world site type event
          (site.target.store (.chain ((⟨type.id, world.types.switchPoint type⟩, bound) ::
            world.spared site type) .link)) := fun _ its => .binds its bound
      simp only [lays.points, lays.options]
      -- a declined binding counts one failure more; the chain is built alike
      cases world.declines site type with
      | false =>
          simp only [Bool.false_eq_true, if_false, target]
          exact ⟨declared, links, (UInt32.add_zero _).symm, chained _ (.inl rfl)⟩
      | true =>
          simp only [if_true, target]
          exact ⟨declared, links, rfl, chained _ (.inr rfl)⟩

/-- A site gives up if it has failed too often, and then only. -/
theorem linkEvent_eq_gaveUp_iff (world : World Code Host) (site : CallSite Code) (type : TypeRef) :
    world.linkEvent site type = .gaveUp ↔ world.Spent site := by
  unfold linkEvent
  split
  · simpa
  · rename_i unspent
    refine iff_of_false (fun gave => ?_) unspent
    split at gave
    · split at gave <;> cases gave
    · cases gave
    · cases gave

/-- A target that dispatch links is not megamorphic. -/
theorem not_megamorphic_of_missed {points : SwitchPoints} {typeId : Nat}
    (missed : site.target.load.dispatch points typeId = .link) : site.isMegamorphic = false := by
  unfold CallSite.isMegamorphic
  cases loaded : site.target.load with
  | link => rfl
  | guarded guard target fallback =>
      cases way : target.invoker <;> simp [Thunk.kind, BoundThunk.kind, Invoker.kind, way]
  | megamorphic => rw [loaded] at missed; cases missed

/-- Only giving up makes a site megamorphic that was not. -/
theorem Relinks.megamorphic (relinks : Relinks world site type event linked)
    (before : site.isMegamorphic = false) : linked.isMegamorphic = true ↔ event = .gaveUp := by
  unfold CallSite.isMegamorphic at before ⊢
  have target := relinks.target
  generalize linked.target = cell at target ⊢
  cases target with
  | gaveUp => exact iff_of_true rfl rfl
  | unbound => simp [before]
  | binds binds bound =>
      have kind : bound.kind ≠ .megamorphic := by
        unfold BoundThunk.kind
        cases bound.invoker <;> exact nofun
      have other : event ≠ .gaveUp := by rcases binds with rfl | rfl <;> exact nofun
      exact iff_of_false (fun same => kind (beq_iff_eq.1 same)) other

/-! ## Runs of a site -/

/-- Nothing happens to the settings or to a site. -/
def Apart (ref : SiteRef) (world after : World Code Host) : Prop :=
  after.options = world.options ∧ after.site? ref = world.site? ref

/-- A run of a site with the links it makes: it links when dispatch on it says so, and
otherwise anything may happen that leaves the settings and the site alone. -/
inductive Goes (ref : SiteRef) : World Code Host → List LinkEvent → World Code Host → Prop where
  | start (world : World Code Host) : Goes ref world [] world
  | apart {start world after : World Code Host} {events : List LinkEvent}
      (goes : Goes ref start events world) (apart : Apart ref world after) :
      Goes ref start events after
  | link {start world : World Code Host} {events : List LinkEvent}
      (goes : Goes ref start events world) {site : CallSite Code} {type : TypeRef}
      (there : world.site? ref = some site)
      (missed : site.target.load.dispatch world.points type.id = .link) :
      Goes ref start (events ++ [world.linkEvent site type]) (world.link ref site type).2

namespace Goes

variable {start : World Code Host} {more : List LinkEvent}

theorem trans (goes : Goes ref start events world) (further : Goes ref world more after) :
    Goes ref start (events ++ more) after := by
  induction further with
  | start => simpa using goes
  | apart _ apart ih => exact .apart ih apart
  | link _ there missed ih =>
      rw [← List.append_assoc]
      exact .link ih there missed

theorem once (apart : Apart ref world after) : Goes ref world [] after :=
  .apart (.start world) apart

end Goes

/-- A link of one site leaves every other alone. -/
theorem apart_link {other : SiteRef} (different : other ≠ ref) (world : World Code Host)
    (site : CallSite Code) (type : TypeRef) : Apart ref world (world.link other site type).2 := by
  obtain ⟨after, linked, lays, result, _⟩ := world.link_relinks other site type
  have apart : other.index ≠ ref.index := fun same =>
    different (by cases other; cases ref; simp_all)
  rw [result]
  refine ⟨lays.options, ?_⟩
  simp only [site?, modifySite, Array.getElem?_modify, if_neg apart, lays.sites]

/-- **Every call is a run of any site**, if the code that it runs is. -/
theorem engine_goes (ref : SiteRef) :
    Engine fun world after : World Code Host => ∃ events, Goes ref world events after where
  refl world := ⟨[], .start world⟩
  trans := fun ⟨_, first⟩ ⟨_, second⟩ => ⟨_, first.trans second⟩
  link {world other site type} there missed := by
    by_cases same : other = ref
    · subst same
      exact ⟨_, .link (.start world) there missed⟩
    · exact ⟨_, .once (apart_link same world site type)⟩
  prepares {context world after} prepares := by
    refine ⟨_, .once ?_⟩
    cases prepares <;> exact ⟨rfl, rfl⟩
  framed {context frame world after} := fun ⟨events, goes⟩ => by
    have pushed : Goes ref world [] (world.pushFrame context frame) := .once ⟨rfl, rfl⟩
    exact ⟨_, .apart (pushed.trans goes) ⟨rfl, rfl⟩⟩

end World

/-! ## The budget -/

theorem split_concat {α : Type} {list before later : List α} {last one : α}
    (split : list ++ [last] = before ++ one :: later) :
    (before = list ∧ one = last ∧ later = []) ∨
      ∃ rest, later = rest ++ [last] ∧ list = before ++ one :: rest := by
  rcases later.eq_nil_or_concat with rfl | ⟨rest, other, rfl⟩
  · obtain ⟨same, single⟩ := List.append_inj' split rfl
    exact .inl ⟨same.symm, (List.cons.inj single).1.symm, rfl⟩
  · have longer : list ++ [last] = (before ++ one :: rest) ++ [other] := by simpa using split
    obtain ⟨same, single⟩ := List.append_inj' longer rfl
    exact .inr ⟨rest, by simp [(List.cons.inj single).1], same⟩

/-- The failures that links count: every link after the first is one, and every one that
was declined. -/
def LinkEvent.failures (events : List LinkEvent) : Nat :=
  (events.length - 1) + events.count .declined

/-- **The account of a site's links.** -/
structure Budget {Code : Type} (maxFail : UInt32) (events : List LinkEvent) (site : CallSite Code) :
    Prop where
  links : site.links = events.length
  failures : site.failures.toNat = LinkEvent.failures events
  /-- a site gives up at a link after its first that would count one failure too many, and
  at no other -/
  gives_up : ∀ before event later, events = before ++ event :: later →
    (event = .gaveUp ↔ before ≠ [] ∧ maxFail.toNat < LinkEvent.failures before + 1)
  /-- and does not link again -/
  last : ∀ before later, events = before ++ .gaveUp :: later → later = []
  megamorphic : site.isMegamorphic = true ↔ .gaveUp ∈ events
  links_le : site.links ≤ maxFail.toNat + 2
  failures_le : site.failures.toNat ≤ maxFail.toNat + 2

namespace LinkEvent

theorem failures_concat (events : List LinkEvent) (event : LinkEvent) :
    failures (events ++ [event]) =
      (if events = [] then 0 else 1) + failures events + event.penalty.toNat := by
  have counted : (events ++ [event]).count .declined =
      events.count .declined + event.penalty.toNat := by
    rw [List.count_append]
    cases event <;> rfl
  unfold failures
  rw [counted]
  cases events with
  | nil => simp
  | cons first rest => simp; omega

end LinkEvent

namespace Budget

variable {Code Host : Type} {maxFail : UInt32} {events : List LinkEvent} {event : LinkEvent}
  {world : World Code Host} {site linked : CallSite Code} {type : TypeRef}

/-- While a site has not given up, what it counts is at most one more than allowed. -/
theorem le_of_open
    (gives_up : ∀ before event later, events = before ++ event :: later →
      (event = .gaveUp ↔ before ≠ [] ∧ maxFail.toNat < LinkEvent.failures before + 1))
    (standing : .gaveUp ∉ events) :
    events.length ≤ maxFail.toNat + 1 ∧ LinkEvent.failures events ≤ maxFail.toNat + 1 := by
  rcases events.eq_nil_or_concat with rfl | ⟨before, last, rfl⟩
  · exact ⟨Nat.zero_le _, Nat.zero_le _⟩
  · have kept : last ≠ .gaveUp := fun gave => standing (by simp [gave])
    have within := (not_congr (gives_up before last [] (by simp))).1 kept
    have penalty : last.penalty.toNat ≤ 1 := by cases last <;> decide
    rw [List.concat_eq_append, LinkEvent.failures_concat, List.length_append, List.length_singleton]
    have counted : before.length - 1 ≤ LinkEvent.failures before := Nat.le_add_right _ _
    by_cases first : before = []
    · subst first
      simp [LinkEvent.failures]
      omega
    · rw [if_neg first]
      have spare : LinkEvent.failures before + 1 ≤ maxFail.toNat :=
        Nat.not_lt.1 fun less => within ⟨first, less⟩
      omega

theorem fresh (maxFail : UInt32) (name : String) (shape : CallShape) (callType : CallType) :
    Budget maxFail [] (.create name shape callType : CallSite Code) where
  links := rfl
  failures := rfl
  gives_up before event later split := by simp at split
  last before later split := by simp at split
  megamorphic := iff_of_false Bool.false_ne_true (List.not_mem_nil)
  links_le := Nat.zero_le _
  failures_le := Nat.zero_le _

theorem failures_countLink (budget : Budget maxFail events site)
    (small : maxFail.toNat + 3 ≤ 2 ^ 32) (standing : .gaveUp ∉ events) :
    (World.countLink site).failures.toNat =
      (if events = [] then 0 else 1) + LinkEvent.failures events := by
  have room := (le_of_open budget.gives_up standing).2
  rw [World.toNat_failures_countLink (by rw [budget.failures]; omega), budget.failures,
    budget.links]
  simp only [List.length_eq_zero_iff]

/-- A site has spent its budget when one failure more would be too many. -/
theorem spent_iff (budget : Budget maxFail events site) (small : maxFail.toNat + 3 ≤ 2 ^ 32)
    (allowed : world.options.maxFail = maxFail) (standing : .gaveUp ∉ events) :
    world.Spent site ↔ events ≠ [] ∧ maxFail.toNat < LinkEvent.failures events + 1 := by
  have counted := budget.failures_countLink small standing
  unfold World.Spent
  rw [allowed, UInt32.lt_iff_toNat_lt, counted, budget.links, ne_eq, List.length_eq_zero_iff]
  refine and_congr_right fun some_ => ?_
  rw [if_neg some_, Nat.add_comm]

/-- **A link goes by the budget.** -/
theorem relinks (budget : Budget maxFail events site) (small : maxFail.toNat + 3 ≤ 2 ^ 32)
    (allowed : world.options.maxFail = maxFail) (before : site.isMegamorphic = false)
    (relinks : world.Relinks site type (world.linkEvent site type) linked) :
    Budget maxFail (events ++ [world.linkEvent site type]) linked := by
  have standing : .gaveUp ∉ events := fun gave =>
    Bool.false_ne_true (before.symm.trans (budget.megamorphic.2 gave))
  have room := le_of_open budget.gives_up standing
  have spent := (world.linkEvent_eq_gaveUp_iff site type).trans
    (budget.spent_iff small allowed standing)
  have counted := budget.failures_countLink small standing
  have megamorphic := relinks.megamorphic before
  have links := relinks.links
  have failures := relinks.failures
  generalize world.linkEvent site type = event at spent megamorphic failures ⊢
  have gives_up : ∀ earlier event' later, events ++ [event] = earlier ++ event' :: later →
      (event' = .gaveUp ↔ earlier ≠ [] ∧ maxFail.toNat < LinkEvent.failures earlier + 1) := by
    intro earlier event' later split
    rcases split_concat split with ⟨rfl, rfl, rfl⟩ | ⟨rest, rfl, its⟩
    · exact spent
    · exact budget.gives_up earlier event' rest its
  -- a site that gives up is declined nothing, and one that does not has room
  have within : LinkEvent.failures (events ++ [event]) ≤ maxFail.toNat + 2 := by
    by_cases gave : event = .gaveUp
    · subst gave
      rw [LinkEvent.failures_concat]
      simp only [LinkEvent.penalty, UInt32.toNat_zero]
      split <;> omega
    · have still : .gaveUp ∉ events ++ [event] := by
        simp only [List.mem_append, List.mem_singleton, not_or]
        exact ⟨standing, fun same => gave same.symm⟩
      exact Nat.le_succ_of_le (le_of_open gives_up still).2
  have total : linked.failures.toNat = LinkEvent.failures (events ++ [event]) := by
    have sum := LinkEvent.failures_concat events event
    rw [failures, UInt32.toNat_add, counted, ← sum]
    exact Nat.mod_eq_of_lt (by omega)
  refine ⟨?_, total, gives_up, ?_, ?_, ?_, total ▸ within⟩
  · rw [links, budget.links, List.length_append, List.length_singleton]
  · intro earlier later split
    rcases split_concat split with ⟨_, _, none_⟩ | ⟨rest, _, its⟩
    · exact none_
    · exact absurd (its ▸ by simp) standing
  · rw [megamorphic, List.mem_append, or_iff_right standing, List.mem_singleton, eq_comm]
  · rw [links, budget.links]
    omega

end Budget

namespace World

variable {Code Host : Type} {ref : SiteRef} {start world after : World Code Host}
  {events : List LinkEvent} {exec : Exec Code Host}

theorem site?_modifySite {site linked : CallSite Code} (there : world.site? ref = some site) :
    (world.modifySite ref fun _ => linked).site? ref = some linked := by
  simp only [site?, modifySite, Array.getElem?_modify] at there ⊢
  simp [there]

theorem site?_createSite (world : World Code Host) (site : CallSite Code) :
    (world.createSite site).2.site? (world.createSite site).1 = some site := by
  simp [site?, createSite]

/-- A run goes by the budget. -/
theorem Goes.budget {name : String} {shape : CallShape} {callType : CallType}
    (small : start.options.maxFail.toNat + 3 ≤ 2 ^ 32)
    (fresh : start.site? ref = some (.create name shape callType))
    (goes : Goes ref start events world) :
    world.options = start.options ∧ ∃ site, world.site? ref = some site ∧
      site.declared = .create name shape callType ∧ Budget start.options.maxFail events site := by
  induction goes with
  | start => exact ⟨rfl, _, fresh, rfl, .fresh _ name shape callType⟩
  | apart _ apart ih =>
      obtain ⟨options, site, there, rest⟩ := ih
      exact ⟨apart.1.trans options, site, apart.2.trans there, rest⟩
  | @link world _ _ site type there missed ih =>
      obtain ⟨options, _, same, declared, budget⟩ := ih
      cases there.symm.trans same
      obtain ⟨after, linked, lays, result, relinks⟩ := world.link_relinks ref site type
      have stays : after.site? ref = some site := by rw [site?, lays.sites]; exact there
      rw [result]
      exact ⟨lays.options.trans options, linked, site?_modifySite stays,
        relinks.declared.trans declared,
        budget.relinks small (by rw [options]) (not_megamorphic_of_missed missed) relinks⟩

theorem load_of_megamorphic {site : CallSite Code} (megamorphic : site.isMegamorphic = true) :
    site.target.load = .megamorphic := by
  unfold CallSite.isMegamorphic at megamorphic
  cases loaded : site.target.load with
  | megamorphic => rfl
  | link => rw [loaded] at megamorphic; cases megamorphic
  | guarded guard target fallback =>
      rw [loaded] at megamorphic
      cases way : target.invoker <;>
        simp [Thunk.kind, BoundThunk.kind, Invoker.kind, way] at megamorphic

theorem Goes.of_megamorphic {site : CallSite Code} (there : world.site? ref = some site)
    (megamorphic : site.isMegamorphic = true) (goes : Goes ref world events after) :
    events = [] ∧ after.site? ref = some site := by
  induction goes with
  | start => exact ⟨rfl, there⟩
  | apart _ apart ih => exact ⟨ih.1, apart.2.trans ih.2⟩
  | link _ its missed ih =>
      cases ih.2.symm.trans its
      cases (not_megamorphic_of_missed missed).symm.trans megamorphic

theorem callSite_of_megamorphic {site : CallSite Code} (there : world.site? ref = some site)
    (megamorphic : site.isMegamorphic = true) (exec : Exec Code Host) (context : ContextRef)
    (call : Call) : callSite exec context ref call world =
      send exec context site.name site.callType call world := by
  simp only [callSite_eq exec context there, arrive, load_of_megamorphic megamorphic,
    Thunk.dispatch]

/-- **Relinking stays within its budget, and giving up is for good.**  Take any run of a new
site: calls of any kind, also in each other's code, and in between anything that is not
done to the site.  Its links and its failures are those of the account, which has it give
up at exactly one link.  Whatever is called next carries the run on; and once the site is
megamorphic no run changes anything about it, while each call is resolved anew. -/
theorem relinks_within_budget (tame : Tame (Apart ref) exec)
    (small : start.options.maxFail.toNat + 3 ≤ 2 ^ 32) {name : String} {shape : CallShape}
    {callType : CallType} (fresh : start.site? ref = some (.create name shape callType))
    (goes : Goes ref start events world) :
    ∃ site, world.site? ref = some site ∧ Budget start.options.maxFail events site ∧
      (∀ context calling, ∃ more,
        Goes ref start (events ++ more) (Calling.run exec context world calling).2) ∧
      (site.isMegamorphic = true →
        (∀ more after, Goes ref world more after → more = [] ∧ after.site? ref = some site) ∧
          ∀ context call, callSite exec context ref call world =
            send exec context name callType call world) := by
  obtain ⟨_, site, there, declared, budget⟩ := goes.budget small fresh
  have named : site.name = name := (congrArg CallSite.name declared :)
  have typed : site.callType = callType := (congrArg CallSite.callType declared :)
  refine ⟨site, there, budget, fun context calling => ?_, fun megamorphic => ⟨?_, ?_⟩⟩
  · have called := (engine_goes ref).calling
      (tame.keeps (engine_goes ref) fun apart => ⟨[], .once apart⟩) context world calling
    exact called.imp fun more further => goes.trans further
  · exact fun more after further => further.of_megamorphic there megamorphic
  · intro context call
    rw [callSite_of_megamorphic there megamorphic, named, typed]

/-- A site that may fail once gives up at its third link.  The method that it calls goes
through the same site again. -/
theorem relinks_within_budget_of_three :
    let fresh : World Deed Unit := create { maxFail := 1 } .hierarchy none ()
    let made := fresh.createMethod "again" false
      (.compiled { entry := .through ⟨0⟩, scope := { kind := .method, locals := [] } })
    let sited := (made.2.define TypeRef.object made.1).createSite (.create "again" {} .normal)
    let start := sited.2
    let called := fun receiver world =>
      (Calling.run (Deed.enact 2) ⟨0⟩ world (.site ⟨0⟩ { receiver })).2
    let world := called (.bool true) (called .nil (called (.int 1) start))
    ∃ events site, Goes ⟨0⟩ start events world ∧ world.site? ⟨0⟩ = some site ∧
      Budget 1 events site ∧ events.length = 3 ∧ LinkEvent.gaveUp ∈ events ∧
        ∀ context call, callSite (Deed.enact 2) context ⟨0⟩ call world =
          send (Deed.enact 2) context "again" .normal call world := by
  intro fresh made sited start called world
  have facts : (world.site? ⟨0⟩).any
      (fun site => site.isMegamorphic && site.links == 3) = true := by
    decide +kernel
  obtain ⟨site, there, counted⟩ := Option.any_eq_true _ _ |>.1 facts
  simp only [Bool.and_eq_true, beq_iff_eq] at counted
  have tame : Tame (Apart ⟨0⟩) (Deed.enact 2 : Exec Deed Unit) := Deed.tame_enact _ 2
  have engine := @engine_goes Deed Unit ⟨0⟩
  have goes : ∀ receiver world, ∃ events, Goes ⟨0⟩ world events (called receiver world) :=
    fun receiver world => engine.calling (tame.keeps engine fun apart => ⟨[], .once apart⟩) _ _ _
  obtain ⟨events, goes⟩ := engine.trans (engine.trans (goes _ _) (goes _ _)) (goes _ _)
  have allowed : start.options.maxFail = 1 := by decide +kernel
  have small : start.options.maxFail.toNat + 3 ≤ 2 ^ 32 := by rw [allowed]; decide
  have first : sited.1 = ⟨0⟩ := by decide +kernel
  have new : start.site? ⟨0⟩ = some (.create "again" {} .normal) := first ▸ site?_createSite _ _
  obtain ⟨_, same, budget, _, good⟩ := relinks_within_budget tame small new goes
  cases same.symm.trans there
  rw [allowed] at budget
  exact ⟨events, site, goes, there, budget, budget.links.symm.trans counted.2,
    budget.megamorphic.1 counted.1, (good counted.1).2⟩

end World

end InlineCache
