/-
# InlineCache.Proofs.Freshness -- reads of globals are never stale

Every place that reads a global keeps a copy of its value, and copies are revoked at the
end of a write.  Here a world has such sites in its host, with a history: what was stored
in globals, and when the copies of one were revoked (`Ledger`).

A world goes on by steps (`Ledger.Step`): sites are made and read, globals are defined and
hooked, a write begins, a write that began ends, and whatever else happens leaves globals
and what guards them alone.  Writes may begin within others and end in any order.  Hooks
go by such steps as well, and end every write that they begin (`Ledger.Lawful`).

* `Ledger.Sound`: what every step keeps.  A copy whose switch point is valid was taken
  under the one that guards its global now, and is the value of the global unless that was
  stored again and not revoked since;
* `World.sound_of_reachable`: so it is in every reachable world;
* `World.readGlobal_latest`: while no hook on a global runs, a read of it through any site
  answers with the value that was stored in it last.
-/
import InlineCache.Proofs.Globals
import InlineCache.Proofs.Invalidation
import InlineCache.Send.Block
import Mathlib.Logic.Relation

namespace InlineCache

set_option autoImplicit false

variable {Code : Type}

/-! ## The history of globals -/

/-- What happens to the copies of a global. -/
inductive GlobalMark where
  /-- a value was stored, and hooks begin to run -/
  | stored (name : String) (value : Value)
  /-- the copies were revoked -/
  | revoked (name : String)

namespace GlobalMark

def name : GlobalMark → String
  | stored name _ | revoked name => name

@[simp] theorem name_stored (name : String) (value : Value) : (stored name value).name = name := rfl

@[simp] theorem name_revoked (name : String) : (revoked name).name = name := rfl

/-- The value stored last in a global; nil if there is none.  The latest mark is first. -/
def latest (name : String) : List GlobalMark → Value
  | [] => .nil
  | stored other value :: earlier => if other = name then value else latest name earlier
  | revoked _ :: earlier => latest name earlier

/-- Were the copies of a global revoked after every store? -/
def settled (name : String) : List GlobalMark → Bool
  | [] => true
  | stored other _ :: earlier => if other = name then false else settled name earlier
  | revoked other :: earlier => if other = name then true else settled name earlier

end GlobalMark

/-- The sites of a world that read globals, and the history of the globals. -/
structure Ledger where
  sites : Array GlobalSite := #[]
  /-- the globals whose hooks run, once for each write that has not ended -/
  running : List String := []
  /-- the latest first -/
  marks : List GlobalMark := []

namespace Ledger

/-- Note a mark; a store begins a write, and a revocation ends one. -/
def note (ledger : Ledger) (mark : GlobalMark) : Ledger :=
  { ledger with
      marks := mark :: ledger.marks
      running := match mark with
        | .stored name _ => name :: ledger.running
        | .revoked name => ledger.running.erase name }

def about (ledger : Ledger) (name : String) : List GlobalMark :=
  ledger.marks.filter fun mark => mark.name = name

def addSite (ledger : Ledger) (name file : String) (line : UInt32) : Ledger :=
  { ledger with sites := ledger.sites.push { name, file, line } }

end Ledger

namespace World

def readGlobal (world : World Code Ledger) (number : Nat) : Option Value × World Code Ledger :=
  match world.host.sites[number]? with
  | none => (none, world)
  | some site =>
      let result := site.get world.options world.globals world.points
      let host := { world.host with sites := world.host.sites.modify number fun _ => result.site }
      (some result.value,
        { world.say result.log with globals := result.globals, points := result.points, host })

def note (world : World Code Ledger) (mark : GlobalMark) : World Code Ledger :=
  { world with host := world.host.note mark }

/-- A write of a global, with its beginning and its end in the ledger. -/
def writeGlobal (exec : Exec Code Ledger) (name : String) (value : Value)
    (world : World Code Ledger) : Outcome × World Code Ledger :=
  let (outcome, world) := setGlobal exec name value (world.note (.stored name value))
  (outcome, world.note (.revoked name))

/-- How a write begins: the value is stored. -/
def beginWrite (world : World Code Ledger) (name : String) (value : Value) : World Code Ledger :=
  let (globals, points) := world.globals.mention name world.points
  { world with
      globals := globals.assign name value, points, host := world.host.note (.stored name value) }

/-- How a write ends: the copies are revoked. -/
def endWrite (world : World Code Ledger) (name : String) : World Code Ledger :=
  let (globals, points) := world.globals.invalidate name world.points
  { world with globals, points, host := world.host.note (.revoked name) }

/-- The hooks on a global, in the order in which they run. -/
def hooksOn (world : World Code Ledger) (name : String) : List Code :=
  match NameMap.get? world.globals name with
  | some variable_ => variable_.traces
  | none => []

/-- **A write is three things**: the value is stored, the hooks run, the copies are
revoked. -/
theorem writeGlobal_eq (exec : Exec Code Ledger) (name : String) (value : Value)
    (world : World Code Ledger) :
    (writeGlobal exec name value world).2 =
      (runTraces exec name value ((world.beginWrite name value).hooksOn name)
        (world.beginWrite name value)).endWrite name := rfl

/-- **A read is one of two things**: nothing happens but what is logged, or the site had no
valid copy and goes to the variable. -/
theorem readGlobal_cases (world : World Code Ledger) (number : Nat) :
    ((world.readGlobal number).2.globals = world.globals ∧
        (world.readGlobal number).2.points = world.points ∧
          (world.readGlobal number).2.host = world.host) ∨
      ∃ site after, world.host.sites[number]? = some site ∧ site.held? world.points = none ∧
        GlobalSite.Fetched site world.globals world.points after ∧
          (world.readGlobal number).2.globals = after.globals ∧
            (world.readGlobal number).2.points = after.points ∧
              (world.readGlobal number).2.host = { world.host with
                sites := world.host.sites.modify number fun _ => after.site } := by
  cases there : world.host.sites[number]? with
  | none =>
      have nothing : (world.readGlobal number).2 = world := by
        simp only [readGlobal, there]
      rw [nothing]
      exact .inl ⟨rfl, rfl, rfl⟩
  | some site =>
      simp only [readGlobal, there]
      cases held : site.held? world.points with
      | some value =>
          rw [GlobalSite.get_of_held held]
          have same : (world.host.sites.modify number fun _ => site) = world.host.sites := by
            refine Array.ext_getElem? fun place => ?_
            rw [Array.getElem?_modify]
            split
            · rename_i here
              rw [← here, there]
              rfl
            · rfl
          refine .inl ⟨rfl, rfl, ?_⟩
          dsimp only
          rw [same]
      | none =>
          exact .inr ⟨site, _, rfl, held, GlobalSite.fetched_get held world.options world.globals,
            rfl, rfl, rfl⟩

end World

/-! ## How a world goes on -/

namespace Ledger

/-- One step of a world, seen by its globals. -/
inductive Step : World Code Ledger → World Code Ledger → Prop where
  | site (world : World Code Ledger) (name file : String) (line : UInt32) :
      Step world { world with host := world.host.addSite name file line }
  | read (world : World Code Ledger) (number : Nat) : Step world (world.readGlobal number).2
  | define (world : World Code Ledger) (name : String) (scope : GlobalScope) :
      Step world { world with
        globals := (world.globals.define name scope world.points).1
        points := (world.globals.define name scope world.points).2 }
  | hook (world : World Code Ledger) (name : String) (hook : Code) :
      Step world { world with
        globals := NameMap.modify world.globals name fun its =>
          { its with traces := its.traces ++ [hook] } }
  | store (world : World Code Ledger) (name : String) (value : Value) :
      Step world (world.beginWrite name value)
  | revoke (world : World Code Ledger) {name : String} (runs : name ∈ world.host.running) :
      Step world (world.endWrite name)
  | elsewhere {world after : World Code Ledger} (globals : after.globals = world.globals)
      (host : after.host = world.host) (ages : world.points.Ages after.points)
      (guards : ∀ {name : String} {token : SwitchPoint},
        world.globals.switchPoint? name = some token →
          after.points.isValid token = world.points.isValid token) : Step world after

abbrev Evolves : World Code Ledger → World Code Ledger → Prop := Relation.ReflTransGen Step

/-- Code that goes by steps, and ends the writes it begins. -/
def Lawful (exec : Exec Code Ledger) : Prop :=
  ∀ (code : Code) (activation : Activation) (world : World Code Ledger),
    Evolves world (exec code activation world).2 ∧
      (exec code activation world).2.host.running = world.host.running

/-- What a fresh world comes to by steps and by writes with their hooks. -/
inductive Reachable (exec : Exec Code Ledger) : World Code Ledger → Prop where
  | fresh (options : Options) (rule : LookupRule Code) (coverage : Option Coverage) :
      Reachable exec (World.create options rule coverage {})
  | step {world after : World Code Ledger} (reached : Reachable exec world)
      (step : Step world after) : Reachable exec after
  | write {world : World Code Ledger} (reached : Reachable exec world) (name : String)
      (value : Value) : Reachable exec (World.writeGlobal exec name value world).2

variable {exec : Exec Code Ledger} {world after : World Code Ledger}

theorem evolves_runTraces (lawful : Lawful exec) (name : String) (value : Value)
    (hooks : List Code) (world : World Code Ledger) :
    Evolves world (World.runTraces exec name value hooks world) ∧
      (World.runTraces exec name value hooks world).host.running = world.host.running := by
  induction hooks generalizing world with
  | nil => exact ⟨.refl, rfl⟩
  | cons hook rest ih =>
      obtain ⟨first, same⟩ := lawful hook
        { context := none, receiver := .nil, args := [.symbol name, value], block := none,
          entrance := .trace } world
      obtain ⟨further, same'⟩ := ih (exec hook
        { context := none, receiver := .nil, args := [.symbol name, value], block := none,
          entrance := .trace } world).2
      exact ⟨first.trans further, same'.trans same⟩

/-- **A write goes by steps**, and ends as it began. -/
theorem evolves_writeGlobal (lawful : Lawful exec) (name : String) (value : Value)
    (world : World Code Ledger) :
    Evolves world (World.writeGlobal exec name value world).2 ∧
      (World.writeGlobal exec name value world).2.host.running = world.host.running := by
  rw [World.writeGlobal_eq]
  obtain ⟨ran, same⟩ := evolves_runTraces lawful name value
    ((world.beginWrite name value).hooksOn name) (world.beginWrite name value)
  have runs : (World.runTraces exec name value ((world.beginWrite name value).hooksOn name)
      (world.beginWrite name value)).host.running = name :: world.host.running := same
  have begun : Evolves world (world.beginWrite name value) := .single (.store world name value)
  refine ⟨(begun.trans ran).tail (.revoke _ ?_), ?_⟩
  · rw [runs]
    exact List.mem_cons_self
  · simp only [World.endWrite, note, runs, List.erase_cons_head]

/-! ## What every step keeps -/

/-- What may be said of a copy of a global's value taken under a switch point. -/
structure Faithful (world : World Code Ledger) (name : String) (token : SwitchPoint)
    (value : Value) : Prop where
  known : token.index < world.points.points.size
  guards : world.points.isValid token = true → world.globals.switchPoint? name = some token
  copies : world.points.isValid token = true → GlobalMark.settled name world.host.marks = true →
    value = world.globals.value name

/-- **What every step keeps.** -/
structure Sound (world : World Code Ledger) : Prop where
  guarded : world.globals.Guarded world.points
  latest : ∀ name, world.globals.value name = GlobalMark.latest name world.host.marks
  /-- what was stored and not revoked is revoked when the write ends -/
  runs : ∀ {name : String}, GlobalMark.settled name world.host.marks = false →
    name ∈ world.host.running
  faithful : ∀ {number : Nat} {site : GlobalSite} {token : SwitchPoint} {value : Value},
    world.host.sites[number]? = some site → site.read.load = .cached token value →
      Faithful world site.name token value

/-- What copies rest on is undone by flipping their switch points only. -/
structure Carries (before after : World Code Ledger) : Prop where
  ages : before.points.Ages after.points
  guards : ∀ {name : String} {token : SwitchPoint},
    before.globals.switchPoint? name = some token → after.points.isValid token = true →
      after.globals.switchPoint? name = some token
  copies : ∀ {name : String} {token : SwitchPoint},
    before.globals.switchPoint? name = some token → after.points.isValid token = true →
      GlobalMark.settled name after.host.marks = true →
        GlobalMark.settled name before.host.marks = true ∧
          after.globals.value name = before.globals.value name

theorem Faithful.carried {name : String} {token : SwitchPoint} {value : Value}
    (faithful : Faithful world name token value) (carries : Carries world after) :
    Faithful after name token value where
  known := Nat.lt_of_lt_of_le faithful.known carries.ages.grows
  guards valid := by
    have before := carries.ages.valid faithful.known valid
    exact carries.guards (faithful.guards before) valid
  copies valid settled := by
    have before := carries.ages.valid faithful.known valid
    obtain ⟨settled', same⟩ := carries.copies (faithful.guards before) valid settled
    rw [same]
    exact faithful.copies before settled'

/-- What a definition or a read does to the table of globals: it may add some that are
nil, and takes no switch point away. -/
theorem Carries.of_same (marks : after.host.marks = world.host.marks)
    (ages : world.points.Ages after.points)
    (values : ∀ name, after.globals.value name = world.globals.value name)
    (guards : ∀ {name : String} {token : SwitchPoint},
      world.globals.switchPoint? name = some token →
        after.globals.switchPoint? name = some token) : Carries world after where
  ages := ages
  guards there _ := guards there
  copies _ _ settled := ⟨marks ▸ settled, values _⟩

namespace Sound

/-- Sites that are as they were are as good as they were. -/
theorem of_carries (sound : Sound world) (carries : Carries world after)
    (guarded : after.globals.Guarded after.points)
    (latest : ∀ name, after.globals.value name = GlobalMark.latest name after.host.marks)
    (runs : ∀ {name : String}, GlobalMark.settled name after.host.marks = false →
      name ∈ after.host.running)
    (sites : after.host.sites = world.host.sites) : Sound after where
  guarded := guarded
  latest := latest
  runs := runs
  faithful there kept := by
    rw [sites] at there
    exact (sound.faithful there kept).carried carries

theorem elsewhere (sound : Sound world) (globals : after.globals = world.globals)
    (host : after.host = world.host) (ages : world.points.Ages after.points) : Sound after := by
  refine sound.of_carries (Carries.of_same (by rw [host]) ages ?_ ?_) ?_ ?_ ?_ (by rw [host])
  · exact fun name => by rw [globals]
  · exact fun there => globals ▸ there
  · exact sound.guarded.of_switchPoint? (fun name => by rw [globals]) ages.grows
  · exact fun name => by rw [globals, host, sound.latest]
  · rw [host]
    exact sound.runs

theorem site (sound : Sound world) (name file : String) (line : UInt32) :
    Sound { world with host := world.host.addSite name file line } where
  guarded := sound.guarded
  latest := sound.latest
  runs := sound.runs
  faithful {number site token value} there kept := by
    simp only [addSite, Array.getElem?_push] at there
    split at there
    · obtain rfl := Option.some.inj there
      cases kept
    · exact ⟨(sound.faithful there kept).known, (sound.faithful there kept).guards,
        (sound.faithful there kept).copies⟩

theorem define (sound : Sound world) (name : String) (scope : GlobalScope) :
    Sound { world with
      globals := (world.globals.define name scope world.points).1
      points := (world.globals.define name scope world.points).2 } := by
  refine sound.of_carries (Carries.of_same rfl ?_ ?_ ?_) ?_ ?_ sound.runs rfl
  · exact Globals.ages_define world.globals name scope world.points
  · exact fun other => Globals.value_define world.globals name other scope world.points
  · exact fun there => Globals.switchPoint?_define there
  · exact sound.guarded.define name scope
  · intro other
    exact (Globals.value_define _ _ _ _ _).trans (sound.latest other)

theorem hook (sound : Sound world) (name : String) (hook : Code) :
    Sound { world with
      globals := NameMap.modify world.globals name fun its =>
        { its with traces := its.traces ++ [hook] } } := by
  have points := Globals.switchPoint?_modify
    (fun its : GlobalVariable Code => { its with traces := its.traces ++ [hook] })
    (fun _ => rfl) world.globals name
  have values := Globals.value_modify
    (fun its : GlobalVariable Code => { its with traces := its.traces ++ [hook] })
    (fun _ => rfl) world.globals name
  refine sound.of_carries (Carries.of_same rfl (.refl _) values ?_) ?_ ?_ sound.runs rfl
  · exact fun there => (points _).trans there
  · exact sound.guarded.of_switchPoint? points (Nat.le_refl _)
  · exact fun other => (values other).trans (sound.latest other)

theorem read (sound : Sound world) (number : Nat) : Sound (world.readGlobal number).2 := by
  rcases world.readGlobal_cases number with ⟨globals, points, host⟩ |
    ⟨site, after, there, -, fetched, globals, points, host⟩
  · refine sound.elsewhere globals host ?_
    rw [points]
    exact .refl _
  · have carries : Carries world (world.readGlobal number).2 := by
      refine Carries.of_same (by rw [host]) ?_ ?_ ?_
      · rw [points]
        exact fetched.ages
      · rw [globals]
        exact fetched.value_globals
      · rw [globals]
        exact fetched.switchPoint?
    refine ⟨?_, ?_, ?_, fun {place site' token value} found kept => ?_⟩
    · rw [globals, points]
      exact fetched.guarded sound.guarded
    · intro name
      rw [globals, host, fetched.value_globals]
      exact sound.latest name
    · rw [host]
      exact sound.runs
    · rw [host] at found
      simp only [Array.getElem?_modify] at found
      split at found
      · rename_i here
        subst here
        rw [there] at found
        obtain rfl := Option.some.inj found
        -- the copy that the read has made, if it made one
        rcases fetched.read with direct | ⟨fresh, guards, copy⟩
        · rw [direct] at kept
          cases kept
        · obtain ⟨rfl, rfl⟩ := GlobalRead.cached.inj (copy.symm.trans kept)
          rw [fetched.name]
          refine ⟨?_, fun _ => ?_, fun _ _ => ?_⟩
          · rw [points]
            exact (fetched.guarded sound.guarded).known guards
          · rw [globals]
            exact guards
          · rw [globals]
            exact (fetched.value_globals site.name).symm
      · exact (sound.faithful found kept).carried carries

end Sound

end Ledger

namespace World

variable {world : World Code Ledger}

theorem value_beginWrite (world : World Code Ledger) (name other : String) (value : Value) :
    (world.beginWrite name value).globals.value other =
      if name = other then value else world.globals.value other := by
  have there := world.globals.isSome_define name (defaultScope name) world.points
  refine (Globals.value_assign value there).trans ?_
  rw [Globals.value_define]

theorem switchPoint?_beginWrite {name other : String} {token : SwitchPoint} (value : Value)
    (there : world.globals.switchPoint? other = some token) :
    (world.beginWrite name value).globals.switchPoint? other = some token := by
  have defined : (world.globals.define name (defaultScope name) world.points).1.switchPoint? other =
      some token := Globals.switchPoint?_define there
  exact (Globals.switchPoint?_assign _ name other value).trans defined

theorem ages_beginWrite (world : World Code Ledger) (name : String) (value : Value) :
    world.points.Ages (world.beginWrite name value).points :=
  Globals.ages_define world.globals name (defaultScope name) world.points

theorem guarded_beginWrite (guarded : world.globals.Guarded world.points) (name : String)
    (value : Value) :
    (world.beginWrite name value).globals.Guarded (world.beginWrite name value).points :=
  (guarded.define name (defaultScope name)).of_switchPoint?
    (fun other => Globals.switchPoint?_assign _ name other value) (Nat.le_refl _)

end World

namespace Ledger

variable {exec : Exec Code Ledger} {world after : World Code Ledger}

namespace Sound

/-- Between the beginning of a write and its end copies of the global may be older. -/
theorem store (sound : Sound world) (name : String) (value : Value) :
    Sound (world.beginWrite name value) := by
  have marks : (world.beginWrite name value).host.marks = .stored name value :: world.host.marks :=
    rfl
  have carries : Carries world (world.beginWrite name value) := by
    refine ⟨world.ages_beginWrite name value, fun there _ => ?_, fun {other _} _ _ settled => ?_⟩
    · exact World.switchPoint?_beginWrite value there
    · rw [marks, GlobalMark.settled] at settled
      split at settled
      · cases settled
      · rename_i different
        rw [World.value_beginWrite, if_neg different]
        exact ⟨settled, rfl⟩
  refine sound.of_carries carries (World.guarded_beginWrite sound.guarded name value) ?_ ?_ rfl
  · intro other
    rw [World.value_beginWrite, marks, GlobalMark.latest, sound.latest]
  · intro other open_
    rw [marks, GlobalMark.settled] at open_
    split at open_
    · rename_i same
      rw [← same]
      exact List.mem_cons_self
    · exact List.mem_cons_of_mem name (sound.runs open_)

/-- **The end of a write leaves no copy that is older.** -/
theorem revoke (sound : Sound world) (name : String) : Sound (world.endWrite name) := by
  have marks : (world.endWrite name).host.marks = .revoked name :: world.host.marks := rfl
  -- under a switch point that is still valid there are copies of other globals only
  have others : ∀ {other : String} {token : SwitchPoint},
      world.globals.switchPoint? other = some token →
        (world.endWrite name).points.isValid token = true → name ≠ other := by
    rintro other token there valid rfl
    have flipped : (world.endWrite name).points.isValid token = false :=
      Globals.invalidate_flips there
    rw [flipped] at valid
    cases valid
  have carries : Carries world (world.endWrite name) := by
    refine ⟨Globals.ages_invalidate _ name _, fun there valid => ?_, fun there valid settled => ?_⟩
    · exact (Globals.switchPoint?_invalidate_of_ne (others there valid)).trans there
    · rw [marks, GlobalMark.settled, if_neg (others there valid)] at settled
      exact ⟨settled, Globals.value_invalidate _ _ _ _⟩
  refine sound.of_carries carries (sound.guarded.invalidate name) ?_ ?_ rfl
  · intro other
    exact (Globals.value_invalidate _ _ _ _).trans (sound.latest other)
  · intro other open_
    rw [marks, GlobalMark.settled] at open_
    split at open_
    · cases open_
    · rename_i different
      exact (List.mem_erase_of_ne (Ne.symm different)).2 (sound.runs open_)

/-- **Every step keeps it.** -/
theorem step (sound : Sound world) (step : Step world after) : Sound after := by
  cases step with
  | site name file line => exact sound.site name file line
  | read number => exact sound.read number
  | define name scope => exact sound.define name scope
  | hook name hook => exact sound.hook name hook
  | store name value => exact sound.store name value
  | revoke runs => exact sound.revoke _
  | elsewhere globals host ages guards => exact sound.elsewhere globals host ages

theorem evolves (sound : Sound world) (evolves : Evolves world after) : Sound after := by
  induction evolves with
  | refl => exact sound
  | tail _ step ih => exact ih.step step

end Sound

/-! ## Reachable worlds -/

theorem sound_blank (options : Options) (rule : LookupRule Code) (coverage : Option Coverage) :
    Sound (World.blank options rule coverage {}) := by
  simp only [World.blank, Globals.initial]
  -- which names they are does not matter
  generalize uncachedGlobals = names
  refine ⟨?_, ?_, ?_, ?_⟩
  · exact (Globals.Guarded.nil _).defineAll names
  · exact Globals.value_defineAll names [] _
  · intro name open_
    simp [GlobalMark.settled] at open_
  · intro number site token value there
    simp at there

/-- A fresh world is sound: what is done to its types is nothing to its globals. -/
theorem sound_create (options : Options) (rule : LookupRule Code) (coverage : Option Coverage) :
    Sound (World.create options rule coverage {}) := by
  have typed : ∀ {world after : World Code Ledger} (change : Change Code),
      Registry.Sound ⟨world.types, world.points⟩ ∧ Sound world →
        (⟨after.types, after.points⟩ : Registry Code) =
            Registry.apply ⟨world.types, world.points⟩ change →
          after.globals = world.globals → after.host = world.host →
            Registry.Sound ⟨after.types, after.points⟩ ∧ Sound after := by
    intro world after change sound same globals host
    refine ⟨same ▸ Registry.sound_apply sound.1 change, sound.2.elsewhere globals host ?_⟩
    have ages := (Registry.leaves_apply sound.1 TypeRef.object change).ages
    rw [← same] at ages
    exact ages
  refine (World.create_induction (motive := fun world =>
    Registry.Sound ⟨world.types, world.points⟩ ∧ Sound world) ?_ ?_ ?_).2
  · refine ⟨?_, sound_blank options rule coverage⟩
    rw [World.types_blank]
    exact Registry.sound_empty _
  · intro world name parent? classes sound
    exact typed (.create name parent? World.defaultFieldCapacity) sound rfl rfl rfl
  · intro world sound
    exact typed (.define TypeRef.basicObject
      (world.createMethod World.methodMissing true World.defaultMissing).1) sound rfl rfl rfl

/-- **Every reachable world is sound**, also one in which writes have begun and not ended. -/
theorem sound_of_reachable (lawful : Lawful exec) (reachable : Reachable exec world) :
    Sound world := by
  induction reachable with
  | fresh options rule coverage => exact sound_create options rule coverage
  | step _ step ih => exact ih.step step
  | write _ name value ih => exact ih.evolves (evolves_writeGlobal lawful name value _).1

end Ledger

namespace World

open Ledger

variable {exec : Exec Code Ledger} {world : World Code Ledger}

/-- A read through a site answers with its valid copy, or else with the value of the
global. -/
theorem readGlobal_eq {number : Nat} {site : GlobalSite}
    (there : world.host.sites[number]? = some site) :
    (world.readGlobal number).1 =
      some ((site.held? world.points).getD (world.globals.value site.name)) := by
  simp only [readGlobal, there, GlobalSite.value_get]

/-- A read is fresh as soon as copies were revoked after the last store. -/
theorem readGlobal_of_settled (sound : Sound world) {number : Nat} {site : GlobalSite}
    (there : world.host.sites[number]? = some site)
    (settled : GlobalMark.settled site.name world.host.marks = true) :
    (world.readGlobal number).1 = some (GlobalMark.latest site.name world.host.marks) := by
  rw [readGlobal_eq there, ← sound.latest]
  cases held : site.held? world.points with
  | none => rfl
  | some value =>
      obtain ⟨token, kept, valid⟩ := GlobalSite.held?_eq_some_iff.1 held
      rw [← (sound.faithful there kept).copies valid settled]
      rfl

/-- **Reads of globals are never stale.**  Whatever was done to a fresh world, with hooks
that go by its steps, a read through any site answers with the value stored last in the
global, or nil if there is none, as long as no hook on that global runs. -/
theorem readGlobal_latest (lawful : Lawful exec) (reachable : Reachable exec world)
    {number : Nat} {site : GlobalSite} (there : world.host.sites[number]? = some site)
    (idle : site.name ∉ world.host.running) :
    (world.readGlobal number).1 = some (GlobalMark.latest site.name world.host.marks) := by
  have sound := sound_of_reachable lawful reachable
  refine readGlobal_of_settled sound there ?_
  cases settled : GlobalMark.settled site.name world.host.marks with
  | true => rfl
  | false => exact absurd (sound.runs settled) idle

def idle : Exec Unit Ledger := fun _ _ world => (.ok .nil, world)

theorem lawful_idle : Lawful idle := fun _ _ _ => ⟨.refl, rfl⟩

/-- Code that reads through the first site and stores what it read in another global. -/
def spy (name : String) : Exec Unit Ledger := fun _ _ world =>
  (.ok .nil,
    (writeGlobal idle name ((world.readGlobal 0).1.getD .nil) (world.readGlobal 0).2).2)

theorem lawful_spy (name : String) : Lawful (spy name) := by
  intro code activation world
  obtain ⟨wrote, same⟩ := evolves_writeGlobal lawful_idle name
    ((world.readGlobal 0).1.getD .nil) (world.readGlobal 0).2
  have read : (world.readGlobal 0).2.host.running = world.host.running := by
    rcases world.readGlobal_cases 0 with ⟨-, -, host⟩ | ⟨_, _, -, -, -, -, -, host⟩
    · rw [host]
    · rw [host]
  simp only [spy]
  exact ⟨.head (.read world 0) wrote, same.trans read⟩

/-- A site that was read before a write and during it, and is demoted by the read after it,
answers with the value written. -/
theorem readGlobal_latest_after_hook :
    let exec : Exec Unit Ledger := spy "$seen"
    let fresh : World Unit Ledger := create { globalMaxFail := 0 } .hierarchy none {}
    let sited : World Unit Ledger := { fresh with host := fresh.host.addSite "$x" "a.rb" 1 }
    let first := (writeGlobal exec "$x" (.int 1) sited).2
    let read := (first.readGlobal 0).2
    let hooked : World Unit Ledger := { read with
      globals := NameMap.modify read.globals "$x" fun its =>
        { its with traces := its.traces ++ [()] } }
    let world := (writeGlobal exec "$x" (.int 2) hooked).2
    world.host.running = [] ∧ (world.globals.value "$seen").int? = some 1 ∧
      (world.readGlobal 0).1.bind Value.int? = some 2 := by
  intro exec fresh sited first read hooked world
  have begun : Reachable exec first :=
    .write (.step (.fresh { globalMaxFail := 0 } .hierarchy none) (.site fresh "$x" "a.rb" 1)) "$x"
      (.int 1)
  have asked : Reachable exec hooked := .step (.step begun (.read first 0)) (.hook read "$x" ())
  have reachable : Reachable exec world := .write asked "$x" (.int 2)
  have facts : world.host.running = [] ∧ (world.globals.value "$seen").int? = some 1 ∧
      world.host.sites[0]?.map GlobalSite.name = some "$x" ∧
        (GlobalMark.latest "$x" world.host.marks).int? = some 2 := by
    decide +kernel
  clear_value world
  obtain ⟨idle, seen, named, last⟩ := facts
  obtain ⟨site, there, name⟩ := Option.map_eq_some_iff.1 named
  refine ⟨idle, seen, ?_⟩
  rw [readGlobal_latest (lawful_spy "$seen") reachable there (by rw [idle]; exact List.not_mem_nil),
    name, Option.bind_some, last]

end World

end InlineCache
