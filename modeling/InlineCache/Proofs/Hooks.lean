/-
# InlineCache.Proofs.Hooks -- what hooks on a write read

A write stores its value before its hooks run and revokes the copies after them.  A hook
that asks for the value of the global is told the value just stored.  One that reads
through a site is told the same only if the site keeps no copy from before: a copy under a
valid switch point is answered from while the hooks run, whatever was stored.

* `Ledger.copy_step`: a copy stays as long as nothing is stored and nothing revoked, and a
  new one is of the value that the global has;
* `World.readGlobal_within_write`: so what a hook reads through a site is the copy that the
  site kept when the write began, or else the value stored;
* `World.readGlobal_older_than_write`: a hook that reads an older value.
-/
import InlineCache.Proofs.Freshness

namespace InlineCache

set_option autoImplicit false

variable {Code : Type}

namespace GlobalMark

theorem latest_filter (name : String) (marks : List GlobalMark) :
    latest name (marks.filter fun mark => mark.name = name) = latest name marks := by
  induction marks with
  | nil => rfl
  | cons mark earlier ih =>
      cases mark with
      | stored other value =>
          by_cases same : other = name
          · rw [List.filter_cons_of_pos (by simp [same]), latest, latest, if_pos same,
              if_pos same]
          · rw [List.filter_cons_of_neg (by simp [same]), latest, if_neg same, ih]
      | revoked other =>
          by_cases same : other = name
          · rw [List.filter_cons_of_pos (by simp [same]), latest, latest, ih]
          · rw [List.filter_cons_of_neg (by simp [same]), latest, ih]

end GlobalMark

/-- The valid copy that the site of a place keeps. -/
def World.copy? (world : World Code Ledger) (number : Nat) : Option Value :=
  world.host.sites[number]?.bind fun site => site.held? world.points

namespace Ledger

variable {world between after : World Code Ledger} {name : String} {number : Nat}

/-! ## What one step leaves -/

theorem marks_step (step : Step world after) :
    after.host.marks = world.host.marks ∨
      ∃ mark, after.host.marks = mark :: world.host.marks := by
  cases step with
  | site name file line => exact .inl rfl
  | read number =>
      rcases world.readGlobal_cases number with ⟨-, -, host⟩ | ⟨_, _, -, -, -, -, -, host⟩
      · exact .inl (by rw [host])
      · exact .inl (by rw [host])
  | define name scope => exact .inl rfl
  | hook name hook => exact .inl rfl
  | store name value => exact .inr ⟨.stored name value, rfl⟩
  | @revoke name _ => exact .inr ⟨.revoked name, rfl⟩
  | elsewhere globals host ages guards => exact .inl (by rw [host])

theorem about_suffix_step (step : Step world after) (name : String) :
    world.host.about name <:+ after.host.about name := by
  rcases marks_step step with same | ⟨mark, more⟩
  · have kept : after.host.about name = world.host.about name := by rw [about, about, same]
    exact kept ▸ List.suffix_rfl
  · simp only [about, more]
    exact (List.suffix_cons mark world.host.marks).filter _

theorem about_suffix (evolves : Evolves world after) (name : String) :
    world.host.about name <:+ after.host.about name := by
  induction evolves with
  | refl => exact List.suffix_rfl
  | tail _ step ih => exact ih.trans (about_suffix_step step name)

theorem site_step (step : Step world after) {site : GlobalSite}
    (there : world.host.sites[number]? = some site) :
    ∃ site', after.host.sites[number]? = some site' ∧ site'.name = site.name := by
  cases step with
  | site name file line =>
      refine ⟨site, ?_, rfl⟩
      have inside : number < world.host.sites.size := (Array.getElem?_eq_some_iff.1 there).1
      rw [← there]
      exact Array.getElem?_push_lt inside ▸ (Array.getElem?_eq_getElem inside).symm
  | read place =>
      rcases world.readGlobal_cases place with ⟨-, -, host⟩ |
        ⟨site', after, there', -, fetched, -, -, host⟩
      · exact ⟨site, by rw [host, there], rfl⟩
      · rw [host]
        simp only [Array.getElem?_modify]
        by_cases here : place = number
        · subst here
          cases there.symm.trans there'
          rw [if_pos rfl, there]
          exact ⟨_, rfl, fetched.name⟩
        · rw [if_neg here]
          exact ⟨site, there, rfl⟩
  | define name scope => exact ⟨site, there, rfl⟩
  | hook name hook => exact ⟨site, there, rfl⟩
  | store name value => exact ⟨site, there, rfl⟩
  | revoke runs => exact ⟨site, there, rfl⟩
  | elsewhere globals host ages guards => exact ⟨site, by rw [host, there], rfl⟩

theorem ages_step (step : Step world after) : world.points.Ages after.points := by
  cases step with
  | site name file line => exact .refl _
  | read number =>
      rcases world.readGlobal_cases number with ⟨-, points, -⟩ |
        ⟨_, _, -, -, fetched, -, points, -⟩
      · rw [points]
        exact .refl _
      · rw [points]
        exact fetched.ages
  | define name scope => exact Globals.ages_define _ _ _ _
  | hook name hook => exact .refl _
  | store name value => exact world.ages_beginWrite name value
  | revoke runs => exact Globals.ages_invalidate _ _ _
  | elsewhere globals host ages guards => exact ages

/-- What guards a global goes on to do so until the global is revoked. -/
theorem isValid_step (sound : Sound world) (step : Step world after)
    (same : after.host.about name = world.host.about name) {token : SwitchPoint}
    (there : world.globals.switchPoint? name = some token) :
    after.points.isValid token = world.points.isValid token := by
  have known := sound.guarded.known there
  cases step with
  | site name file line => rfl
  | read number =>
      rcases world.readGlobal_cases number with ⟨-, points, -⟩ |
        ⟨_, _, -, -, fetched, -, points, -⟩
      · rw [points]
      · rw [points]
        exact fetched.isValid known
  | define name scope => exact Globals.isValid_define known
  | hook name hook => rfl
  | store other value => exact Globals.isValid_define known
  | @revoke other _ =>
      -- to revoke this very global would show in its history
      have different : other ≠ name := by
        rintro rfl
        have longer : (world.endWrite other).host.about other =
            .revoked other :: world.host.about other := by
          simp [World.endWrite, note, about, GlobalMark.name]
        rw [longer] at same
        exact List.cons_ne_self _ _ same
      refine Globals.isValid_invalidate_of_ne known fun guards => different ?_
      exact sound.guarded.apart guards there
  | elsewhere globals host ages guards => exact guards there

/-- A copy that nobody replaces stays what it is until the global is revoked. -/
theorem held?_step (sound : Sound world) (step : Step world after) {site : GlobalSite}
    (there : world.host.sites[number]? = some site)
    (same : after.host.about site.name = world.host.about site.name) :
    site.held? after.points = site.held? world.points := by
  refine GlobalSite.held?_congr fun {token value} kept => ?_
  have faithful := sound.faithful there kept
  cases valid : world.points.isValid token with
  | true => rw [isValid_step sound step same (faithful.guards valid), valid]
  | false => exact (ages_step step).stale faithful.known valid

/-- **What one step does to a copy**: it stays, or a site that had none takes one of the
value that the global has. -/
theorem copy_step (sound : Sound world) (step : Step world after)
    (same : after.host.about name = world.host.about name)
    (named : ∀ site, after.host.sites[number]? = some site → site.name = name) :
    after.copy? number = world.copy? number ∨
      (world.copy? number = none ∧
        (after.copy? number = none ∨ after.copy? number = some (world.globals.value name))) := by
  -- a step that leaves this place alone leaves its copy
  have stays : after.host.sites[number]? = world.host.sites[number]? →
      after.copy? number = world.copy? number := by
    intro sites
    rw [World.copy?, World.copy?, sites]
    cases there : world.host.sites[number]? with
    | none => rfl
    | some site =>
        have its := named site (sites.trans there)
        exact held?_step sound step there (its ▸ same)
  cases step with
  | site other file line =>
      by_cases fresh : number = world.host.sites.size
      · subst fresh
        have none_ : world.copy? world.host.sites.size = none := by
          simp [World.copy?]
        refine .inr ⟨none_, .inl ?_⟩
        simp [World.copy?, addSite, GlobalSite.held?, DispatchCell.load, DispatchCell.create]
      · refine .inl (stays ?_)
        simp only [addSite, Array.getElem?_push, if_neg fresh]
  | read place =>
      rcases world.readGlobal_cases place with ⟨-, -, host⟩ |
        ⟨site, after, there, unheld, fetched, globals, points, host⟩
      · exact .inl (stays (by rw [host]))
      · by_cases here : place = number
        · subst here
          have none_ : world.copy? place = none := by
            rw [World.copy?, there]
            exact unheld
          have sited : (world.readGlobal place).2.host.sites[place]? = some after.site := by
            rw [host]
            simp only [Array.getElem?_modify, if_true, there, Option.map_some]
          have its : site.name = name := fetched.name.symm.trans (named _ sited)
          refine .inr ⟨none_, ?_⟩
          rw [World.copy?, sited]
          rcases fetched.read with direct | ⟨token, -, kept⟩
          · exact .inl (by simp [GlobalSite.held?, direct])
          · simp only [Option.bind_some, GlobalSite.held?, kept, ← its]
            split
            · exact .inr rfl
            · exact .inl rfl
        · refine .inl (stays ?_)
          rw [host]
          simp only [Array.getElem?_modify, if_neg here]
  | define other scope => exact .inl (stays rfl)
  | hook other hook => exact .inl (stays rfl)
  | store other value => exact .inl (stays rfl)
  | revoke runs => exact .inl (stays rfl)
  | elsewhere globals host ages guards => exact .inl (stays (by rw [host]))

/-! ## What a run leaves -/

/-- What a global is worth is in its history. -/
theorem value_of_about (sound : Sound world) (sound' : Sound after)
    (same : after.host.about name = world.host.about name) :
    after.globals.value name = world.globals.value name := by
  calc after.globals.value name
      = GlobalMark.latest name (after.host.about name) := by
        rw [sound'.latest, about, GlobalMark.latest_filter]
    _ = GlobalMark.latest name (world.host.about name) := by rw [same]
    _ = world.globals.value name := by rw [sound.latest, about, GlobalMark.latest_filter]

/-- **A copy of a global outlives whatever is not a write of it**, and every copy taken
meanwhile is of the value that the global has all the time. -/
theorem copy_evolves (sound : Sound world) (evolves : Evolves world after)
    (same : after.host.about name = world.host.about name)
    (named : ∀ site, after.host.sites[number]? = some site → site.name = name) :
    after.copy? number = world.copy? number ∨
      (world.copy? number = none ∧
        (after.copy? number = none ∨ after.copy? number = some (world.globals.value name))) := by
  induction evolves with
  | refl => exact .inl rfl
  | @tail between after run step ih =>
      have sound' := sound.evolves run
      -- nothing was added to the history on the way either
      have kept : between.host.about name = world.host.about name := by
        have first := about_suffix run name
        have second : between.host.about name <:+ world.host.about name :=
          same ▸ about_suffix_step step name
        exact (first.eq_of_length_le second.length_le).symm
      have last : after.host.about name = between.host.about name := same.trans kept.symm
      have named' : ∀ site, between.host.sites[number]? = some site → site.name = name := by
        intro site there
        obtain ⟨site', there', name'⟩ := site_step step there
        exact name'.symm.trans (named site' there')
      have worth := value_of_about sound sound' kept
      have moved := copy_step sound' step last named
      rw [worth] at moved
      rcases ih kept named' with stayed | ⟨none_, old⟩
      · rw [stayed] at moved
        exact moved
      · refine .inr ⟨none_, ?_⟩
        rcases moved with stays | ⟨-, new⟩
        · rw [stays]
          exact old
        · exact new

end Ledger

namespace World

open Ledger

variable {exec : Exec Code Ledger} {world moment : World Code Ledger}

/-- That a write begins is nothing to the copies. -/
theorem copy?_beginWrite (sound : Sound world) (name : String) (value : Value) (number : Nat) :
    (world.beginWrite name value).copy? number = world.copy? number := by
  have sites : (world.beginWrite name value).host.sites = world.host.sites := rfl
  rw [copy?, copy?, sites]
  cases there : world.host.sites[number]? with
  | none => rfl
  | some site =>
      exact GlobalSite.held?_congr fun kept =>
        Globals.isValid_define (sound.faithful there kept).known

/-- **What a hook reads.**  A write begins in a reachable world; some of its hooks have run,
and another is at some point of its run, with no other write of the global begun or ended
since.  The global has the value just stored.  A read through a site answers with the copy
that the site kept when the write began, if it kept one under a valid switch point, and
with the value stored if not.  So a read agrees with the global exactly if the site kept no
copy of another value. -/
theorem readGlobal_within_write (lawful : Lawful exec) (reachable : Reachable exec world)
    {name : String} {value : Value} (ran : List Code)
    (within : Evolves (runTraces exec name value ran (world.beginWrite name value)) moment)
    (only : moment.host.about name = (world.beginWrite name value).host.about name)
    {number : Nat} {site : GlobalSite} (there : moment.host.sites[number]? = some site)
    (named : site.name = name) :
    moment.globals.value name = value ∧
      (moment.readGlobal number).1 = some ((world.copy? number).getD value) ∧
        ((moment.readGlobal number).1 = some (moment.globals.value name) ↔
          ∀ kept, world.copy? number = some kept → kept = value) := by
  have sound := sound_of_reachable lawful reachable
  have begun := sound.store name value
  have run : Evolves (world.beginWrite name value) moment :=
    (evolves_runTraces lawful name value ran _).1.trans within
  have stored : (world.beginWrite name value).globals.value name = value := by
    rw [value_beginWrite, if_pos rfl]
  have worth : moment.globals.value name = value :=
    (value_of_about begun (begun.evolves run) only).trans stored
  have copy : moment.copy? number = site.held? moment.points := by
    rw [copy?, there]
    rfl
  have read : (moment.readGlobal number).1 = some ((world.copy? number).getD value) := by
    rw [readGlobal_eq there, named, worth, ← copy]
    have its : ∀ site', moment.host.sites[number]? = some site' → site'.name = name := by
      intro site' there'
      cases there.symm.trans there'
      exact named
    have moved := copy_evolves begun run only its
    rw [copy?_beginWrite sound, stored] at moved
    rcases moved with stays | ⟨none_, new | new⟩
    · rw [stays]
    · rw [none_, new]
    · rw [none_, new]
      rfl
  refine ⟨worth, read, ?_⟩
  rw [read, worth]
  cases world.copy? number with
  | none => simp
  | some kept => simp

/-- Two sites read one global while a write of it goes on: the one that was read before
answers with the value of that time, the other with the value stored. -/
theorem readGlobal_within_write_of_two :
    let exec : Exec Unit Ledger := idle
    let fresh : World Unit Ledger := create {} .hierarchy none {}
    let one : World Unit Ledger := { fresh with host := fresh.host.addSite "$x" "a.rb" 1 }
    let two : World Unit Ledger := { one with host := one.host.addSite "$x" "b.rb" 1 }
    let world := ((writeGlobal exec "$x" (.int 1) two).2.readGlobal 0).2
    let moment := world.beginWrite "$x" (.int 2)
    (moment.globals.value "$x").int? = some 2 ∧
      (moment.readGlobal 0).1.bind Value.int? = some 1 ∧
        (moment.readGlobal 1).1.bind Value.int? = some 2 := by
  intro exec fresh one two world moment
  have begun : Reachable exec two :=
    .step (.step (.fresh {} .hierarchy none) (.site fresh "$x" "a.rb" 1)) (.site one "$x" "b.rb" 1)
  have reachable : Reachable exec world := .step (.write begun "$x" (.int 1)) (.read _ 0)
  have facts : moment.host.sites[0]?.map GlobalSite.name = some "$x" ∧
      moment.host.sites[1]?.map GlobalSite.name = some "$x" ∧
        (world.copy? 0).bind Value.int? = some 1 ∧ (world.copy? 1).isNone = true := by
    decide +kernel
  clear_value world
  obtain ⟨named, named', kept, none_⟩ := facts
  obtain ⟨site, there, name⟩ := Option.map_eq_some_iff.1 named
  obtain ⟨site', there', name'⟩ := Option.map_eq_some_iff.1 named'
  have within : Evolves (runTraces exec "$x" (.int 2) [] (world.beginWrite "$x" (.int 2))) moment :=
    .refl
  obtain ⟨worth, first, -⟩ :=
    readGlobal_within_write lawful_idle reachable [] within rfl there name
  obtain ⟨-, second, -⟩ :=
    readGlobal_within_write lawful_idle reachable [] within rfl there' name'
  obtain ⟨old, copied, one_⟩ := Option.bind_eq_some_iff.1 kept
  refine ⟨?_, ?_, ?_⟩
  · rw [worth]
    rfl
  · rw [first, copied]
    exact one_
  · rw [second, Option.isNone_iff_eq_none.1 none_]
    rfl

/-- **A hook may read what the write replaced.**  A site keeps a copy of the value 1, and 2
is written: the one hook on the global runs, with 2 stored; it reads 1 through the site,
and notes that in another global. -/
theorem readGlobal_older_than_write :
    let exec : Exec Unit Ledger := spy "$seen"
    let fresh : World Unit Ledger := create {} .hierarchy none {}
    let sited : World Unit Ledger := { fresh with host := fresh.host.addSite "$x" "a.rb" 1 }
    let read := ((writeGlobal exec "$x" (.int 1) sited).2.readGlobal 0).2
    let world : World Unit Ledger := { read with
      globals := NameMap.modify read.globals "$x" fun its =>
        { its with traces := its.traces ++ [()] } }
    let moment := world.beginWrite "$x" (.int 2)
    Lawful exec ∧ Reachable exec world ∧ moment.hooksOn "$x" = [()] ∧
      moment.host.sites[0]?.map GlobalSite.name = some "$x" ∧
        (moment.globals.value "$x").int? = some 2 ∧
          (moment.readGlobal 0).1.bind Value.int? = some 1 ∧
            ((writeGlobal exec "$x" (.int 2) world).2.globals.value "$seen").int? = some 1 := by
  intro exec fresh sited read world moment
  have begun : Reachable exec sited :=
    .step (.fresh {} .hierarchy none) (.site fresh "$x" "a.rb" 1)
  have reachable : Reachable exec world :=
    .step (.step (.write begun "$x" (.int 1)) (.read _ 0)) (.hook read "$x" ())
  refine ⟨lawful_spy "$seen", reachable, ?_⟩
  decide +kernel

end World

end InlineCache
