/-
# InlineCache.Proofs.Results -- what the command prints

What a scenario prints is known from the number of rounds alone (`Scenario.lines?`), apart
from the statistics of its sites: how often a global site failed depends on its budget too,
and of a call site nothing is said.  So it does not matter under which settings of linking a
scenario runs, nor which scenarios ran before it.  Of the scenario with threads nothing is
known but that it ends.

* `yields_run`: a scenario shows what is known of it, on any stage;
* `runCommand_shows`: so does a run of all its scenarios, one after another, under any settings,
  and the command that asks for them.
-/
import InlineCache.Demo.Command
import InlineCache.Proofs.Churn

namespace InlineCache

set_option autoImplicit false

namespace Demo

/-- The number of the last of so many rounds, as it is printed. -/
def latest : Nat → String
  | 0 => "nil"
  | count + 1 => toString count

theorem render_lastOf {count : Nat} (few : count ≤ 2 ^ 60) :
    (lastOf count).render = latest count := by
  cases count with
  | zero => rfl
  | succ last =>
      rw [lastOf, Value.render, renderInt_ofNat, wrapped_of_lt (by omega)]
      rfl

theorem render_production : (Value.string "production").render = "\"production\"" := by
  rw [Value.render, Text.quote_of_typed (by decide)]
  rfl

end Demo

namespace Scenario

open Demo

/-- **What a scenario prints** below its heading, in so many rounds, where a global site may
fail so often.  Of threads nothing is said. -/
def lines? (iterations : Int) (budget : Nat) : Scenario → Option (List Line)
  | monomorphic =>
      let count := iterations.toNat
      some
        [.exact ("sum of 0.." ++ toString iterations ++ " = " ++ wrapped (count * (count - 1) / 2)),
          .statistics "monomorphic" "+(1)"]
  | polymorphic =>
      let count := iterations.toNat
      some
        [.exact ("corners counted = " ++ toString (3 * ((count + 1) / 2) + 4 * (count / 2))),
          .statistics "polymorphic" "corners(0)"]
  | attributes =>
      some
        [.exact "unset x = nil",
          .exact ("x = " ++ latest iterations.toNat),
          .statistics "attr reader" "x(0)",
          .statistics "attr writer" "x=(1)"]
  | methodMissing =>
      some
        [.exact "method_missing received [:boo, 1, \"two\"]",
          .statistics "method_missing" "boo(*)",
          .exact "without a handler: undefined method \x60boo' for an instance of Plain"]
  | globals =>
      some
        [.reading "$config at globals.rb:1" "\"production\"" (some 0),
          .reading "$counter at globals.rb:2" (latest iterations.toNat)
            (failuresOf budget iterations.toNat)]
  | safepoint => none

/-- Texts are the heading of a scenario, and its lines as they are known. -/
def Shows (iterations : Int) (budget : Nat) (scenario : Scenario) (texts : List String) : Prop :=
  ∃ rest, texts = ("== " ++ scenario.title ++ " ==") :: rest ∧
    ∀ lines, scenario.lines? iterations budget = some lines → List.Forall₂ Line.Shows lines rest

end Scenario

namespace Demo

variable {options : Options} {rounds : Nat} {iterations : Int}

/-- A scenario was played to its end, and showed what is known of it. -/
structure Ran (options : Options) (iterations : Int) (scenario : Scenario)
    (before : Array String) (after : DemoState) : Prop where
  staged : Staged options iterations.toNat after.world
  shown : ∃ texts, after.printed.toList = before.toList ++ texts ∧
    scenario.Shows iterations options.globalMaxFail.toNat texts

/-- What is printed below a heading. -/
theorem ran_of_printed {scenario : Scenario} {before : Array String} {after : DemoState}
    (staged : Staged options iterations.toNat after.world) {texts : List String}
    (printed : after.printed.toList =
      (before.push ("== " ++ scenario.title ++ " ==")).toList ++ texts)
    (shows : ∀ lines, scenario.lines? iterations options.globalMaxFail.toNat = some lines →
      List.Forall₂ Line.Shows lines texts) : Ran options iterations scenario before after := by
  refine ⟨staged, _, ?_, texts, rfl, shows⟩
  rw [printed, Array.toList_push, List.append_assoc, List.singleton_append]

/-- Lines that are played below a heading. -/
theorem Plays.ran {program : Demo Unit} {lines : List Line} {scenario : Scenario}
    (plays : Plays options iterations.toNat program lines)
    (known : scenario.lines? iterations options.globalMaxFail.toNat = some lines)
    {world : DemoWorld} (staged : Staged options iterations.toNat world) (before : Array String) :
    Yields program ⟨world, before.push ("== " ++ scenario.title ++ " ==")⟩
      fun _ => Ran options iterations scenario before :=
  (@plays ⟨world, _⟩ staged).mono fun ⟨staged', _, printed, shows⟩ =>
    ran_of_printed staged' printed fun _ same => Option.some.inj (known.symm.trans same) ▸ shows

/-- **A scenario shows what is known of it**, on any stage. -/
theorem yields_run (few : iterations ≤ 2 ^ 60) (threads : Nat) (scenario : Scenario)
    {state : DemoState} (staged : Staged options iterations.toNat state.world) :
    Yields (scenario.run iterations threads) state
      fun _ => Ran options iterations scenario state.printed := by
  have last : (lastOf iterations.toNat).render = latest iterations.toNat :=
    render_lastOf (by omega)
  refine .bind (.print ?_)
  cases scenario with
  | monomorphic => exact (plays_sumUp iterations).ran rfl staged _
  | polymorphic => exact (plays_countCorners few).ran rfl staged _
  | attributes =>
      have plays := plays_readAndWrite iterations options iterations.toNat
      rw [last] at plays
      exact plays.ran rfl staged _
  | methodMissing => exact plays_sendUndefined.ran rfl staged _
  | globals =>
      have plays := plays_readGlobals options (Eq.refl iterations.toNat)
      rw [last, render_production] at plays
      exact plays.ran rfl staged _
  | safepoint =>
      exact (@proceeds_stopThreads options _ threads ⟨state.world, state.printed.push _⟩ staged).mono
        fun ⟨staged', _, printed⟩ => ran_of_printed staged' printed nofun

/-- **And so do scenarios one after another**, whatever they are. -/
theorem yields_runScenarios {settings : DemoSettings} (few : settings.iterations ≤ 2 ^ 60)
    (scenarios : List Scenario) {state : DemoState}
    (staged : Staged options settings.iterations.toNat state.world) :
    Yields (settings.runScenarios scenarios) state fun _ after =>
      ∃ shown, after.printed.toList = state.printed.toList ++ shown.flatten ∧
        List.Forall₂ (Scenario.Shows settings.iterations options.globalMaxFail.toNat)
          scenarios shown := by
  induction scenarios generalizing state with
  | nil => exact .pure ⟨[], (List.append_nil _).symm, .nil⟩
  | cons scenario rest ih =>
      refine .bind ((yields_run few settings.threads scenario staged).mono fun ran => ?_)
      obtain ⟨texts, printed, shows⟩ := ran.shown
      refine (ih ran.staged).mono fun ⟨shown, printed', shows'⟩ =>
        ⟨texts :: shown, ?_, .cons shows shows'⟩
      rw [printed', printed, List.flatten_cons, List.append_assoc]

/-- From the start there is nothing printed yet. -/
theorem ends_runScenarios {settings : DemoSettings} (few : settings.iterations ≤ 2 ^ 60)
    (scenarios : List Scenario) {world : DemoWorld}
    (staged : Staged options settings.iterations.toNat world) :
    ∃ after, StateT.run (ExceptT.run (settings.runScenarios scenarios)) { world } =
        (.ok (), after) ∧
      ∃ shown, after.printed.toList = shown.flatten ∧
        List.Forall₂ (Scenario.Shows settings.iterations options.globalMaxFail.toNat)
          scenarios shown := by
  have yields : Yields (settings.runScenarios scenarios) { world } _ :=
    yields_runScenarios few scenarios staged
  obtain ⟨_, after, ended, shown⟩ := yields
  exact ⟨after, ended, shown⟩

end Demo

open Demo

/-- **What the command prints**, for every choice of scenarios, rounds, threads and settings of
linking, and whatever settings the environment has: it ends well, and every scenario, one
after another, shows what is known of it.  Arguments that stand for these settings run with
them. -/
theorem runCommand_shows {settings : DemoSettings} (few : settings.iterations ≤ 2 ^ 60)
    (setting? : String → Option String) :
    ((settings.run setting?).exitCode = 0 ∧
      ∃ shown, (settings.run setting?).printed = shown.flatten ∧
        List.Forall₂ (Scenario.Shows settings.iterations
          (settings.options (Options.ofSettings setting?).1).globalMaxFail.toNat)
          settings.chosen shown) ∧
    ∀ {arguments : List String}, Invocation.ofArguments arguments = .ok (.run settings) →
      runCommand arguments setting? = settings.run setting? := by
  have staged := (staged_create (settings.options (Options.ofSettings setting?).1)
    settings.iterations.toNat).withLog (Options.ofSettings setting?).2.toArray
  obtain ⟨after, ended, shown⟩ := ends_runScenarios few settings.chosen staged
  refine ⟨?_, fun asked => by simp only [runCommand, asked]⟩
  simp only [DemoSettings.run, ended]
  exact ⟨trivial, shown⟩

/-- Three rounds of two scenarios, where the site of the global that changes may not fail. -/
theorem runCommand_shows_of_three :
    Invocation.ofArguments ["globals", "monomorphic", "--iterations=3", "--global-max-fail=0"] =
        .ok (.run
          { scenarios := [.globals, .monomorphic], iterations := 3, globalMaxFail := some 0 }) ∧
      (3 : Int) ≤ 2 ^ 60 ∧
      let result := runCommand
        ["globals", "monomorphic", "--iterations=3", "--global-max-fail=0"] fun _ => none
      result.exitCode = 0 ∧ ∃ shown, result.printed = shown.flatten ∧
        List.Forall₂ (Scenario.Shows 3 0) [.globals, .monomorphic] shown := by
  let settings : DemoSettings :=
    { scenarios := [.globals, .monomorphic], iterations := 3, globalMaxFail := some 0 }
  have asked : Invocation.ofArguments
      ["globals", "monomorphic", "--iterations=3", "--global-max-fail=0"] = .ok (.run settings) :=
    rfl
  have few : settings.iterations ≤ 2 ^ 60 := by decide
  obtain ⟨shows, runs⟩ := runCommand_shows few fun _ => none
  refine ⟨asked, few, ?_⟩
  rw [runs asked]
  exact shows

end InlineCache
