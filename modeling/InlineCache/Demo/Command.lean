/-
# InlineCache.Demo.Command -- running the command

The command runs the scenarios asked for, or all of them, in one world.  The settings of
linking come from the environment; the command line goes over them.
-/
import InlineCache.Demo.CommandLine

namespace InlineCache

set_option autoImplicit false

structure CommandResult where
  exitCode : UInt32 := 0
  printed : List String := []
  /-- what goes to the log -/
  log : List String := []

namespace DemoSettings

/-- The settings of linking: those of the environment, and the command line over them. -/
def options (settings : DemoSettings) (options : Options) : Options :=
  { logBinding := options.logBinding || settings.verbose
    logGlobals := options.logGlobals || settings.verbose
    maxFail := settings.maxFail.getD options.maxFail
    maxPoly := settings.maxPoly.getD options.maxPoly
    globalMaxFail := settings.globalMaxFail.getD options.globalMaxFail
    nativeBinding := options.nativeBinding && !settings.genericOnly
    compiledBinding := options.compiledBinding && !settings.genericOnly
    attrBinding := options.attrBinding && !settings.genericOnly }

def chosen (settings : DemoSettings) : List Scenario :=
  if settings.scenarios.isEmpty then Scenario.all else settings.scenarios

/-- Run scenarios one after another; the first fault ends the run. -/
def runScenarios (settings : DemoSettings) : List Scenario → Demo Unit
  | [] => pure ()
  | scenario :: rest => do
      scenario.run settings.iterations settings.threads
      settings.runScenarios rest

def run (settings : DemoSettings) (setting? : String → Option String) : CommandResult :=
  let (fromEnvironment, warnings) := Options.ofSettings setting?
  let world := World.create (settings.options fromEnvironment) .hierarchy none ()
  let start : DemoState := { world := { world with log := warnings.toArray } }
  let (outcome, state) := StateT.run (ExceptT.run (settings.runScenarios settings.chosen)) start
  let printed := state.printed.toList
  let shown := state.world.log.toList.filter fun line =>
    line.level == .warn || settings.verbose && line.level == .info
  let log := shown.map LogLine.render
  match outcome with
  | .ok () => { printed, log }
  | .error fault => { exitCode := 1, printed, log := log ++ ["Error: " ++ fault.message] }

end DemoSettings

def versionText : String := "sitelink 0.1.0"

def helpText : List String :=
  ["Usage: sitelink [OPTIONS] [SCENARIOS]...",
    "",
    "Arguments:",
    "  [SCENARIOS]...  Scenarios to run, all of them if none are given [possible values: " ++
      ", ".intercalate (Scenario.all.map Scenario.name) ++ "]",
    "",
    "Options:",
    "  -v, --verbose                            Log every link and global caching decision",
    "      --iterations <ITERATIONS>            Calls per scenario [default: 10000]",
    "      --max-fail <MAX_FAIL>                Relinks before a call site goes megamorphic",
    "      --max-poly <MAX_POLY>                Receiver types a call site keeps chained",
    "      --global-max-fail <GLOBAL_MAX_FAIL>  Invalidations before a global site stops caching",
    "      --generic-only                       Bind every method through its generic calling convention",
    "      --threads <THREADS>                  Threads for the safepoint scenario [default: 4]",
    "  -h, --help                               Print help",
    "  -V, --version                            Print version"]

/-- **Run the command** with these arguments and these settings in the environment. -/
def runCommand (arguments : List String) (setting? : String → Option String) : CommandResult :=
  match Invocation.ofArguments arguments with
  | .error problem => { exitCode := 2, log := ["error: " ++ problem.message] }
  | .ok .help => { printed := helpText }
  | .ok .version => { printed := [versionText] }
  | .ok (.run settings) => settings.run setting?

end InlineCache
