/-
# InlineCache.Demo.CommandLine -- the arguments of the command

Arguments are read from left to right; the first one that cannot be read ends the
reading.  An option takes its value behind `=` or from the next argument, which must not
look like an option itself; no option and no switch may come twice.  One-letter switches
may be written together.  After `--` every argument names a scenario.
-/
import InlineCache.Demo.Scenario
import InlineCache.Text.Numeral

namespace InlineCache

set_option autoImplicit false

structure DemoSettings where
  scenarios : List Scenario := []
  /-- log every decision -/
  verbose : Bool := false
  /-- calls per scenario -/
  iterations : Int := 10000
  maxFail : Option UInt32 := none
  maxPoly : Option UInt64 := none
  globalMaxFail : Option UInt32 := none
  /-- bind every method through its generic calling convention -/
  genericOnly : Bool := false
  /-- threads of the safepoint scenario -/
  threads : Nat := 4
deriving DecidableEq, Repr

inductive DemoFlag where
  | verbose
  | genericOnly
  | iterations
  | maxFail
  | maxPoly
  | globalMaxFail
  | threads
deriving DecidableEq, Repr

inductive Invocation where
  | run (settings : DemoSettings)
  | help
  | version
deriving DecidableEq, Repr

inductive UsageError where
  | unexpectedArgument (text : String)
  | invalidValue (name value : String)
  | missingValue (name : String)
  /-- a switch takes no value -/
  | unexpectedValue (name : String)
  | repeated (name : String)
deriving DecidableEq, Repr

namespace UsageError

def message : UsageError → String
  | unexpectedArgument text => "unexpected argument '" ++ text ++ "' found"
  | invalidValue name value => "invalid value '" ++ value ++ "' for '" ++ name ++ "'"
  | missingValue name => "a value is required for '" ++ name ++ "' but none was supplied"
  | unexpectedValue name => "unexpected value for '" ++ name ++ "' found; no more were expected"
  | repeated name => "the argument '" ++ name ++ "' cannot be used multiple times"

end UsageError

namespace DemoFlag

def all : List DemoFlag :=
  [verbose, genericOnly, iterations, maxFail, maxPoly, globalMaxFail, threads]

def name : DemoFlag → String
  | verbose => "verbose"
  | genericOnly => "generic-only"
  | iterations => "iterations"
  | maxFail => "max-fail"
  | maxPoly => "max-poly"
  | globalMaxFail => "global-max-fail"
  | threads => "threads"

def ofName? (text : String) : Option DemoFlag :=
  all.find? fun flag => flag.name == text

/-- A switch is on when it is there; any other flag takes a value. -/
def isSwitch : DemoFlag → Bool
  | verbose | genericOnly => true
  | _ => false

def switchOn (settings : DemoSettings) : DemoFlag → DemoSettings
  | verbose => { settings with verbose := true }
  | genericOnly => { settings with genericOnly := true }
  | _ => settings

/-- Give an option its value, if the value is a number that fits. -/
def assign? (settings : DemoSettings) (value : String) : DemoFlag → Option DemoSettings
  | iterations =>
      (Text.parseInt? Int64.minValue.toInt Int64.maxValue.toInt value).map fun n =>
        { settings with iterations := n }
  | maxFail =>
      (Text.parseInt? 0 (UInt32.size - 1 : Nat) value).map fun n =>
        { settings with maxFail := some (UInt32.ofNat n.toNat) }
  | maxPoly =>
      (Text.parseNat? (UInt64.size - 1) value).map fun n =>
        { settings with maxPoly := some (UInt64.ofNat n) }
  | globalMaxFail =>
      (Text.parseInt? 0 (UInt32.size - 1 : Nat) value).map fun n =>
        { settings with globalMaxFail := some (UInt32.ofNat n.toNat) }
  | threads =>
      (Text.parseNat? (UInt64.size - 1) value).map fun n => { settings with threads := n }
  | _ => none

theorem ofName?_name (flag : DemoFlag) : ofName? flag.name = some flag := by
  cases flag <;> decide

end DemoFlag

inductive Argument where
  /-- two dashes alone -/
  | separator
  /-- a name behind two dashes, and the value behind `=` if there is one -/
  | long (name : String) (value? : Option String)
  /-- letters behind one dash -/
  | short (letters : List Char)
  | plain (text : String)
deriving DecidableEq, Repr

namespace Argument

/-- The text before the first `=`, and the text behind it if there is one. -/
def splitValue (cs : List Char) : String × Option String :=
  let name := String.ofList (cs.takeWhile (· ≠ '='))
  match cs.dropWhile (· ≠ '=') with
  | _ :: value => (name, some (String.ofList value))
  | [] => (name, none)

def ofString (text : String) : Argument :=
  match text.toList with
  | ['-', '-'] => separator
  | '-' :: '-' :: rest =>
      let (name, value?) := splitValue rest
      long name value?
  | ['-'] => plain text
  | '-' :: letters => short letters
  | _ => plain text

end Argument

/-- The settings read so far, and the flags seen. -/
structure ArgumentDraft where
  settings : DemoSettings := {}
  seen : List DemoFlag := []

namespace ArgumentDraft

def note (draft : ArgumentDraft) (flag : DemoFlag) : Except UsageError ArgumentDraft :=
  if flag ∈ draft.seen then .error (.repeated ("--" ++ flag.name))
  else .ok { draft with seen := flag :: draft.seen }

def switchOn (draft : ArgumentDraft) (flag : DemoFlag) : Except UsageError ArgumentDraft := do
  let draft ← draft.note flag
  pure { draft with settings := flag.switchOn draft.settings }

def assign (draft : ArgumentDraft) (flag : DemoFlag) (value : String) :
    Except UsageError ArgumentDraft := do
  let draft ← draft.note flag
  match flag.assign? draft.settings value with
  | some settings => pure { draft with settings }
  | none => .error (.invalidValue ("--" ++ flag.name) value)

def addScenario (draft : ArgumentDraft) (text : String) : Except UsageError ArgumentDraft :=
  match Scenario.ofName? text with
  | some scenario =>
      let settings := draft.settings
      .ok { draft with settings := { settings with scenarios := settings.scenarios ++ [scenario] } }
  | none => .error (.invalidValue "SCENARIOS" text)

def addScenarios (draft : ArgumentDraft) : List String → Except UsageError ArgumentDraft
  | [] => .ok draft
  | text :: rest => do (← draft.addScenario text).addScenarios rest

/-- Read letters behind one dash.  Asking for help or the version ends the reading. -/
def readLetters (draft : ArgumentDraft) :
    List Char → Except UsageError (ArgumentDraft ⊕ Invocation)
  | [] => .ok (.inl draft)
  | 'h' :: _ => .ok (.inr .help)
  | 'V' :: _ => .ok (.inr .version)
  | 'v' :: rest => do (← draft.switchOn .verbose).readLetters rest
  | c :: _ => .error (.unexpectedArgument (String.ofList ['-', c]))

/-- Read a name behind two dashes that needs no other argument; answers the option whose
value is still to come otherwise. -/
def readLong (draft : ArgumentDraft) (name : String) (value? : Option String) :
    Except UsageError (ArgumentDraft ⊕ Invocation ⊕ DemoFlag) :=
  match name, DemoFlag.ofName? name, value? with
  | "help", _, none => .ok (.inr (.inl .help))
  | "version", _, none => .ok (.inr (.inl .version))
  | _, none, _ => .error (if value?.isSome && (name = "help" || name = "version") then
        .unexpectedValue ("--" ++ name)
      else .unexpectedArgument ("--" ++ name))
  | _, some flag, none =>
      if flag.isSwitch then .inl <$> draft.switchOn flag else .ok (.inr (.inr flag))
  | _, some flag, some value =>
      if flag.isSwitch then .error (.unexpectedValue ("--" ++ flag.name))
      else .inl <$> draft.assign flag value

/-- Read arguments from left to right.  An option whose value is still to come is waiting
for it. -/
def read (draft : ArgumentDraft) (waiting : Option DemoFlag) :
    List String → Except UsageError Invocation
  | [] =>
      match waiting with
      | some flag => .error (.missingValue ("--" ++ flag.name))
      | none => .ok (.run draft.settings)
  | text :: rest =>
      match waiting, Argument.ofString text with
      | some flag, .plain value => do (← draft.assign flag value).read none rest
      | some flag, _ => .error (.missingValue ("--" ++ flag.name))
      | none, .separator => do pure (.run (← draft.addScenarios rest).settings)
      | none, .plain name => do (← draft.addScenario name).read none rest
      | none, .short letters => do
          match ← draft.readLetters letters with
          | .inl draft => draft.read none rest
          | .inr invocation => pure invocation
      | none, .long name value? => do
          match ← draft.readLong name value? with
          | .inl draft => draft.read none rest
          | .inr (.inl invocation) => pure invocation
          | .inr (.inr flag) => draft.read (some flag) rest

end ArgumentDraft

namespace Invocation

def ofArguments (arguments : List String) : Except UsageError Invocation :=
  ArgumentDraft.read {} none arguments

end Invocation

end InlineCache
