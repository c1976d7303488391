/-
# InlineCache.Global.Site -- access to one global from one place

A global site reads one variable.  At first it is unlinked; then it keeps the value
it read together with the switch point that guards it, taken before the value, and
answers from there while the switch point holds.  Once its cached value has been
invalidated too often, or when the variable may not be cached at all, it is demoted
and reads the variable directly from then on.
-/
import InlineCache.DispatchCell
import InlineCache.Global.Table
import InlineCache.Log
import InlineCache.Options

namespace InlineCache

set_option autoImplicit false

inductive GlobalRead where
  | unlinked
  | cached (token : SwitchPoint) (value : Value)
  /-- read the variable itself -/
  | uncached

structure GlobalSite where
  name : String
  file : String
  line : UInt32
  read : DispatchCell GlobalRead := .create .unlinked
  failures : UInt32 := 0
  /-- reads directly, for good -/
  demoted : Bool := false

namespace GlobalSite

def render (site : GlobalSite) : String :=
  site.name ++ " at " ++ site.file ++ ":" ++ toString site.line

def isCached (site : GlobalSite) (points : SwitchPoints) : Bool :=
  match site.read.load with
  | .cached token _ => points.isValid token
  | _ => false

/-- What a read through a site leaves behind. -/
structure ReadResult (Code : Type) where
  value : Value
  site : GlobalSite
  globals : Globals Code
  points : SwitchPoints
  log : List LogLine := []

variable {Code : Type}

def note (options : Options) (site : GlobalSite) (text : String) : List LogLine :=
  if options.logGlobals then [⟨.info, site.render ++ "\t" ++ text⟩] else []

def demote (site : GlobalSite) (globals : Globals Code) (points : SwitchPoints)
    (log : List LogLine) : ReadResult Code :=
  { value := globals.value site.name
    site := { site with demoted := true, read := site.read.store .uncached }
    globals, points, log }

/-- Read the variable and decide how to read it next time. -/
def relink (site : GlobalSite) (options : Options) (globals : Globals Code)
    (points : SwitchPoints) : ReadResult Code :=
  let (globals, points) := globals.mention site.name points
  match NameMap.get? globals site.name with
  | none => { value := .nil, site, globals, points }
  | some variable_ =>
      if !variable_.isCacheable then
        site.demote globals points (site.note options "uncacheable, binding direct access")
      else
        let failed := match site.read.load with
          | .cached _ _ => true
          | _ => false
        let site := if failed then { site with failures := site.failures + 1 } else site
        if failed && options.globalMaxFail < site.failures then
          site.demote globals points
            (site.note options
              ("invalidated " ++ toString site.failures ++ " times, no longer caching"))
        else
          { value := variable_.value
            site := { site with
              read := site.read.store (.cached variable_.invalidator.current variable_.value) }
            globals, points
            log := site.note options ("caching " ++ variable_.value.render) }

def get (site : GlobalSite) (options : Options) (globals : Globals Code)
    (points : SwitchPoints) : ReadResult Code :=
  match site.read.load with
  | .cached token value =>
      if points.isValid token then { value, site, globals, points }
      else site.relink options globals points
  | .uncached => { value := globals.value site.name, site, globals, points }
  | .unlinked => site.relink options globals points

/-- A demoted read answers with the value the variable has. -/
theorem value_demote (site : GlobalSite) (globals : Globals Code) (points : SwitchPoints)
    (log : List LogLine) : (site.demote globals points log).value = globals.value site.name := rfl

end GlobalSite

end InlineCache
