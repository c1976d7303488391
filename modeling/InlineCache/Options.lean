/-
# InlineCache.Options -- the settings of linking, and their text form

A world links its sites under a few settings: what to log, how often a site may
fail before it stops caching, how many receiver types it keeps, and which kinds of
method get a specialised binding.  `Options.ofSettings` reads them from named texts
on top of the defaults and warns of each text it cannot read.
-/
import InlineCache.Log
import InlineCache.Text.Blank
import InlineCache.Text.Numeral

namespace InlineCache

set_option autoImplicit false

structure Options where
  /-- log every decision of a call site -/
  logBinding : Bool := false
  /-- log every decision of a global site -/
  logGlobals : Bool := false
  /-- relinks a call site may take before it stops caching for good -/
  maxFail : UInt32 := 1000
  /-- receiver types a call site keeps -/
  maxPoly : UInt64 := 6
  /-- failures a global site may take before it stops caching -/
  globalMaxFail : UInt32 := 100
  nativeBinding : Bool := true
  compiledBinding : Bool := true
  attrBinding : Bool := true
deriving DecidableEq, Repr

namespace Options

/-- The names of the texts that settings are read from. -/
def settingNames : List String :=
  ["SITELINK_LOG_BINDING", "SITELINK_LOG_GLOBALS", "SITELINK_MAXFAIL", "SITELINK_MAXPOLY",
    "SITELINK_GLOBAL_MAXFAIL", "SITELINK_NATIVE", "SITELINK_COMPILED", "SITELINK_ATTR"]

/-- A setting that is on or off.  Blanks around the text do not count. -/
def readFlag (key : String) (text? : Option String) (default : Bool) : Bool × List LogLine :=
  match text?.map Text.trim with
  | none => (default, [])
  | some text =>
      if text ∈ ["1", "true", "yes", "on"] then (true, [])
      else if text ∈ ["0", "false", "no", "off"] then (false, [])
      else (default, [⟨.warn, "ignoring " ++ key ++ "=" ++ text ++ ": expected a boolean"⟩])

/-- A setting that is a number of at most `bound`.  Blanks around the text do not
count. -/
def readNumber (key : String) (text? : Option String) (bound default : Nat) :
    Nat × List LogLine :=
  match text? with
  | none => (default, [])
  | some text =>
      match Text.parseNat? bound (Text.trim text) with
      | some n => (n, [])
      | none => (default, [⟨.warn, "ignoring " ++ key ++ "=" ++ text ++ ": expected a number"⟩])

/-- The settings that named texts ask for, and the warnings about those that cannot
be read. -/
def ofSettings (setting? : String → Option String) : Options × List LogLine :=
  let d : Options := {}
  let flag := fun key default => readFlag key (setting? key) default
  let number := fun key bound default => readNumber key (setting? key) bound default
  let logBinding := flag "SITELINK_LOG_BINDING" d.logBinding
  let logGlobals := flag "SITELINK_LOG_GLOBALS" d.logGlobals
  let maxFail := number "SITELINK_MAXFAIL" (UInt32.size - 1) d.maxFail.toNat
  let maxPoly := number "SITELINK_MAXPOLY" (UInt64.size - 1) d.maxPoly.toNat
  let globalMaxFail := number "SITELINK_GLOBAL_MAXFAIL" (UInt32.size - 1) d.globalMaxFail.toNat
  let native := flag "SITELINK_NATIVE" d.nativeBinding
  let compiled := flag "SITELINK_COMPILED" d.compiledBinding
  let attr := flag "SITELINK_ATTR" d.attrBinding
  ({ logBinding := logBinding.1
     logGlobals := logGlobals.1
     maxFail := UInt32.ofNat maxFail.1
     maxPoly := UInt64.ofNat maxPoly.1
     globalMaxFail := UInt32.ofNat globalMaxFail.1
     nativeBinding := native.1
     compiledBinding := compiled.1
     attrBinding := attr.1 },
    [logBinding.2, logGlobals.2, maxFail.2, maxPoly.2, globalMaxFail.2, native.2, compiled.2,
      attr.2].flatten)

end Options

end InlineCache
