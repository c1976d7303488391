/-
# InlineCache.Main -- the command
-/
import InlineCache.Demo.Command

open InlineCache

/-- Run the command: print its lines, log to the error stream, and exit with its code. -/
def main (arguments : List String) : IO UInt32 := do
  let settings ← Options.settingNames.filterMapM fun name => do
    pure ((← IO.getEnv name).map fun text => (name, text))
  let result := runCommand arguments (NameMap.get? settings)
  for line in result.printed do
    IO.println line
  for line in result.log do
    IO.eprintln line
  pure result.exitCode
