/-
# InlineCache.Session.Routine -- the code that sessions give to methods and blocks

A session has a fixed set of routines to put behind methods, handle entries, block
bodies and hooks.  Each reads only what the activation gives it; `yield` and `run`
enter other code and are explained where code runs.
-/
namespace InlineCache

set_option autoImplicit false

/-- A piece of code a session can name. -/
inductive Routine where
  /-- the arguments, as an array -/
  | args
  /-- how many arguments there are -/
  | count
  /-- the first argument, or nil -/
  | first
  /-- the receiver -/
  | self
  /-- a fixed number -/
  | constant (n : Int64)
  /-- the sum of the numbers among the arguments -/
  | sum
  /-- the receiver plus the first argument -/
  | add
  /-- the name of the receiver's type -/
  | typeName
  /-- raise the first argument, or the receiver -/
  | raise
  | typeError
  /-- call the block with the arguments -/
  | yield
  /-- why the send went missing -/
  | reason
  /-- raise what fits the reason of the miss -/
  | missing
  /-- read a variable of the captured scope -/
  | getLocal
  /-- write a variable of the captured scope -/
  | setLocal
  /-- play the script named by the first argument -/
  | run
  /-- everything the activation gives -/
  | describe
  /-- a hook on a global: note the write and play a script -/
  | notice (script : String)
deriving DecidableEq, Repr

end InlineCache
