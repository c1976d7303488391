/-
# InlineCache.Session.Tables -- playing steps about symbol tables
-/
import InlineCache.Session.Bench

namespace InlineCache

set_option autoImplicit false

namespace Symbol

def renderId (symbol : Symbol) : String := "SymbolId(" ++ toString symbol.id ++ ")"

def answer (symbol : Symbol) : Answer :=
  .list [.text symbol.renderId, .text (":" ++ symbol.name), .text symbol.name]

end Symbol

namespace Play

def intern (table name : String) : Play Symbol := do
  let before ← named Bench.tables table
  let (symbol, after) := before.intern name
  onBench fun bench => { bench with tables := NameMap.insert bench.tables table after }
  pure symbol

def internAll (table : String) : List String → Play (List Symbol)
  | [] => pure []
  | name :: rest => do
      let head ← intern table name
      let tail ← internAll table rest
      pure (head :: tail)

end Play

def TableStep.play : TableStep → Play Answer
  | .create keepAs => do
      let made : SymbolTable := {}
      Play.onBench fun bench => { bench with tables := NameMap.insert bench.tables keepAs made }
      pure (.ok (.bool made.isEmpty))
  | .intern table names => do
      let symbols ← Play.internAll table names
      let size := (← Play.named Bench.tables table).size
      pure (.ok (.record
        [("symbols", .list (symbols.map Symbol.answer)), ("len", .ofNat size)]))
  | .get table source name => do
      let asked ← Play.intern source name
      let found := (← Play.named Bench.tables table).get? asked.id
      pure (.ok (.record
        [("id", .text asked.renderId), ("found", .ofText? (found.map Symbol.name))]))
  | .compare tableA nameA tableB nameB => do
      let a ← Play.intern tableA nameA
      let b ← Play.intern tableB nameB
      pure (.ok (.list [.bool (a.same b), .bool (decide (a.id < b.id))]))

end InlineCache
