/-
# InlineCache.Session.Cells -- playing steps about dispatch cells

Cells hold numbered targets, so that a target published anew can be told from an equal
one.  `Bench.heldCount` counts who holds a target: each name it is kept under, and each
place in a cell that is still there.  A cell is there while it has a name or a reader has
it pinned.
-/
import InlineCache.Session.Bench

namespace InlineCache

set_option autoImplicit false

namespace DispatchCell

def targets {α : Type} (cell : DispatchCell α) : List α := cell.current :: cell.retired

def portrait (cell : DispatchCell CellTarget) : List (String × Answer) :=
  [("swaps", .ofNat cell.swaps), ("retired", .ofNat cell.retired.length)]

end DispatchCell

namespace Bench

/-- Is the cell of this place still there? -/
def cellIsThere (bench : Bench) (index : Nat) : Bool :=
  bench.pinnedCells.contains index || bench.cellNames.any fun entry => entry.2 == index

/-- How many references to a target there are. -/
def heldCount (bench : Bench) (target : CellTarget) : Nat :=
  let names := bench.held.map Prod.snd
  let places := bench.cells.toList.zipIdx.flatMap fun entry =>
    if bench.cellIsThere entry.2 then entry.1.targets else []
  (names ++ places).count target

end Bench

namespace Play

def cell (name : String) : Play (Nat × DispatchCell CellTarget) := do
  let index ← named Bench.cellNames name
  match (← getThe Stage).host.cells[index]? with
  | some found => pure (index, found)
  | none => failure

def modifyCell (index : Nat) (change : DispatchCell CellTarget → DispatchCell CellTarget) :
    Play Unit :=
  onBench fun bench => { bench with cells := bench.cells.modify index change }

def target (value : Int) : Play CellTarget := do
  let id := (← getThe Stage).host.nextTarget
  onBench fun bench => { bench with nextTarget := id + 1 }
  pure { id, value }

def storeTarget (name : String) (published : CellTarget) : Play Answer := do
  let (index, before) ← cell name
  modifyCell index fun state => state.store published
  let (_, after) ← cell name
  pure (.ok (.record (("changed", .bool (before.load != after.load)) :: after.portrait)))

end Play

def CellStep.play : CellStep → Play Answer
  | .create keepAs value => do
      let first ← Play.target value
      Play.onBench fun bench => { bench with
        cells := bench.cells.push (.create first)
        cellNames := NameMap.insert bench.cellNames keepAs bench.cells.size }
      pure (.ok (.bool true))
  | .load name keepAs => do
      let (_, found) ← Play.cell name
      Play.onBench fun bench => { bench with held := NameMap.insert bench.held keepAs found.load }
      pure (.ok (.number found.load.value))
  | .storeValue name value => do
      let _ ← Play.cell name
      Play.storeTarget name (← Play.target value)
  | .storeHeld name held => do Play.storeTarget name (← Play.named Bench.held held)
  | .info name => do
      let (_, found) ← Play.cell name
      pure (.ok (.record (("value", .number found.load.value) :: found.portrait)))
  | .drop name => do
      let kept := NameMap.contains (← getThe Stage).host.cellNames name
      Play.onBench fun bench => { bench with cellNames := NameMap.erase bench.cellNames name }
      pure (.ok (.bool kept))
  | .heldInfo name => do
      let kept ← Play.named Bench.held name
      let references := (← getThe Stage).host.heldCount kept
      pure (.ok (.list [.number kept.value, .ofNat references]))

end InlineCache
