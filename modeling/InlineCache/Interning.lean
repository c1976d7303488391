/-
# InlineCache.Interning -- names as numbers

A symbol table gives each name a number of 32 bits: the number of distinct names before it.
The names stand in an array, each at the place of its number, and a map leads from a name
back to its number.  Two symbols of one table are equal exactly when their numbers are.
-/
import InlineCache.NameMap

namespace InlineCache

set_option autoImplicit false

/-- A name and the number its table gave it. -/
structure Symbol where
  id : UInt32
  name : String
deriving DecidableEq, Repr

/-- The distinct names interned so far, each at the place of its number. -/
structure SymbolTable where
  names : Array String := #[]
  numbers : NameMap UInt32 := []
  /-- there is a name at the place of every number -/
  numbered : ∀ name id, NameMap.get? numbers name = some id → id.toNat < names.size := by
    intro name id found
    cases found

namespace SymbolTable

/-- The symbol of a name that has a number.  It shows the name at the place of the number. -/
def find? (table : SymbolTable) (name : String) : Option Symbol :=
  match found : NameMap.get? table.numbers name with
  | some id =>
      have inside : id.toNat < table.names.size := table.numbered name id found
      some ⟨id, table.names[id.toNat]⟩
  | none => none

def add (table : SymbolTable) (name : String) : Symbol × SymbolTable :=
  let id := UInt32.ofNat table.names.size
  (⟨id, name⟩,
    { names := table.names.push name
      numbers := NameMap.insert table.numbers name id
      numbered := by
        intro other given found
        rw [NameMap.get?_insert] at found
        rw [Array.size_push]
        split at found
        · cases found
          exact Nat.lt_succ_of_le (UInt32.toNat_ofNat' ▸ Nat.mod_le _ _)
        · exact Nat.lt_succ_of_lt (table.numbered other given found) })

/-- The symbol of a name, numbered now if it has no number. -/
def findOrAdd (table : SymbolTable) (name : String) : Symbol × SymbolTable :=
  match table.find? name with
  | some symbol => (symbol, table)
  | none => table.add name

/-- The symbol of a name.  It is looked for before the table is locked for writing, and again
then. -/
def intern (table : SymbolTable) (name : String) : Symbol × SymbolTable :=
  match table.find? name with
  | some symbol => (symbol, table)
  | none => table.findOrAdd name

def get? (table : SymbolTable) (id : UInt32) : Option Symbol :=
  (table.names[id.toNat]?).map fun name => ⟨id, name⟩

def size (table : SymbolTable) : Nat := table.names.size

def isEmpty (table : SymbolTable) : Bool := table.size == 0

/-- Nobody else comes in between, so one look is enough. -/
theorem intern_eq_findOrAdd (table : SymbolTable) (name : String) :
    table.intern name = table.findOrAdd name := by
  unfold intern findOrAdd
  split <;> rfl

theorem intern_of_new {table : SymbolTable} {name : String}
    (new : NameMap.get? table.numbers name = none) : table.intern name = table.add name := by
  have absent : table.find? name = none := by
    unfold find?
    split
    · rename_i found
      rw [new] at found
      cases found
    · rfl
  rw [intern_eq_findOrAdd, findOrAdd, absent]

/-- A name that has a number keeps it, and the table stays as it is. -/
theorem intern_of_old {table : SymbolTable} {name : String} {id : UInt32}
    (old : NameMap.get? table.numbers name = some id) {shown : String}
    (there : table.names[id.toNat]? = some shown) : table.intern name = (⟨id, shown⟩, table) := by
  have found : table.find? name = some ⟨id, shown⟩ := by
    unfold find?
    split
    · rename_i given found
      cases old.symm.trans found
      rw [Array.getElem?_eq_getElem (table.numbered name id old)] at there
      cases there
      rfl
    · rename_i missing
      rw [old] at missing
      cases missing
  rw [intern_eq_findOrAdd, findOrAdd, found]

end SymbolTable

namespace Symbol

/-- Symbols compare by number. -/
def same (a b : Symbol) : Bool := a.id == b.id

end Symbol

end InlineCache
