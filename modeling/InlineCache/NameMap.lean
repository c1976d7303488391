/-
# InlineCache.NameMap -- finite maps from names

A name map is a list of names and entries.  Inserting under a name that is there
replaces the entry in its place; a new name goes to the end, so the names keep the
order in which they first came.
-/
namespace InlineCache

set_option autoImplicit false

/-- A finite map from names, in order of first insertion. -/
abbrev NameMap (α : Type) := List (String × α)

namespace NameMap

variable {α : Type}

def get? (map : NameMap α) (name : String) : Option α :=
  match map with
  | [] => none
  | (other, entry) :: rest => if other = name then some entry else get? rest name

/-- Replace the entry under a name, or append it. -/
def insert (map : NameMap α) (name : String) (entry : α) : NameMap α :=
  match map with
  | [] => [(name, entry)]
  | (other, old) :: rest =>
      if other = name then (other, entry) :: rest else (other, old) :: insert rest name entry

def erase (map : NameMap α) (name : String) : NameMap α :=
  map.filter fun entry => entry.1 ≠ name

def contains (map : NameMap α) (name : String) : Bool := (get? map name).isSome

def modify (map : NameMap α) (name : String) (change : α → α) : NameMap α :=
  match map with
  | [] => []
  | (other, entry) :: rest =>
      if other = name then (other, change entry) :: rest
      else (other, entry) :: modify rest name change

@[simp] theorem get?_nil (name : String) : get? ([] : NameMap α) name = none := rfl

/-- Insertion changes the answer at its own name only. -/
theorem get?_insert (map : NameMap α) (name other : String) (entry : α) :
    get? (insert map name entry) other = if name = other then some entry else get? map other := by
  induction map with
  | nil => simp [insert, get?]
  | cons head rest ih =>
      rcases head with ⟨key, old⟩
      by_cases here : key = name
      · subst here
        by_cases asked : key = other <;> simp [insert, get?, asked]
      · by_cases asked : key = other
        · subst asked
          have : name ≠ key := fun e => here e.symm
          simp [insert, get?, here, this]
        · simp [insert, get?, here, asked, ih]

theorem get?_erase (map : NameMap α) (name other : String) :
    get? (erase map name) other = if name = other then none else get? map other := by
  induction map with
  | nil => simp [erase, get?]
  | cons head rest ih =>
      rcases head with ⟨key, old⟩
      simp only [erase] at ih
      by_cases here : key = name
      · subst here
        by_cases asked : key = other
        · simpa [erase, get?, asked] using ih
        · simpa [erase, get?, asked] using ih
      · by_cases asked : key = other
        · subst asked
          have : name ≠ key := fun e => here e.symm
          simp [erase, get?, here, this]
        · simpa [erase, get?, here, asked] using ih

theorem get?_modify (map : NameMap α) (name other : String) (change : α → α) :
    get? (modify map name change) other =
      if name = other then (get? map other).map change else get? map other := by
  induction map with
  | nil => simp [modify, get?]
  | cons head rest ih =>
      rcases head with ⟨key, old⟩
      by_cases here : key = name
      · subst here
        by_cases asked : key = other <;> simp [modify, get?, asked]
      · by_cases asked : key = other
        · subst asked
          have : name ≠ key := fun e => here e.symm
          simp [modify, get?, here, this]
        · simp [modify, get?, here, asked, ih]

end NameMap

end InlineCache
