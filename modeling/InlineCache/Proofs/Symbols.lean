/-
# InlineCache.Proofs.Symbols -- names and their numbers

A symbol table keeps an array from numbers to names and a map from names to numbers, and
whoever has a symbol compares it by its number alone.

* `SymbolTable.Lists`: the array has each name once, and the map is its inverse;
* `Lists.intern_of_mem`, `Lists.intern_of_notMem`: interning shows a listed name with its
  number, and lists a new one last;
* `Lists.internAll`: so the number of a name is how many distinct names came before it,
  whatever is interned afterwards;
* `Lists.get?_symbolAmong`, `Lists.exists_symbolAmong`: the table answers for the numbers of
  names, and for no others;
* `SymbolTable.numbers_stand_for_names`: what any number of calls come to.
-/
import InlineCache.Interning
import Mathlib.Data.List.Nodup

namespace InlineCache

set_option autoImplicit false

namespace SymbolTable

variable {table : SymbolTable} {names earlier : List String} {name : String}

/-! ## The invariant -/

/-- The table has these names, each once and at the place of its number. -/
structure Lists (table : SymbolTable) (names : List String) : Prop where
  array : table.names.toList = names
  distinct : names.Nodup
  number : ∀ name, NameMap.get? table.numbers name =
    if name ∈ names then some (UInt32.ofNat (names.idxOf name)) else none

namespace Lists

theorem empty : Lists {} [] where
  array := rfl
  distinct := List.nodup_nil
  number _ := rfl

theorem size_eq (lists : table.Lists names) : table.size = names.length := by
  rw [size, ← Array.length_toList, lists.array]

theorem get?_eq (lists : table.Lists names) (id : UInt32) :
    table.get? id = names[id.toNat]?.map fun name => ⟨id, name⟩ := by
  rw [get?, ← Array.getElem?_toList, lists.array]

end Lists

/-! ## One call -/

/-- The number of a listed name, if there are numbers enough. -/
theorem toNat_idxOf (member : name ∈ names) (few : names.length ≤ UInt32.size) :
    (UInt32.ofNat (names.idxOf name)).toNat = names.idxOf name :=
  UInt32.toNat_ofNat_of_lt' (Nat.lt_of_lt_of_le (List.idxOf_lt_length_of_mem member) few)

namespace Lists

theorem intern_of_mem (lists : table.Lists names) (member : name ∈ names)
    (few : names.length ≤ UInt32.size) :
    table.intern name = (⟨UInt32.ofNat (names.idxOf name), name⟩, table) := by
  have old : NameMap.get? table.numbers name = some (UInt32.ofNat (names.idxOf name)) := by
    rw [lists.number, if_pos member]
  refine intern_of_old old ?_
  rw [toNat_idxOf member few, ← Array.getElem?_toList, lists.array]
  exact List.getElem?_idxOf member

/-- A name that is not listed takes the next number and is listed last. -/
theorem intern_of_notMem (lists : table.Lists names) (new : name ∉ names) :
    (table.intern name).1 = ⟨UInt32.ofNat names.length, name⟩ ∧
      (table.intern name).2.Lists (names ++ [name]) := by
  have unknown : NameMap.get? table.numbers name = none := by
    rw [lists.number, if_neg new]
  have next : table.names.size = names.length := lists.size_eq
  rw [intern_of_new unknown]
  refine ⟨?symbol, ?array, ?distinct, fun other => ?number⟩
  case symbol =>
    show (⟨UInt32.ofNat table.names.size, name⟩ : Symbol) = _
    rw [next]
  case array =>
    show (table.names.push name).toList = _
    rw [Array.toList_push, lists.array]
  case distinct =>
    rw [← List.concat_eq_append]
    exact lists.distinct.concat new
  case number =>
    show NameMap.get? (NameMap.insert table.numbers name (UInt32.ofNat table.names.size)) other = _
    rw [NameMap.get?_insert, lists.number, next, List.idxOf_append]
    by_cases listed : other ∈ names
    · have apart : name ≠ other := fun same => new (same ▸ listed)
      simp [listed, apart]
    · by_cases same : name = other
      · subst same
        simp [listed]
      · simp [listed, same, Ne.symm same]

end Lists

/-! ## Any number of calls -/

/-- The symbol that a name has when these names are interned. -/
def symbolAmong (names : List String) (name : String) : Symbol :=
  ⟨UInt32.ofNat (names.eraseDups.idxOf name), name⟩

/-- The symbols of names that are interned one after the other, and the table afterwards. -/
def internAll (table : SymbolTable) : List String → List Symbol × SymbolTable
  | [] => ([], table)
  | name :: later =>
      let (symbol, next) := table.intern name
      let (symbols, last) := internAll next later
      (symbol :: symbols, last)

/-- A last name counts if it did not come before. -/
theorem eraseDups_concat (earlier : List String) (name : String) :
    (earlier ++ [name]).eraseDups =
      if name ∈ earlier then earlier.eraseDups else earlier.eraseDups ++ [name] := by
  rw [List.eraseDups_append]
  by_cases member : name ∈ earlier <;> simp [List.removeAll, List.eraseDups_cons, member]

theorem length_eraseDups_le (earlier later : List String) :
    earlier.eraseDups.length ≤ (earlier ++ later).eraseDups.length := by
  rw [List.eraseDups_append, List.length_append]
  exact Nat.le_add_right _ _

theorem symbolAmong_append (later : List String) (member : name ∈ earlier) :
    symbolAmong (earlier ++ later) name = symbolAmong earlier name := by
  rw [symbolAmong, symbolAmong, List.eraseDups_append,
    List.idxOf_append_of_mem (List.mem_eraseDups.2 member)]

theorem toNat_symbolAmong (member : name ∈ names) (few : names.eraseDups.length ≤ UInt32.size) :
    (symbolAmong names name).id.toNat = names.eraseDups.idxOf name :=
  toNat_idxOf (List.mem_eraseDups.2 member) few

namespace Lists

/-- The answer for the number of a name is its symbol. -/
theorem get?_symbolAmong (lists : table.Lists names.eraseDups) (member : name ∈ names)
    (few : names.eraseDups.length ≤ UInt32.size) :
    table.get? (symbolAmong names name).id = some (symbolAmong names name) := by
  rw [lists.get?_eq, toNat_symbolAmong member few,
    List.getElem?_idxOf (List.mem_eraseDups.2 member)]
  rfl

/-- There is an answer for the numbers of names only. -/
theorem exists_symbolAmong (lists : table.Lists names.eraseDups) {id : UInt32}
    (inside : id.toNat < names.eraseDups.length) :
    ∃ name ∈ names, (symbolAmong names name).id = id := by
  refine ⟨names.eraseDups[id.toNat], List.mem_eraseDups.1 (List.getElem_mem inside), ?_⟩
  rw [symbolAmong, lists.distinct.idxOf_getElem, UInt32.ofNat_toNat]

/-- **One more call.** -/
theorem intern (lists : table.Lists earlier.eraseDups) (name : String)
    (few : earlier.eraseDups.length ≤ UInt32.size) :
    (table.intern name).1 = symbolAmong (earlier ++ [name]) name ∧
      (table.intern name).2.Lists (earlier ++ [name]).eraseDups := by
  rw [symbolAmong, eraseDups_concat]
  by_cases member : name ∈ earlier
  · rw [lists.intern_of_mem (List.mem_eraseDups.2 member) few, if_pos member]
    exact ⟨rfl, lists⟩
  · have new : name ∉ earlier.eraseDups := fun listed => member (List.mem_eraseDups.1 listed)
    rw [if_neg member, List.idxOf_append_of_notMem new, List.idxOf_cons_self, Nat.add_zero]
    exact lists.intern_of_notMem new

/-- **Any number of calls more.** -/
theorem internAll (lists : table.Lists earlier.eraseDups) (calls : List String)
    (few : (earlier ++ calls).eraseDups.length ≤ UInt32.size) :
    (table.internAll calls).1 = calls.map (symbolAmong (earlier ++ calls)) ∧
      (table.internAll calls).2.Lists (earlier ++ calls).eraseDups := by
  induction calls generalizing table earlier with
  | nil => exact ⟨rfl, (List.append_nil earlier).symm ▸ lists⟩
  | cons name later ih =>
      obtain ⟨symbol, next⟩ :=
        lists.intern name (Nat.le_trans (length_eraseDups_le earlier _) few)
      have whole : earlier ++ name :: later = earlier ++ [name] ++ later := by
        rw [List.append_assoc, List.singleton_append]
      rw [whole] at few ⊢
      obtain ⟨symbols, last⟩ := ih next few
      refine ⟨?_, last⟩
      show (table.intern name).1 :: ((table.intern name).2.internAll later).1 = _
      rw [symbols, symbol, List.map_cons, symbolAmong_append later (by simp)]

end Lists

/-- **A number stands for one name.**  Intern any names, of at most 2^32 different ones, and
then any others.  Each call gives a symbol that shows the name it was called with, and its
number is the place of the name among the different names in the order in which they first
came.  So two symbols have the same number, and are the same symbol, exactly if their names
are equal.  The table has as many names as there are different ones, its answer for a number
that was given is the symbol that it was given with, however many names came later, and it has
no answer for any other number. -/
theorem numbers_stand_for_names (earlier later : List String)
    (few : (earlier ++ later).eraseDups.length ≤ UInt32.size) :
    let before := internAll {} earlier
    let after := before.2.internAll later
    before.1.map Symbol.name = earlier ∧
      before.1.map (fun symbol => symbol.id.toNat) = earlier.map earlier.eraseDups.idxOf ∧
      (∀ a ∈ before.1, ∀ b ∈ before.1,
        (a.id = b.id ↔ a.name = b.name) ∧ (a.same b = true ↔ a.name = b.name)) ∧
      after.2.size = (earlier ++ later).eraseDups.length ∧
      (∀ symbol ∈ before.1, after.2.get? symbol.id = some symbol) ∧
      ∀ id, (∀ symbol ∈ before.1 ++ after.1, symbol.id ≠ id) → after.2.get? id = none := by
  intro before after
  have fewer : earlier.eraseDups.length ≤ UInt32.size :=
    Nat.le_trans (length_eraseDups_le earlier later) few
  have start : Lists {} (List.eraseDups []) := Lists.empty
  obtain ⟨symbols, lists⟩ := start.internAll earlier fewer
  rw [List.nil_append] at symbols lists
  obtain ⟨symbols', lists'⟩ := lists.internAll later few
  have number : ∀ name ∈ earlier,
      (symbolAmong earlier name).id.toNat = earlier.eraseDups.idxOf name := fun _ member =>
    toNat_symbolAmong member fewer
  simp only [before, after, symbols, symbols', List.map_map]
  refine ⟨?names, ?numbers, ?same, lists'.size_eq, ?known, ?unknown⟩
  case names => exact List.map_id earlier
  case numbers => exact List.map_congr_left number
  case same =>
    intro a there b there'
    obtain ⟨name, member, rfl⟩ := List.mem_map.1 there
    obtain ⟨other, member', rfl⟩ := List.mem_map.1 there'
    have same : (symbolAmong earlier name).id = (symbolAmong earlier other).id ↔ name = other := by
      rw [← UInt32.toNat_inj, number name member, number other member']
      exact List.idxOf_inj (List.mem_eraseDups.2 member)
    exact ⟨same, beq_iff_eq.trans same⟩
  case known =>
    intro symbol there
    obtain ⟨name, member, rfl⟩ := List.mem_map.1 there
    rw [← symbolAmong_append later member]
    exact lists'.get?_symbolAmong (List.mem_append_left later member) few
  case unknown =>
    intro id unused
    rw [lists'.get?_eq, Option.map_eq_none_iff, List.getElem?_eq_none_iff]
    -- a number in range stands for a name, which has been called with
    refine Nat.le_of_not_lt fun inside => ?_
    obtain ⟨name, called, given⟩ := lists'.exists_symbolAmong inside
    rcases List.mem_append.1 called with first | last
    · rw [symbolAmong_append later first] at given
      exact unused _ (List.mem_append_left _ (List.mem_map_of_mem first)) given
    · exact unused _ (List.mem_append_right _ (List.mem_map_of_mem last)) given

/-- A name that comes twice has one number, and keeps it when a third name comes. -/
theorem numbers_stand_for_names_of_three :
    let before := internAll {} ["foo", "bar", "foo"]
    let after := before.2.internAll ["baz", "bar"]
    (["foo", "bar", "foo"] ++ ["baz", "bar"]).eraseDups.length ≤ UInt32.size ∧
      before.1.map (fun symbol => symbol.id.toNat) = [0, 1, 0] ∧ after.2.size = 3 ∧
        after.2.get? 1 = some ⟨1, "bar"⟩ ∧ after.2.get? 99 = none := by
  intro before after
  have few : (["foo", "bar", "foo"] ++ ["baz", "bar"]).eraseDups.length ≤ UInt32.size := by decide
  obtain ⟨-, numbers, -, size, known, unknown⟩ :=
    numbers_stand_for_names ["foo", "bar", "foo"] ["baz", "bar"] few
  exact ⟨few, numbers.trans (by decide), size.trans (by decide), known ⟨1, "bar"⟩ (by decide),
    unknown 99 (by decide)⟩

end SymbolTable

end InlineCache
