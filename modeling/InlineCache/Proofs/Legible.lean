/-
# InlineCache.Proofs.Legible -- what can be read off the text of a value

The text of a value does not say everything.  An object shows its type's name only, a type
its name, a block nothing; a hash shows its entries in the order they were inserted.
`Value.face` is a value without what its text leaves out.

And the text can say something else than it means.  Names stand in it as they are, so a
symbol named `a, :b` in an array reads as two symbols.  Where names keep clear of the
characters that end an item (`Value.Legible`), the text of a value says all that is on its
face, whatever stands after it:

* `Text.quote_unique`: a quoted text ends at the first quote that is not escaped;
* `Value.Legible.unique`: two legible values that are written alike, with anything after
  them, have one face and are followed by the same;
* `Value.Legible.render_eq_iff`: so their texts are the same exactly if their faces are;
* `Value.Telling.render_eq_iff`: and for values that have no other face, with no two entries
  in a hash whose order could differ, that is equality of values.
-/
import InlineCache.Proofs.Equality
import InlineCache.Value.Render
import Mathlib

namespace InlineCache

set_option autoImplicit false

/-! ## Texts that end at a character -/

/-- Where two texts go on with characters that neither has in it, both end there. -/
theorem split_unique {x x' z z' : List Char} {c c' : Char} (absent : c' ∉ x) (absent' : c ∉ x')
    (same : x ++ c :: z = x' ++ c' :: z') : x = x' ∧ c = c' ∧ z = z' := by
  induction x generalizing x' with
  | nil =>
      cases x' with
      | nil => simpa using same
      | cons d x' =>
          have first : c = d := (List.cons.inj same).1
          exact absurd (first ▸ List.mem_cons_self) absent'
  | cons d x ih =>
      cases x' with
      | nil =>
          have first : d = c' := (List.cons.inj same).1
          exact absurd (first ▸ List.mem_cons_self) absent
      | cons d' x' =>
          obtain ⟨rfl, rest⟩ := List.cons.inj same
          obtain ⟨rfl, ends, after⟩ := ih (fun member => absent (List.mem_cons_of_mem _ member))
            (fun member => absent' (List.mem_cons_of_mem _ member)) rest
          exact ⟨rfl, ends, after⟩

namespace Text

/-! ## Numerals -/

theorem digitChar_injOn {a b : Nat} (small : a < 16) (small' : b < 16)
    (same : a.digitChar = b.digitChar) : a = b := by
  have all : ∀ a : Fin 16, ∀ b : Fin 16, Nat.digitChar a = Nat.digitChar b → a = b := by decide
  exact congrArg Fin.val (all ⟨a, small⟩ ⟨b, small'⟩ same)

theorem toDigits_injective {a b : Nat} (same : Nat.toDigits 16 a = Nat.toDigits 16 b) : a = b := by
  induction a using Nat.strongRecOn generalizing b with
  | _ a ih =>
      rw [Nat.toDigits_eq_if (by decide), Nat.toDigits_eq_if (n := b) (by decide)] at same
      by_cases small : a < 16 <;> by_cases small' : b < 16 <;>
        simp only [small, small', if_true, if_false] at same
      · exact digitChar_injOn small small' (List.singleton_inj.1 same)
      · have lengths := congrArg List.length same
        have some_ := Nat.length_toDigits_pos (b := 16) (n := b / 16)
        simp only [List.length_append, List.length_singleton] at lengths
        omega
      · have lengths := congrArg List.length same
        have some_ := Nat.length_toDigits_pos (b := 16) (n := a / 16)
        simp only [List.length_append, List.length_singleton] at lengths
        omega
      · obtain ⟨front, last⟩ := List.append_inj' same rfl
        have high := ih (a / 16) (by omega) front
        have low := digitChar_injOn (Nat.mod_lt a (by decide)) (Nat.mod_lt b (by decide))
          (List.singleton_inj.1 last)
        omega

theorem brace_notMem_toDigits (n : Nat) : '\x7d' ∉ Nat.toDigits 16 n := by
  induction n using Nat.strongRecOn with
  | _ n ih =>
      rw [Nat.toDigits_eq_if (by decide)]
      split
      · simp
      · simp [ih (n / 16) (by omega)]

/-! ## Quoted texts -/

/-- How a character is written in a quoted text. -/
theorem quoteChar_cases (c : Char) :
    (∃ letter, escapeLetter? c = some letter ∧ quoteChar c = ['\\', letter]) ∨
      (escapeLetter? c = none ∧
        quoteChar c = ['\\', 'u', '\x7b'] ++ Nat.toDigits 16 c.toNat ++ ['\x7d']) ∨
      (c ≠ '"' ∧ c ≠ '\\' ∧ quoteChar c = [c]) := by
  cases has : escapeLetter? c with
  | some letter => exact .inl ⟨letter, rfl, quoteChar_of_letter has⟩
  | none =>
      by_cases hidden : isUnprintable c = true
      · exact .inr (.inl ⟨rfl, by simp [quoteChar, has, hidden]⟩)
      · refine .inr (.inr ⟨?_, ?_, by simp [quoteChar, has, hidden]⟩) <;>
          (rintro rfl; simp [escapeLetter?] at has)

/-- The characters that have a letter, each with its own. -/
def lettered : List (Char × Char) :=
  [('\x00', '0'), ('\t', 't'), ('\r', 'r'), ('\n', 'n'), ('"', '"'), ('\\', '\\')]

theorem mem_lettered {c letter : Char} (has : escapeLetter? c = some letter) :
    (c, letter) ∈ lettered := by
  unfold escapeLetter? at has
  split at has <;> cases has <;> simp [lettered]

theorem escapeLetter?_ne_u {c letter : Char} (has : escapeLetter? c = some letter) :
    letter ≠ 'u' :=
  (show ∀ pair ∈ lettered, pair.2 ≠ 'u' by decide) _ (mem_lettered has)

theorem escapeLetter?_injective {c d letter : Char} (has : escapeLetter? c = some letter)
    (has' : escapeLetter? d = some letter) : c = d :=
  (show ∀ pair ∈ lettered, ∀ other ∈ lettered, pair.2 = other.2 → pair.1 = other.1 by decide)
    _ (mem_lettered has) _ (mem_lettered has') rfl

/-- One written character does not run into what follows. -/
theorem quoteChar_unique {c d : Char} {x y : List Char}
    (same : quoteChar c ++ x = quoteChar d ++ y) : c = d ∧ x = y := by
  rcases quoteChar_cases c with ⟨l, has, its⟩ | ⟨-, its⟩ | ⟨-, slash, its⟩ <;>
    rcases quoteChar_cases d with ⟨l', has', its'⟩ | ⟨-, its'⟩ | ⟨-, slash', its'⟩ <;>
      rw [its, its'] at same
  · simp only [List.cons_append, List.nil_append, List.cons.injEq, true_and] at same
    obtain ⟨rfl, rest⟩ := same
    exact ⟨escapeLetter?_injective has has', rest⟩
  · simp only [List.cons_append, List.nil_append, List.cons.injEq, true_and] at same
    exact absurd same.1 (escapeLetter?_ne_u has)
  · simp only [List.cons_append, List.nil_append, List.cons.injEq] at same
    exact absurd same.1.symm slash'
  · simp only [List.cons_append, List.nil_append, List.cons.injEq, true_and] at same
    exact absurd same.1.symm (escapeLetter?_ne_u has')
  · simp only [List.cons_append, List.nil_append, List.append_assoc, List.cons.injEq,
      true_and] at same
    obtain ⟨digits, -, rest⟩ :=
      split_unique (brace_notMem_toDigits _) (brace_notMem_toDigits _) same
    exact ⟨Char.toNat_inj.1 (toDigits_injective digits), rest⟩
  · simp only [List.cons_append, List.nil_append, List.append_assoc, List.cons.injEq] at same
    exact absurd same.1.symm slash'
  · simp only [List.cons_append, List.nil_append, List.cons.injEq] at same
    exact absurd same.1 slash
  · simp only [List.cons_append, List.nil_append, List.append_assoc, List.cons.injEq] at same
    exact absurd same.1 slash
  · simpa using same

theorem quoteChar_head (c : Char) : ∃ first rest, quoteChar c = first :: rest ∧ first ≠ '"' := by
  rcases quoteChar_cases c with ⟨l, -, its⟩ | ⟨-, its⟩ | ⟨plain, -, its⟩
  · exact ⟨_, _, its, by decide⟩
  · exact ⟨_, _, its, by decide⟩
  · exact ⟨_, _, its, plain⟩

theorem quoted_unique {cs ds x y : List Char}
    (same : cs.flatMap quoteChar ++ '"' :: x = ds.flatMap quoteChar ++ '"' :: y) :
    cs = ds ∧ x = y := by
  induction cs generalizing ds with
  | nil =>
      cases ds with
      | nil => simpa using same
      | cons d ds =>
          obtain ⟨first, rest, its, plain⟩ := quoteChar_head d
          simp only [List.flatMap_nil, List.nil_append, List.flatMap_cons, its, List.cons_append,
            List.cons.injEq] at same
          exact absurd same.1.symm plain
  | cons c cs ih =>
      cases ds with
      | nil =>
          obtain ⟨first, rest, its, plain⟩ := quoteChar_head c
          simp only [List.flatMap_nil, List.nil_append, List.flatMap_cons, its, List.cons_append,
            List.cons.injEq] at same
          exact absurd same.1 plain
      | cons d ds =>
          simp only [List.flatMap_cons, List.append_assoc] at same
          obtain ⟨rfl, others⟩ := quoteChar_unique same
          obtain ⟨rfl, after⟩ := ih others
          exact ⟨rfl, after⟩

theorem toList_quote (text : String) :
    (quote text).toList = '"' :: text.toList.flatMap quoteChar ++ ['"'] := by
  simp [quote]

/-- **A quoted text ends where it ends.** -/
theorem quote_unique {a b : String} {x y : List Char}
    (same : (quote a).toList ++ x = (quote b).toList ++ y) : a = b ∧ x = y := by
  simp only [toList_quote, List.cons_append, List.append_assoc, List.nil_append,
    List.cons.injEq, true_and] at same
  obtain ⟨texts, after⟩ := quoted_unique same
  exact ⟨String.toList_inj.1 texts, after⟩

end Text

/-! ## What ends an item -/

/-- The characters an item, a key or a name ends before. -/
def breaks (c : Char) : Bool := [',', ']', '\x7d', '>'].contains c

/-- The characters an item of an aggregate ends before. -/
def closes (c : Char) : Bool := [',', ']', '\x7d'].contains c

theorem breaks_of_closes {c : Char} (its : closes c = true) : breaks c = true := by
  simp only [closes, breaks, List.contains_eq_mem, decide_eq_true_eq] at its ⊢
  simp only [List.mem_cons, List.not_mem_nil, or_false] at its ⊢
  tauto

/-- A text that runs on to the end of the item it stands in. -/
def Unbroken (text : List Char) : Prop := ∀ c ∈ text, breaks c = false

/-- What can stand after a value: nothing, the end of an item, or, if the value is a key of a
hash, an arrow. -/
inductive After : Bool → List Char → Prop where
  | last : After false []
  | item {c : Char} (rest : List Char) (its : closes c = true) : After false (c :: rest)
  | key (rest : List Char) : After true ('=' :: '>' :: rest)

theorem Unbroken.notMem {text : List Char} (unbroken : Unbroken text) {c : Char}
    (its : breaks c = true) : c ∉ text := by
  intro member
  rw [unbroken c member] at its
  exact Bool.false_ne_true its

/-- A word ends where what can stand after it begins. -/
theorem word_unique {a b x y : List Char} {isKey : Bool} (unbroken : Unbroken a)
    (unbroken' : Unbroken b) (after : After isKey x) (after' : After isKey y)
    (same : a ++ x = b ++ y) : a = b ∧ x = y := by
  cases after with
  | last =>
      cases after' with
      | last => simpa using same
      | item rest its =>
          refine absurd ?_ (unbroken.notMem (breaks_of_closes its))
          rw [← List.append_nil a, same]
          simp
  | item rest its =>
      cases after' with
      | last =>
          refine absurd ?_ (unbroken'.notMem (breaks_of_closes its))
          rw [← List.append_nil b, ← same]
          simp
      | item rest' its' =>
          obtain ⟨words, ends, others⟩ := split_unique (unbroken.notMem (breaks_of_closes its'))
            (unbroken'.notMem (breaks_of_closes its)) same
          exact ⟨words, ends ▸ others ▸ rfl⟩
  | key rest =>
      cases after' with
      | key rest' =>
          -- the word may end in an equals sign of its own, so the arrow is told by its head
          have sign : ∀ {text : List Char}, Unbroken text → '>' ∉ text ++ ['='] := by
            intro text unbroken member
            rcases List.mem_append.1 member with inside | last
            · exact unbroken.notMem (by decide) inside
            · simp at last
          have arrow : (a ++ ['=']) ++ '>' :: rest = (b ++ ['=']) ++ '>' :: rest' := by
            simpa using same
          obtain ⟨words, -, others⟩ := split_unique (sign unbroken) (sign unbroken') arrow
          exact ⟨List.append_cancel_right words, others ▸ rfl⟩

/-! ## Lists of items -/

section

variable {α β : Type} {text : α → String} {face : α → β}

/-- The items after the first, each after its comma. -/
def joinedRest (text : α → String) (items : List α) : List Char :=
  items.flatMap fun item => ',' :: ' ' :: (text item).toList

theorem toList_joined_cons (first : α) (others : List α) :
    (", ".intercalate ((first :: others).map text)).toList =
      (text first).toList ++ joinedRest text others := by
  induction others generalizing first with
  | nil => simp [joinedRest]
  | cons next others ih =>
      simp only [List.map_cons] at ih
      simp [String.intercalate_cons_cons, joinedRest, ih]

/-- An item is followed by a comma or by the end. -/
theorem after_joinedRest (items : List α) {c : Char} (x : List Char) (its : closes c = true) :
    After false (joinedRest text items ++ c :: x) := by
  cases items with
  | nil => exact .item x its
  | cons item rest => exact .item _ (by decide)

section

variable {as bs : List α} {c : Char} {x y : List Char}

theorem joinedRest_unique (its : closes c = true) (notComma : c ≠ ',')
    (alone : ∀ a ∈ as, ∀ b ∈ bs, ∀ {x y : List Char}, After false x → After false y →
      (text a).toList ++ x = (text b).toList ++ y → face a = face b ∧ x = y)
    (same : joinedRest text as ++ c :: x = joinedRest text bs ++ c :: y) :
    as.map face = bs.map face ∧ x = y := by
  induction as generalizing bs with
  | nil =>
      cases bs with
      | nil => exact ⟨rfl, (List.cons.inj same).2⟩
      | cons b bs => exact absurd (List.cons.inj same).1 notComma
  | cons a as ih =>
      cases bs with
      | nil => exact absurd (List.cons.inj same).1.symm notComma
      | cons b bs =>
          simp only [joinedRest, List.flatMap_cons, List.cons_append, List.append_assoc,
            List.cons.injEq, true_and] at same
          obtain ⟨faces, after⟩ := alone a List.mem_cons_self b List.mem_cons_self
            (after_joinedRest as x its) (after_joinedRest bs y its) same
          obtain ⟨others, rest⟩ := ih (fun a member b member' =>
            alone a (List.mem_cons_of_mem _ member) b (List.mem_cons_of_mem _ member')) after
          exact ⟨List.cons_eq_cons.2 ⟨faces, others⟩, rest⟩

/-- **Items end where they end.**  What is shown of one item, whatever follows it, is shown
of all items, up to the character that closes them. -/
theorem joined_unique (its : closes c = true) (notComma : c ≠ ',')
    (starts : ∀ b, b ∈ as ∨ b ∈ bs → ∃ first rest, (text b).toList = first :: rest ∧ first ≠ c)
    (alone : ∀ a ∈ as, ∀ b ∈ bs, ∀ {x y : List Char}, After false x → After false y →
      (text a).toList ++ x = (text b).toList ++ y → face a = face b ∧ x = y)
    (same : (", ".intercalate (as.map text)).toList ++ c :: x =
      (", ".intercalate (bs.map text)).toList ++ c :: y) :
    as.map face = bs.map face ∧ x = y := by
  cases as with
  | nil =>
      cases bs with
      | nil => simpa using same
      | cons b bs =>
          obtain ⟨first, rest, shown, other⟩ := starts b (.inr List.mem_cons_self)
          rw [toList_joined_cons, shown] at same
          exact absurd (List.cons.inj same).1.symm other
  | cons a as =>
      rw [toList_joined_cons, List.append_assoc] at same
      cases bs with
      | nil =>
          obtain ⟨first, rest, shown, other⟩ := starts a (.inl List.mem_cons_self)
          rw [shown] at same
          exact absurd (List.cons.inj same).1 other
      | cons b bs =>
          rw [toList_joined_cons, List.append_assoc] at same
          obtain ⟨faces, after⟩ := alone a List.mem_cons_self b List.mem_cons_self
            (after_joinedRest as x its) (after_joinedRest bs y its) same
          obtain ⟨others, rest⟩ := joinedRest_unique its notComma (fun a member b member' =>
            alone a (List.mem_cons_of_mem _ member) b (List.mem_cons_of_mem _ member')) after
          exact ⟨List.cons_eq_cons.2 ⟨faces, others⟩, rest⟩

end

end

/-! ## What a value shows of itself -/

mutual

/-- A value without what its text leaves out: which object or type of a name it is, and
which block. -/
def Value.face : Value → Value
  | .object target => .object ⟨0, 0, target.type.name⟩
  | .type target => .type ⟨0, target.name⟩
  | .proc _ => .proc .null
  | .array items => .array (facesOfItems items)
  | .hash entries => .hash (facesOfEntries entries)
  | value => value

def facesOfItems : List Value → List Value
  | [] => []
  | value :: rest => value.face :: facesOfItems rest

def facesOfEntries : List (Value × Value) → List (Value × Value)
  | [] => []
  | (key, value) :: rest => (key.face, value.face) :: facesOfEntries rest

end

theorem facesOfItems_eq_map (items : List Value) : facesOfItems items = items.map Value.face := by
  induction items with
  | nil => rfl
  | cons item rest ih => rw [facesOfItems, ih, List.map_cons]

def entryFace (entry : Value × Value) : Value × Value := (entry.1.face, entry.2.face)

theorem facesOfEntries_eq_map (entries : List (Value × Value)) :
    facesOfEntries entries = entries.map entryFace := by
  induction entries with
  | nil => rfl
  | cons entry rest ih => rw [facesOfEntries, ih, List.map_cons, entryFace]

theorem renderItems_eq_map (items : List Value) :
    renderItems items = items.map Value.render := by
  induction items with
  | nil => rfl
  | cons item rest ih => rw [renderItems, ih, List.map_cons]

def renderEntry (entry : Value × Value) : String := entry.1.render ++ "=>" ++ entry.2.render

theorem renderEntries_eq_map (entries : List (Value × Value)) :
    renderEntries entries = entries.map renderEntry := by
  induction entries with
  | nil => rfl
  | cons entry rest ih => rw [renderEntries, ih, List.map_cons, renderEntry]

mutual

theorem render_face (value : Value) : value.face.render = value.render := by
  cases value with
  | array items => simp only [Value.face, Value.render, renderItems_faces items]
  | hash entries => simp only [Value.face, Value.render, renderEntries_faces entries]
  | object | type | proc => simp only [Value.face, Value.render]
  | nil | bool | int | symbol | string => simp only [Value.face]

theorem renderItems_faces (items : List Value) :
    renderItems (facesOfItems items) = renderItems items := by
  cases items with
  | nil => rfl
  | cons item rest =>
      simp only [facesOfItems, renderItems, render_face item, renderItems_faces rest]

theorem renderEntries_faces (entries : List (Value × Value)) :
    renderEntries (facesOfEntries entries) = renderEntries entries := by
  match entries with
  | [] => rfl
  | (key, value) :: rest =>
      simp only [facesOfEntries, renderEntries, render_face key, render_face value,
        renderEntries_faces rest]

end

/-! ## Legible values -/

/-- The name of a type starts with a capital letter and runs on to the end of its item. -/
structure IsTypeName (name : String) : Prop where
  unbroken : Unbroken name.toList
  capital : ∃ first rest, name.toList = first :: rest ∧ first.isUpper = true

/-- How a text opens tells the kind of value. -/
inductive Opening where
  | constant
  | number
  | symbol
  | typeName
  | text
  | array
  | hash
  | angled
  | none
deriving DecidableEq

namespace Opening

def ofChar (c : Char) : Opening :=
  if c.isUpper then typeName
  else if c.isDigit || c == '-' then number
  else if c.isLower then constant
  else if c == ':' then symbol
  else if c == '"' then text
  else if c == '[' then array
  else if c == '\x7b' then hash
  else if c == '#' then angled
  else none

/-- Is what opens so a single word? -/
def isWord : Opening → Bool
  | constant | number | symbol | typeName => true
  | _ => false

theorem ofChar_of_closes {c : Char} (its : closes c = true) : ofChar c = none := by
  simp only [closes, List.contains_eq_mem, decide_eq_true_eq, List.mem_cons, List.not_mem_nil,
    or_false] at its
  rcases its with rfl | rfl | rfl <;> decide

theorem ofChar_of_digit {c : Char} (digit : c.isDigit = true) : ofChar c = number := by
  have notUpper : c.isUpper = false := by
    simp only [Char.isDigit, Char.isUpper, ge_iff_le, Bool.and_eq_true, decide_eq_true_eq,
      decide_eq_false_iff_not] at digit ⊢
    intro upper
    exact absurd (UInt32.le_trans upper.1 digit.2) (by decide)
  simp [ofChar, notUpper, digit]

end Opening

namespace Value

/-- A value whose names keep clear of the characters that end an item. -/
inductive Legible : Value → Prop where
  | nil : Legible .nil
  | bool (b : Bool) : Legible (.bool b)
  | int (n : Int64) : Legible (.int n)
  | symbol {name : String} (unbroken : Unbroken name.toList) : Legible (.symbol name)
  | string (text : String) : Legible (.string text)
  | array {items : List Value} (each : ∀ item ∈ items, Legible item) : Legible (.array items)
  | hash {entries : Dict} (keys : ∀ entry ∈ entries, Legible entry.1)
      (values : ∀ entry ∈ entries, Legible entry.2) : Legible (.hash entries)
  | object {target : ObjectRef} (named : IsTypeName target.type.name)
      (notProc : target.type.name ≠ "Proc") : Legible (.object target)
  | type {target : TypeRef} (named : IsTypeName target.name) : Legible (.type target)
  | proc (block : BlockRef) : Legible (.proc block)

/-- How the text of a value opens. -/
def opening : Value → Opening
  | nil | bool _ => .constant
  | int _ => .number
  | symbol _ => .symbol
  | string _ => .text
  | array _ => .array
  | hash _ => .hash
  | object _ | proc _ => .angled
  | type _ => .typeName

/-! ### Numbers -/

theorem toList_renderInt (n : Int64) :
    (renderInt n).toList =
      if 0 ≤ n.toInt then Nat.toDigits 10 n.toInt.toNat
      else '-' :: Nat.toDigits 10 (-n.toInt).toNat := by
  rw [renderInt, show toString n.toInt = n.toInt.repr from rfl, Int.repr_eq_if]
  split <;> simp [Nat.toList_repr]

theorem renderInt_injective {n m : Int64} (same : renderInt n = renderInt m) : n = m :=
  Int64.toInt_inj.1 (Int.repr_injective same)

theorem unbroken_toDigits (n : Nat) : Unbroken (Nat.toDigits 10 n) := by
  intro c member
  have digit := Nat.isDigit_of_mem_toDigits (by decide) (by decide) member
  by_contra broken
  rw [Bool.not_eq_false] at broken
  simp only [breaks, List.contains_eq_mem, decide_eq_true_eq, List.mem_cons, List.not_mem_nil,
    or_false] at broken
  rcases broken with rfl | rfl | rfl | rfl <;> exact absurd digit (by decide)

theorem unbroken_renderInt (n : Int64) : Unbroken (renderInt n).toList := by
  rw [toList_renderInt]
  split
  · exact unbroken_toDigits _
  · intro c member
    rcases List.mem_cons.1 member with rfl | digits
    · decide
    · exact unbroken_toDigits _ c digits

/-! ### How texts open -/

theorem opens_toDigits (n : Nat) :
    ∃ first rest, Nat.toDigits 10 n = first :: rest ∧ Opening.ofChar first = .number := by
  obtain ⟨first, rest, its⟩ := List.exists_cons_of_ne_nil (Nat.toDigits_ne_nil (n := n) (b := 10))
  have digit := Nat.isDigit_of_mem_toDigits (b := 10) (n := n) (c := first) (by decide)
    (by decide) (its ▸ List.mem_cons_self)
  exact ⟨first, rest, its, Opening.ofChar_of_digit digit⟩

theorem Legible.opens {value : Value} (legible : value.Legible) :
    ∃ first rest, value.render.toList = first :: rest ∧ Opening.ofChar first = value.opening := by
  cases legible with
  | nil => exact ⟨'n', ['i', 'l'], by simp [render], rfl⟩
  | bool b =>
      cases b with
      | true => exact ⟨'t', ['r', 'u', 'e'], by simp [render], rfl⟩
      | false => exact ⟨'f', ['a', 'l', 's', 'e'], by simp [render], rfl⟩
  | int n =>
      rw [render, toList_renderInt]
      split
      · exact opens_toDigits _
      · exact ⟨'-', _, rfl, rfl⟩
  | @symbol name unbroken => exact ⟨':', name.toList, by simp [render], rfl⟩
  | string text => exact ⟨'"', _, by rw [render, Text.toList_quote]; rfl, rfl⟩
  | array each => exact ⟨'[', _, by simp [render]; rfl, rfl⟩
  | hash keys values => exact ⟨'\x7b', _, by simp [render]; rfl, rfl⟩
  | object named notProc => exact ⟨'#', _, by simp [render]; rfl, rfl⟩
  | type named =>
      obtain ⟨first, rest, its, capital⟩ := named.capital
      exact ⟨first, rest, its, by simp [Opening.ofChar, capital, opening]⟩
  | proc block => exact ⟨'#', _, by simp [render]; rfl, rfl⟩

theorem Legible.starts {value : Value} (legible : value.Legible) {c : Char}
    (its : closes c = true) :
    ∃ first rest, value.render.toList = first :: rest ∧ first ≠ c := by
  obtain ⟨first, rest, text, opens⟩ := legible.opens
  refine ⟨first, rest, text, ?_⟩
  rintro rfl
  rw [Opening.ofChar_of_closes its] at opens
  cases value <;> cases opens

theorem opening_eq {v w : Value} (legible : v.Legible) (legible' : w.Legible) {x y : List Char}
    (same : v.render.toList ++ x = w.render.toList ++ y) : v.opening = w.opening := by
  obtain ⟨first, rest, text, opens⟩ := legible.opens
  obtain ⟨first', rest', text', opens'⟩ := legible'.opens
  rw [text, text'] at same
  rw [← opens, ← opens', (List.cons.inj same).1]

/-! ### Words -/

theorem Legible.unbroken {value : Value} (legible : value.Legible)
    (word : value.opening.isWord = true) : Unbroken value.render.toList := by
  cases legible with
  | nil => simp [render, Unbroken, breaks]
  | bool b => cases b <;> simp [render, Unbroken, breaks]
  | int n => exact unbroken_renderInt n
  | symbol unbroken =>
      intro c member
      simp only [render, String.toList_append, List.mem_append] at member
      rcases member with colon | inside
      · obtain rfl := List.mem_singleton.1 colon
        decide
      · exact unbroken c inside
  | type named => exact named.unbroken
  | _ => cases word

/-- Words that are the same are of one face. -/
theorem face_eq_of_word {v w : Value} (kinds : v.opening = w.opening)
    (word : v.opening.isWord = true) (same : v.render = w.render) : v.face = w.face := by
  cases v <;> cases w <;> cases kinds <;> try cases word
  case nil.nil => rfl
  case nil.bool b => cases b <;> simp [render] at same
  case bool.nil b => cases b <;> simp [render] at same
  case bool.bool b c => cases b <;> cases c <;> simp [render] at same <;> rfl
  case int.int n m => rw [renderInt_injective same]
  case symbol.symbol name name' =>
      simp only [render, String.append_right_inj] at same
      rw [same]
  case type.type a b =>
      simp only [render] at same
      rw [face, face, same]

theorem Legible.unique_of_word {v w : Value} (legible : v.Legible) (legible' : w.Legible)
    (word : v.opening.isWord = true) {isKey : Bool} {x y : List Char} (after : After isKey x)
    (after' : After isKey y) (same : v.render.toList ++ x = w.render.toList ++ y) :
    v.face = w.face ∧ x = y := by
  have kinds := opening_eq legible legible' same
  obtain ⟨texts, rest⟩ :=
    word_unique (legible.unbroken word) (legible'.unbroken (kinds ▸ word)) after after' same
  exact ⟨face_eq_of_word kinds word (String.toList_inj.1 texts), rest⟩

/-! ### Every value -/

theorem toList_array (items : List Value) (x : List Char) :
    (array items).render.toList ++ x =
      '[' :: ((", ".intercalate (items.map render)).toList ++ ']' :: x) := by
  simp [render, renderItems_eq_map]

theorem toList_hash (entries : Dict) (x : List Char) :
    (hash entries).render.toList ++ x =
      '\x7b' :: ((", ".intercalate (entries.map renderEntry)).toList ++ '\x7d' :: x) := by
  simp [render, renderEntries_eq_map]

theorem toList_renderEntry (entry : Value × Value) (x : List Char) :
    (renderEntry entry).toList ++ x =
      entry.1.render.toList ++ '=' :: '>' :: (entry.2.render.toList ++ x) := by
  simp [renderEntry]

theorem starts_renderEntry {entry : Value × Value} (legible : entry.1.Legible) {c : Char}
    (its : closes c = true) :
    ∃ first rest, (renderEntry entry).toList = first :: rest ∧ first ≠ c := by
  obtain ⟨first, rest, text, other⟩ := legible.starts its
  refine ⟨first, rest ++ '=' :: '>' :: entry.2.render.toList, ?_, other⟩
  simp [renderEntry, text]

theorem unbroken_proc : Unbroken "Proc".toList := by simp [Unbroken, breaks]

theorem toList_object (target : ObjectRef) (x : List Char) :
    (object target).render.toList ++ x =
      '#' :: '<' :: (target.type.name.toList ++ '>' :: x) := by
  simp [render]

theorem toList_proc (block : BlockRef) (x : List Char) :
    (proc block).render.toList ++ x = '#' :: '<' :: ("Proc".toList ++ '>' :: x) := by
  simp [render]

/-- A name in angle brackets ends at the closing one. -/
theorem angled_unique {a b : String} {x y : List Char} (unbroken : Unbroken a.toList)
    (unbroken' : Unbroken b.toList)
    (same : '#' :: '<' :: (a.toList ++ '>' :: x) = '#' :: '<' :: (b.toList ++ '>' :: y)) :
    a = b ∧ x = y := by
  simp only [List.cons.injEq, true_and] at same
  obtain ⟨names, -, rest⟩ :=
    split_unique (unbroken.notMem (by decide)) (unbroken'.notMem (by decide)) same
  exact ⟨String.toList_inj.1 names, rest⟩

/-- **The text of a legible value ends where it ends, and shows its face.** -/
theorem Legible.unique {v w : Value} (legible : v.Legible) (legible' : w.Legible) {isKey : Bool}
    {x y : List Char} (after : After isKey x) (after' : After isKey y)
    (same : v.render.toList ++ x = w.render.toList ++ y) : v.face = w.face ∧ x = y := by
  induction legible generalizing w isKey x y with
  | nil => exact unique_of_word .nil legible' rfl after after' same
  | bool b => exact unique_of_word (.bool b) legible' rfl after after' same
  | int n => exact unique_of_word (.int n) legible' rfl after after' same
  | symbol unbroken => exact unique_of_word (.symbol unbroken) legible' rfl after after' same
  | type named => exact unique_of_word (.type named) legible' rfl after after' same
  | string text =>
      have kinds := opening_eq (.string text) legible' same
      cases legible' with
      | string text' =>
          obtain ⟨texts, rest⟩ := Text.quote_unique (by simpa only [render] using same)
          exact ⟨by rw [texts], rest⟩
      | _ => cases kinds
  | @array items each ih =>
      have kinds := opening_eq (.array each) legible' same
      cases legible' with
      | @array items' each' =>
          rw [toList_array, toList_array] at same
          obtain ⟨faces, rest⟩ : items.map face = items'.map face ∧ x = y :=
            joined_unique (by decide) (by decide)
              (fun item member => (member.elim (each item) (each' item)).starts (by decide))
              (fun a member b member' _ _ => ih a member (each' b member'))
              (List.cons.inj same).2
          exact ⟨by simp only [face, facesOfItems_eq_map, faces], rest⟩
      | _ => cases kinds
  | @hash entries keys values ihKeys ihValues =>
      have kinds := opening_eq (.hash keys values) legible' same
      cases legible' with
      | @hash entries' keys' values' =>
          rw [toList_hash, toList_hash] at same
          obtain ⟨faces, rest⟩ : entries.map entryFace = entries'.map entryFace ∧ x = y := by
            refine joined_unique (by decide) (by decide) ?starts ?alone (List.cons.inj same).2
            case starts =>
              intro entry member
              exact starts_renderEntry (member.elim (keys entry) (keys' entry)) (by decide)
            case alone =>
              intro a member b member' x y after after' same
              rw [toList_renderEntry, toList_renderEntry] at same
              obtain ⟨key, others⟩ := ihKeys a member (keys' b member') (.key _) (.key _) same
              obtain ⟨value, rest⟩ :=
                ihValues a member (values' b member') after after' (by simpa using others)
              exact ⟨Prod.ext key value, rest⟩
          exact ⟨by simp only [face, facesOfEntries_eq_map, faces], rest⟩
      | _ => cases kinds
  | object named notProc =>
      have kinds := opening_eq (.object named notProc) legible' same
      rw [toList_object] at same
      cases legible' with
      | object named' notProc' =>
          rw [toList_object] at same
          obtain ⟨names, rest⟩ := angled_unique named.unbroken named'.unbroken same
          exact ⟨by rw [face, face, names], rest⟩
      | proc block =>
          rw [toList_proc] at same
          exact absurd (angled_unique named.unbroken unbroken_proc same).1 notProc
      | _ => cases kinds
  | proc block =>
      have kinds := opening_eq (.proc block) legible' same
      rw [toList_proc] at same
      cases legible' with
      | object named' notProc' =>
          rw [toList_object] at same
          exact absurd (angled_unique unbroken_proc named'.unbroken same).1.symm notProc'
      | proc other =>
          rw [toList_proc] at same
          exact ⟨rfl, (angled_unique unbroken_proc unbroken_proc same).2⟩
      | _ => cases kinds

/-- **Legible values read alike exactly if they are of one face.** -/
theorem Legible.render_eq_iff {v w : Value} (legible : v.Legible) (legible' : w.Legible) :
    v.render = w.render ↔ v.face = w.face := by
  constructor
  · intro same
    exact (legible.unique legible' .last .last (congrArg (fun text => text.toList ++ []) same)).1
  · intro faces
    rw [← render_face v, ← render_face w, faces]

/-! ## Values that say all -/

/-- A value that is all on its face: no objects, types or blocks in it, names that keep clear of
the characters that end an item, and no hash with two entries, whose order would be told. -/
inductive Telling : Value → Prop where
  | nil : Telling .nil
  | bool (b : Bool) : Telling (.bool b)
  | int (n : Int64) : Telling (.int n)
  | symbol {name : String} (unbroken : Unbroken name.toList) : Telling (.symbol name)
  | string (text : String) : Telling (.string text)
  | array {items : List Value} (each : ∀ item ∈ items, Telling item) : Telling (.array items)
  | empty : Telling (.hash [])
  | single {key value : Value} (its : Telling key) (held : Telling value) :
      Telling (.hash [(key, value)])

theorem Telling.legible {value : Value} (telling : value.Telling) : value.Legible := by
  induction telling with
  | nil => exact .nil
  | bool b => exact .bool b
  | int n => exact .int n
  | symbol unbroken => exact .symbol unbroken
  | string text => exact .string text
  | array each ih => exact .array ih
  | empty => exact .hash (by simp) (by simp)
  | single its held ih ih' => exact .hash (by simpa using ih) (by simpa using ih')

theorem Telling.face_eq {value : Value} (telling : value.Telling) : value.face = value := by
  induction telling with
  | array each ih =>
      rw [face, facesOfItems_eq_map, List.map_congr_left ih, List.map_id']
  | single its held ih ih' => simp only [face, facesOfEntries, ih, ih']
  | nil | bool | int | symbol | string | empty => simp only [face, facesOfEntries]

theorem entriesWithin_single {key value key' value' : Value} :
    entriesWithin [(key, value)] [(key', value')] = true ↔
      key.eqv key' = true ∧ value.eqv value' = true := by
  rw [entriesWithin_iff]
  by_cases equal : key.eqv key' = true <;> simp [equal, findEntry?]

theorem forall₂_iff_eq {R : Value → Value → Prop} {xs ys : List Value}
    (each : ∀ x ∈ xs, ∀ y ∈ ys, R x y ↔ x = y) : List.Forall₂ R xs ys ↔ xs = ys := by
  induction xs generalizing ys with
  | nil => simp [eq_comm]
  | cons x xs ih =>
      cases ys with
      | nil => simp
      | cons y ys =>
          rw [List.forall₂_cons, List.cons.injEq, each x List.mem_cons_self y List.mem_cons_self,
            ih fun x member y member' =>
              each x (List.mem_cons_of_mem _ member) y (List.mem_cons_of_mem _ member')]

/-- **Telling values are equal only if they are one and the same.** -/
theorem Telling.eqv_iff {v w : Value} (telling : v.Telling) (telling' : w.Telling) :
    v.eqv w = true ↔ v = w := by
  induction telling generalizing w with
  | array each ih =>
      cases telling' with
      | array each' =>
          simp only [eqv, itemsEqv_iff, Value.array.injEq]
          exact forall₂_iff_eq fun a member b member' => ih a member (each' b member')
      | _ => simp [eqv]
  | empty => cases telling' <;> simp [eqv, entriesWithin]
  | single its held ih ih' =>
      cases telling' with
      | single its' held' => simp [eqv, entriesWithin_single, ih its', ih' held']
      | _ => simp [eqv]
  | nil => cases telling' <;> simp [eqv]
  | bool b => cases telling' <;> simp [eqv]
  | int n => cases telling' <;> simp [eqv]
  | symbol unbroken => cases telling' <;> simp [eqv]
  | string text => cases telling' <;> simp [eqv]

theorem Telling.render_eq_iff {v w : Value} (telling : v.Telling) (telling' : w.Telling) :
    v.render = w.render ↔ v.eqv w = true := by
  rw [telling.legible.render_eq_iff telling'.legible, telling.face_eq, telling'.face_eq,
    telling.eqv_iff telling']

end Value

end InlineCache
