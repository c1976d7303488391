/-
# InlineCache.Proofs.Wording -- which faults are told apart by what they say

Faults compare by kind and wording.  That is exact as far as a wording shows every field of
its fault and shows it in one way only, and it is not always so: a name and a receiver stand
in a wording with a text between them, which a name can have in it itself; and the wording
of a value that was raised is its text.

* `Fault.same_iff_reads`: two faults are the same exactly if they are of one kind and agree
  in their fields, or the text between name and receiver stands twice in their wording, and
  the one name ends where the first of them begins, the other where the second does;
* `Fault.told_by_wording`: so equality is exact for all faults but those that mislead
  (`Fault.Misleads`), and those with names that do not have that text in them, and raised
  values that say all (`Value.Telling`), do not;
* `Fault.wording_misleads`: faults that do.
-/
import InlineCache.Fault
import InlineCache.Proofs.Legible

namespace InlineCache

set_option autoImplicit false

/-! ## A text cut in two -/

/-- Where a separator begins with a character that it has only there, a text that has it at two
places has the second after the first. -/
theorem cut_eq_cut_iff {c : Char} {tail a b x y : List Char} (once : c ∉ tail) :
    a ++ (c :: tail) ++ x = b ++ (c :: tail) ++ y ↔
      (a = b ∧ x = y) ∨
        (∃ middle, b = a ++ (c :: tail) ++ middle ∧ x = middle ++ (c :: tail) ++ y) ∨
        (∃ middle, a = b ++ (c :: tail) ++ middle ∧ y = middle ++ (c :: tail) ++ x) := by
  -- what is between the two places is nothing, or begins with all of the separator
  have between : ∀ {gap x y : List Char}, (c :: tail) ++ x = gap ++ ((c :: tail) ++ y) →
      (gap = [] ∧ x = y) ∨ ∃ middle, gap = (c :: tail) ++ middle ∧
        x = middle ++ ((c :: tail) ++ y) := by
    intro gap x y same
    rcases List.append_eq_append_iff.1 same with ⟨middle, gap_, rest⟩ | ⟨cut, whole, rest⟩
    · exact .inr ⟨middle, gap_, rest⟩
    · cases gap with
      | nil =>
          obtain rfl : c :: tail = cut := by simpa using whole
          exact .inl ⟨rfl, (List.append_cancel_left rest).symm⟩
      | cons d gap =>
          obtain ⟨rfl, tail_⟩ := List.cons.inj whole
          cases cut with
          | nil => exact .inr ⟨[], by simpa using tail_.symm, by simpa using rest.symm⟩
          | cons e cut =>
              obtain ⟨rfl, -⟩ := List.cons.inj rest
              exact absurd (tail_ ▸ by simp) once
  constructor
  · intro same
    rw [List.append_assoc, List.append_assoc] at same
    rcases List.append_eq_append_iff.1 same with ⟨gap, other, rest⟩ | ⟨gap, other, rest⟩
    · rcases between rest with ⟨rfl, last⟩ | ⟨middle, rfl, last⟩
      · exact .inl ⟨by simpa using other.symm, last⟩
      · exact .inr (.inl ⟨middle, by simpa using other, by simpa using last⟩)
    · rcases between rest with ⟨rfl, last⟩ | ⟨middle, rfl, last⟩
      · exact .inl ⟨by simpa using other, last.symm⟩
      · exact .inr (.inr ⟨middle, by simpa using other, by simpa using last⟩)
  · rintro (⟨rfl, rfl⟩ | ⟨middle, rfl, rfl⟩ | ⟨middle, rfl, rfl⟩) <;> simp

/-- The same name and receiver with the text between them at a later place: what stood in the
receiver before it is now in the name. -/
def Shifted (between name receiver name' receiver' : String) : Prop :=
  ∃ middle, name' = name ++ between ++ middle ∧ receiver = middle ++ between ++ receiver'

/-- The one name and receiver are the other's, cut at another place. -/
def CutElsewhere (between name receiver name' receiver' : String) : Prop :=
  Shifted between name receiver name' receiver' ∨ Shifted between name' receiver' name receiver

/-- Two names and receivers that are written alike. -/
def ReadsAs (between name receiver name' receiver' : String) : Prop :=
  (name = name' ∧ receiver = receiver') ∨ CutElsewhere between name receiver name' receiver'

/-- A name that does not have this text in it. -/
def ClearOf (between name : String) : Prop := ∀ before after, name ≠ before ++ between ++ after

theorem cut_eq_iff_readsAs {between : String} {c : Char} {tail : List Char}
    (its : between.toList = c :: tail) (once : c ∉ tail) (name receiver name' receiver' : String) :
    name ++ between ++ receiver = name' ++ between ++ receiver' ↔
      ReadsAs between name receiver name' receiver' := by
  have middles : ∀ {a b x y : String},
      (∃ middle, b.toList = a.toList ++ between.toList ++ middle ∧
        x.toList = middle ++ between.toList ++ y.toList) ↔ Shifted between a x b y := by
    intro a b x y
    constructor
    · rintro ⟨middle, name, receiver⟩
      refine ⟨String.ofList middle, ?_, ?_⟩ <;>
        simpa only [← String.toList_inj, String.toList_append, String.toList_ofList]
    · rintro ⟨middle, rfl, rfl⟩
      exact ⟨middle.toList, by simp, by simp⟩
  rw [← String.toList_inj]
  simp only [String.toList_append]
  rw [its, cut_eq_cut_iff once, ← its, middles, middles, String.toList_inj, String.toList_inj,
    ReadsAs, CutElsewhere]

/-- A name that is cut at another place is another name. -/
theorem Shifted.name_ne {between name receiver name' receiver' : String} (some_ : between ≠ "")
    (shifted : Shifted between name receiver name' receiver') : name ≠ name' := by
  obtain ⟨middle, rfl, -⟩ := shifted
  intro same
  have lengths := congrArg String.length same
  simp only [String.length_append] at lengths
  exact some_ (String.length_eq_zero_iff.1 (by omega))

/-- What is written alike is the same, but for what is cut at another place. -/
theorem readsAs_iff_same_iff {between name receiver name' receiver' : String}
    (some_ : between ≠ "") :
    (ReadsAs between name receiver name' receiver' ↔ name = name' ∧ receiver = receiver') ↔
      ¬ CutElsewhere between name receiver name' receiver' := by
  constructor
  · rintro exact_ (shifted | shifted)
    · exact shifted.name_ne some_ (exact_.1 (.inr (.inl shifted))).1
    · exact shifted.name_ne some_ (exact_.1 (.inr (.inr shifted))).1.symm
  · intro neither
    exact ⟨fun reads => reads.resolve_right neither, .inl⟩

theorem ClearOf.not_shifted {between name receiver name' receiver' : String}
    (clear : ClearOf between name) (clear' : ClearOf between name') :
    ¬ CutElsewhere between name receiver name' receiver' := by
  rintro (⟨middle, its, -⟩ | ⟨middle, its, -⟩)
  · exact clear' _ _ its
  · exact clear _ _ its

namespace Fault

/-! ## What is shown of the fields -/

/-- Two faults of one kind with equal fields; values that were raised agree when they are
equal. -/
def Agrees : Fault → Fault → Prop
  | argumentCount given expected, argumentCount given' expected' =>
      given = given' ∧ expected = expected'
  | undefinedMethod name receiver, undefinedMethod name' receiver' =>
      name = name' ∧ receiver = receiver'
  | privateMethod name receiver, privateMethod name' receiver' =>
      name = name' ∧ receiver = receiver'
  | undefinedName name receiver, undefinedName name' receiver' =>
      name = name' ∧ receiver = receiver'
  | typeMismatch text, typeMismatch text' => text = text'
  | noBlock, noBlock => True
  | raised value, raised value' => value.eqv value' = true
  | _, _ => False

/-- Two faults of one kind whose fields are written alike. -/
def Reads : Fault → Fault → Prop
  | argumentCount given expected, argumentCount given' expected' =>
      given = given' ∧ expected = expected'
  | undefinedMethod name receiver, undefinedMethod name' receiver' =>
      ReadsAs "' for " name receiver name' receiver'
  | privateMethod name receiver, privateMethod name' receiver' =>
      ReadsAs "' called for " name receiver name' receiver'
  | undefinedName name receiver, undefinedName name' receiver' =>
      ReadsAs "' for " name receiver name' receiver'
  | typeMismatch text, typeMismatch text' => text = text'
  | noBlock, noBlock => True
  | raised value, raised value' => value.render = value'.render
  | _, _ => False

/-- Two faults that wording does not compare as they are: a name and a receiver that are cut at
another place, or values that read alike and are not equal, or the other way round. -/
def Misleads : Fault → Fault → Prop
  | undefinedMethod name receiver, undefinedMethod name' receiver' =>
      CutElsewhere "' for " name receiver name' receiver'
  | privateMethod name receiver, privateMethod name' receiver' =>
      CutElsewhere "' called for " name receiver name' receiver'
  | undefinedName name receiver, undefinedName name' receiver' =>
      CutElsewhere "' for " name receiver name' receiver'
  | raised value, raised value' =>
      ¬ (value.render = value'.render ↔ value.eqv value' = true)
  | _, _ => False

/-- A fault whose wording is all there is to know of it. -/
def Telling : Fault → Prop
  | undefinedMethod name _ | undefinedName name _ => ClearOf "' for " name
  | privateMethod name _ => ClearOf "' called for " name
  | raised value => value.Telling
  | argumentCount .. | typeMismatch .. | noBlock => True

/-- The number of arguments ends at the comma. -/
theorem argumentCount_message_eq_iff {given given' : Nat} {expected expected' : String} :
    (argumentCount given expected).message = (argumentCount given' expected').message ↔
      given = given' ∧ expected = expected' := by
  have wording : ∀ (n : Nat) (text : String), (argumentCount n text).message =
      "wrong number of arguments (given " ++ toString n ++ ", expected " ++ text ++ ")" :=
    fun _ _ => rfl
  have digits : ∀ n : Nat, ',' ∉ (toString n).toList := fun n => by
    rw [show toString n = n.repr from rfl, Nat.toList_repr]
    exact (Value.unbroken_toDigits n).notMem (by decide)
  have comma : ", expected ".toList = ',' :: " expected ".toList := by simp
  refine ⟨fun same => ?_, fun same => by rw [same.1, same.2]⟩
  simp only [wording, String.append_assoc, String.append_right_inj] at same
  rw [← String.toList_inj] at same
  simp only [String.toList_append, comma, List.cons_append] at same
  obtain ⟨numbers, -, rest⟩ := split_unique (digits given) (digits given') same
  have texts := List.append_cancel_right (List.append_cancel_left rest)
  exact ⟨Nat.repr_injective (String.toList_inj.1 numbers), String.toList_inj.1 texts⟩

/-- **Faults are the same exactly if they read alike.** -/
theorem same_iff_reads (a b : Fault) : a.same b = true ↔ a.Reads b := by
  have cut (front : String) {between : String} (tail : String)
      (its : between.toList = '\x27' :: tail.toList) (once : '\x27' ∉ tail.toList)
      (name receiver name' receiver' : String) :
      front ++ name ++ between ++ receiver = front ++ name' ++ between ++ receiver' ↔
        ReadsAs between name receiver name' receiver' := by
    rw [← cut_eq_iff_readsAs its once]
    simp only [String.append_assoc, String.append_right_inj]
  cases a <;> cases b <;>
    simp only [same, kind, Bool.and_eq_true, beq_iff_eq, reduceCtorEq, false_and, true_and, Reads,
      argumentCount_message_eq_iff]
  case undefinedMethod.undefinedMethod =>
    exact cut "undefined method \x60" " for " (by simp) (by simp) _ _ _ _
  case privateMethod.privateMethod =>
    exact cut "private method \x60" " called for " (by simp) (by simp) _ _ _ _
  case undefinedName.undefinedName =>
    exact cut "undefined local variable or method \x60" " for " (by simp) (by simp) _ _ _ _
  case typeMismatch.typeMismatch => rfl
  case raised.raised => rfl

/-- Equality is exact but for faults that mislead. -/
theorem exact_iff_not_misleads (a b : Fault) :
    (a.same b = true ↔ a.Agrees b) ↔ ¬ a.Misleads b := by
  rw [same_iff_reads]
  cases a <;> cases b <;> simp only [Reads, Agrees, Misleads, iff_self, not_false_eq_true]
  case undefinedMethod.undefinedMethod => exact readsAs_iff_same_iff (by decide)
  case privateMethod.privateMethod => exact readsAs_iff_same_iff (by decide)
  case undefinedName.undefinedName => exact readsAs_iff_same_iff (by decide)
  case raised.raised => exact not_not.symm

theorem Telling.not_misleads {a b : Fault} (telling : a.Telling) (telling' : b.Telling) :
    ¬ a.Misleads b := by
  cases a <;> cases b <;> simp only [Misleads, not_false_eq_true]
  case undefinedMethod.undefinedMethod => exact ClearOf.not_shifted telling telling'
  case privateMethod.privateMethod => exact ClearOf.not_shifted telling telling'
  case undefinedName.undefinedName => exact ClearOf.not_shifted telling telling'
  case raised.raised =>
    exact not_not.2 (Value.Telling.render_eq_iff telling telling')

/-- **Faults are told apart by their wording.**  Equality of two faults is exact, the same kind
and equal fields, exactly if they do not mislead: if the one's name and receiver are not the
other's cut at another place, and if values that were raised read alike exactly when they are
equal.  Values with legible names read alike exactly if they are of one face; and faults whose
wording is all there is to know of them do not mislead. -/
theorem told_by_wording (a b : Fault) :
    ((a.same b = true ↔ a.Agrees b) ↔ ¬ a.Misleads b) ∧
      (∀ v w : Value, a = raised v → b = raised w → v.Legible → w.Legible →
        (a.same b = true ↔ v.face = w.face)) ∧
      (a.Telling → b.Telling → (a.same b = true ↔ a.Agrees b)) := by
  refine ⟨exact_iff_not_misleads a b, ?_, fun telling telling' =>
    (exact_iff_not_misleads a b).2 (telling.not_misleads telling')⟩
  rintro v w rfl rfl legible legible'
  rw [same_iff_reads, Reads, legible.render_eq_iff legible']

theorem told_by_wording_of_names_and_objects :
    (undefinedMethod "a" "b' for c").same (undefinedMethod "b" "c") = false ∧
      (raised (.object ⟨0, ⟨12, "C"⟩⟩)).same (raised (.object ⟨1, ⟨12, "C"⟩⟩)) = true := by
  have clear : ∀ name : String, name.length = 1 → ClearOf "' for " name := by
    rintro name short before after rfl
    simp only [String.length_append] at short
    have long : "' for ".length = 6 := by decide
    omega
  have named : IsTypeName "C" := ⟨by simp [Unbroken, breaks], 'C', [], by simp, by decide⟩
  constructor
  · obtain ⟨-, -, telling⟩ := told_by_wording (undefinedMethod "a" "b' for c")
      (undefinedMethod "b" "c")
    rw [← Bool.not_eq_true, telling (clear "a" (by decide)) (clear "b" (by decide))]
    simp [Agrees]
  · obtain ⟨-, legible, -⟩ := told_by_wording (raised (.object ⟨0, ⟨12, "C"⟩⟩))
      (raised (.object ⟨1, ⟨12, "C"⟩⟩))
    rw [legible _ _ rfl rfl (.object named (by simp)) (.object named (by simp)), Value.face,
      Value.face]

/-- **Equality of faults is not exact.**  A name with `' for ` in it is taken for a shorter name
and a longer receiver; two objects of one type are raised as if they were one; and two hashes
that are equal are told apart by the order of their entries. -/
theorem wording_misleads :
    ((undefinedMethod "a' for b" "c").same (undefinedMethod "a" "b' for c") = true ∧
      ¬ (undefinedMethod "a' for b" "c").Agrees (undefinedMethod "a" "b' for c")) ∧
    ((raised (.object ⟨0, ⟨12, "C"⟩⟩)).same (raised (.object ⟨1, ⟨12, "C"⟩⟩)) = true ∧
      ¬ (raised (.object ⟨0, ⟨12, "C"⟩⟩)).Agrees (raised (.object ⟨1, ⟨12, "C"⟩⟩))) ∧
    ((raised (.hash [(.int 1, .nil), (.int 2, .nil)])).same
        (raised (.hash [(.int 2, .nil), (.int 1, .nil)])) = false ∧
      (raised (.hash [(.int 1, .nil), (.int 2, .nil)])).Agrees
        (raised (.hash [(.int 2, .nil), (.int 1, .nil)]))) := by
  refine ⟨⟨(same_iff_reads _ _).2 (.inr (.inr ⟨"b", by decide, by decide⟩)), by simp [Agrees]⟩,
    ⟨(same_iff_reads _ _).2 ?_, by simp [Agrees, Value.eqv]⟩, ?_, ?_⟩
  · simp [Reads, Value.render]
  · rw [← Bool.not_eq_true, same_iff_reads, Reads]
    decide
  · simp only [Agrees]
    decide

end Fault

end InlineCache
