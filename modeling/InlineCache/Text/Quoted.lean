/-
# InlineCache.Text.Quoted -- a text between quotes, with every character visible

`quote` writes a text so that each of its characters can be read off the page:
a quote and a backslash take a backslash, the common control characters have a
letter of their own, every other character a reader could not see standing alone
is written by its code point, and the rest stand for themselves.
-/
import InlineCache.Text.Unprintable

namespace InlineCache.Text

set_option autoImplicit false

/-- The letter that stands for a character after a backslash, if it has one.
The apostrophe has none: only the double quote ends a quoted text. -/
def escapeLetter? (c : Char) : Option Char :=
  match c with
  | '\x00' => some '0'
  | '\t' => some 't'
  | '\r' => some 'r'
  | '\n' => some 'n'
  | '"' => some '"'
  | '\\' => some '\\'
  | _ => none

def quoteChar (c : Char) : List Char :=
  match escapeLetter? c with
  | some letter => ['\\', letter]
  | none =>
      if isUnprintable c then
        ['\\', 'u', '\x7b'] ++ Nat.toDigits 16 c.toNat ++ ['\x7d']
      else [c]

def quote (text : String) : String :=
  String.ofList ('"' :: text.toList.flatMap quoteChar ++ ['"'])

theorem quoteChar_of_letter {c letter : Char} (has : escapeLetter? c = some letter) :
    quoteChar c = ['\\', letter] := by
  simp [quoteChar, has]

theorem quoteChar_of_plain {c : Char} (noLetter : escapeLetter? c = none)
    (printable : isUnprintable c = false) : quoteChar c = [c] := by
  simp [quoteChar, noLetter, printable]

/-! ## Texts that stand for themselves -/

/-- Nothing that can be typed is written by number. -/
theorem unprintableRanges_spare :
    ∀ range ∈ unprintableRanges.toList, range.2 < 0x20 ∨ 0x7E < range.1 := by
  decide +kernel

/-- A character that can be typed and needs no backslash. -/
def isTyped (c : Char) : Bool :=
  0x20 ≤ c.toNat && c.toNat ≤ 0x7E && c ≠ '"' && c ≠ '\\'

theorem quoteChar_of_typed {c : Char} (typed : isTyped c = true) : quoteChar c = [c] := by
  simp only [isTyped, Bool.and_eq_true, decide_eq_true_eq] at typed
  obtain ⟨⟨⟨low, high⟩, quote⟩, slash⟩ := typed
  refine quoteChar_of_plain ?_ ?_
  · unfold escapeLetter?
    split <;> first | rfl | contradiction
  · rw [isUnprintable, ← Array.any_toList, List.any_eq_false]
    intro range member
    have spare := unprintableRanges_spare range member
    simp only [Bool.and_eq_true, decide_eq_true_eq]
    omega

/-- **A text that can be typed stands for itself** between quotes. -/
theorem quote_of_typed {text : String} (typed : text.toList.all isTyped = true) :
    quote text = "\"" ++ text ++ "\"" := by
  have same : text.toList.flatMap quoteChar = text.toList := by
    generalize text.toList = cs at typed
    induction cs with
    | nil => rfl
    | cons c cs ih =>
        rw [List.all_cons, Bool.and_eq_true] at typed
        rw [List.flatMap_cons, quoteChar_of_typed typed.1, ih typed.2, List.singleton_append]
  rw [quote, same, ← String.toList_inj]
  simp

end InlineCache.Text
