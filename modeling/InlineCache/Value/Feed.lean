/-
# InlineCache.Value.Feed -- what a value tells a hash function

A hash function reads a value as a sequence of items: first the kind of value,
then what is particular to it.  A hash tells only how many entries it has, since
its equality ignores their order; a block tells nothing more than its kind.
-/
import InlineCache.Value.Basic

namespace InlineCache

set_option autoImplicit false

/-- One item read by a hash function. -/
inductive FeedItem where
  | kind (index : Nat)
  | number (n : Int64)
  | text (text : String)
  | length (n : Nat)
  | identity (id : Nat)
deriving DecidableEq, Repr

mutual

/-- The items a hash function reads from a value. -/
def Value.feed : Value → List FeedItem
  | .nil => [.kind 0]
  | .bool true => [.kind 1]
  | .bool false => [.kind 2]
  | .int n => [.kind 3, .number n]
  | .symbol name => [.kind 4, .text name]
  | .string text => [.kind 5, .text text]
  | .array items => .kind 6 :: .length items.length :: feedItems items
  | .hash entries => [.kind 7, .length entries.length]
  | .object target => [.kind 8, .identity target.id]
  | .type target => [.kind 9, .identity target.id]
  | .proc _ => [.kind 10]

def feedItems : List Value → List FeedItem
  | [] => []
  | value :: rest => value.feed ++ feedItems rest

end

end InlineCache
