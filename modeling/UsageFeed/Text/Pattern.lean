import UsageFeed.Text.Pattern.CharSet

/-!
# `UsageFeed.Text.Pattern` — patterns of texts

## Contents
- `Place`, what can be asked of a place between characters; `Pattern`.
- **Ways.** `Pattern.ways`, what a pattern may go on with, the preferred ways first.
- `Pattern.reachesEnd`, whether a pattern reaches the end of a text from the first place that it
  fits. One that prefers to end earlier does not.
-/

namespace UsageFeed.Text

namespace Pattern

/-! ## Places -/

/-- What can be asked of a place between characters. -/
inductive Place where
  | textStart
  | textEnd
  /-- After a line feed, or with `either` after a carriage return too. -/
  | lineStart (either : Bool)
  /-- Before a line feed, or with `either` before a carriage return too. -/
  | lineEnd (either : Bool)
  /-- Between a character of a word and another one. -/
  | wordEdge
  | noWordEdge
  | wordStart
  | wordEnd
  deriving DecidableEq, Repr

/-- A character of a word. -/
def isInWord (c : Option Char) : Bool := c.any fun c => CharSet.word.holds c.toNat

/-- Whether a place between two characters is as asked. A carriage return and the line feed after it
end one line. -/
def Place.isBetween (before after : Option Char) : Place → Bool
  | textStart => before.isNone
  | textEnd => after.isNone
  | lineStart either =>
    before.isNone || before == some '\n' ||
      (either && before == some '\r' && after != some '\n')
  | lineEnd either =>
    after.isNone || (after == some '\n' && !(either && before == some '\r')) ||
      (either && after == some '\r')
  | wordEdge => isInWord before != isInWord after
  | noWordEdge => isInWord before == isInWord after
  | wordStart => !isInWord before && isInWord after
  | wordEnd => isInWord before && !isInWord after

end Pattern

open Pattern (CharSet Place)

/-- A pattern of texts. Those that repeat another one as often as they can are `greedy`; all others
do so as seldom as they can. -/
inductive Pattern where
  | empty
  | char (s : CharSet)
  | place (p : Place)
  | seq (a b : Pattern)
  /-- The first of two, or else the second. -/
  | alt (a b : Pattern)
  | optional (greedy : Bool) (a : Pattern)
  /-- Any number of times. -/
  | star (greedy : Bool) (a : Pattern)
  /-- Once or more often. -/
  | plus (greedy : Bool) (a : Pattern)
  deriving DecidableEq, Repr

namespace Pattern

/-! ## Ways -/

/-- What a pattern may go on with: its end, or a character and then what is left of it. -/
inductive Way where
  | done
  | past (s : CharSet) (rest : Pattern)
  deriving DecidableEq, Repr

/-- One pattern after another. -/
def andThen : Pattern → Pattern → Pattern
  | empty, b => b
  | a, b => seq a b

/-- Ways that go on with `rest`. `atEnd` takes the place of the first end among them; any other end
is as good as that one. -/
def chain (rest : Pattern) (atEnd : List Way) : List Way → List Way
  | [] => []
  | .done :: l => atEnd ++ chain rest [] l
  | .past s r :: l => .past s (r.andThen rest) :: chain rest atEnd l

/-- What a pattern may go on with at a place between two characters, the preferred ways first. A
repeated pattern that goes on with nothing is at its end. -/
def ways (before after : Option Char) : Pattern → List Way
  | empty => [.done]
  | char s => [.past s empty]
  | place p => if p.isBetween before after then [.done] else []
  | seq a b => chain b (ways before after b) (ways before after a)
  | alt a b => ways before after a ++ ways before after b
  | optional greedy a =>
    if greedy then ways before after a ++ [.done] else .done :: ways before after a
  | star greedy a =>
    let once := chain (star greedy a) [.done] (ways before after a)
    if greedy then once ++ [.done] else .done :: once
  | plus greedy a => chain (star greedy a) [.done] (ways before after a)

/-! ## Texts -/

/-- What is left of a pattern after a character. -/
def Way.after? (c : Char) : Way → Option Pattern
  | done => none
  | past s rest => if s.holds c.toNat then some rest else none

/-- Whether what is left of a pattern reaches the end of characters that come after another one. Of
several things that are left the preferred one comes first, and what is preferred less than an end
is given up. -/
def reachAll (left : List Pattern) (before : Option Char) : List Char → Bool
  | [] => left.any fun p => (p.ways before none).contains .done
  | c :: s =>
    let ways := (left.flatMap fun p => p.ways before (some c)).takeWhile (· != .done)
    reachAll (ways.filterMap (Way.after? c)).eraseDups (some c) s

/-- A pattern at the first place of a text that it fits. -/
def somewhere (p : Pattern) : Pattern := seq (star false (char .all)) p

/-- Whether a pattern, at the first place of a text that it fits, reaches the end of the text. -/
def reachesEnd (p : Pattern) (s : String) : Bool := reachAll [p.somewhere] none s.toList

end Pattern
end UsageFeed.Text
