import LineGrammar.CharSet
import LineGrammar.Text.Bytes

/-!
Regular expressions. Branches and repetitions are in order of preference: the first alternative
before the second, one more round before leaving for a greedy repetition, leaving first for a lazy
one. Sequences and alternations nest to the right; `parts` and `branches` list what they are made
of.
-/

namespace LineGrammar

/-- A condition on the characters around a place. -/
inductive Look where
  | textStart
  | textEnd
  /-- After a line feed, or at the start. -/
  | lineStart
  /-- Before a line feed, or at the end. -/
  | lineEnd
  /-- As `lineStart`, where a carriage return ends a line too. -/
  | anyLineStart
  /-- As `lineEnd`, where a carriage return ends a line too. -/
  | anyLineEnd
  | boundary (word : CharSet)
  | notBoundary (word : CharSet)
  | wordStart (word : CharSet)
  | wordEnd (word : CharSet)
  /-- No word character before. -/
  | wordStartHalf (word : CharSet)
  /-- No word character after. -/
  | wordEndHalf (word : CharSet)
  deriving DecidableEq

/-- Whether the condition holds between the given neighbours; none is the edge of the text. -/
def Look.holds (before after : Option Char) : Look → Bool
  | textStart => before.isNone
  | textEnd => after.isNone
  | lineStart => before.all (· == '\n')
  | lineEnd => after.all (· == '\n')
  | anyLineStart => before.all (· == '\n') || (before == some '\r' && after != some '\n')
  | anyLineEnd => after.all (· == '\r') || (after == some '\n' && before != some '\r')
  | boundary word => before.any word.contains != after.any word.contains
  | notBoundary word => before.any word.contains == after.any word.contains
  | wordStart word => !before.any word.contains && after.any word.contains
  | wordEnd word => before.any word.contains && !after.any word.contains
  | wordStartHalf word => !before.any word.contains
  | wordEndHalf word => !after.any word.contains

/-- A regular expression. -/
inductive Regex where
  | empty
  /-- The characters of a text, one after another. -/
  | literal (t : Text)
  /-- One character of a set. -/
  | set (s : CharSet)
  | look (l : Look)
  /-- A group that is counted. -/
  | capture (index : Nat) (a : Regex)
  | seq (a b : Regex)
  | alt (a b : Regex)
  /-- At least `least` rounds, and at most `most` where there is a bound. -/
  | rounds (least : Nat) (most : Option Nat) (greedy : Bool) (a : Regex)
  deriving DecidableEq

namespace Regex

/-- What a sequence is made of. -/
def parts : Regex → List Regex
  | empty => []
  | seq a b => a :: b.parts
  | r => [r]

/-- What an alternation chooses from. -/
def branches : Regex → List Regex
  | alt a b => a :: b.branches
  | r => [r]

/-- Whether the expression is a sequence of at least two parts. -/
def isSeq : Regex → Bool
  | seq _ _ => true
  | _ => false

/-- The text of a literal. -/
def literal? : Regex → Option Text
  | literal t => some t
  | _ => none

/-- The set of an expression that is nothing but a set. -/
def set? : Regex → Option CharSet
  | set s => some s
  | _ => none

/-- The only character of a literal of length one. -/
def char? : Regex → Option Char
  | literal [c] => some c
  | _ => none

/-- The fewest bytes that a match takes in UTF-8; none if nothing can match. -/
def leastBytes : Regex → Option Nat
  | empty | look _ => some 0
  | literal t => some (Text.byteSize t)
  | set s => s.flips.head?.map fun first => (Char.ofNat first).utf8Size
  | capture _ a => a.leastBytes
  | seq a b => do return (← a.leastBytes) + (← b.leastBytes)
  | alt a b => do return min (← a.leastBytes) (← b.leastBytes)
  | rounds least _ _ a => a.leastBytes.map (least * ·)

/-- Whether every match is empty, as far as the form of the expression shows. -/
def onlyEmpty : Regex → Bool
  | empty | look _ => true
  | literal t => t.isEmpty
  | set _ => false
  | capture _ a => a.onlyEmpty
  | seq a b | alt a b => a.onlyEmpty && b.onlyEmpty
  | rounds _ most _ a => most.isSome && a.onlyEmpty

/-- Whether every match begins at the start of the text. -/
def startsText : Regex → Bool
  | look .textStart => true
  | capture _ a => a.startsText
  | seq a b => a.startsText || (a.onlyEmpty && b.startsText)
  | alt a b => a.startsText && b.startsText
  | rounds least _ _ a => 0 < least && a.startsText
  | _ => false

/-- Whether every match ends at the end of the text. -/
def endsText : Regex → Bool
  | look .textEnd => true
  | capture _ a => a.endsText
  | seq a b => b.endsText || (b.onlyEmpty && a.endsText)
  | alt a b => a.endsText && b.endsText
  | rounds least _ _ a => 0 < least && a.endsText
  | _ => false

end Regex

end LineGrammar
