import LineGrammar.CharSet
import LineGrammar.Text.Hexadecimal

/-!
Tables of the character database. A table is a list of lines; a line has entries with one space
between them, and an entry is a code point in hexadecimal, the first and the last code point of a
range with two dots between them, or such a range with `/2` after it, which has every second code
point only. Entries ascend and do not touch each other.
-/

namespace LineGrammar

/-- Editions of the character database. -/
inductive Edition where
  | sixteenth
  | seventeenth
  deriving DecidableEq, Repr

/-- The members of a set in an edition, from those in the sixteenth and those that the
seventeenth adds or takes away. -/
def Edition.revise (members changes : CharSet) : Edition → CharSet
  | sixteenth => members
  | seventeenth => members.symmDiff changes

namespace CharSet

/-- The first and the last code point of an entry. -/
def entryBounds (entry : Text) : Nat × Nat :=
  match entry.splitOn '.' with
  | [first, _, last] => ((Text.hexValue? first).getD 0, (Text.hexValue? last).getD 0)
  | _ => ((Text.hexValue? entry).getD 0, (Text.hexValue? entry).getD 0)

/-- The flips of an entry. -/
def entryFlips (entry : Text) : List Nat :=
  match entry.splitOn '/' with
  | [range, _] =>
    let (first, last) := entryBounds range
    (List.range ((last - first) / 2 + 1)).flatMap fun i =>
      [first + 2 * i, first + 2 * i + 1]
  | _ =>
    let (first, last) := entryBounds entry
    first :: closing last

/-- The set that a table describes. -/
def ofTable (lines : List String) : CharSet :=
  let flips := lines.flatMap fun line => (line.toList.splitOn ' ').flatMap entryFlips
  if h : ascendingFrom 0 flips = true then ⟨flips, h⟩ else empty

end CharSet

end LineGrammar
