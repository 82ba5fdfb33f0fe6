import LineGrammar.CharSet

/-!
Sets of characters as sequences of byte ranges in UTF-8. `byteSequences` splits a set into the
fewest blocks of characters whose encodings are all the combinations of one range for each byte.
-/

namespace LineGrammar.CharSet

/-- A range for each byte, the first byte first. -/
abbrev ByteSequence := List (Nat × Nat)

/-- Splits the numbers from `first` to `last` into blocks, by a leading digit and the given number
of digits in base 64 after it. -/
def blocks : Nat → Nat → Nat → List ByteSequence
  | 0, first, last => [[(first, last)]]
  | digits + 1, first, last =>
    let unit := 1 <<< (6 * (digits + 1))
    let low := first / unit
    let high := last / unit
    let full := unit - 1
    if low = high then
      (blocks digits (first % unit) (last % unit)).map ((low, low) :: ·)
    else
      let startsInside := first % unit != 0
      let endsInside := last % unit != full
      let middle := (if startsInside then low + 1 else low, if endsInside then high - 1 else high)
      (if startsInside then (blocks digits (first % unit) full).map ((low, low) :: ·) else []) ++
      (if middle.1 ≤ middle.2 then [middle :: List.replicate (digits + 1) (0, 63)] else []) ++
      (if endsInside then (blocks digits 0 (last % unit)).map ((high, high) :: ·) else [])

/-- The code points whose encodings have the same length: the first and the last one, the number
of bytes after the leading one, and what is added to the leading byte. -/
def encodings : List (Nat × Nat × Nat × Nat) :=
  [(0, 0x7F, 0, 0), (0x80, 0x7FF, 1, 0xC0), (0x800, 0xD7FF, 2, 0xE0), (0xE000, 0xFFFF, 2, 0xE0),
   (0x10000, 0x10FFFF, 3, 0xF0)]

/-- Turns digits into bytes. -/
def toBytes (mark : Nat) : ByteSequence → ByteSequence
  | [] => []
  | (first, last) :: rest =>
    (mark + first, mark + last) :: rest.map fun r => (0x80 + r.1, 0x80 + r.2)

/-- The sequences of the code points of a range. -/
def rangeSequences (range : Nat × Nat) : List ByteSequence :=
  encodings.flatMap fun (first, last, digits, mark) =>
    let first := max first range.1
    let last := min last range.2
    if first ≤ last then (blocks digits first last).map (toBytes mark) else []

/-- The sequences of a set, in ascending order. -/
def byteSequences (s : CharSet) : List ByteSequence := s.ranges.flatMap rangeSequences

end LineGrammar.CharSet
