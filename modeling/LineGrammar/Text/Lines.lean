import LineGrammar.Text.Blank

/-!
The lines of a text. A line ends at a line feed; one carriage return before the feed belongs to
the ending; what follows the last feed is a line unless it is empty. A carriage return without a
feed ends nothing. Lines are numbered from 1.
-/

namespace LineGrammar.Text

/-- The text cut after every line feed. No piece is empty and nothing is lost. -/
def segments : Text → List Text
  | [] => []
  | c :: rest =>
    if c = '\n' then [c] :: segments rest
    else match segments rest with
      | [] => [[c]]
      | piece :: pieces => (c :: piece) :: pieces

@[simp] theorem flatten_segments (t : Text) : t.segments.flatten = t := by
  induction t with
  | nil => rfl
  | cons c rest ih =>
    simp only [segments]
    split
    · simp [ih]
    · split
      · next h => simp [h] at ih; simp [ih]
      · next h => simp [h] at ih; simp [ih]

/-- What stands after a line feed is cut on its own. -/
theorem segments_append_feed (x y : Text) :
    segments (x ++ '\n' :: y) = segments (x ++ ['\n']) ++ segments y := by
  induction x with
  | nil => simp [segments]
  | cons c rest ih =>
    by_cases h : c = '\n'
    · simp [segments, h, ih]
    · simp only [List.cons_append, segments, h, if_false, ih]
      cases hs : segments (rest ++ ['\n']) with
      | nil => simpa [hs] using flatten_segments (rest ++ ['\n'])
      | cons piece pieces => rfl

/-- A piece without its line feed and the carriage return before it. A piece without a feed
keeps everything. -/
def withoutEnding (piece : Text) : Text :=
  match piece.reverse with
  | '\n' :: '\r' :: rest => rest.reverse
  | '\n' :: rest => rest.reverse
  | _ => piece

/-- The lines of the text, without their endings. -/
def lines (t : Text) : List Text := t.segments.map withoutEnding

/-- The lines with their numbers, counted from `first`. -/
def numberedFrom (first : Nat) : List Text → List (Nat × Text)
  | [] => []
  | line :: rest => (first, line) :: numberedFrom (first + 1) rest

/-- The number of the first line with something other than blanks on it, or 1 if there is
none. -/
def firstContentLine (block : Text) : Nat :=
  match block.lines.findIdx? (fun line => !isBlank line) with
  | some index => index + 1
  | none => 1

/-- The text before the first occurrence of `mark` and the text after it. -/
def cutAt (t mark : Text) : Option (Text × Text) :=
  match t with
  | [] => if mark.isEmpty then some ([], []) else none
  | c :: rest =>
    if mark.isPrefixOf (c :: rest) then some ([], (c :: rest).drop mark.length)
    else match cutAt rest mark with
      | some (before, after) => some (c :: before, after)
      | none => none

end LineGrammar.Text
