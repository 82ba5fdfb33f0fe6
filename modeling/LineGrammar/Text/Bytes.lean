import LineGrammar.Text

/-!
Places of a text counted in bytes of UTF-8.
-/

namespace LineGrammar.Text

/-- The number of bytes that encode the text. -/
def byteSize (t : Text) : Nat := t.foldl (fun n c => n + c.utf8Size) 0

/-- The characters that begin before the given place. -/
def takeBytes : Nat → Text → Text
  | 0, _ | _, [] => []
  | n + 1, c :: rest => c :: takeBytes (n + 1 - c.utf8Size) rest

/-- The characters that begin at the given place or after it. -/
def dropBytes : Nat → Text → Text
  | _, [] => []
  | 0, t => t
  | n + 1, c :: rest => dropBytes (n + 1 - c.utf8Size) rest

end LineGrammar.Text
