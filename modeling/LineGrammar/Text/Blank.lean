import LineGrammar.Text

/-!
Blank characters and trimming. A character is blank when it has the White_Space property: six
ASCII controls and the space, next line, no-break space, and the spaces and separators of the
general punctuation block and its neighbours. `isBlank_of_isWhitespace` ties the table to the
ASCII class of the core library.
-/

namespace LineGrammar

/-- The characters with the White_Space property. -/
def isBlank (c : Char) : Bool :=
  let n := c.toNat
  (9 ≤ n && n ≤ 13) || n == 0x20 || n == 0x85 || n == 0xA0 || n == 0x1680 ||
    (0x2000 ≤ n && n ≤ 0x200A) || n == 0x2028 || n == 0x2029 || n == 0x202F ||
    n == 0x205F || n == 0x3000

theorem isBlank_of_isWhitespace {c : Char} (h : c.isWhitespace = true) : isBlank c = true := by
  simp only [Char.isWhitespace, Bool.or_eq_true, decide_eq_true_eq] at h
  rcases h with ((rfl | rfl) | rfl) | rfl <;> rfl

namespace Text

/-- Nothing but blanks, or nothing at all. -/
def isBlank (t : Text) : Bool := t.all LineGrammar.isBlank

/-- The text without the blanks it begins with. -/
def trimStart (t : Text) : Text := t.dropWhile LineGrammar.isBlank

/-- The text without the blanks it ends with. -/
def trimEnd (t : Text) : Text := (t.reverse.dropWhile LineGrammar.isBlank).reverse

/-- The text without the blanks around it. -/
def trim (t : Text) : Text := t.trimStart.trimEnd

end Text

end LineGrammar
