import LineGrammar.Text

/-!
Numerals of real numbers: digits with a point among them or not, with an exponent or not, and the
words for infinity and for what is no number; a sign may stand in front.
-/

namespace LineGrammar.Text

/-- At least one digit, and nothing else. -/
def isDigits (t : Text) : Bool := !t.isEmpty && t.all Char.isDigit

/-- Digits with at most one point, which may also stand in front of them or behind. -/
def isDecimal (t : Text) : Bool :=
  match t.dropWhile Char.isDigit with
  | '.' :: fraction => isDigits (t.takeWhile Char.isDigit ++ fraction)
  | rest => rest.isEmpty && !t.isEmpty

/-- The text without a sign in front. -/
def withoutSign : Text → Text
  | '+' :: rest | '-' :: rest => rest
  | t => t

/-- Whether the text is a numeral of a real number. -/
def isReal (t : Text) : Bool :=
  let t := (withoutSign t).map Char.toLower
  match t.dropWhile (· != 'e') with
  | _ :: exponent => isDecimal (t.takeWhile (· != 'e')) && isDigits (withoutSign exponent)
  | [] => isDecimal t || t == "inf".toList || t == "infinity".toList || t == "nan".toList

end LineGrammar.Text
