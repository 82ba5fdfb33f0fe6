import LineGrammar.Character.Property

/-!
The classes of characters that names and literals are made of, in the latest edition.
-/

namespace LineGrammar

/-- The alphabetic characters. -/
def alphabeticSet : CharSet := .alphabetic .seventeenth

/-- The characters of numbers. -/
def numericSet : CharSet := .numeric .seventeenth

/-- Whether a character is used like a letter. -/
def isAlphabetic (c : Char) : Bool := alphabeticSet.contains c

/-- Whether a character is used like a letter or belongs to a number. -/
def isAlphanumeric (c : Char) : Bool := alphabeticSet.contains c || numericSet.contains c

end LineGrammar
