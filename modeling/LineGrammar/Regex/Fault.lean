/-!
Why a text is no regular expression.
-/

namespace LineGrammar.Regex

/-- What is wrong with a pattern. -/
inductive Fault where
  | groupUnopened
  | groupUnclosed
  | groupNameEmpty
  | groupName
  | groupNameTwice
  | lookAround
  | flagUnknown
  | flagTwice
  | flagsOffTwice
  | flagDangling
  | nothingToRepeat
  | countUnclosed
  | countMissing
  | countTooLarge
  | countOrder
  | bracketUnclosed
  | bracketMember
  | rangeEnd
  | rangeOrder
  | escapeUnfinished
  | escapeUnknown
  | backreference
  | hexDigit
  | hexEmpty
  | codePoint
  | propertyForm
  | propertyUnknown
  | boundaryUnfinished
  | boundaryUnclosed
  | boundaryUnknown
  /-- It names characters beyond ASCII where the Unicode flag is off. -/
  | notAscii
  /-- It could match a part of a character. -/
  | notWholeCharacters
  /-- Its text nests too deep. -/
  | tooDeep
  /-- Its automaton takes too much room. -/
  | tooLarge
  deriving DecidableEq, Repr

end LineGrammar.Regex
