import LineGrammar.Pattern
import LineGrammar.Text.Decimal

/-!
Why a pipeline could not be built, which never depends on an input.
-/

namespace LineGrammar

/-- The wording of what is wrong with a pattern. It neither quotes the pattern nor tells the place
in it. -/
def Regex.Fault.message : Regex.Fault → Text
  | groupUnopened => "unopened group".toList
  | groupUnclosed => "unclosed group".toList
  | groupNameEmpty => "empty capture group name".toList
  | groupName => "invalid capture group character".toList
  | groupNameTwice => "duplicate capture group name".toList
  | lookAround => "look-around, including look-ahead and look-behind, is not supported".toList
  | flagUnknown => "unrecognized flag".toList
  | flagTwice => "duplicate flag".toList
  | flagsOffTwice => "flag negation operator repeated".toList
  | flagDangling => "dangling flag negation operator".toList
  | nothingToRepeat => "repetition operator missing expression".toList
  | countUnclosed => "unclosed counted repetition".toList
  | countMissing => "repetition quantifier expects a valid decimal".toList
  | countTooLarge => "decimal literal invalid".toList
  | countOrder => "invalid repetition count range, the start must be <= the end".toList
  | bracketUnclosed => "unclosed character class".toList
  | bracketMember => "invalid escape sequence found in character class".toList
  | rangeEnd => "invalid range boundary, must be a literal".toList
  | rangeOrder => "invalid character class range, the start must be <= the end".toList
  | escapeUnfinished => "incomplete escape sequence, reached end of pattern prematurely".toList
  | escapeUnknown => "unrecognized escape sequence".toList
  | backreference => "backreferences are not supported".toList
  | hexDigit => "invalid hexadecimal digit".toList
  | hexEmpty => "hexadecimal literal empty".toList
  | codePoint => "hexadecimal literal is not a Unicode scalar value".toList
  | propertyForm => "invalid Unicode character class".toList
  | propertyUnknown => "Unicode property not found".toList
  | boundaryUnfinished =>
    "found either the beginning of a special word boundary or a bounded repetition on a ".toList ++
      "\\b with an opening brace, but no closing brace".toList
  | boundaryUnclosed =>
    "special word boundary assertion is either unclosed or contains an invalid character".toList
  | boundaryUnknown =>
    "unrecognized special word boundary assertion, valid choices are: start, end, ".toList ++
      "start-half or end-half".toList
  | notAscii => "Unicode not allowed here".toList
  | notWholeCharacters => "pattern can match invalid UTF-8".toList
  | tooDeep =>
    "exceed the maximum number of nested parentheses/brackets (".toList ++ Text.ofNat deepest ++
      ")".toList
  | tooLarge =>
    "Compiled regex exceeds size limit of ".toList ++ Text.ofNat Footprint.limit ++ " bytes.".toList

/-- Why a pipeline could not be built. -/
inductive CompositionError where
  /-- A sequence of fewer than two parsers was asked for. -/
  | tooFewParsers (count : Nat)
  /-- A pattern is no regular expression. -/
  | invalidPattern (name : Text) (fault : Regex.Fault)
  deriving DecidableEq, Repr

namespace CompositionError

/-- The wording of an error. -/
def message : CompositionError → Text
  | tooFewParsers count =>
    "Can't sequence ".toList ++ Text.ofNat count ++
      " parser(s): at least two are required, use a single parser directly".toList
  | invalidPattern name fault =>
    "Invalid pattern for ".toList ++ name ++ ": ".toList ++ fault.message

end CompositionError

/-- Builds a pattern, or says which one is no regular expression. -/
def Pattern.build (name expression : Text) : Except CompositionError Pattern :=
  match Pattern.compile name expression with
  | .ok p => .ok p
  | .error fault => .error (.invalidPattern name fault)

end LineGrammar
