import LineGrammar.Character.Property
import LineGrammar.Regex.CaseFold
import LineGrammar.Regex.Fault
import LineGrammar.Regex.Syntax
import LineGrammar.Text.Blank

/-!
The flags in force at a place of a pattern, and what they decide: the sets that characters and
named classes stand for, the conditions that anchors stand for, and whether blanks and comments
between the parts are passed over.
-/

namespace LineGrammar.Regex

/-- The characters of words. -/
def wordSet : CharSet := .word .sixteenth

/-- The decimal digits of all scripts. -/
def digitSet : CharSet := Category.decimalNumber.members .sixteenth

/-- The blank characters. -/
def blankSet : CharSet := ListedProperty.whiteSpace.members

/-- The characters of words in ASCII. -/
def asciiWordSet : CharSet := .ofRanges [('0', '9'), ('A', 'Z'), ('_', '_'), ('a', 'z')]

/-- The decimal digits of ASCII. -/
def asciiDigitSet : CharSet := .range '0' '9'

/-- The blank characters of ASCII. -/
def asciiBlankSet : CharSet := .ofRanges [('\t', '\r'), (' ', ' ')]

/-- The flags in force. -/
structure Flags where
  ignoreCase : Bool := false
  multiLine : Bool := false
  /-- The dot matches line feeds too. -/
  dotAll : Bool := false
  /-- Repetitions are lazy unless a question mark follows. -/
  lazyFirst : Bool := false
  /-- A carriage return ends a line too. -/
  anyLineEnd : Bool := false
  /-- Blanks and comments are passed over. -/
  spaced : Bool := false
  unicode : Bool := true
  deriving DecidableEq, Repr

namespace Flags

/-- Switches one flag, if there is one of that letter. -/
def set (flags : Flags) (on : Bool) : Char → Option Flags
  | 'i' => some { flags with ignoreCase := on }
  | 'm' => some { flags with multiLine := on }
  | 's' => some { flags with dotAll := on }
  | 'U' => some { flags with lazyFirst := on }
  | 'R' => some { flags with anyLineEnd := on }
  | 'x' => some { flags with spaced := on }
  | 'u' => some { flags with unicode := on }
  | _ => none

/-- Adds the case variants where case is ignored. -/
def fold (flags : Flags) (s : CharSet) : CharSet :=
  if flags.ignoreCase then
    if flags.unicode then s.folded else s.folded.inter .ascii
  else s

/-- The set that a character written in the pattern stands for. -/
def charSet (flags : Flags) (c : Char) : CharSet :=
  if flags.unicode || c.toNat < 0x80 then flags.fold (.single c) else .single c

/-- The characters of words, among ASCII alone where the Unicode flag is off. -/
def word (flags : Flags) : CharSet := if flags.unicode then wordSet else asciiWordSet

/-- The decimal digits, among ASCII alone where the Unicode flag is off. -/
def digit (flags : Flags) : CharSet := if flags.unicode then digitSet else asciiDigitSet

/-- The blank characters, among ASCII alone where the Unicode flag is off. -/
def blank (flags : Flags) : CharSet := if flags.unicode then blankSet else asciiBlankSet

/-- A set has to consist of whole characters. Without the Unicode flag only ASCII characters
are. -/
def whole (flags : Flags) (s : CharSet) : Except Fault CharSet :=
  if flags.unicode || s.isAscii then .ok s else .error .notWholeCharacters

/-- The complement of a set. -/
def complement (flags : Flags) (s : CharSet) : Except Fault CharSet := flags.whole s.compl

/-- The characters that the dot stands for. -/
def dot (flags : Flags) : Except Fault CharSet :=
  if flags.dotAll then flags.complement .empty
  else if flags.anyLineEnd then flags.complement (.ofRanges [('\n', '\n'), ('\r', '\r')])
  else flags.complement (.single '\n')

/-- The condition that `^` stands for. -/
def caret (flags : Flags) : Look :=
  if flags.multiLine then if flags.anyLineEnd then .anyLineStart else .lineStart else .textStart

/-- The condition that `$` stands for. -/
def dollar (flags : Flags) : Look :=
  if flags.multiLine then if flags.anyLineEnd then .anyLineEnd else .lineEnd else .textEnd

/-- Whether a repetition prefers to go on, given whether a question mark follows it. -/
def greedy (flags : Flags) (questioned : Bool) : Bool := questioned == flags.lazyFirst

end Flags

/-- Passes over blanks and comments; `comment` says that a comment has begun. A comment ends
with its line. -/
def skipBlanks (comment : Bool) : Text → Text
  | [] => []
  | c :: rest =>
    if comment then skipBlanks (c != '\n') rest
    else if isBlank c then skipBlanks false rest
    else if c = '#' then skipBlanks true rest
    else c :: rest

/-- Passes over what stands between the parts of a pattern. -/
def Flags.skip (flags : Flags) (t : Text) : Text :=
  if flags.spaced then skipBlanks false t else t

/-- The accepted characters at the beginning and what follows them, with what may stand between
the parts passed over before each. -/
def Flags.collect (flags : Flags) (accepts : Char → Bool) (comment : Bool) : Text → Text × Text
  | [] => ([], [])
  | c :: rest =>
    if comment then flags.collect accepts (c != '\n') rest
    else if flags.spaced && isBlank c then flags.collect accepts false rest
    else if flags.spaced && c == '#' then flags.collect accepts true rest
    else if accepts c then
      let (taken, left) := flags.collect accepts false rest
      (c :: taken, left)
    else ([], c :: rest)

/-- The flags between `(?` and the `:` or `)` that ends them. -/
structure InlineFlags where
  flags : Flags
  /-- Whether no flag is written. -/
  none : Bool
  /-- Whether a colon ends them, so that they hold for one group. -/
  forGroup : Bool

/-- Reads inline flags. `seen` holds the letters read so far, the latest first, with the minus
sign among them. -/
def readInlineFlags (flags : Flags) (on : Bool) (seen : List Char) :
    Text → Except Fault (InlineFlags × Text)
  | [] => .error .groupUnclosed
  | c :: rest =>
    if c = ':' ∨ c = ')' then
      if seen.head? = some '-' then .error .flagDangling
      else .ok (⟨flags, seen.isEmpty, c == ':'⟩, rest)
    else if c ∈ seen then .error (if c = '-' then .flagsOffTwice else .flagTwice)
    else if c = '-' then readInlineFlags flags false (c :: seen) rest
    else match flags.set on c with
      | some flags => readInlineFlags flags on (c :: seen) rest
      | .none => .error .flagUnknown

end LineGrammar.Regex
