import LineGrammar.Character.Named
import LineGrammar.Regex.Build
import LineGrammar.Regex.Flags
import LineGrammar.Text.Decimal
import LineGrammar.Text.Lines

/-!
Escapes: what a backslash and the characters after it stand for. ASCII punctuation stands for
itself, letters for a character, a class or a condition, digits for nothing.
-/

namespace LineGrammar.Regex

/-- One part of a pattern that is not a group, a bracket or an operator. -/
inductive Atom where
  | char (c : Char)
  | set (s : CharSet)
  | look (l : Look)
  deriving DecidableEq

/-- The expression of an atom. -/
def Atom.regex (flags : Flags) : Atom → Regex
  | char c => ofSet (flags.charSet c)
  | set s => ofSet s
  | look l => .look l

/-- The character of a code point written in hexadecimal digits. -/
def charOfHex (digits : Text) : Except Fault Char :=
  match Text.hexValue? digits with
  | some n =>
    if digits ≠ [] ∧ n.isValidChar then .ok (Char.ofNat n)
    else .error (if digits = [] then .hexEmpty else .codePoint)
  | none => .error .hexDigit

/-- The first `n` characters, with what may stand between the parts passed over before each but
the first. -/
def takeSpaced (flags : Flags) : Nat → Text → Option (Text × Text)
  | 0, t => some ([], t)
  | _ + 1, [] => none
  | n + 1, c :: rest =>
    (takeSpaced flags n (flags.skip rest)).map fun (taken, left) => (c :: taken, left)

/-- A code point after `\x`, `\u` or `\U`: the given number of digits, or any number in
braces. -/
def readCodePoint (flags : Flags) (width : Nat) (t : Text) : Except Fault (Atom × Text) :=
  match flags.skip t with
  | [] => .error .escapeUnfinished
  | '{' :: rest =>
    match flags.collect (· != '}') false rest with
    | (_, []) => .error .escapeUnfinished
    | (digits, _ :: left) => do .ok (.char (← charOfHex digits), flags.skip left)
  | t =>
    match takeSpaced flags width t with
    | none => .error .escapeUnfinished
    | some (digits, left) => do
      let c ← charOfHex digits
      if !flags.unicode && width == 2 && 0x80 ≤ c.toNat then .error .notWholeCharacters
      else .ok (.char c, left)

/-- The set that stands in the braces of a property: a name, or a property and its value. Between
these stands the first `!=` or, where there is none, the first colon or the first equals sign; all
of them mean the same. -/
def propertySet? (t : Text) : Option CharSet :=
  match ((t.cutAt "!=".toList).or (t.cutAt ":".toList)).or (t.cutAt "=".toList) with
  | some (property, value) => CharSet.valued? .sixteenth property value
  | none => CharSet.named? .sixteenth t

/-- A property after `\p` or `\P`: a name of one letter, or what stands in braces. -/
def readProperty (flags : Flags) (negated : Bool) (t : Text) : Except Fault (Atom × Text) := do
  let (found, left) ← match flags.skip t with
    | [] => .error .escapeUnfinished
    | '\\' :: _ => .error .propertyForm
    | '{' :: rest =>
      match flags.collect (· != '}') false rest with
      | (_, []) => .error .escapeUnfinished
      | (t, _ :: left) => .ok (propertySet? t, left)
    | c :: rest => .ok (CharSet.named? .sixteenth [c], flags.skip rest)
  match found with
  | none => .error .propertyUnknown
  | some s =>
    if !flags.unicode then .error .notAscii
    else if negated then .ok (.set (flags.fold s).compl, left)
    else .ok (.set (flags.fold s), left)

/-- What follows `\b`: a kind of boundary in braces, or nothing that belongs to it. -/
def readBoundary (flags : Flags) (t : Text) : Except Fault (Atom × Text) :=
  let word := flags.word
  match t with
  | '{' :: rest =>
    match flags.skip rest with
    | [] => .error .boundaryUnfinished
    | c :: inside =>
      if c.isAlpha || c == '-' then
        match flags.collect (fun c => c.isAlpha || c == '-') false (c :: inside) with
        | (name, '}' :: left) =>
          match String.ofList name with
          | "start" => .ok (.look (.wordStart word), left)
          | "end" => .ok (.look (.wordEnd word), left)
          | "start-half" => .ok (.look (.wordStartHalf word), left)
          | "end-half" => .ok (.look (.wordEndHalf word), left)
          | _ => .error .boundaryUnknown
        | _ => .error .boundaryUnclosed
      else .ok (.look (.boundary word), t)
  | t => .ok (.look (.boundary word), t)

/-- The characters that stand for themselves after a backslash: all of ASCII but letters, digits
and the angle brackets. -/
def isSelfEscaped (c : Char) : Bool :=
  c.toNat < 0x80 && !c.isAlphanum && c != '<' && c != '>'

/-- The character that a letter after a backslash stands for. -/
def controlOf? : Char → Option Char
  | 'a' => some '\x07'
  | 'f' => some '\x0c'
  | 't' => some '\t'
  | 'n' => some '\n'
  | 'r' => some '\r'
  | 'v' => some '\x0b'
  | _ => none

/-- The condition that a character after a backslash stands for, apart from `\b`. -/
def lookOf? (flags : Flags) : Char → Option Look
  | 'A' => some .textStart
  | 'z' => some .textEnd
  | 'B' => some (.notBoundary flags.word)
  | '<' => some (.wordStart flags.word)
  | '>' => some (.wordEnd flags.word)
  | _ => none

/-- The class that a letter after a backslash stands for, in lower case. -/
def classOf? (flags : Flags) : Char → Option CharSet
  | 'd' => some flags.digit
  | 's' => some flags.blank
  | 'w' => some flags.word
  | _ => none

/-- Reads what follows a backslash. -/
def readEscape (flags : Flags) : Text → Except Fault (Atom × Text)
  | [] => .error .escapeUnfinished
  | c :: rest =>
    if c.isDigit then .error .backreference
    else if c = 'x' then readCodePoint flags 2 rest
    else if c = 'u' then readCodePoint flags 4 rest
    else if c = 'U' then readCodePoint flags 8 rest
    else if c = 'p' then readProperty flags false rest
    else if c = 'P' then readProperty flags true rest
    else if c = 'b' then readBoundary flags rest
    else if isSelfEscaped c then .ok (.char c, rest)
    else match controlOf? c, lookOf? flags c, classOf? flags c, classOf? flags c.toLower with
      | some control, _, _, _ => .ok (.char control, rest)
      | _, some condition, _, _ => .ok (.look condition, rest)
      | _, _, some s, _ => .ok (.set s, rest)
      | _, _, _, some s => do .ok (.set (← flags.complement s), rest)
      | _, _, _, _ => .error .escapeUnknown

/-- Reads one character, plain or escaped. -/
def readAtom (flags : Flags) : Text → Except Fault (Atom × Text)
  | [] => .error .escapeUnfinished
  | '\\' :: rest => readEscape flags rest
  | c :: rest => .ok (.char c, rest)

end LineGrammar.Regex
