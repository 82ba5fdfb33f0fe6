import LineGrammar.Parser
import LineGrammar.Text.Blank

/-!
The parsers that consume input directly. None of them looks further back than its input or
consumes anything on failure, and each failure quotes the input it was run on.
-/

namespace LineGrammar.Parser

/-- Exactly one given character. -/
def character (expected : Char) : Parser .char
  | [] => .error (.unexpectedCharacter [expected] [])
  | c :: rest =>
    if c = expected then .ok ⟨c, rest⟩ else .error (.unexpectedCharacter [expected] [c])

/-- Exactly one given text. A failure quotes as many characters as the text has. -/
def literal (expected : Text) : Parser .text := fun input =>
  if expected.isPrefixOf input then .ok ⟨expected, input.drop expected.length⟩
  else .error (.unexpectedCharacter expected (input.take expected.length))

/-- The longest run of accepted characters; an empty run is a failure. -/
def takeWhile1 (name : Text) (accepts : Char → Bool) : Parser .text := fun input =>
  match input.takeWhile accepts with
  | [] => .error (.noMatch name input)
  | run => .ok ⟨run, input.dropWhile accepts⟩

/-- A run of ASCII letters. -/
def word : Parser .text := takeWhile1 "word".toList Char.isAlpha

/-- A run of blanks. -/
def whitespace : Parser .text := takeWhile1 "whitespace".toList isBlank

/-- A run of ASCII digits. -/
def digits : Parser .text := takeWhile1 "digits".toList Char.isDigit

/-- A run of ASCII digits, read as a number of 64 bits. -/
def number : Parser .number := fun input =>
  ParseResult.andThen (takeWhile1 "number".toList Char.isDigit input) fun run rest =>
    match Text.word64? run with
    | some n => .ok ⟨n, rest⟩
    | none => .error (.numberOutOfRange run)

/-- Nothing, where nothing is left. -/
def endOfInput : Parser .nothing
  | [] => .ok ⟨(), []⟩
  | input => .error (.leftOver input)

end LineGrammar.Parser
