import LineGrammar.CompositionError
import LineGrammar.Primitive
import LineGrammar.Tokens

/-!
Pipelines that are put together while the program runs. They are plain data: primitives, a wrapper
that drops a value, and one pipeline after another. Parsing yields tokens, whose shape is the
shape that the pipeline declares.
-/

namespace LineGrammar

/-- A parser whose structure is known only at run time. -/
inductive Pipeline where
  | character (c : Char)
  | literal (t : Text)
  | takeWhile1 (name : Text) (accepts : Char → Bool)
  | number
  | pattern (p : Pattern)
  | endOfInput
  | skip (p : Pipeline)
  | followedBy (p q : Pipeline)

namespace Pipeline

/-- A run of ASCII letters. -/
def word : Pipeline := takeWhile1 "word".toList Char.isAlpha

/-- A run of blanks. -/
def whitespace : Pipeline := takeWhile1 "whitespace".toList isBlank

/-- A run of ASCII digits. -/
def digits : Pipeline := takeWhile1 "digits".toList Char.isDigit

/-- Parses a prefix of the input. The first failure is the failure of the whole. -/
def parse : Pipeline → Text → ParseResult Tokens
  | character c, input => ParseResult.mapValue Tokens.char (Parser.character c input)
  | literal t, input => ParseResult.mapValue Tokens.text (Parser.literal t input)
  | takeWhile1 name accepts, input =>
    ParseResult.mapValue Tokens.text (Parser.takeWhile1 name accepts input)
  | number, input => ParseResult.mapValue Tokens.number (Parser.number input)
  | pattern p, input => ParseResult.mapValue Tokens.text (Parser.pattern p input)
  | endOfInput, input => ParseResult.mapValue (fun _ => .nothing) (Parser.endOfInput input)
  | skip p, input => ParseResult.mapValue (fun _ => .nothing) (p.parse input)
  | followedBy p q, input =>
    ParseResult.andThen (p.parse input) fun first rest =>
      ParseResult.mapValue first.merge (q.parse rest)

/-- Parses the whole input. -/
def parseComplete (p : Pipeline) (input : Text) : Except ParseError Tokens :=
  ParseResult.complete (p.parse input)

/-- The shape of what the pipeline produces. -/
def shape : Pipeline → Shape
  | character _ | literal _ | takeWhile1 _ _ | number | pattern _ => .single
  | endOfInput | skip _ => .noValue
  | followedBy p q => p.shape.combine q.shape

/-- One pipeline after another, nested to the right. -/
def chain (first : Pipeline) : List Pipeline → Pipeline
  | [] => first
  | second :: rest => followedBy first (chain second rest)

/-- Pipelines in a row, nested to the right. Fewer than two are refused. -/
def sequence : List Pipeline → Except CompositionError Pipeline
  | first :: second :: rest => .ok (chain first (second :: rest))
  | few => .error (.tooFewParsers few.length)

end Pipeline

end LineGrammar
