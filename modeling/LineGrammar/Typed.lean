import LineGrammar.Output
import LineGrammar.Pattern
import LineGrammar.Pipeline
import LineGrammar.Primitive

/-!
Pipelines whose yield is part of their type. A typed pipeline is built from the same pieces as a
runtime one and may also map its values; `erase` forgets the types and the mapped functions and
leaves the runtime pipeline that consumes and refuses the same inputs.
-/

namespace LineGrammar

/-- A pipeline that yields `y`. -/
inductive Typed : Yield → Type 1 where
  | character (c : Char) : Typed .char
  | literal (t : Text) : Typed .text
  | takeWhile1 (name : Text) (accepts : Char → Bool) : Typed .text
  | number : Typed .number
  | pattern (p : Pattern) : Typed .text
  | endOfInput : Typed .nothing
  | skip {y : Yield} (p : Typed y) : Typed .nothing
  | followedBy {a b : Yield} (p : Typed a) (q : Typed b) : Typed (a.merge b)
  | map {y : Yield} {β : Type} (f : y.Value → β) (p : Typed y) : Typed (.mapped β)

namespace Typed

/-- A run of ASCII letters. -/
def word : Typed .text := takeWhile1 "word".toList Char.isAlpha

/-- A run of blanks. -/
def whitespace : Typed .text := takeWhile1 "whitespace".toList isBlank

/-- A run of ASCII digits. -/
def digits : Typed .text := takeWhile1 "digits".toList Char.isDigit

/-- A typed pipeline of any yield. -/
abbrev Any : Type 1 := (y : Yield) × Typed y

/-- One typed pipeline after another, nested to the right. -/
def chain (first : Any) : List Any → Any
  | [] => first
  | second :: rest => ⟨_, followedBy first.2 (chain second rest).2⟩

/-- Two or more typed pipelines in a row, nested to the right. -/
def sequence (first second : Any) (rest : List Any) : Any := chain first (second :: rest)

/-- Runs the pipeline on a prefix of the input. The value is handed on in its shape; only a mapped
function gets to see the plain value. -/
def parseOutput : {y : Yield} → Typed y → Text → ParseResult y.Output
  | _, character c, input => ParseResult.mapValue Single.mk (Parser.character c input)
  | _, literal t, input => ParseResult.mapValue Single.mk (Parser.literal t input)
  | _, takeWhile1 name accepts, input =>
    ParseResult.mapValue Single.mk (Parser.takeWhile1 name accepts input)
  | _, number, input => ParseResult.mapValue Single.mk (Parser.number input)
  | _, pattern p, input => ParseResult.mapValue Single.mk (Parser.pattern p input)
  | _, endOfInput, input => ParseResult.mapValue (fun _ => .skipped) (Parser.endOfInput input)
  | _, skip p, input => ParseResult.mapValue (fun _ => .skipped) (p.parseOutput input)
  | _, @followedBy a b p q, input =>
    ParseResult.andThen (p.parseOutput input) fun x rest =>
      ParseResult.mapValue (Yield.mergeOutputs a b x) (q.parseOutput rest)
  | _, @map y _ f p, input =>
    ParseResult.mapValue (fun x => ⟨f (y.plain x)⟩) (p.parseOutput input)

/-- The parser that a typed pipeline describes. It takes the output out of its shape. -/
def parse {y : Yield} (p : Typed y) : Parser y :=
  fun input => ParseResult.mapValue y.plain (p.parseOutput input)

/-- Parses the whole input. -/
def parseComplete {y : Yield} (p : Typed y) : Text → Except ParseError y.Value :=
  Parser.complete p.parse

/-- The runtime pipeline with the same pieces. A mapped pipeline becomes the one inside. -/
def erase : {y : Yield} → Typed y → Pipeline
  | _, character c => .character c
  | _, literal t => .literal t
  | _, takeWhile1 name accepts => .takeWhile1 name accepts
  | _, number => .number
  | _, pattern p => .pattern p
  | _, endOfInput => .endOfInput
  | _, skip p => .skip p.erase
  | _, followedBy p q => .followedBy p.erase q.erase
  | _, map _ p => p.erase

/-! Taken out of its shape, an output is what the parsers of plain values produce. -/

variable {a b y : Yield}

theorem parse_character (c : Char) : (character c).parse = Parser.character c := by
  funext input
  exact (ParseResult.mapValue_mapValue _ _ _).trans (ParseResult.mapValue_id _)

theorem parse_takeWhile1 (name : Text) (accepts : Char → Bool) :
    (takeWhile1 name accepts).parse = Parser.takeWhile1 name accepts := by
  funext input
  exact (ParseResult.mapValue_mapValue _ _ _).trans (ParseResult.mapValue_id _)

theorem parse_endOfInput : endOfInput.parse = Parser.endOfInput := by
  funext input
  exact (ParseResult.mapValue_mapValue _ _ _).trans (ParseResult.mapValue_id _)

theorem parse_skip (p : Typed y) : p.skip.parse = Parser.skip p.parse := by
  funext input
  exact (ParseResult.mapValue_mapValue _ _ _).trans
    (ParseResult.mapValue_mapValue y.plain (fun _ => ()) (p.parseOutput input)).symm

theorem parse_followedBy (p : Typed a) (q : Typed b) :
    (p.followedBy q).parse = Parser.followedBy p.parse q.parse := by
  funext input
  rw [Parser.followedBy, parse, parse, parseOutput, ParseResult.mapValue_andThen,
    ParseResult.andThen_mapValue]
  congr 1
  funext x rest
  rw [parse, ParseResult.mapValue_mapValue, ParseResult.mapValue_mapValue]
  congr 1
  funext next
  exact Yield.plain_merge a b x next

theorem parse_map {β : Type} (f : y.Value → β) (p : Typed y) :
    (map f p).parse = Parser.map f p.parse := by
  funext input
  exact (ParseResult.mapValue_mapValue _ _ _).trans
    (ParseResult.mapValue_mapValue y.plain f (p.parseOutput input)).symm

end Typed

end LineGrammar
