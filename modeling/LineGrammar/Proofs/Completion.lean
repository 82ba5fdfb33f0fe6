import LineGrammar.Typed

/-!
Two ways to demand the whole input. A success may be refused when it leaves something, or the end of
the input may be demanded by a parser of its own behind the pipeline. The answers are the same, down
to what an error quotes, and whatever demands the end leaves nothing, so that it makes no difference
how often the end is demanded.

* `ParseResult.andThen_endOfInput`: to go on to the end of the input is to complete the outcome.
* `Pipeline.Completes`, `Parser.Completes`: a parser that answers to every input what another one
  answers to the whole input.
* `Pipeline.completes_ended`, `Pipeline.completes_chain`, `Typed.completes_ended`,
  `Parser.completes_ended`: the end of the input behind a parser completes it, however often.
* `end_of_input_completes` puts them together.
-/

namespace LineGrammar

universe u v

open ParseResult

/-! ### Outcomes that leave nothing -/

namespace ParseResult

variable {α : Type u} {β : Type v}

/-- An answer to the whole input, as an outcome: it leaves nothing. -/
def whole (answer : Except ParseError α) : ParseResult α := answer.map fun value => ⟨value, []⟩

@[simp] theorem complete_whole (answer : Except ParseError α) : complete (whole answer) = answer := by
  cases answer <;> rfl

@[simp] theorem map_value_whole (answer : Except ParseError α) :
    (whole answer).map Parsed.value = answer := by
  cases answer <;> rfl

/-- **To go on to the end of the input is to complete the outcome.** -/
theorem andThen_endOfInput (result : ParseResult α) (f : α → Unit → β) :
    andThen result (fun a rest => mapValue (f a) (Parser.endOfInput rest)) =
      whole ((complete result).map fun a => f a ()) := by
  cases result with
  | error cause => rfl
  | ok parsed =>
    obtain ⟨a, residue⟩ := parsed
    cases residue <;> rfl

end ParseResult

/-! ### Runtime pipelines -/

namespace Pipeline

/-- `q` declares the shape of `p`, and for a prefix as for the whole it answers what `p` answers to
the whole input. -/
structure Completes (p q : Pipeline) : Prop where
  shape : q.shape = p.shape
  parseComplete : ∀ input, q.parseComplete input = p.parseComplete input
  parse : ∀ input, (q.parse input).map Parsed.value = p.parseComplete input

/-- The pipeline with the end of the input demanded behind it, so many times over. -/
def ended (p : Pipeline) : Nat → Pipeline
  | 0 => p
  | n + 1 => (p.ended n).followedBy endOfInput

variable (p : Pipeline) (n : Nat) (input : Text)

theorem parse_followedBy_endOfInput :
    (p.followedBy endOfInput).parse input = whole (p.parseComplete input) := by
  have dropped (first : Tokens) (rest : Text) :
      mapValue first.merge (endOfInput.parse rest) =
        mapValue (fun _ => first) (Parser.endOfInput rest) := by
    rw [parse, mapValue_mapValue, Tokens.merge_nothing]
  rw [parse]
  simp only [dropped]
  exact (andThen_endOfInput (p.parse input) fun first _ => first).trans
    (congrArg whole (congrFun Except.map_id _))

/-- A pipeline whose outcomes are the answers of `p` to whole inputs completes `p`. -/
theorem completes_of_parse {p q : Pipeline} (shape : q.shape = p.shape)
    (h : ∀ input, q.parse input = whole (p.parseComplete input)) : Completes p q where
  shape := shape
  parseComplete := by
    intro input
    rw [parseComplete, h, complete_whole]
  parse := by
    intro input
    rw [h, map_value_whole]

/-- The end of the input is demanded behind what demands it already. -/
theorem parse_ended_succ : (p.ended (n + 1)).parse input = whole (p.parseComplete input) := by
  induction n with
  | zero => exact p.parse_followedBy_endOfInput input
  | succ n ih => rw [ended, parse_followedBy_endOfInput, parseComplete, ih, complete_whole]

theorem shape_ended : (p.ended n).shape = p.shape := by
  induction n with
  | zero => rfl
  | succ n ih =>
    rw [ended, shape, ih]
    exact Shape.combine_noValue p.shape

theorem completes_ended : Completes p (p.ended (n + 1)) :=
  completes_of_parse (p.shape_ended (n + 1)) (p.parse_ended_succ n)

/-- A row of ends is one end. -/
theorem parse_chain_endOfInput :
    (chain endOfInput (List.replicate n endOfInput)).parse input = endOfInput.parse input := by
  induction n generalizing input with
  | zero => rfl
  | succ n ih =>
    rw [List.replicate_succ, chain]
    show andThen (endOfInput.parse input) (fun first rest => mapValue first.merge
      ((chain endOfInput (List.replicate n endOfInput)).parse rest)) = endOfInput.parse input
    simp only [ih]
    cases input <;> rfl

theorem shape_chain_endOfInput : (chain endOfInput (List.replicate n endOfInput)).shape = .noValue := by
  induction n with
  | zero => rfl
  | succ n ih =>
    rw [List.replicate_succ, chain, shape, ih]
    rfl

theorem completes_chain : Completes p (chain p (List.replicate (n + 1) endOfInput)) := by
  rw [List.replicate_succ, chain]
  apply completes_of_parse
  · rw [shape, shape_chain_endOfInput, Shape.combine_noValue]
  · intro input
    rw [← parse_followedBy_endOfInput, parse, parse]
    simp only [parse_chain_endOfInput]

end Pipeline

/-! ### Parsers as functions -/

/-- What a parser yields, and its answers to whole inputs. The type of the answers depends on the
yield, so the two are compared together. -/
abbrev Answers (values : Yield → Type) : Type 1 :=
  (y : Yield) × (Text → Except ParseError (values y))

/-- To yield nothing more changes neither what is yielded nor the answers. -/
theorem Answers.merge_nothing_eq {values : Yield → Type} {y : Yield}
    (keep : values y → values (y.merge .nothing)) (same : ∀ value, HEq (keep value) value)
    (answer : Text → Except ParseError (values y)) :
    (⟨y.merge .nothing, fun input => (answer input).map keep⟩ : Answers values) = ⟨y, answer⟩ := by
  cases y with
  | nothing | carries content =>
    obtain rfl : keep = id := funext fun value => eq_of_heq (same value)
    exact Sigma.ext rfl (heq_of_eq (funext fun input => congrFun Except.map_id _))

namespace Yield

theorem merge_nothing (y : Yield) : y.merge .nothing = y := by
  cases y <;> rfl

theorem join_nothing_heq (y : Yield) (value : y.Value) : HEq (join y .nothing value ()) value := by
  cases y <;> rfl

theorem mergeOutputs_nothing_heq (y : Yield) (output : y.Output) :
    HEq (mergeOutputs y .nothing output .skipped) output := by
  cases y with
  | nothing =>
    cases output
    rfl
  | carries content => rfl

end Yield

namespace Parser

variable {y z : Yield}

/-- What the parser yields, and its answers to whole inputs. -/
def answers (p : Parser y) : Answers Yield.Value := ⟨y, complete p⟩

/-- `q` yields what `p` yields, and for a prefix as for the whole it answers what `p` answers to the
whole input. -/
structure Completes (p : Parser y) (q : Parser z) : Prop where
  yield : z = y
  complete : answers q = answers p
  parse : (⟨z, fun input => (q input).map Parsed.value⟩ : Answers Yield.Value) = answers p

/-- The parser with the end of the input demanded behind it, so many times over. -/
def ended (p : (y : Yield) × Parser y) : Nat → (y : Yield) × Parser y
  | 0 => p
  | n + 1 => ⟨_, followedBy (ended p n).2 endOfInput⟩

theorem followedBy_endOfInput (p : Parser y) (input : Text) :
    followedBy p endOfInput input =
      whole ((complete p input).map fun value => Yield.join y .nothing value ()) :=
  andThen_endOfInput _ _

theorem completes_followedBy (p : Parser y) : Completes p (followedBy p endOfInput) := by
  have same := Answers.merge_nothing_eq (fun value => Yield.join y .nothing value ())
    y.join_nothing_heq (complete p)
  refine ⟨y.merge_nothing, ?_, ?_⟩
  · rw [answers, answers, ← same]
    congr 1
    funext input
    rw [complete, followedBy_endOfInput, complete_whole]
  · rw [answers, ← same]
    congr 1
    funext input
    rw [followedBy_endOfInput, map_value_whole]

/-- What completes a parser may be completed again. -/
theorem Completes.followedBy {p : Parser y} {q : Parser z} (h : Completes p q) :
    Completes p (followedBy q endOfInput) := by
  have again := completes_followedBy q
  exact ⟨again.yield.trans h.yield, again.complete.trans h.complete, again.parse.trans h.complete⟩

theorem completes_ended (p : Parser y) (n : Nat) : Completes p (ended ⟨y, p⟩ (n + 1)).2 := by
  induction n with
  | zero => exact completes_followedBy p
  | succ n ih => exact ih.followedBy

end Parser

/-! ### Typed pipelines -/

namespace Typed

variable {y : Yield}

/-- The typed pipeline with the end of the input demanded behind it, so many times over. -/
def ended (p : Any) : Nat → Any
  | 0 => p
  | n + 1 => ⟨_, followedBy (ended p n).2 endOfInput⟩

theorem parse_followedBy_endOfInput (p : Typed y) :
    (p.followedBy endOfInput).parse = Parser.followedBy p.parse Parser.endOfInput := by
  rw [parse_followedBy, parse_endOfInput]

theorem completes_ended (p : Typed y) (n : Nat) :
    Parser.Completes p.parse (ended ⟨y, p⟩ (n + 1)).2.parse := by
  induction n with
  | zero =>
    rw [ended, parse_followedBy_endOfInput]
    exact Parser.completes_followedBy p.parse
  | succ n ih =>
    rw [ended, parse_followedBy_endOfInput]
    exact ih.followedBy

/-- In their shapes, too, the values are those of the completed pipeline. -/
theorem parseOutput_followedBy_endOfInput (p : Typed y) :
    (⟨y.merge .nothing, fun input => ((p.followedBy endOfInput).parseOutput input).map Parsed.value⟩ :
      Answers Yield.Output) = ⟨y, fun input => ParseResult.complete (p.parseOutput input)⟩ := by
  rw [← Answers.merge_nothing_eq (fun output => Yield.mergeOutputs y .nothing output .skipped)
    y.mergeOutputs_nothing_heq]
  congr 1
  funext input
  have dropped (x : y.Output) (rest : Text) :
      mapValue (Yield.mergeOutputs y .nothing x) (endOfInput.parseOutput rest) =
        mapValue (fun _ => Yield.mergeOutputs y .nothing x .skipped) (Parser.endOfInput rest) :=
    mapValue_mapValue _ _ _
  rw [parseOutput]
  simp only [dropped]
  exact (congrArg (Except.map Parsed.value) (andThen_endOfInput (p.parseOutput input) fun x _ =>
    Yield.mergeOutputs y .nothing x .skipped)).trans (map_value_whole _)

end Typed

/-! ### The two ways agree -/

/-- **To demand the end of the input is to demand the whole input.** Behind a runtime pipeline, a
typed pipeline, or any function that is a parser, the end of the input changes neither the shape nor
the answers to whole inputs, values and errors alike; the answer for a prefix is then the answer to
the whole input; and so it is when the end is demanded any number of times more, behind the whole or
in a row. A whole input is answered with a value exactly when a parse of a prefix has this value and
leaves nothing. -/
theorem end_of_input_completes :
    (∀ p : Pipeline, p.Completes (p.followedBy .endOfInput) ∧
      (∀ n, p.Completes (p.ended (n + 1)) ∧
        p.Completes (p.chain (List.replicate (n + 1) .endOfInput))) ∧
      ∀ input value, p.parseComplete input = .ok value ↔ p.parse input = .ok ⟨value, []⟩) ∧
    (∀ {y : Yield} (p : Typed y), Parser.Completes p.parse (p.followedBy .endOfInput).parse ∧
      (∀ n, Parser.Completes p.parse (Typed.ended ⟨y, p⟩ (n + 1)).2.parse) ∧
      (⟨_, fun input => ((p.followedBy .endOfInput).parseOutput input).map Parsed.value⟩ :
        Answers Yield.Output) = ⟨y, fun input => ParseResult.complete (p.parseOutput input)⟩ ∧
      ∀ input value, p.parseComplete input = .ok value ↔ p.parse input = .ok ⟨value, []⟩) ∧
    ∀ {y : Yield} (p : Parser y), Parser.Completes p (Parser.followedBy p .endOfInput) ∧
      (∀ n, Parser.Completes p (Parser.ended ⟨y, p⟩ (n + 1)).2) ∧
      ∀ input value, Parser.complete p input = .ok value ↔ p input = .ok ⟨value, []⟩ := by
  refine ⟨?_, ?_, ?_⟩
  · intro p
    exact ⟨p.completes_ended 0, fun n => ⟨p.completes_ended n, p.completes_chain n⟩,
      fun _ _ => complete_eq_ok_iff⟩
  · intro y p
    exact ⟨p.completes_ended 0, p.completes_ended, p.parseOutput_followedBy_endOfInput,
      fun _ _ => complete_eq_ok_iff⟩
  · intro y p
    exact ⟨Parser.completes_followedBy p, Parser.completes_ended p, fun _ _ => complete_eq_ok_iff⟩

end LineGrammar
