import LineGrammar.Parsed

/-!
Outcomes that agree. Two parses agree when both fail with one cause, or both succeed, leave one
residue and produce related values. The relation follows the three ways in which an outcome is
used: its value is changed, another parse goes on from it, or it has to be complete. So two
parsers that are built in the same steps agree as soon as their smallest parts do.
-/

namespace LineGrammar.ParseResult

universe u v w x

variable {α : Type u} {β : Type v} {γ : Type w} {δ : Type x}

/-- The same cause, or the same residue and values in the relation. -/
inductive Agree (R : α → β → Prop) : ParseResult α → ParseResult β → Prop where
  | ok {a : α} {b : β} {residue : Text} (related : R a b) :
      Agree R (.ok ⟨a, residue⟩) (.ok ⟨b, residue⟩)
  | error {cause : ParseError} : Agree R (.error cause) (.error cause)

namespace Agree

variable {R : α → β → Prop} {S : γ → δ → Prop} {r : ParseResult α} {s : ParseResult β}

theorem refl (r : ParseResult α) : Agree (· = ·) r r := by
  cases r with
  | error cause => exact .error
  | ok parsed => exact .ok rfl

/-- An outcome agrees with itself, and what is true of its value may be kept in mind. -/
theorem refl_of {P : α → Prop} (h : ∀ a residue, r = .ok ⟨a, residue⟩ → P a) :
    Agree (fun a b => a = b ∧ P a) r r := by
  cases r with
  | error cause => exact .error
  | ok parsed => exact .ok ⟨rfl, h parsed.value parsed.residue rfl⟩

theorem mapValue (h : Agree R r s) {f : α → γ} {g : β → δ}
    (related : ∀ a b, R a b → S (f a) (g b)) :
    Agree S (ParseResult.mapValue f r) (ParseResult.mapValue g s) := by
  cases h with
  | ok hab => exact .ok (related _ _ hab)
  | error => exact .error

/-- Changing one of the two values alone keeps the agreement on the rest. -/
theorem mapValue_left {S : γ → β → Prop} (h : Agree R r s) {f : α → γ}
    (related : ∀ a b, R a b → S (f a) b) : Agree S (ParseResult.mapValue f r) s := by
  cases h with
  | ok hab => exact .ok (related _ _ hab)
  | error => exact .error

/-- Two parses that go on from agreeing ones agree. -/
theorem andThen (h : Agree R r s) {next : α → Text → ParseResult γ}
    {next' : β → Text → ParseResult δ}
    (later : ∀ a b rest, R a b → Agree S (next a rest) (next' b rest)) :
    Agree S (ParseResult.andThen r next) (ParseResult.andThen s next') := by
  cases h with
  | ok hab => exact later _ _ _ hab
  | error => exact .error

/-- Functions that take related values to equal ones take agreeing outcomes to equal ones. -/
theorem mapValue_eq (h : Agree R r s) {f : α → γ} {g : β → γ}
    (equal : ∀ a b, R a b → f a = g b) :
    ParseResult.mapValue f r = ParseResult.mapValue g s := by
  cases h with
  | ok hab => simp only [mapValue_ok, equal _ _ hab]
  | error => rfl

/-- The same for outcomes that have to be complete. Both are, or both leave the same input. -/
theorem complete_map_eq (h : Agree R r s) {f : α → γ} {g : β → γ}
    (equal : ∀ a b, R a b → f a = g b) : (complete r).map f = (complete s).map g := by
  cases h with
  | error => rfl
  | @ok a b residue hab =>
    cases residue with
    | nil =>
      show Except.ok (f a) = Except.ok (g b)
      rw [equal a b hab]
    | cons c rest => rfl

end Agree

end LineGrammar.ParseResult
