import LineGrammar.ParseError

/-!
The outcome of a parse: a value together with the input that is left, or the cause of the failure.
-/

namespace LineGrammar

universe u v w x

/-- Outcomes are equal when both succeed with equal values or fail with equal causes. -/
instance instDecidableEqExcept {ε : Type u} {α : Type v} [DecidableEq ε] [DecidableEq α] :
    DecidableEq (Except ε α)
  | .ok a, .ok b => decidable_of_iff (a = b) (by simp)
  | .error a, .error b => decidable_of_iff (a = b) (by simp)
  | .ok _, .error _ => isFalse nofun
  | .error _, .ok _ => isFalse nofun

/-- A value and the part of the input that was not consumed. -/
structure Parsed (α : Type u) where
  value : α
  residue : Text
  deriving DecidableEq, Repr

/-- A parse succeeds with a value and a residue or fails with one cause. -/
abbrev ParseResult (α : Type u) := Except ParseError (Parsed α)

namespace ParseResult

variable {α : Type u} {β : Type v} {γ : Type w}

/-- The same outcome with another value. -/
def mapValue (f : α → β) : ParseResult α → ParseResult β
  | .ok parsed => .ok ⟨f parsed.value, parsed.residue⟩
  | .error cause => .error cause

/-- Goes on with the value and the residue of a success. -/
def andThen (result : ParseResult α) (next : α → Text → ParseResult β) : ParseResult β :=
  match result with
  | .ok parsed => next parsed.value parsed.residue
  | .error cause => .error cause

/-- A success counts only if nothing is left. -/
def complete : ParseResult α → Except ParseError α
  | .ok ⟨value, []⟩ => .ok value
  | .ok ⟨_, residue⟩ => .error (.leftOver residue)
  | .error cause => .error cause

@[simp] theorem mapValue_ok (f : α → β) (value : α) (residue : Text) :
    mapValue f (.ok ⟨value, residue⟩) = .ok ⟨f value, residue⟩ := rfl

@[simp] theorem mapValue_error (f : α → β) (cause : ParseError) :
    mapValue f (.error cause) = .error cause := rfl

@[simp] theorem mapValue_id (result : ParseResult α) : mapValue id result = result := by
  cases result <;> rfl

@[simp] theorem andThen_ok (value : α) (residue : Text) (next : α → Text → ParseResult β) :
    andThen (.ok ⟨value, residue⟩) next = next value residue := rfl

@[simp] theorem andThen_error (cause : ParseError) (next : α → Text → ParseResult β) :
    andThen (.error cause) next = .error cause := rfl

theorem mapValue_mapValue (f : α → β) (g : β → γ) (result : ParseResult α) :
    mapValue g (mapValue f result) = mapValue (fun a => g (f a)) result := by
  cases result <;> rfl

/-- Only the values that `f` produces count. -/
theorem mapValue_mapValue_congr {f : α → β} {g h : β → γ} (agree : ∀ a, g (f a) = h (f a))
    (result : ParseResult α) : mapValue g (mapValue f result) = mapValue h (mapValue f result) := by
  cases result with
  | error cause => rfl
  | ok parsed =>
    obtain ⟨a, residue⟩ := parsed
    simp only [mapValue_ok, agree]

theorem mapValue_andThen (g : β → γ) (result : ParseResult α) (next : α → Text → ParseResult β) :
    mapValue g (andThen result next) = andThen result fun a rest => mapValue g (next a rest) := by
  cases result <;> rfl

theorem andThen_mapValue (f : α → β) (result : ParseResult α)
    (next : β → Text → ParseResult γ) :
    andThen (mapValue f result) next = andThen result fun a rest => next (f a) rest := by
  cases result <;> rfl

theorem andThen_assoc {δ : Type x} (result : ParseResult α) (next : α → Text → ParseResult β)
    (last : β → Text → ParseResult δ) :
    andThen (andThen result next) last =
      andThen result fun a rest => andThen (next a rest) last := by
  cases result <;> rfl

/-- A success comes from a success and from what went on from it. -/
theorem andThen_eq_ok_iff {result : ParseResult α} {next : α → Text → ParseResult β}
    {parsed : Parsed β} :
    andThen result next = .ok parsed ↔
      ∃ a rest, result = .ok ⟨a, rest⟩ ∧ next a rest = .ok parsed := by
  cases result with
  | error cause => simp
  | ok first =>
    constructor
    · intro h
      exact ⟨first.value, first.residue, rfl, h⟩
    · rintro ⟨a, rest, h, later⟩
      cases h
      exact later

/-- A failure is that of the first outcome, or of what went on from it. -/
theorem andThen_eq_error_iff {result : ParseResult α} {next : α → Text → ParseResult β}
    {cause : ParseError} :
    andThen result next = .error cause ↔
      result = .error cause ∨ ∃ a rest, result = .ok ⟨a, rest⟩ ∧ next a rest = .error cause := by
  cases result with
  | error other => simp
  | ok first =>
    constructor
    · intro h
      exact .inr ⟨first.value, first.residue, rfl, h⟩
    · rintro (h | ⟨a, rest, h, later⟩)
      · cases h
      · cases h
        exact later

theorem mapValue_eq_ok_iff {result : ParseResult α} {f : α → β} {value : β} {residue : Text} :
    mapValue f result = .ok ⟨value, residue⟩ ↔
      ∃ a, result = .ok ⟨a, residue⟩ ∧ f a = value := by
  cases result with
  | error cause => simp
  | ok parsed =>
    obtain ⟨a, rest⟩ := parsed
    simp only [mapValue_ok, Except.ok.injEq, Parsed.mk.injEq]
    constructor
    · rintro ⟨rfl, rfl⟩
      exact ⟨a, ⟨rfl, rfl⟩, rfl⟩
    · rintro ⟨b, ⟨rfl, rfl⟩, rfl⟩
      exact ⟨rfl, rfl⟩

theorem mapValue_eq_error_iff {result : ParseResult α} {f : α → β} {cause : ParseError} :
    mapValue f result = .error cause ↔ result = .error cause := by
  cases result with
  | error other => simp
  | ok parsed => simp [mapValue]

@[simp] theorem complete_nil (value : α) : complete (.ok ⟨value, []⟩) = .ok value := rfl

@[simp] theorem complete_cons (value : α) (c : Char) (residue : Text) :
    complete (.ok ⟨value, c :: residue⟩) = .error (.leftOver (c :: residue)) := rfl

@[simp] theorem complete_error (cause : ParseError) :
    complete (.error cause : ParseResult α) = .error cause := rfl

/-- A complete outcome is a success that leaves nothing. -/
theorem complete_eq_ok_iff {result : ParseResult α} {value : α} :
    complete result = .ok value ↔ result = .ok ⟨value, []⟩ := by
  cases result with
  | error cause => simp
  | ok parsed =>
    obtain ⟨a, residue⟩ := parsed
    cases residue with
    | nil => simp
    | cons c rest => simp

/-- An outcome is not complete when it is a failure or leaves something. -/
theorem complete_eq_error_iff {result : ParseResult α} {cause : ParseError} :
    complete result = .error cause ↔
      result = .error cause ∨
        ∃ value residue, result = .ok ⟨value, residue⟩ ∧ residue ≠ [] ∧
          cause = .leftOver residue := by
  cases result with
  | error other => simp
  | ok parsed =>
    obtain ⟨value, residue⟩ := parsed
    cases residue with
    | nil => simp
    | cons c rest =>
      rw [complete_cons, Except.error.injEq]
      constructor
      · intro h
        exact .inr ⟨value, c :: rest, rfl, List.cons_ne_nil c rest, h.symm⟩
      · rintro (h | ⟨_, _, h, -, rfl⟩)
        · cases h
        · cases h
          rfl

end ParseResult

end LineGrammar
