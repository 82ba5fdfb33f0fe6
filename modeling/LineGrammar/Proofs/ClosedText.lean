import LineGrammar.Proofs.ReaderSteps

/-!
Reading a text with a closing parenthesis behind it. The readers of escapes and brackets stop as soon
as they have read what they are for, so what they read of a text they read as well with a
parenthesis behind it, and the parenthesis is left behind what they leave. The exception is a
comment at the end of the text: it swallows the parenthesis, and then nothing is left of either.

* `Text.Closed`: what is left of a text and what is left of it with the parenthesis.
* `Regex.Follows`: a computation that succeeds wherever another one does, with a related value.
* `Regex.follows_readAtom`, `Regex.follows_readBracket`: the readers of parts that are no group.
-/

namespace LineGrammar

/-- What is left of a text, and what is left of the text with a parenthesis behind it. -/
inductive Text.Closed : Text → Text → Prop where
  | close (t : Text) : Closed t (t ++ [')'])
  /-- A comment goes on to the end and takes the parenthesis with it. -/
  | swallowed : Closed [] []

namespace Text

/-- Where something is left, the parenthesis is left as well. -/
theorem Closed.eq_of_cons {c : Char} {t u : Text} (h : Closed (c :: t) u) :
    u = c :: (t ++ [')']) := by
  cases h
  rfl

/-- A beginning without the parenthesis is a beginning of the text in front of it. -/
theorem exists_of_append_close {t tail : Text} (front : Text) (h : t ++ [')'] = front ++ tail)
    (hfront : ')' ∉ front) : ∃ more, t = front ++ more ∧ tail = more ++ [')'] := by
  induction front generalizing t with
  | nil => exact ⟨t, rfl, h.symm⟩
  | cons c front ih =>
    cases t with
    | nil => exact absurd (List.cons.inj h).1 (List.ne_of_not_mem_cons hfront)
    | cons d rest =>
      obtain ⟨rfl, hrest⟩ := List.cons.inj h
      obtain ⟨more, rfl, tail⟩ := ih hrest (List.not_mem_of_not_mem_cons hfront)
      exact ⟨more, rfl, tail⟩

/-- The parenthesis does not make a beginning of what is none. -/
theorem append_close_ne {t : Text} (front : Text) (h : ∀ more, t ≠ front ++ more)
    (hfront : ')' ∉ front) (tail : Text) : t ++ [')'] ≠ front ++ tail := by
  intro heq
  obtain ⟨more, hmore, -⟩ := exists_of_append_close front heq hfront
  exact h more hmore

theorem Closed.ne_append {t u : Text} (closed : Closed t u) (front : Text)
    (h : ∀ more, t ≠ front ++ more) (hfront : ')' ∉ front) (tail : Text) : u ≠ front ++ tail := by
  cases closed with
  | close => exact append_close_ne front h hfront tail
  | swallowed => exact h tail

theorem dropWhile_append_close {p : Char → Bool} (h : p ')' = false) (t : Text) :
    (t ++ [')']).dropWhile p = t.dropWhile p ++ [')'] := by
  rw [List.dropWhile_append]
  split
  · next none =>
    rw [List.isEmpty_iff.mp none, List.dropWhile_cons_of_neg (Bool.eq_false_iff.mp h)]
    rfl
  · rfl

/-- A run with something behind it ends in front of that, also if the parenthesis would belong to
it. -/
theorem dropWhile_append_close_of_ne_nil {p : Char → Bool} {t : Text} (h : t.dropWhile p ≠ []) :
    (t ++ [')']).dropWhile p = t.dropWhile p ++ [')'] := by
  rw [List.dropWhile_append, if_neg (fun none => h (List.isEmpty_iff.mp none))]

theorem takeWhile_append_close {p : Char → Bool} {t : Text} (h : t.dropWhile p ≠ []) :
    (t ++ [')']).takeWhile p = t.takeWhile p := by
  induction t with
  | nil => exact absurd rfl h
  | cons c rest ih =>
    rw [List.cons_append]
    by_cases hc : p c = true
    · rw [List.dropWhile_cons_of_pos hc] at h
      rw [List.takeWhile_cons_of_pos hc, List.takeWhile_cons_of_pos hc, ih h]
    · rw [List.takeWhile_cons_of_neg hc, List.takeWhile_cons_of_neg hc]

end Text

open Text (Closed)

namespace Regex

/-! ### Computations that follow others -/

section Follows

variable {α β γ δ : Type} {R : α → γ → Prop} {S : β → δ → Prop}

/-- Where the first computation succeeds the second one does too, with a related value. -/
def Follows (R : α → γ → Prop) (e : Except Fault α) (e' : Except Fault γ) : Prop :=
  ∀ a, e = .ok a → ∃ c, e' = .ok c ∧ R a c

/-- Two readers have read the same, and what they leave differs by the parenthesis. -/
def ReadAlike (r r' : α × Text) : Prop := r'.1 = r.1 ∧ Closed r.2 r'.2

theorem Follows.ok {a : α} {c : γ} (h : R a c) : Follows R (.ok a) (.ok c) := by
  intro _ heq
  cases heq
  exact ⟨c, rfl, h⟩

theorem Follows.error {fault : Fault} {e' : Except Fault γ} : Follows R (.error fault) e' := nofun

/-- A choice that does not look at the text. -/
theorem Follows.ite {c : Prop} [Decidable c] {a b : Except Fault α} {a' b' : Except Fault γ}
    (yes : Follows R a a') (no : Follows R b b') :
    Follows R (if c then a else b) (if c then a' else b') := by
  split
  · exact yes
  · exact no

theorem Follows.bind {e : Except Fault β} {e' : Except Fault δ} {k : β → Except Fault α}
    {k' : δ → Except Fault γ} (first : Follows S e e')
    (next : ∀ b d, S b d → Follows R (k b) (k' d)) : Follows R (e >>= k) (e' >>= k') := by
  intro a h
  obtain ⟨b, hb, h⟩ := exists_of_bind_eq_ok h
  obtain ⟨d, rfl, related⟩ := first b hb
  exact next b d related a h

/-- A computation that does not look at the text, and what goes on with its value. -/
theorem Follows.same {e : Except Fault β} {k : β → Except Fault α} {k' : β → Except Fault γ}
    (next : ∀ b, Follows R (k b) (k' b)) : Follows R (e >>= k) (e >>= k') := by
  have first : Follows Eq e e := fun b hb => ⟨b, hb, rfl⟩
  refine first.bind fun b d heq => ?_
  rw [← heq]
  exact next b

/-- Nothing has to follow what fails in the end. -/
theorem Follows.fails {e : Except Fault β} {k : β → Except Fault α} {e' : Except Fault γ}
    (h : ∀ b a, k b ≠ .ok a) : Follows R (e >>= k) e' := by
  intro a heq
  obtain ⟨b, -, hk⟩ := exists_of_bind_eq_ok heq
  exact absurd hk (h b a)

/-- A reader, and what goes on with its value and the rest. -/
theorem Follows.read {e e' : Except Fault (β × Text)} {k : β × Text → Except Fault α}
    {k' : β × Text → Except Fault γ} (first : Follows ReadAlike e e')
    (next : ∀ b rest rest', Closed rest rest' → Follows R (k (b, rest)) (k' (b, rest'))) :
    Follows R (e >>= k) (e' >>= k') := by
  refine first.bind fun r r' alike => ?_
  obtain ⟨b, rest⟩ := r
  obtain ⟨b', rest'⟩ := r'
  obtain ⟨rfl, closed⟩ := alike
  exact next _ rest rest' closed

end Follows

variable {flags : Flags} {t u : Text}

/-! ### Between the parts -/

theorem closed_skipBlanks (closed : Closed t u) (comment : Bool) :
    Closed (skipBlanks comment t) (skipBlanks comment u) := by
  cases closed with
  | swallowed => exact .swallowed
  | close =>
    induction t generalizing comment with
    | nil =>
      cases comment with
      | true => exact .swallowed
      | false => exact .close []
    | cons c rest ih =>
      rw [List.cons_append, skipBlanks, skipBlanks]
      split
      · exact ih _
      · split
        · exact ih _
        · split
          · exact ih _
          · exact .close _

theorem Flags.closed_skip (flags : Flags) (closed : Closed t u) :
    Closed (flags.skip t) (flags.skip u) := by
  rw [skip, skip]
  split
  · exact closed_skipBlanks closed false
  · exact closed

theorem Flags.skip_of_cons {rest : Text} {c : Char} (closed : Closed t u)
    (h : flags.skip t = c :: rest) : flags.skip u = c :: (rest ++ [')']) :=
  (h ▸ flags.closed_skip closed).eq_of_cons

/-- Characters with something behind them are collected up to the same place. -/
theorem Flags.collect_append_close {accepts : Char → Bool} {comment : Bool} {taken left : Text}
    (h : flags.collect accepts comment t = (taken, left)) (more : left ≠ []) :
    flags.collect accepts comment (t ++ [')']) = (taken, left ++ [')']) := by
  induction t generalizing comment taken left with
  | nil =>
    cases h
    exact absurd rfl more
  | cons c rest ih =>
    rw [List.cons_append]
    rw [collect] at h ⊢
    split
    · next hcomment =>
      rw [if_pos hcomment] at h
      exact ih h more
    · next hcomment =>
      rw [if_neg hcomment] at h
      split
      · next blank =>
        rw [if_pos blank] at h
        exact ih h more
      · next blank =>
        rw [if_neg blank] at h
        split
        · next begins =>
          rw [if_pos begins] at h
          exact ih h more
        · next begins =>
          rw [if_neg begins] at h
          split
          · next accepted =>
            rw [if_pos accepted] at h
            cases h
            rw [ih rfl more]
          · next refused =>
            rw [if_neg refused] at h
            cases h
            rfl

/-! ### Escapes -/

theorem closed_takeSpaced {n : Nat} {taken left : Text} (closed : Closed t u)
    (h : takeSpaced flags n t = some (taken, left)) :
    ∃ left', takeSpaced flags n u = some (taken, left') ∧ Closed left left' := by
  induction n generalizing t u taken with
  | zero =>
    cases h
    exact ⟨u, rfl, closed⟩
  | succ n ih =>
    cases t with
    | nil => cases h
    | cons c rest =>
      rw [closed.eq_of_cons]
      rw [takeSpaced] at h ⊢
      obtain ⟨⟨others, after⟩, hothers, heq⟩ := Option.map_eq_some_iff.mp h
      cases heq
      obtain ⟨left', hleft, hclosed⟩ := ih (flags.closed_skip (.close rest)) hothers
      refine ⟨left', ?_, hclosed⟩
      rw [hleft]
      rfl

theorem follows_readCodePoint {width : Nat} (closed : Closed t u) :
    Follows ReadAlike (readCodePoint flags width t) (readCodePoint flags width u) := by
  rw [readCodePoint, readCodePoint]
  cases hskip : flags.skip t with
  | nil => exact .error
  | cons c rest =>
    rw [Flags.skip_of_cons closed hskip]
    by_cases brace : c = '{'
    · subst brace
      simp only
      cases hcollect : flags.collect (· != '}') false rest with
      | mk digits others =>
        cases others with
        | nil => exact .error
        | cons last left =>
          rw [Flags.collect_append_close hcollect (List.cons_ne_nil _ _)]
          exact .same fun c => .ok ⟨rfl, flags.closed_skip (.close left)⟩
    · simp only [List.cons.injEq, brace, false_and, imp_self, implies_true]
      cases htaken : takeSpaced flags width (c :: rest) with
      | none => exact .error
      | some taken =>
        obtain ⟨digits, left⟩ := taken
        obtain ⟨left', hleft, hclosed⟩ := closed_takeSpaced (.close (c :: rest)) htaken
        rw [← List.cons_append, hleft]
        exact .same fun d => .ite .error (.ok ⟨rfl, hclosed⟩)

theorem follows_readProperty {negated : Bool} (closed : Closed t u) :
    Follows ReadAlike (readProperty flags negated t) (readProperty flags negated u) := by
  rw [readProperty, readProperty]
  cases hskip : flags.skip t with
  | nil => exact .error
  | cons c rest =>
    rw [Flags.skip_of_cons closed hskip]
    by_cases escape : c = '\\'
    · subst escape
      exact .error
    · by_cases brace : c = '{'
      · subst brace
        simp only
        cases hcollect : flags.collect (· != '}') false rest with
        | mk name others =>
          cases others with
          | nil => exact .error
          | cons last left =>
            rw [Flags.collect_append_close hcollect (List.cons_ne_nil _ _)]
            refine .read (.ok ⟨rfl, .close left⟩) fun found after after' hclosed => ?_
            cases found with
            | none => exact .error
            | some s => exact .ite .error (.ite (.ok ⟨rfl, hclosed⟩) (.ok ⟨rfl, hclosed⟩))
      · simp only
        refine .read (.ok ⟨rfl, flags.closed_skip (.close rest)⟩) ?_
        intro found after after' hclosed
        cases found with
        | none => exact .error
        | some s => exact .ite .error (.ite (.ok ⟨rfl, hclosed⟩) (.ok ⟨rfl, hclosed⟩))

theorem follows_readBoundary (closed : Closed t u) :
    Follows ReadAlike (readBoundary flags t) (readBoundary flags u) := by
  cases closed with
  | swallowed => exact .ok ⟨rfl, .swallowed⟩
  | close =>
    cases t with
    | nil => exact .ok ⟨rfl, .close []⟩
    | cons c rest =>
      by_cases brace : c = '{'
      · subst brace
        rw [List.cons_append, readBoundary, readBoundary]
        cases hskip : flags.skip rest with
        | nil => exact .error
        | cons d inside =>
          rw [Flags.skip_of_cons (.close rest) hskip]
          refine .ite ?_ (.ok ⟨rfl, .close ('{' :: rest)⟩)
          cases hcollect : flags.collect (fun c => c.isAlpha || c == '-') false (d :: inside) with
          | mk name others =>
            cases others with
            | nil => exact .error
            | cons e left =>
              rw [← List.cons_append, Flags.collect_append_close hcollect (List.cons_ne_nil _ _)]
              by_cases last : e = '}'
              · subst last
                simp only [List.cons_append]
                split
                · exact .ok ⟨rfl, .close left⟩
                · exact .ok ⟨rfl, .close left⟩
                · exact .ok ⟨rfl, .close left⟩
                · exact .ok ⟨rfl, .close left⟩
                · exact .error
              · split
                · next heq =>
                  cases heq
                  exact absurd rfl last
                · exact .error
      · have other (rest : Text) : readBoundary flags (c :: rest) =
            .ok (.look (.boundary flags.word), c :: rest) := by
          rw [readBoundary]
          exact fun _ heq => brace (List.cons.inj heq).1
        rw [List.cons_append, other, other]
        exact .ok ⟨rfl, .close (c :: rest)⟩

theorem follows_readEscape (closed : Closed t u) :
    Follows ReadAlike (readEscape flags t) (readEscape flags u) := by
  cases t with
  | nil => exact .error
  | cons c rest =>
    have hclosed : Closed rest (rest ++ [')']) := .close rest
    rw [closed.eq_of_cons, readEscape, readEscape]
    refine .ite .error ?_
    refine .ite (follows_readCodePoint hclosed) ?_
    refine .ite (follows_readCodePoint hclosed) ?_
    refine .ite (follows_readCodePoint hclosed) ?_
    refine .ite (follows_readProperty hclosed) ?_
    refine .ite (follows_readProperty hclosed) ?_
    refine .ite (follows_readBoundary hclosed) ?_
    refine .ite (.ok ⟨rfl, hclosed⟩) ?_
    split
    · exact .ok ⟨rfl, hclosed⟩
    · exact .ok ⟨rfl, hclosed⟩
    · exact .ok ⟨rfl, hclosed⟩
    · exact .same fun s => .ok ⟨rfl, hclosed⟩
    · exact .error

theorem follows_readAtom (closed : Closed t u) :
    Follows ReadAlike (readAtom flags t) (readAtom flags u) := by
  cases t with
  | nil => exact .error
  | cons c rest =>
    rw [closed.eq_of_cons]
    by_cases escape : c = '\\'
    · subst escape
      exact follows_readEscape (.close rest)
    · have other (rest : Text) : readAtom flags (c :: rest) = .ok (.char c, rest) := by
        rw [readAtom]
        exact escape
      rw [other, other]
      exact .ok ⟨rfl, .close rest⟩

/-! ### Brackets -/

/-- Whether a text begins with the caret of a negation, and what stands behind that. -/
inductive Sign : Text → Bool → Text → Prop where
  | caret (rest : Text) : Sign ('^' :: rest) true rest
  | plain {t : Text} (h : ∀ rest, t ≠ '^' :: rest) : Sign t false t

theorem exists_sign (t : Text) : ∃ negated body, Sign t negated body := by
  by_cases h : ∃ rest, t = '^' :: rest
  · obtain ⟨rest, rfl⟩ := h
    exact ⟨true, rest, .caret rest⟩
  · exact ⟨false, t, .plain fun rest heq => h ⟨rest, heq⟩⟩

/-- The parenthesis is no caret. -/
theorem Sign.append_close {negated : Bool} {body : Text} (sign : Sign t negated body) :
    Sign (t ++ [')']) negated (body ++ [')']) := by
  cases sign with
  | caret => exact .caret _
  | plain h => exact .plain fun rest => Text.append_close_ne ['^'] h (by decide) rest

theorem Sign.closed {negated : Bool} {body : Text} (sign : Sign t negated body)
    (closed : Closed t u) : ∃ body', Sign u negated body' ∧ Closed body body' := by
  cases closed with
  | swallowed => exact ⟨body, sign, by cases sign; exact .swallowed⟩
  | close => exact ⟨body ++ [')'], sign.append_close, .close body⟩

/-- What a class by name is, from the text behind its sign. -/
def namedBehind (flags : Flags) (negated : Bool) (t : Text) : Option (Except Fault CharSet × Text) :=
  if [':', ']'] <+: t.dropWhile (· != ':') then
    (namedClass? (t.takeWhile (· != ':'))).map fun s =>
      (if negated then flags.complement (flags.fold s) else .ok (flags.fold s),
        (t.dropWhile (· != ':')).drop 2)
  else none

theorem namedBehind_of_ends {left : Text} (negated : Bool)
    (h : t.dropWhile (· != ':') = ':' :: ']' :: left) :
    namedBehind flags negated t = (namedClass? (t.takeWhile (· != ':'))).map fun s =>
      (if negated then flags.complement (flags.fold s) else .ok (flags.fold s), left) := by
  rw [namedBehind, h, if_pos ⟨left, rfl⟩]
  rfl

theorem namedBehind_of_not_ends (negated : Bool)
    (h : ∀ left, t.dropWhile (· != ':') ≠ ':' :: ']' :: left) :
    namedBehind flags negated t = none := by
  rw [namedBehind, if_neg fun ⟨left, heq⟩ => h left heq.symm]

theorem readNamedClass?_of_sign {negated : Bool} {body : Text} (sign : Sign t negated body) :
    readNamedClass? flags (':' :: t) = namedBehind flags negated body := by
  cases sign with
  | caret =>
    rw [readNamedClass?]
    split
    · next heq => exact (namedBehind_of_ends true heq).symm
    · next other => exact (namedBehind_of_not_ends true other).symm
  | plain h =>
    rw [readNamedClass?]
    · split
      · next heq => exact (namedBehind_of_ends false heq).symm
      · next other => exact (namedBehind_of_not_ends false other).symm
    · exact h

theorem namedBehind_append_close (negated : Bool) (t : Text) :
    namedBehind flags negated (t ++ [')']) =
      (namedBehind flags negated t).map fun read => (read.1, read.2 ++ [')']) := by
  by_cases ends : ∃ left, t.dropWhile (· != ':') = ':' :: ']' :: left
  · obtain ⟨left, hleft⟩ := ends
    have nonempty : t.dropWhile (· != ':') ≠ [] := hleft ▸ List.cons_ne_nil _ _
    have closed : (t ++ [')']).dropWhile (· != ':') = ':' :: ']' :: (left ++ [')']) := by
      rw [Text.dropWhile_append_close_of_ne_nil nonempty, hleft]
      rfl
    rw [namedBehind_of_ends negated closed, namedBehind_of_ends negated hleft, Option.map_map,
      Text.takeWhile_append_close nonempty]
    rfl
  · have none (left : Text) : (t ++ [')']).dropWhile (· != ':') ≠ ':' :: ']' :: left := by
      intro heq
      cases hrun : t.dropWhile (· != ':') with
      | nil =>
        rw [List.dropWhile_append, hrun] at heq
        cases heq
      | cons c rest =>
        have nonempty : t.dropWhile (· != ':') ≠ [] := hrun ▸ List.cons_ne_nil c rest
        rw [Text.dropWhile_append_close_of_ne_nil nonempty] at heq
        obtain ⟨more, hmore, -⟩ := Text.exists_of_append_close [':', ']'] heq (by decide)
        exact ends ⟨more, hmore⟩
    rw [namedBehind_of_not_ends negated none,
      namedBehind_of_not_ends negated fun left heq => ends ⟨left, heq⟩]
    rfl

/-- A class by name does not look behind its end. -/
theorem readNamedClass?_append_close (t : Text) :
    readNamedClass? flags (t ++ [')']) =
      (readNamedClass? flags t).map fun read => (read.1, read.2 ++ [')']) := by
  cases t with
  | nil => rfl
  | cons c rest =>
    by_cases colon : c = ':'
    · subst colon
      obtain ⟨negated, body, sign⟩ := exists_sign rest
      rw [List.cons_append, readNamedClass?_of_sign sign, readNamedClass?_of_sign sign.append_close]
      exact namedBehind_append_close negated body
    · have other (rest : Text) : readNamedClass? flags (c :: rest) = none := by
        rw [readNamedClass?]
        exact fun _ heq => colon (List.cons.inj heq).1
      rw [List.cons_append, other, other]
      rfl

/-- How a bracket begins, from the text behind its sign. -/
def openingBehind (flags : Flags) (negated : Bool) (t : Text) : Except Fault (Bracket × Text) :=
  let read := flags.collect (· == '-') false t
  if read.2 = [] then .error .bracketUnclosed
  else if read.1 = [] ∧ read.2.head? = some ']' then
    .ok (Bracket.add { negated } ⟨.single ']', 0⟩, read.2.tail)
  else
    .ok (read.1.foldl (fun b hyphen => b.add ⟨.single hyphen, 0⟩) { negated }, read.2)

theorem readOpening_of_sign {negated : Bool} {body : Text}
    (sign : Sign (flags.skip t) negated body) :
    readOpening flags t =
      openingBehind flags negated (if negated then flags.skip body else body) := by
  rw [readOpening, openingBehind]
  generalize flags.skip t = t at sign
  -- Once the sign has been read, it does not matter which one it is.
  cases sign
  all_goals
    simp only [if_true, Bool.false_eq_true, if_false]
    generalize flags.collect (· == '-') false _ = read
    split
    · rfl
    · rfl
    · next hyphens others nonempty bracket =>
      rw [if_neg nonempty, if_neg]
      rintro ⟨none, first⟩
      obtain ⟨rest, heq⟩ := List.head?_eq_some_iff.mp first
      exact bracket rest none heq

theorem follows_openingBehind (negated : Bool) (closed : Closed t u) :
    Follows ReadAlike (openingBehind flags negated t) (openingBehind flags negated u) := by
  cases closed with
  | swallowed => exact .error
  | close =>
    rw [openingBehind, openingBehind]
    cases hcollect : flags.collect (· == '-') false t with
    | mk hyphens others =>
      cases others with
      | nil => exact .error
      | cons c left =>
        rw [Flags.collect_append_close hcollect (List.cons_ne_nil _ _)]
        dsimp only [List.cons_append]
        rw [if_neg (List.cons_ne_nil _ _), if_neg (List.cons_ne_nil _ _)]
        exact .ite (.ok ⟨rfl, .close left⟩) (.ok ⟨rfl, .close (c :: left)⟩)

theorem follows_readOpening (closed : Closed t u) :
    Follows ReadAlike (readOpening flags t) (readOpening flags u) := by
  obtain ⟨negated, body, sign⟩ := exists_sign (flags.skip t)
  obtain ⟨body', sign', hclosed⟩ := sign.closed (flags.closed_skip closed)
  rw [readOpening_of_sign sign, readOpening_of_sign sign']
  refine follows_openingBehind negated ?_
  split
  · exact flags.closed_skip hclosed
  · exact hclosed

/-- A glance finds a character in a text wherever it finds it with the parenthesis behind. -/
theorem glance_append_close {rest : Text} {c : Char} (hc : c ≠ ')') (hash : c ≠ '#')
    (blank : isBlank c = false) :
    flags.glance (rest ++ [')']) = some c ↔ flags.glance rest = some c := by
  have parenthesis : some ')' ≠ some c := fun h => hc (Option.some.inj h).symm
  -- A text that begins with the character has nothing in front of it to pass over.
  have first (h : rest.head? = some c) : ∃ more, rest.dropWhile isBlank = c :: more := by
    obtain ⟨more, rfl⟩ := List.head?_eq_some_iff.mp h
    exact ⟨more, List.dropWhile_cons_of_neg (Bool.eq_false_iff.mp blank)⟩
  rw [Flags.glance, Flags.glance]
  split
  · rw [Text.dropWhile_append_close rfl rest]
    cases hrest : rest.dropWhile isBlank with
    | nil =>
      refine ⟨fun h => absurd h parenthesis, fun h => ?_⟩
      obtain ⟨more, heq⟩ := first h
      cases hrest.symm.trans heq
    | cons d more =>
      by_cases number : d = '#'
      · subst number
        have other : rest.head? ≠ some c := fun h => by
          obtain ⟨others, heq⟩ := first h
          exact hash (List.cons.inj (hrest.symm.trans heq)).1.symm
        simp only [List.cons_append]
        rw [Text.dropWhile_append_close rfl more]
        cases more.dropWhile isBlank with
        | nil => exact ⟨fun h => absurd h parenthesis, fun h => absurd h other⟩
        | cons e others => rfl
      · simp only [List.cons_append]
  · cases rest with
    | nil => exact ⟨fun h => absurd h parenthesis, nofun⟩
    | cons d more => rfl

theorem follows_readMember (closed : Closed t u) :
    Follows ReadAlike (readMember flags t) (readMember flags u) := by
  rw [readMember, readMember]
  refine .read (follows_readAtom closed) fun first t u closed => ?_
  dsimp only
  cases hskip : flags.skip t with
  | nil => exact .error
  | cons c rest =>
    rw [Flags.skip_of_cons closed hskip]
    by_cases hyphen : c = '-'
    · subst hyphen
      simp only [glance_append_close (show ']' ≠ ')' by decide) (by decide) rfl,
        glance_append_close (show '-' ≠ ')' by decide) (by decide) rfl]
      refine .ite (.same fun s => .ok ⟨rfl, .close ('-' :: rest)⟩) ?_
      cases hrest : flags.skip rest with
      | nil => exact .error
      | cons d more =>
        rw [Flags.skip_of_cons (.close rest) hrest]
        refine .read (follows_readAtom (.close (d :: more))) fun last after after' hclosed => ?_
        exact .same fun first => .same fun last => .ite (.ok ⟨rfl, hclosed⟩) .error
    · simp only [List.cons.injEq, hyphen, false_and, imp_self, implies_true]
      exact .same fun s => .ok ⟨rfl, .close (c :: rest)⟩

/-- More fuel does no harm. -/
theorem follows_readBracketIn {fuel fuel' : Nat} (le : fuel ≤ fuel') (outer : List Bracket)
    (b : Bracket) (closed : Closed t u) :
    Follows ReadAlike (readBracketIn flags fuel outer b t)
      (readBracketIn flags fuel' outer b u) := by
  induction fuel generalizing fuel' outer b t u with
  | zero => exact .error
  | succ fuel ih =>
    cases fuel' with
    | zero => exact absurd le (Nat.not_succ_le_zero fuel)
    | succ fuel' =>
      have le := Nat.le_of_succ_le_succ le
      rw [readBracketIn.eq_def, readBracketIn.eq_def]
      dsimp only
      cases hskip : flags.skip t with
      | nil => exact .error
      | cons c rest =>
        rw [Flags.skip_of_cons closed hskip]
        split
        · exact .error
        · next rest heq =>
          cases heq
          simp only
          rw [readNamedClass?_append_close]
          cases readNamedClass? flags rest with
          | some read => exact .same fun members => ih le outer _ (.close read.2)
          | none =>
            refine .read (follows_readOpening (.close rest)) ?_
            exact fun inner after after' hclosed => ih le (b :: outer) inner hclosed
        · next rest heq =>
          cases heq
          refine .same fun value => ?_
          cases outer with
          | nil => exact .ok ⟨rfl, .close rest⟩
          | cons o outer => exact ih le outer _ (.close rest)
        · next rest heq =>
          cases heq
          exact ih le outer _ (.close rest)
        · next rest heq =>
          cases heq
          exact ih le outer _ (.close rest)
        · next rest heq =>
          cases heq
          exact ih le outer _ (.close rest)
        · next other nil bracket closing inter diff symm =>
          -- The parenthesis behind the text makes no operator of what is none.
          split
          · next heq => cases heq
          · next heq => exact absurd heq (Text.append_close_ne ['['] bracket (by decide) _)
          · next heq => exact absurd heq (Text.append_close_ne [']'] closing (by decide) _)
          · next heq => exact absurd heq (Text.append_close_ne ['&', '&'] inter (by decide) _)
          · next heq => exact absurd heq (Text.append_close_ne ['-', '-'] diff (by decide) _)
          · next heq => exact absurd heq (Text.append_close_ne ['~', '~'] symm (by decide) _)
          · refine .read (follows_readMember (.close (c :: rest))) ?_
            exact fun s after after' hclosed => ih le outer _ hclosed

theorem follows_readBracket {fuel fuel' : Nat} (le : fuel ≤ fuel') (closed : Closed t u) :
    Follows ReadAlike (readBracket flags fuel t) (readBracket flags fuel' u) :=
  .read (follows_readOpening closed)
    fun b _ _ hclosed => follows_readBracketIn le [] b hclosed

end Regex

end LineGrammar
