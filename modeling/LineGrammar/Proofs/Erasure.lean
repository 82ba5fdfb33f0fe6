import LineGrammar.Network.Node
import LineGrammar.Proofs.Agreement
import LineGrammar.Typed.Tokens

/-!
Typed pipelines and their erasures. A typed pipeline knows the shape of its values when it is
written; a runtime pipeline decides the shape of every merged value when it meets it. Both consume
and refuse the same inputs, and they produce the same values.

* `Typed.parseOutput_agree`: on every input a typed pipeline and its erasure fail with one cause, or
  leave one residue; and where nothing is mapped the tokens of the typed output are the runtime
  value. Mapped functions have no influence on what is consumed.
* `Typed.shape_erase`: where nothing is mapped, the shape that the type declares is the shape that
  the erasure computes.
* `Typed.erase_sequence`: typed pipelines in a row are erased to the runtime sequence.
* `Typed.agrees_with_erasure` puts the three together.
-/

namespace LineGrammar

open ParseResult (Agree)

/-! ### Yields without mapped values -/

/-- Whether no part of the content was made by a mapping. -/
def Content.unmapped : Content → Bool
  | mapped _ => false
  | pair first second => first.unmapped && second.unmapped
  | char | text | number => true

/-- Whether no part of the yield was made by a mapping. -/
def Yield.unmapped : Yield → Bool
  | nothing => true
  | carries content => content.unmapped

/-- The tokens of content have its shape, so they never count as nothing. -/
theorem Content.shape_outputTokens {content : Content} (h : content.unmapped = true)
    (x : content.Output) : (content.outputTokens x).shape = content.shape := by
  cases content with
  | mapped α => cases h
  | char | text | number | pair => rfl

theorem Content.carriesValue_outputTokens {content : Content} (h : content.unmapped = true)
    (x : content.Output) : (content.outputTokens x).shape.carriesValue = true := by
  rw [shape_outputTokens h]
  cases content <;> rfl

namespace Yield

theorem unmapped_merge {a b : Yield} (ha : a.unmapped = true) (hb : b.unmapped = true) :
    (a.merge b).unmapped = true := by
  cases a with
  | nothing => exact hb
  | carries first =>
    cases b with
    | nothing => exact ha
    | carries second => exact Bool.and_eq_true_iff.mpr ⟨ha, hb⟩

/-- Merging outputs is merging their tokens. -/
theorem outputTokens_mergeOutputs {a b : Yield} (ha : a.unmapped = true) (hb : b.unmapped = true)
    (x : a.Output) (y : b.Output) :
    (a.merge b).outputTokens (mergeOutputs a b x y) =
      (a.outputTokens x).merge (b.outputTokens y) := by
  cases a with
  | nothing => rfl
  | carries first =>
    cases b with
    | nothing => exact (Tokens.merge_nothing _).symm
    | carries second =>
      exact (Tokens.merge_eq_pair (Content.carriesValue_outputTokens ha x)
        (Content.carriesValue_outputTokens hb y)).symm

end Yield

/-! ### One pipeline and its erasure -/

namespace Typed

variable {y : Yield}

theorem unmapped_of_mapFree (p : Typed y) (h : p.mapFree = true) : y.unmapped = true := by
  induction p with
  | character | literal | takeWhile1 | number | pattern | endOfInput | skip => rfl
  | followedBy p q ihp ihq =>
    obtain ⟨hp, hq⟩ := Bool.and_eq_true_iff.mp h
    exact Yield.unmapped_merge (ihp hp) (ihq hq)
  | map f p => cases h

/-- **The declared shapes agree.** -/
theorem shape_erase (p : Typed y) (h : p.mapFree = true) : p.erase.shape = y.shape := by
  induction p with
  | character | literal | takeWhile1 | number | pattern | endOfInput | skip => rfl
  | followedBy p q ihp ihq =>
    obtain ⟨hp, hq⟩ := Bool.and_eq_true_iff.mp h
    rw [Yield.shape_merge, ← ihp hp, ← ihq hq]
    rfl
  | map f p => cases h

/-- **A pipeline agrees with its erasure.** The relation on the values is empty talk below a
mapping, so that one induction gives the causes and residues of all pipelines and the values of
those that map nothing. -/
theorem parseOutput_agree (p : Typed y) (input : Text) :
    Agree (fun x tokens => p.mapFree = true → y.outputTokens x = tokens)
      (p.parseOutput input) (p.erase.parse input) := by
  induction p generalizing input with
  | character | literal | takeWhile1 | number | pattern | endOfInput =>
    refine (Agree.refl _).mapValue ?_
    rintro a - rfl -
    rfl
  | skip p ih => exact (ih input).mapValue fun _ _ _ _ => rfl
  | followedBy p q ihp ihq =>
    refine (ihp input).andThen fun x first rest hx => ?_
    refine (ihq rest).mapValue fun y second hy h => ?_
    obtain ⟨hp, hq⟩ := Bool.and_eq_true_iff.mp h
    rw [Yield.outputTokens_mergeOutputs (unmapped_of_mapFree p hp) (unmapped_of_mapFree q hq),
      hx hp, hy hq]
  | map f p ih => exact (ih input).mapValue_left fun _ _ _ h => by cases h

/-- Taking the value out of its shape afterwards keeps the agreement. -/
theorem parse_agree (p : Typed y) (input : Text) :
    Agree (fun value tokens => p.mapFree = true → y.tokens value = tokens)
      (p.parse input) (p.erase.parse input) :=
  (p.parseOutput_agree input).mapValue_left fun x _ h mapFree =>
    (y.tokens_plain x).trans (h mapFree)

/-! ### Pipelines in a row -/

theorem erase_chain (first : Any) (rest : List Any) :
    (chain first rest).2.erase = Pipeline.chain first.2.erase (rest.map fun p => p.2.erase) := by
  induction rest generalizing first with
  | nil => rfl
  | cons second rest ih =>
    rw [chain, erase, ih]
    rfl

/-- A typed sequence has two pipelines at least, so its erasure is never refused. -/
theorem erase_sequence (first second : Any) (rest : List Any) :
    Pipeline.sequence ((first :: second :: rest).map fun p => p.2.erase) =
      .ok (sequence first second rest).2.erase := by
  rw [sequence, erase_chain]
  rfl

/-! ### The accepted pipelines agree -/

/-- **Typed and runtime pipelines agree.** A pipeline that maps nothing declares the shape of its
erasure and has the outcome of its erasure, for a prefix with the value in its shape or taken out
of it, and for the whole input: the same cause, or the same residue and the same tree of values.
A pipeline with mappings anywhere, whatever the mapped functions are, still fails and consumes as
its erasure does, which has the mappings left out. And the erasure of a typed sequence is the
runtime sequence of the erasures. -/
theorem agrees_with_erasure :
    (∀ {y : Yield} (p : Typed y) (input : Text),
      (p.mapFree = true →
        p.erase.shape = y.shape ∧
        ParseResult.mapValue y.outputTokens (p.parseOutput input) = p.erase.parse input ∧
        ParseResult.mapValue y.tokens (p.parse input) = p.erase.parse input ∧
        (p.parseComplete input).map y.tokens = p.erase.parseComplete input) ∧
      ParseResult.mapValue (fun _ => ()) (p.parseOutput input) =
        ParseResult.mapValue (fun _ => ()) (p.erase.parse input) ∧
      ParseResult.mapValue (fun _ => ()) (p.parse input) =
        ParseResult.mapValue (fun _ => ()) (p.erase.parse input) ∧
      (p.parseComplete input).map (fun _ => ()) =
        (p.erase.parseComplete input).map (fun _ => ())) ∧
    ∀ (first second : Any) (rest : List Any),
      Pipeline.sequence ((first :: second :: rest).map fun p => p.2.erase) =
        .ok (sequence first second rest).2.erase := by
  refine ⟨fun {y} p input => ?_, erase_sequence⟩
  have shaped := p.parseOutput_agree input
  have plain := p.parse_agree input
  refine ⟨fun h => ⟨p.shape_erase h, ?_, ?_, ?_⟩, ?_, ?_, ?_⟩
  · exact (shaped.mapValue_eq (g := id) fun _ _ related => related h).trans
      (ParseResult.mapValue_id _)
  · exact (plain.mapValue_eq (g := id) fun _ _ related => related h).trans
      (ParseResult.mapValue_id _)
  · exact (plain.complete_map_eq (g := id) fun _ _ related => related h).trans
      (congrFun Except.map_id _)
  · exact shaped.mapValue_eq fun _ _ _ => rfl
  · exact plain.mapValue_eq fun _ _ _ => rfl
  · exact plain.complete_map_eq fun _ _ _ => rfl

/-- The pipeline of node lines maps nothing, so its erasure yields the three names as well. -/
theorem agrees_with_erasure_on_node_line :
    Node.line.mapFree = true ∧
    Node.line.erase.parse "AAA = (BBB, C)".toList = .ok ⟨.pair (.text "AAA".toList)
      (.pair (.text "BBB".toList) (.text ['C'])), []⟩ := by
  refine ⟨rfl, ?_⟩
  rw [← ((agrees_with_erasure.1 Node.line _).1 rfl).2.1]
  decide +kernel

end Typed

end LineGrammar
