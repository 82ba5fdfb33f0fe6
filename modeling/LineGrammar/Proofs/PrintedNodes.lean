import LineGrammar.Proofs.LineEndings
import LineGrammar.Proofs.NodeLine
import LineGrammar.Proofs.Quiet

/-!
What is printed of a node says which node it is. Names are runs of letters, so the characters that
a printed node has between them occur in it once each; with an equals sign for the arrow it is a
node line, and what that line is read as is the node. A printed node keeps to one line, so the
output of a quiet check of node lines, line by line, gives the nodes back in their order.

* `Node.onlyAt_arrow`, `Node.parse_withEquals`: where the arrow is, and what stands for the node
  when it is replaced.
* `Node.eq_of_text_eq`: nodes that print alike are the same.
* `Text.lines_endedLines`: texts without line breaks, each on a line of its own, are read back.
* `Program.output_quietNodes`: the output of a quiet check of node lines.
* `Node.text_loses_nothing` puts them together.
-/

namespace LineGrammar

open Text (IsRun)

/-! ### Texts within texts -/

namespace Text

/-- A mark stands in a text between the given parts and nowhere else. -/
structure OnlyAt (t mark before after : Text) : Prop where
  text_eq : t = before ++ mark ++ after
  only : ∀ before' after', t = before' ++ mark ++ after' → before' = before ∧ after' = after

/-- A mark that ends with a character stands in a text once if the character does. -/
theorem onlyAt_of_sign {front back before after : Text} {sign : Char}
    (inFront : sign ∉ before ++ front) (behind : sign ∉ back ++ after) :
    OnlyAt (before ++ (front ++ sign :: back) ++ after) (front ++ sign :: back) before after where
  text_eq := rfl
  only := by
    intro before' after' same
    have cut : (before ++ front) ++ sign :: (back ++ after) =
        (before' ++ front) ++ sign :: (back ++ after') := by
      simpa only [List.append_assoc, List.cons_append] using same
    obtain ⟨fronts, -, backs⟩ := (List.append_cons_inj_of_notMem inFront behind).mp cut
    exact ⟨(List.append_cancel_right fronts).symm, (List.append_cancel_left backs).symm⟩

/-- The characters that break lines. -/
def lineBreaks : Text := ['\n', '\x0b', '\x0c', '\r', '\u0085', '\u2028', '\u2029']

/-- Texts, each with a line feed behind it. -/
def endedLines (texts : List Text) : Text := texts.flatMap fun t => t ++ "\n".toList

theorem segments_line {t : Text} (h : '\n' ∉ t) : segments (t ++ ['\n']) = [t ++ ['\n']] := by
  induction t with
  | nil => rfl
  | cons c rest ih =>
    obtain ⟨hc, hrest⟩ := List.ne_and_not_mem_of_not_mem_cons h
    exact segments_cons (Ne.symm hc) (ih hrest)

/-- Texts without line breaks are the lines of what they make when each of them is ended. -/
theorem lines_endedLines {texts : List Text} (h : ∀ t ∈ texts, ∀ c ∈ t, c ∉ lineBreaks) :
    lines (endedLines texts) = texts := by
  induction texts with
  | nil => rfl
  | cons t later ih =>
    have plain := h t List.mem_cons_self
    have noFeed : '\n' ∉ t := fun inside => plain _ inside (by decide)
    have noReturn : '\r' ∉ t := fun inside => plain _ inside (by decide)
    have whole : endedLines (t :: later) = t ++ '\n' :: endedLines later := by
      rw [endedLines, List.flatMap_cons, List.append_assoc]
      rfl
    rw [whole, lines_append_feed, ih fun other hother => h other (List.mem_cons_of_mem t hother),
      lines, segments_line noFeed, List.map_singleton, withoutEnding_feed noReturn]
    rfl

/-- A text that ends with something other than a blank has no blanks at its end. -/
theorem trimEnd_append_singleton {c : Char} (h : LineGrammar.isBlank c = false) (t : Text) :
    trimEnd (t ++ [c]) = t ++ [c] := by
  rw [trimEnd, List.reverse_append, List.reverse_singleton, List.singleton_append,
    List.dropWhile_cons_of_neg (Bool.eq_false_iff.mp h), List.reverse_cons, List.reverse_reverse]

end Text

/-! ### The text of a node -/

namespace Node

/-- A node whose names are names. -/
structure Named (node : Node) : Prop where
  name : IsRun Char.isAlpha node.name
  left : IsRun Char.isAlpha node.left
  right : IsRun Char.isAlpha node.right

variable {node : Node} {line : Text}

theorem named_of_parse (h : parse line = .ok node) : node.Named := by
  obtain ⟨-, blanks, spells⟩ := parse_line_eq_ok_iff.mp (parse_eq_ok_iff.mp h)
  exact ⟨spells.name, spells.left, spells.right⟩

/-- What a node is printed as behind the arrow, and written as behind the equals sign. -/
def neighboursText (node : Node) : Text :=
  "(".toList ++ node.left ++ ", ".toList ++ node.right ++ ")".toList

/-- The text of a node, with an equals sign for its arrow. -/
def withEquals (node : Node) : Text := node.name ++ " = ".toList ++ node.neighboursText

theorem text_eq (node : Node) : node.text = node.name ++ " -> ".toList ++ node.neighboursText := by
  simp [text, neighboursText]

/-- One space everywhere. -/
def oneSpace : Spacing := ⟨" ".toList, " ".toList, " ".toList⟩

theorem withEquals_eq (node : Node) : node.withEquals = node.spelled oneSpace := by
  simp [withEquals, neighboursText, spelled, oneSpace]

namespace Named

variable (h : node.Named)
include h

/-- Beside letters, a node is printed with six characters. -/
theorem mem_text {c : Char} (hc : c ∈ node.text) : c.isAlpha = true ∨ c ∈ " ->(,)".toList := by
  have letters {run : Text} (isRun : IsRun Char.isAlpha run) (hc : c ∈ run) :
      c.isAlpha = true ∨ c ∈ " ->(,)".toList := .inl (isRun.all c hc)
  have signs {t : Text} (inside : t ⊆ " ->(,)".toList) (hc : c ∈ t) :
      c.isAlpha = true ∨ c ∈ " ->(,)".toList := .inr (inside hc)
  rw [text] at hc
  simp only [List.mem_append] at hc
  rcases hc with ((((hc | hc) | hc) | hc) | hc) | hc
  · exact letters h.name hc
  · exact signs (by decide) hc
  · exact letters h.left hc
  · exact signs (by decide) hc
  · exact letters h.right hc
  · exact signs (by decide) hc

/-- None of them breaks a line. -/
theorem not_mem_lineBreaks {c : Char} (hc : c ∈ node.text) : c ∉ Text.lineBreaks := by
  have apart : ∀ d ∈ Text.lineBreaks, (!(d.isAlpha || " ->(,)".toList.contains d)) = true :=
    List.all_eq_true.mp rfl
  intro breaks
  have neither := apart c breaks
  rcases h.mem_text hc with letter | sign
  · rw [letter] at neither
    cases neither
  · rw [List.contains_iff_mem.mpr sign, Bool.or_true] at neither
    cases neither

/-- The arrow is the only one: its point is neither a letter nor one of the other characters. -/
theorem onlyAt_arrow : Text.OnlyAt node.text " -> ".toList node.name node.neighboursText := by
  have noLetter {run : Text} (isRun : IsRun Char.isAlpha run) : '>' ∉ run := by
    intro inside
    cases isRun.all '>' inside
  have arrow : " -> ".toList = [' ', '-'] ++ '>' :: [' '] := rfl
  rw [text_eq, arrow]
  refine Text.onlyAt_of_sign ?_ ?_
  · simp [noLetter h.name]
  · simp [neighboursText, noLetter h.left, noLetter h.right]

/-- With an equals sign for the arrow the text is a node line for the node. -/
theorem parse_withEquals : parse node.withEquals = .ok node := by
  have space : IsRun isBlank " ".toList := ⟨List.cons_ne_nil _ _, List.all_eq_true.mp rfl⟩
  have spells : Spells node.withEquals node oneSpace :=
    ⟨h.name, h.left, h.right, space, space, space, withEquals_eq node⟩
  have trimmed : node.withEquals.trimEnd = node.withEquals := by
    rw [withEquals, neighboursText, ← List.append_assoc]
    exact Text.trimEnd_append_singleton (by decide) _
  rw [parse_eq_ok_iff, trimmed]
  exact parse_line_eq_ok_iff.mpr ⟨rfl, oneSpace, spells⟩

/-- Nodes that print alike are read as the same node. -/
theorem eq_of_text_eq {other : Node} (hother : other.Named) (same : node.text = other.text) :
    node = other := by
  obtain ⟨names, neighbours⟩ :=
    hother.onlyAt_arrow.only _ _ (same.symm.trans h.onlyAt_arrow.text_eq)
  have lines : node.withEquals = other.withEquals := by
    rw [withEquals, withEquals, names, neighbours]
  exact Except.ok.inj (h.parse_withEquals.symm.trans (lines ▸ hother.parse_withEquals))

end Named

/-- Lists of nodes that print alike, one by one, are the same. -/
theorem eq_of_map_text_eq {nodes others : List Node} (hnodes : ∀ node ∈ nodes, node.Named)
    (hothers : ∀ node ∈ others, node.Named) (same : nodes.map text = others.map text) :
    nodes = others := by
  induction nodes generalizing others with
  | nil => exact (List.map_eq_nil_iff.mp same.symm).symm
  | cons node rest ih =>
    obtain ⟨other, more, rfl, first, later⟩ := List.map_eq_cons_iff.mp same.symm
    have here := (hnodes node List.mem_cons_self).eq_of_text_eq
      (hothers other List.mem_cons_self) first.symm
    rw [here, ih (fun n hn => hnodes n (List.mem_cons_of_mem _ hn))
      (fun n hn => hothers n (List.mem_cons_of_mem _ hn)) later.symm]

/-! ### The nodes of a text -/

/-- The nodes of the lines that are node lines, in order. -/
def ofLines (t : Text) : List Node := t.lines.filterMap fun line => (parse line).toOption

theorem named_of_mem_ofLines {t : Text} (h : node ∈ ofLines t) : node.Named := by
  obtain ⟨line, -, hparse⟩ := List.mem_filterMap.mp h
  cases hline : parse line with
  | error cause =>
    rw [hline] at hparse
    cases hparse
  | ok found =>
    rw [hline] at hparse
    cases hparse
    exact named_of_parse hline

/-- A line of blanks is no node line. -/
theorem parse_of_isBlank (h : line.isBlank = true) : (parse line).toOption = none := by
  cases hparse : parse line with
  | error cause => rfl
  | ok node =>
    have nothing : line.trimEnd = [] := by
      have blank : line.reverse.all isBlank = true := by rw [List.all_reverse]; exact h
      exact congrArg List.reverse (Text.trimStart_of_isBlank blank)
    obtain ⟨-, blanks, spells⟩ := parse_line_eq_ok_iff.mp (parse_eq_ok_iff.mp hparse)
    have empty := spells.text_eq.symm.trans nothing
    rw [spelled_eq] at empty
    exact absurd (List.append_eq_nil_iff.mp empty).1 spells.name.ne_nil

/-- The values of node lines are the texts of their nodes. -/
theorem values_ofNodes (first : Nat) (block : Text) :
    ((Task.ofNodes first block).map Task.result).filterMap LineResult.value? =
      (ofLines block).map text := by
  rw [Task.ofNodes, ofLines]
  generalize block.lines = lines
  induction lines generalizing first with
  | nil => rfl
  | cons line rest ih =>
    rw [Text.numberedFrom]
    cases hblank : line.isBlank with
    | true =>
      rw [List.filter_cons_of_neg (by simp [hblank]), ih, List.filterMap_cons,
        parse_of_isBlank hblank]
    | false =>
      have value : (Task.result ⟨first, .node, line⟩).value? = (parse line).toOption.map text := by
        show ((parse line).map text).toOption = _
        cases parse line <;> rfl
      rw [List.filter_cons_of_pos (by simp [hblank]), List.map_cons, List.map_cons,
        List.filterMap_cons, List.filterMap_cons, value, ih]
      cases (parse line).toOption <;> rfl

end Node

/-! ### Output -/

/-- The text of a piece that does not depend on the clock. -/
def Piece.text? : Piece → Option Text
  | text t => some t
  | duration _ | elapsed | stamp => none

/-- What a program leaves on its output channel, if none of it depends on the clock. -/
def Ending.output? : Ending → Option Text
  | unstarted _ => none
  | ended writes _ => ((Program.written .out writes).mapM Piece.text?).map List.flatten

namespace Program

/-- Values on lines of their own do not depend on the clock. -/
theorem mapM_text?_plainLines (values : List Text) :
    (values.flatMap Report.plainLine).mapM Piece.text? =
      some (values.map fun value => value ++ "\n".toList) := by
  induction values with
  | nil => rfl
  | cons value rest ih =>
    rw [List.flatMap_cons, List.map_cons]
    show List.mapM Piece.text? (.text (value ++ "\n".toList) :: rest.flatMap Report.plainLine) = _
    rw [List.mapM_cons, ih]
    rfl

/-- A quiet check leaves on the output channel the values that it handed on. -/
theorem written_out_of_quiet {logText : Text} {lap : Nat → Duration} {s : Settings}
    (h : s.quiet = true) :
    written .out (check logText lap s).1 =
      (s.run.streamed.filterMap LineResult.value?).flatMap Report.plainLine := by
  have fit : s.quiet = false → DurationsFit lap s.run := by
    rw [h]
    nofun
  rw [written_out_check fit, h, summaryWrites_quiet, List.flatMap_nil, List.append_nil,
    Report.flatMap_valuePieces, ← map_values_timed lap, List.flatMap_map]
  rfl

/-- Arguments that ask for a quiet check of node lines that keeps going, of an input that can be
read. -/
def QuietNodes (argv : List Text) (read : Text → Except ReadFault Bytes) (input : Text) : Prop :=
  ∃ path verbosity, Arguments.parse argv = .ok ⟨path, .nodes, true, true, verbosity⟩ ∧
    read path >>= decodeText = .ok input

/-- Its output is the nodes of the input, printed one to a line. -/
theorem output_quietNodes {argv : List Text} {read : Text → Except ReadFault Bytes} {input : Text}
    (asked : QuietNodes argv read input) (logText : Text) (lap : Nat → Duration) :
    (run argv read logText lap).output? =
      some (Text.endedLines ((Node.ofLines input).map Node.text)) := by
  obtain ⟨path, verbosity, accepted, readable⟩ := asked
  let arguments : Arguments := ⟨path, .nodes, true, true, verbosity⟩
  have values : (arguments.settings input).run.streamed.filterMap LineResult.value? =
      (Node.ofLines input).map Node.text := by
    rw [← Node.values_ofNodes 1 input]
    exact congrArg (List.filterMap _) (Run.streamed_keepGoing rfl)
  rw [run_of_input accepted readable, Ending.output?, written_out_of_quiet rfl, values,
    mapM_text?_plainLines, Option.map_some, Text.endedLines, List.flatMap_def]

end Program

/-! ### What the text of a node says -/

open Program (run QuietNodes)

/-- **What is printed of a node loses nothing.** Take a line that is accepted with some node. The
text of the node has one arrow, and with an equals sign in its place it is a line that is accepted
with the same node; and no character of it breaks a line. For two lines that are accepted the texts
of their nodes are equal exactly when the nodes are. And a quiet check of node lines that keeps
going puts out, line by line, the texts of the nodes of its input, in the order of the lines; so two
such checks put out the same exactly when their inputs have the same nodes. -/
theorem Node.text_loses_nothing :
    (∀ line node, parse line = .ok node →
      (∃ before after, Text.OnlyAt node.text " -> ".toList before after ∧
        parse (before ++ " = ".toList ++ after) = .ok node) ∧
      ∀ c ∈ node.text, c ∉ Text.lineBreaks) ∧
    (∀ line node line' node', parse line = .ok node → parse line' = .ok node' →
      (node.text = node'.text ↔ node = node')) ∧
    (∀ argv read input, QuietNodes argv read input → ∀ logText lap,
      ∃ out, (run argv read logText lap).output? = some out ∧
        out.lines = (ofLines input).map text) ∧
    ∀ argv read input argv' read' input', QuietNodes argv read input →
      QuietNodes argv' read' input' → ∀ logText lap logText' lap',
        ((run argv read logText lap).output? = (run argv' read' logText' lap').output? ↔
          ofLines input = ofLines input') := by
  have plain (input : Text) : (Text.endedLines ((ofLines input).map text)).lines =
      (ofLines input).map text := by
    refine Text.lines_endedLines fun t ht c hc => ?_
    obtain ⟨node, hnode, rfl⟩ := List.mem_map.mp ht
    exact (named_of_mem_ofLines hnode).not_mem_lineBreaks hc
  refine ⟨fun line node h => ?_, fun line node line' node' h h' => ?_,
    fun argv read input asked logText lap => ?_, ?_⟩
  · have named := named_of_parse h
    exact ⟨⟨_, _, named.onlyAt_arrow, named.parse_withEquals⟩, fun c => named.not_mem_lineBreaks⟩
  · constructor
    · exact (named_of_parse h).eq_of_text_eq (named_of_parse h')
    · exact congrArg text
  · exact ⟨_, Program.output_quietNodes asked logText lap, plain input⟩
  · intro argv read input argv' read' input' asked asked' logText lap logText' lap'
    rw [Program.output_quietNodes asked, Program.output_quietNodes asked', Option.some.injEq]
    constructor
    · intro same
      refine eq_of_map_text_eq (fun _ => named_of_mem_ofLines) (fun _ => named_of_mem_ofLines) ?_
      rw [← plain input, same, plain input']
    · intro same
      rw [same]

/-- One node, written with blanks of several kinds and beside a line that fails, and written plainly
after a line of blanks. -/
theorem Node.text_loses_nothing_of_wide_blanks :
    (∃ before after, Text.OnlyAt "AB -> (c, DE)".toList " -> ".toList before after ∧
      parse (before ++ " = ".toList ++ after) = .ok ⟨"AB".toList, ['c'], "DE".toList⟩) ∧
    (run ["-kq".toList, "-gnodes".toList, "in".toList]
      (fun _ => .ok "AB\u00A0=\u3000(c,\t DE)\r\nB = D\n".toUTF8.toList) []
      (fun _ => .zero)).output? =
    (run ["in".toList, "-g=nodes".toList, "-q".toList, "-k".toList]
      (fun _ => .ok " \nAB = (c, DE)".toUTF8.toList) [] (fun _ => .longest)).output? := by
  obtain ⟨lines, -, -, outputs⟩ := text_loses_nothing
  have wide : QuietNodes ["-kq".toList, "-gnodes".toList, "in".toList]
      (fun _ => .ok "AB\u00A0=\u3000(c,\t DE)\r\nB = D\n".toUTF8.toList)
      "AB\u00A0=\u3000(c,\t DE)\r\nB = D\n".toList :=
    ⟨"in".toList, 0, by decide +kernel, by decide +kernel⟩
  have plain : QuietNodes ["in".toList, "-g=nodes".toList, "-q".toList, "-k".toList]
      (fun _ => .ok " \nAB = (c, DE)".toUTF8.toList) " \nAB = (c, DE)".toList :=
    ⟨"in".toList, 0, by decide +kernel, by decide +kernel⟩
  refine ⟨(lines "AB\u00A0=\u3000(c,\t DE)\r".toList ⟨"AB".toList, ['c'], "DE".toList⟩
    (by decide +kernel)).1, ?_⟩
  exact (outputs _ _ _ _ _ _ wide plain _ _ _ _).mpr (by decide +kernel)

end LineGrammar
