/-!
Text as the list of its characters. Every parser, rule and report of the library reads and
produces text in this form, so that consuming a prefix is taking a tail.
-/

namespace LineGrammar

/-- A text is the list of its characters. -/
abbrev Text := List Char

end LineGrammar
