import LineGrammar.Description
import LineGrammar.Main
import LineGrammar.Proofs.Account
import LineGrammar.Proofs.Anchoring
import LineGrammar.Proofs.Association
import LineGrammar.Proofs.BlankLine
import LineGrammar.Proofs.CommandLine
import LineGrammar.Proofs.Completion
import LineGrammar.Proofs.Coverage
import LineGrammar.Proofs.Directions
import LineGrammar.Proofs.DurationText
import LineGrammar.Proofs.Erasure
import LineGrammar.Proofs.FlatRun
import LineGrammar.Proofs.LineEndings
import LineGrammar.Proofs.Literals
import LineGrammar.Proofs.Lookahead
import LineGrammar.Proofs.Merging
import LineGrammar.Proofs.NodeLine
import LineGrammar.Proofs.Numbers
import LineGrammar.Proofs.PlainPatterns
import LineGrammar.Proofs.PrintedNodes
import LineGrammar.Proofs.ProducedShape
import LineGrammar.Proofs.Progress
import LineGrammar.Proofs.Quiet
import LineGrammar.Proofs.Sequence
import LineGrammar.Proofs.Success
import LineGrammar.Proofs.Totals
import LineGrammar.Proofs.Written
