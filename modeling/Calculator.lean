import Calculator.Main
import Calculator.Proofs.Tree
import Calculator.Proofs.Grammar
import Calculator.Proofs.PostfixOrder
import Calculator.Proofs.Characters
import Calculator.Proofs.Reading
import Calculator.Proofs.Writing
import Calculator.Proofs.Substitution
import Calculator.Proofs.Acceptance
import Calculator.Proofs.Negation
import Calculator.Proofs.PrefixMinus
import Calculator.Proofs.Coherence
import Calculator.Proofs.DirectOperations
import Calculator.Proofs.FrontEnds
import Calculator.Proofs.Keypad
import Calculator.Proofs.Words
import Calculator.Proofs.Nearest
import Calculator.Proofs.DecimalText
import Calculator.Proofs.Placement
import Calculator.Proofs.TokenLine
import Calculator.Proofs.Deletion
import Calculator.Proofs.Retyping
import Calculator.Proofs.History
import Calculator.Proofs.DirectPanel
import Calculator.Proofs.Independence
import Calculator.Proofs.ReturnKey
import Calculator.Proofs.ExactValue
import Calculator.Proofs.DisplayText
import Calculator.Proofs.TrimmedText
import Calculator.Proofs.Rows
import Calculator.Proofs.CommandWords
import Calculator.Proofs.GivenArguments
import Calculator.Proofs.CommandOutcome
import Calculator.Proofs.Pieces
import Calculator.Proofs.LexicalRules
import Calculator.Proofs.LexicalFaults
import Calculator.Proofs.Nesting
import Calculator.Proofs.Conservation
import Calculator.Proofs.Spacing
import Calculator.Proofs.Shape
import Calculator.Proofs.FullPrecision
import Calculator.Proofs.Stretches
import Calculator.Proofs.Cut
import Calculator.Proofs.LetterCase
import Calculator.Proofs.OptionOrder
