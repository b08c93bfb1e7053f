import Calculator.Main
import Calculator.Proofs.Parser.Requests
import Calculator.Proofs.Parser.Faults
import Calculator.Proofs.Parser.SyntaxErrors
import Calculator.Proofs.Evaluation.Blame
import Calculator.Proofs.Evaluation.Trace
import Calculator.Proofs.Evaluation.Whole
import Calculator.Proofs.Command.File
import Calculator.Proofs.Evaluation.Substitution
import Calculator.Proofs.Evaluation.Operands
import Calculator.Proofs.Evaluation.Printed
import Calculator.Proofs.Command.Prompt
import Calculator.Proofs.Lexer.Again
import Calculator.Proofs.Evaluation.Moved
import Calculator.Proofs.Evaluation.Label
import Calculator.Proofs.Parser.Lookahead
import Calculator.Proofs.Evaluation.Integral
import Calculator.Proofs.Number.Accumulation
import Calculator.Proofs.Evaluation.Message
import Calculator.Proofs.Lexer.Joined
import Calculator.Proofs.Position.Lines
import Calculator.Proofs.Lexer.Cursor
import Calculator.Proofs.Parser.Bounds
