import Lookahead.Failure
import Lookahead.Grammar.Builder
import Lookahead.Lexer.Automaton.Builder
import Lookahead.Lexer.Lexemes
import Lookahead.Lexer.Rounds
import Lookahead.Lexer.TokenStream
import Lookahead.Parser.Basic
import Lookahead.Proofs.Grammar.FirstQueries
import Lookahead.Proofs.Grammar.LeastFixedPoint
import Lookahead.Proofs.Grammar.Resolution
import Lookahead.Proofs.Lexer.Accuracy
import Lookahead.Proofs.Lexer.Progress
import Lookahead.Proofs.Parser.ActionCalls
import Lookahead.Proofs.Parser.DeclarationOrder
import Lookahead.Proofs.Parser.Exactness
import Lookahead.Proofs.Parser.ExtractedRule
import Lookahead.Proofs.Parser.FirstToken
import Lookahead.Proofs.Parser.OneToken
import Lookahead.Proofs.Parser.ReachableRules
import Lookahead.Proofs.Parser.Subtree
import Lookahead.Proofs.Parser.ViablePrefix
import Lookahead.Proofs.Grammar.ProductionWriting
import Lookahead.Proofs.Lexer.LongestMatch
import Lookahead.Proofs.Grammar.FirstSetGaps
import Lookahead.Proofs.Grammar.OverlapReports
import Lookahead.Proofs.Parser.ErrorPlaces
import Lookahead.Proofs.Parser.LineBreaks
import Lookahead.Proofs.Parser.Carets
import Lookahead.Proofs.Lexer.LongerInput
import Lookahead.Proofs.Lexer.OwnPatterns
import Lookahead.Proofs.Parser.KindsOnly
import Lookahead.Proofs.Parser.BlockingToken
import Lookahead.Proofs.Lexer.TokenByToken
import Lookahead.Proofs.Grammar.StoredSets
import Lookahead.Proofs.Lexer.Specificity
import Lookahead.Proofs.Lexer.Marks
import Lookahead.Proofs.Lexer.Callbacks
import Lookahead.Proofs.Lexer.FailingSteps
import Lookahead.Proofs.Grammar.ProductionErrors
import Lookahead.Proofs.Grammar.DeclarationReports
import Lookahead.Proofs.Lexer.LineTerminators
import Lookahead.Proofs.Parser.Outline
