import SyntaxLint.Analysis.Log
import SyntaxLint.Phrase
import SyntaxLint.Tree.Layout
import SyntaxLint.Proofs.Preorder
import SyntaxLint.Proofs.DeclaredTypes
import SyntaxLint.Proofs.Search
import SyntaxLint.Proofs.Json.Compact
import SyntaxLint.Proofs.RawTree
import SyntaxLint.Proofs.Fallible
import SyntaxLint.Proofs.Typing
import SyntaxLint.Proofs.Log
import SyntaxLint.Proofs.Subtree
import SyntaxLint.Proofs.Locality
import SyntaxLint.Proofs.Disabling
import SyntaxLint.Proofs.Isolation
import SyntaxLint.Proofs.DisplayedKeys
import SyntaxLint.Proofs.Progress
import SyntaxLint.Proofs.DepthBound
import SyntaxLint.Proofs.Verdict
import SyntaxLint.Proofs.Bare
import SyntaxLint.Proofs.Replacement
import SyntaxLint.Proofs.Formats
import SyntaxLint.Proofs.Repair
import SyntaxLint.Proofs.Escape
import SyntaxLint.Proofs.Labels
import SyntaxLint.Proofs.Bracketed
import SyntaxLint.Proofs.Layout.Lines
import SyntaxLint.Proofs.Layout.Markers
import SyntaxLint.Proofs.ChainLaws
import SyntaxLint.Proofs.Enclosing
import SyntaxLint.Proofs.Nesting
import SyntaxLint.Proofs.Members
import SyntaxLint.Proofs.TokenText
import SyntaxLint.Proofs.Phrases
