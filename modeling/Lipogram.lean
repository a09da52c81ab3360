import Lipogram.Expr.Level
import Lipogram.Expr.Meaning
import Lipogram.Lexeme
import Lipogram.Main
import Lipogram.Text.Literal.Reader
import Lipogram.Text.Occurrences
import Lipogram.Proofs.Draft
import Lipogram.Proofs.Layout
import Lipogram.Proofs.Levels
import Lipogram.Proofs.Agreement
import Lipogram.Proofs.Alphabet
import Lipogram.Proofs.Prefixes
import Lipogram.Proofs.Brackets
import Lipogram.Proofs.Parts
import Lipogram.Proofs.Truncation
import Lipogram.Proofs.Composites
import Lipogram.Proofs.Sums
import Lipogram.Proofs.Counting
import Lipogram.Proofs.FileTrees
import Lipogram.Proofs.Literals
import Lipogram.Proofs.Trimming
import Lipogram.Proofs.Runs
import Lipogram.Proofs.EncoderSteps
import Lipogram.Proofs.Verifying
import Lipogram.Proofs.DecoderSteps
import Lipogram.Proofs.Demonstrating
import Lipogram.Proofs.Programs
import Lipogram.Proofs.Nesting
import Lipogram.Proofs.Contents
import Lipogram.Proofs.Resemblance
import Lipogram.Proofs.Respelling
import Lipogram.Proofs.Places
import Lipogram.Proofs.Naturals
import Lipogram.Proofs.Lowering
import Lipogram.Proofs.Lettering
import Lipogram.Proofs.Sizes
import Lipogram.Proofs.Loads
import Lipogram.Proofs.Lengths
import Lipogram.Proofs.Tallies
import Lipogram.Proofs.Progress
import Lipogram.Proofs.Safety
import Lipogram.Proofs.Depths
