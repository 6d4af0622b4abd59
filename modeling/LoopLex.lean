import LoopLex.Proofs.Cursor.Invariant
import LoopLex.Proofs.Diagnostic.Rows
import LoopLex.Proofs.Scan.Acceptance
import LoopLex.Proofs.Scan.Classification
import LoopLex.Proofs.Scan.Floats
import LoopLex.Proofs.Scan.Fragments
import LoopLex.Proofs.Scan.Independence
import LoopLex.Proofs.Scan.Integers
import LoopLex.Proofs.Scan.Lexemes
import LoopLex.Proofs.Scan.Localisation
import LoopLex.Proofs.Scan.Lookahead
import LoopLex.Proofs.Scan.Positions
import LoopLex.Proofs.Scan.Progress
import LoopLex.Proofs.Scan.Records
import LoopLex.Proofs.Scan.Relabelling
import LoopLex.Proofs.Scan.Rendering
import LoopLex.Proofs.Scan.Scripts
import LoopLex.Proofs.Scan.Sentinel
import LoopLex.Proofs.Scan.Separation
import LoopLex.Proofs.Scan.Totality
import LoopLex.Proofs.Scan.WellFormed
import LoopLex.Proofs.Text.Location
import LoopLex.Proofs.Token.DebugText
import LoopLex.Proofs.Token.Equality
import LoopLex.Scan.LiveSession
import LoopLex.Token.Layout
import LoopLex.Word.Grammar
