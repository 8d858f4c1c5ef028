import Abnf.Json.Decimal
import Abnf.Text.Uppercase
import Abnf.Text.Entity
import Abnf.Text.Quoted
import Abnf.Text.Echo
import Abnf.Json.Record
import Abnf.Grammar.Basic
import Abnf.Grammar.Encode
import Abnf.Rendering.Render
import Abnf.Rendering.Diagnostic
import Abnf.Main
import Abnf.Proofs.Outcome
import Abnf.Proofs.Language
import Abnf.Proofs.Nesting
import Abnf.Proofs.Unambiguous
import Abnf.Proofs.Faults
import Abnf.Proofs.Anchors
import Abnf.Proofs.RoundTrip
import Abnf.Proofs.Page
import Abnf.Proofs.Names
import Abnf.Proofs.Heights
import Abnf.Proofs.Summaries
import Abnf.Proofs.Verdicts
import Abnf.Proofs.ExitCodes
import Abnf.Proofs.Lossless
import Abnf.Proofs.Expressions
import Abnf.Proofs.Json.Keeps
import Abnf.Proofs.Rejections
import Abnf.Proofs.Pointers
import Abnf.Proofs.Keys
import Abnf.Proofs.Unreferenced
import Abnf.Proofs.Comments
import Abnf.Proofs.Histories
import Abnf.Proofs.Documents
import Abnf.Proofs.Walks
import Abnf.Proofs.Codes
