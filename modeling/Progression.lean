import Progression.Expression.Compile
import Progression.Rank
import Progression.Settings.Environment
import Progression.Logging
import Progression.Database
import Progression.Json
import Progression.Store.Scope
import Progression.Service.Step
import Progression.Broadcast
import Progression.Session
import Progression.Number.Numeral
import Progression.Text.Quoted
import Progression.Text.Lines
import Progression.Text.Base64
import Progression.Text.Letter
import Progression.Text.Identifier
import Progression.Proofs.Formula
import Progression.Proofs.Entries
import Progression.Proofs.Rewrite
import Progression.Proofs.Migration
import Progression.Proofs.Rerun
import Progression.Proofs.Coherence
import Progression.Proofs.Commits
import Progression.Proofs.Rivals
import Progression.Proofs.Restarts
import Progression.Proofs.Unfinished
import Progression.Proofs.Range
import Progression.Proofs.Verdict
import Progression.Proofs.LevelNotices
import Progression.Proofs.Announcements
import Progression.Proofs.Mirror
import Progression.Proofs.Isolation
import Progression.Proofs.Acceptance
import Progression.Proofs.Canonical
import Progression.Proofs.Comparison
import Progression.Proofs.Agreement
import Progression.Proofs.Portions
import Progression.Proofs.Tabulation
import Progression.Proofs.Wholes
import Progression.Proofs.Arithmetic
import Progression.Proofs.Attempts
import Progression.Proofs.Aftermath
import Progression.Proofs.Escapes
import Progression.Proofs.Refusals
import Progression.Proofs.Dispatch
import Progression.Proofs.Execution
import Progression.Proofs.LevelMoves
import Progression.Proofs.Unheard
import Progression.Proofs.Conveyance
import Progression.Proofs.Publishing
import Progression.Proofs.Ledger
import Progression.Proofs.Nesting
import Progression.Proofs.Ranks
import Progression.Proofs.Footprint
import Progression.Proofs.Scopes
import Progression.Proofs.Reads
import Progression.Proofs.Probing
import Progression.Proofs.Rising
