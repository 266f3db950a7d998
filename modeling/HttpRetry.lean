import HttpRetry.Json.Parser
import HttpRetry.Json.Printer
import HttpRetry.Json.Display
import HttpRetry.Text.Case
import HttpRetry.Attempt
import HttpRetry.Decision
import HttpRetry.Ledger
import HttpRetry.Blocking
import HttpRetry.Suspended
import HttpRetry.Url
import HttpRetry.Interleaving
import HttpRetry.Session
import HttpRetry.Settings.Sources
import HttpRetry.Attempt.Inspection
import HttpRetry.Logging.Session
import HttpRetry.Client
import HttpRetry.Proofs.Change
import HttpRetry.Proofs.Change.Layer
import HttpRetry.Proofs.Rounds
import HttpRetry.Proofs.Sound
import HttpRetry.Proofs.Closing
import HttpRetry.Proofs.Closing.Layer
import HttpRetry.Proofs.Closing.Moves
import HttpRetry.Proofs.Gentle
import HttpRetry.Proofs.Interrupts
import HttpRetry.Proofs.Loop
import HttpRetry.Proofs.Loop.Run
import HttpRetry.Proofs.Independence
import HttpRetry.Proofs.Cancellation
import HttpRetry.Proofs.Loop.Standard
import HttpRetry.Proofs.Loop.Capped
import HttpRetry.Proofs.Modes
import HttpRetry.Proofs.Rejected
import HttpRetry.Proofs.Untouched
import HttpRetry.Proofs.Untouched.Steps
import HttpRetry.Proofs.Delivered
import HttpRetry.Proofs.Endings
import HttpRetry.Proofs.Inserted
import HttpRetry.Proofs.Transparent
import HttpRetry.Proofs.Stacked
import HttpRetry.Proofs.Bodies
import HttpRetry.Proofs.Observed
import HttpRetry.Proofs.Passage
import HttpRetry.Proofs.Passage.Layer
import HttpRetry.Proofs.Passage.Pieces
import HttpRetry.Proofs.Passage.Run
import HttpRetry.Proofs.Passage.Moves
import HttpRetry.Proofs.Visit
import HttpRetry.Proofs.Reckoned
import HttpRetry.Proofs.Prompt
import HttpRetry.Proofs.Accounts
import HttpRetry.Proofs.Delays
import HttpRetry.Proofs.Records
import HttpRetry.Proofs.Causes
import HttpRetry.Proofs.Restrained
import HttpRetry.Proofs.Bounded
import HttpRetry.Proofs.Exhausted
import HttpRetry.Proofs.Drainage.Release
import HttpRetry.Proofs.Thresholds
import HttpRetry.Proofs.Limits
import HttpRetry.Proofs.Diagnostics
import HttpRetry.Proofs.Diagnostics.Visits
