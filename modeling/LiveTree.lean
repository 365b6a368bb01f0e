import LiveTree.Channel
import LiveTree.Document
import LiveTree.Duration
import LiveTree.Command.Run
import LiveTree.Config.Load
import LiveTree.Files
import LiveTree.Grammar.Registry
import LiveTree.Main
import LiveTree.Metrics
import LiveTree.Parser
import LiveTree.Parser.Recorded
import LiveTree.Pool
import LiveTree.Workspace.History
import LiveTree.Workspace.Time
import LiveTree.Tree.Outline
import LiveTree.Tree.Compare
import LiveTree.Query.Sibling
import LiveTree.Query.Selection
import LiveTree.Proofs.Slots
import LiveTree.Proofs.Outcomes
import LiveTree.Proofs.Turns
import LiveTree.Proofs.Runs
import LiveTree.Proofs.Events
import LiveTree.Proofs.Currency
import LiveTree.Proofs.Coherence
import LiveTree.Proofs.Replay
import LiveTree.Proofs.Journal
import LiveTree.Proofs.Deliveries
import LiveTree.Proofs.Layout
import LiveTree.Proofs.Agreement
import LiveTree.Proofs.Verification
import LiveTree.Proofs.Gaps
import LiveTree.Proofs.Timers
import LiveTree.Proofs.Attempts
import LiveTree.Proofs.Moves
import LiveTree.Proofs.Tending
import LiveTree.Proofs.Reparses
import LiveTree.Proofs.Updates
import LiveTree.Proofs.Commits
import LiveTree.Proofs.Settling
import LiveTree.Proofs.Debounce
import LiveTree.Proofs.Alarms
import LiveTree.Proofs.Conservation
import LiveTree.Proofs.Bursts
import LiveTree.Proofs.Retries
import LiveTree.Proofs.Sparing
import LiveTree.Proofs.Loads
import LiveTree.Proofs.Edits
import LiveTree.Proofs.Isolation
import LiveTree.Proofs.Metering
import LiveTree.Proofs.Generations
import LiveTree.Proofs.Wakeups
import LiveTree.Proofs.Deltas
import LiveTree.Proofs.Swaps
import LiveTree.Proofs.Cursors
import LiveTree.Proofs.Copies
import LiveTree.Proofs.Settings
import LiveTree.Proofs.Prospects
import LiveTree.Proofs.EitherOrder
import LiveTree.Proofs.Ancestors
import LiveTree.Proofs.Containment
import LiveTree.Proofs.Bracketing
import LiveTree.Proofs.Comparison
import LiveTree.Proofs.Aftermath
import LiveTree.Proofs.Siblings
import LiveTree.Proofs.Extensions
import LiveTree.Proofs.Selections
import LiveTree.Proofs.Trimming
import LiveTree.Proofs.FileTypes
import LiveTree.Proofs.Positions
import LiveTree.Proofs.Outlines
import LiveTree.Proofs.Pieces
import LiveTree.Proofs.Openings
import LiveTree.Proofs.Feeding
import LiveTree.Proofs.Checkouts
import LiveTree.Proofs.Timings
import LiveTree.Proofs.Insertions
