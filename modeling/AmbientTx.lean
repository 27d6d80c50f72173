import AmbientTx.Text.Blank
import AmbientTx.Text.Quoted
import AmbientTx.Json.Printer
import AmbientTx.Json.Reader
import AmbientTx.Xid
import AmbientTx.BranchMode
import AmbientTx.GlobalStatus
import AmbientTx.Role
import AmbientTx.Failure.Fault
import AmbientTx.Lock.Page
import AmbientTx.Lock.Record
import AmbientTx.Context.Slot
import AmbientTx.Context.Config
import AmbientTx.Manager.Options
import AmbientTx.World.Action
import AmbientTx.Hook
import AmbientTx.Template
import AmbientTx.Task
import AmbientTx.Script.Run
import AmbientTx.System
import AmbientTx.Proofs.Completion
import AmbientTx.Proofs.Units
import AmbientTx.Proofs.Schedule
import AmbientTx.Proofs.Lexical
import AmbientTx.Proofs.Effect
import AmbientTx.Proofs.Audit
import AmbientTx.Proofs.Course
import AmbientTx.Proofs.Bracketing
import AmbientTx.Proofs.Agreement
import AmbientTx.Proofs.Business
import AmbientTx.Proofs.Nesting
import AmbientTx.Proofs.Marks
import AmbientTx.Proofs.Spans
import AmbientTx.Proofs.Client
import AmbientTx.Proofs.Pairing
import AmbientTx.Proofs.Mirror
import AmbientTx.Proofs.Sessions
import AmbientTx.Proofs.Tracing
import AmbientTx.Proofs.Entries
import AmbientTx.Proofs.Modes
import AmbientTx.Proofs.Decoding
import AmbientTx.Proofs.Alternation
import AmbientTx.Proofs.Reports
import AmbientTx.Proofs.Destructors
import AmbientTx.Proofs.Trail
import AmbientTx.Proofs.Lives
import AmbientTx.Proofs.Passage
import AmbientTx.Proofs.Cancellation
import AmbientTx.Proofs.Settlement
import AmbientTx.Proofs.Alarms
import AmbientTx.Proofs.Requests
import AmbientTx.Proofs.Paging
import AmbientTx.Proofs.Confinement
import AmbientTx.Proofs.Beats
