import Fieldwork.Json.Text
import Fieldwork.Json.Reader
import Fieldwork.Settings.Text
import Fieldwork.Settings.JsonSchema
import Fieldwork.Failure
import Fieldwork.Schema.Kind
import Fieldwork.Scenario.Run
import Fieldwork.Proofs.Slots.Thread
import Fieldwork.Proofs.Field.Subscription
import Fieldwork.Proofs.Field.Awaiting
import Fieldwork.Proofs.Request.Cancellation
import Fieldwork.Proofs.Wiring.Install
import Fieldwork.Proofs.Request.Propagation
import Fieldwork.Proofs.Async.Siblings
import Fieldwork.Proofs.Async.Mirrored
import Fieldwork.Proofs.Field.Twice
import Fieldwork.Proofs.Wiring.Reinstall
import Fieldwork.Proofs.Field.Outcome
import Fieldwork.Proofs.Async.Overtaken
import Fieldwork.Proofs.Field.Spawned
import Fieldwork.Proofs.Field.Collected
import Fieldwork.Proofs.Field.Relayed
import Fieldwork.Proofs.Request.Lineage
import Fieldwork.Proofs.Response.Format
import Fieldwork.Proofs.Async.Turns
import Fieldwork.Proofs.Field.Asked
import Fieldwork.Proofs.Field.Views
import Fieldwork.Proofs.Wiring.Resolved
import Fieldwork.Proofs.Request.Current
import Fieldwork.Proofs.Request.Typed
import Fieldwork.Proofs.Request.Captured
import Fieldwork.Proofs.Request.Recaptured
import Fieldwork.Proofs.Field.Promised
import Fieldwork.Proofs.Settings.Schema
import Fieldwork.Proofs.Response.Builder
import Fieldwork.Proofs.Response.Path
import Fieldwork.Proofs.Field.Hints
