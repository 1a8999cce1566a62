import TfSocketio.Engineio.Receive
import TfSocketio.Engineio.AfterClose
import TfSocketio.Engineio.Clones
import TfSocketio.Engineio.Retirement
import TfSocketio.Engineio.CloseCallback
import TfSocketio.Engineio.Heartbeat
import TfSocketio.Engineio.PingTimeout
import TfSocketio.Socketio.Callers
import TfSocketio.Socketio.Acks
import TfSocketio.Socketio.CloseOnce
import TfSocketio.Socketio.ReconnectBudget
import TfSocketio.Socketio.SyncClose
import TfSocketio.Socketio.Decoder
import TfSocketio.Socketio.Assembly
import TfSocketio.Socketio.Handlers
import TfSocketio.Socketio.Attachments
import TfSocketio.Socketio.SessionEpoch
import TfSocketio.Socketio.Locking
import TfSocketio.Socketio.Operations
import TfSocketio.Socketio.Dispatch
import TfSocketio.Socketio.Framing
import TfSocketio.Socketio.Reentrancy
import TfSocketio.Socketio.DispatchTasks
import TfSocketio.Socketio.ReconnectDecision
import TfSocketio.Socketio.Isolation
import TfSocketio.Socketio.AckOnce
import TfSocketio.Socketio.AckQueues
import TfSocketio.Socketio.AckDrain
import TfSocketio.Socketio.CallbackOrder
import TfSocketio.Socketio.EventIdentity
import TfSocketio.Socketio.StringPayload
import TfSocketio.Socketio.FailedConnect
import TfSocketio.Socketio.CloseSource
import TfSocketio.Socketio.EndToEnd
import TfSocketio.Socketio.TornSend
import TfSocketio.Socketio.Emission
import TfSocketio.Socketio.RoundTrip
import TfSocketio.Socketio.PollLoop
import TfSocketio.Socketio.ReconnectSettings
import TfSocketio.Socketio.AttachmentCount
import TfSocketio.Engineio.SessionId
import TfSocketio.Engineio.BuilderModes
import TfSocketio.Socketio.Connect
