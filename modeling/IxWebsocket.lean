import IxWebsocket.Proofs.Moves
import IxWebsocket.Proofs.Routing
import IxWebsocket.Proofs.Send
import IxWebsocket.Proofs.Reuse
import IxWebsocket.Proofs.Connections
import IxWebsocket.Proofs.OnExit
import IxWebsocket.Pipeline
import IxWebsocket.Proofs.Transitions
import IxWebsocket.Proofs.Objects
import IxWebsocket.Proofs.Shutdown
import IxWebsocket.Proofs.Drain
import IxWebsocket.Handlers
import IxWebsocket.Proofs.ConnectionMaps
import IxWebsocket.Proofs.Demux
import IxWebsocket.Proofs.Registries
import IxWebsocket.Proofs.Broadcast
import IxWebsocket.Lib.Locks
import IxWebsocket.Locking
import IxWebsocket.Lookups
import IxWebsocket.Proofs.Deadlock
import IxWebsocket.Proofs.Lookups
import IxWebsocket.Proofs.PutGet
import IxWebsocket.Proofs.Registration
import IxWebsocket.Proofs.ServerClear
import IxWebsocket.Proofs.Snapshot
import IxWebsocket.Proofs.Mistyped
import IxWebsocket.Failures
import IxWebsocket.Proofs.Context
import IxWebsocket.Proofs.Failures
import IxWebsocket.Proofs.Delivery
import IxWebsocket.Proofs.Isolation
import IxWebsocket.Proofs.LastGiven
import IxWebsocket.Proofs.Lifetimes
import IxWebsocket.Proofs.LoopEnd
import IxWebsocket.Proofs.Replies
import IxWebsocket.Proofs.Silenced
