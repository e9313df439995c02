import NearObject.Transition.Run
import NearObject.Transition.Fifo
import NearObject.Transition.Wakeup
import NearObject.Transition.LockOrder
import NearObject.Transition.Alternation
import NearObject.Transition.Token
import NearObject.Transition.Potential
import NearObject.Transition.Atomic
import NearObject.Transition.Guarded
import NearObject.Transition.Locking
import NearObject.Transition.Protection
import NearObject.Transition.Promise
import NearObject.Encoding.Terminated
import NearObject.Encoding.PrefixFree
import NearObject.TaskQueue.Model
import NearObject.TaskQueue.Steps
import NearObject.TaskQueue.Order
import NearObject.TaskQueue.Worker
import NearObject.TaskQueue.Cancel
import NearObject.TaskQueue.Drain
import NearObject.TaskQueue.Notify
import NearObject.TaskQueue.Progress
import NearObject.TaskQueue.Futures
import NearObject.Scope.Model
import NearObject.Scope.Once
import NearObject.Scope.Termination
import NearObject.Session.Membership
import NearObject.Session.Model
import NearObject.Session.Steps
import NearObject.Session.Callers
import NearObject.Session.Gates
import NearObject.Session.Replay
import NearObject.Session.Ranging
import NearObject.Session.Lifetime
import NearObject.Session.Destruction
import NearObject.Session.Ending
import NearObject.Session.Distinct
import NearObject.Session.Deadlock
import NearObject.Session.Agreement
import NearObject.Session.Refusal
import NearObject.Session.Batch
import NearObject.Session.Progress
import NearObject.Session.Exceptions
import NearObject.Session.Linearization
import NearObject.Tlv.Simple
import NearObject.Tlv.Stream
import NearObject.Service.Runtime
import NearObject.Service.Shutdown
import NearObject.Service.Restart
import NearObject.Service.Progress
import NearObject.Service.Daemon
import NearObject.Device.Manager
import NearObject.Device.OneEntry
import NearObject.Device.UwbAgent
import NearObject.Device.Tracking
import NearObject.Device.Departure
import NearObject.Device.Probe
import NearObject.Device.Existing
import NearObject.Device.Ownership
import NearObject.Device.Interning
import NearObject.Device.Enumerator
import NearObject.Device.Starting
import NearObject.Device.Sequential
import NearObject.Device.Queries
import NearObject.Device.Discovery
import NearObject.Smartcard.Apdu
import NearObject.Smartcard.Transmission
import NearObject.Json.Value
import NearObject.Json.Text
import NearObject.Json.Truncated
import NearObject.Profile.Serializer
import NearObject.Profile.Persister
import NearObject.Profile.Manager
import NearObject.Profile.Concurrent
import NearObject.Profile.Malformed
import NearObject.Profile.Adding
import NearObject.Profile.Interrupted
import NearObject.Profile.Document
import NearObject.Profile.Queries
import NearObject.Service.Calls
import NearObject.Service.Completion
import NearObject.Service.Guarding
