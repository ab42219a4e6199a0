import DoocsBackend.Catalogue.RoundTrip
import DoocsBackend.Catalogue.Completeness
import DoocsBackend.Catalogue.Resolve
import DoocsBackend.Catalogue.Malformed
import DoocsBackend.Catalogue.Replacement
import DoocsBackend.Catalogue.Algebra
import DoocsBackend.Catalogue.Numbers
import DoocsBackend.Catalogue.Bookkeeping
import DoocsBackend.Catalogue.Caching
import DoocsBackend.Accessor.Replace
import DoocsBackend.Accessor.PartialWrite
import DoocsBackend.Accessor.Agreement
import DoocsBackend.Accessor.Reports
import DoocsBackend.Accessor.ImageConversion
import DoocsBackend.Accessor.FastPath
import DoocsBackend.Accessor.Defined
import DoocsBackend.Accessor.Atomicity
import DoocsBackend.Accessor.Transfers
import DoocsBackend.Accessor.Sizes
import DoocsBackend.Accessor.LostWrites
import DoocsBackend.Backend.StartVersion
import DoocsBackend.Backend.EventIds
import DoocsBackend.Backend.Monotonicity
import DoocsBackend.Backend.Validity
import DoocsBackend.Backend.Recovery
import DoocsBackend.Zmq.Lists
import DoocsBackend.Zmq.Membership
import DoocsBackend.Zmq.ExceptionLast
import DoocsBackend.Zmq.Activity
import DoocsBackend.Zmq.InitialValue
import DoocsBackend.Zmq.Publication
import DoocsBackend.Zmq.Construction
import DoocsBackend.Zmq.Reports
import DoocsBackend.Zmq.Closed
import DoocsBackend.Zmq.Locks
import DoocsBackend.Zmq.Interference
import DoocsBackend.Zmq.LogicErrors
import DoocsBackend.Zmq.ErrorLoop
import DoocsBackend.Zmq.Attachment
import DoocsBackend.Zmq.Ownership
import DoocsBackend.Zmq.Pointers
import DoocsBackend.Zmq.Silence
import DoocsBackend.Zmq.Broadcast
import DoocsBackend.Zmq.Progress
import DoocsBackend.Zmq.Queue
import DoocsBackend.Catalogue.LifeCycle
import DoocsBackend.Zmq.Factory
import DoocsBackend.Zmq.Listed
import DoocsBackend.Catalogue.Cancellation
import DoocsBackend.Catalogue.SharedCache
import DoocsBackend.Catalogue.ReadBack
import DoocsBackend.Accessor.Overlapping
