import Pantry.Machine.Program
import Pantry.Machine.Memory
import Pantry.Machine.Align
import Pantry.Machine.Footprint
import Pantry.Machine.Writes
import Pantry.Machine.Image
import Pantry.Machine.Transition
import Pantry.Machine.Batching
import Pantry.Machine.Bump
import Pantry.Machine.Span
import Pantry.Machine.Loop
import Pantry.Machine.Frame
import Pantry.Machine.Cover
import Pantry.Panwrap.Tracker
import Pantry.Panwrap.Translate
import Pantry.Panwrap.Bounds
import Pantry.Panwrap.Log
import Pantry.Panwrap.Hexdump
import Pantry.Panwrap.Flags
import Pantry.Decoder.Context
import Pantry.Decoder.Section
import Pantry.Decoder.Layout
import Pantry.Decoder.Trace
import Pantry.Decoder.Rules
import Pantry.Decoder.Needs
import Pantry.Decoder.Attributes
import Pantry.Decoder.Vertices
import Pantry.Decoder.Chain
import Pantry.Decoder.Traversal
import Pantry.Decoder.Lines
import Pantry.Decoder.Widths
import Pantry.Panwrap.Request
import Pantry.Panwrap.Ioctl
import Pantry.Panwrap.Submission
import Pantry.Panwrap.Dependencies
import Pantry.Panwrap.SoftJobs
import Pantry.Panwrap.Wrappers
import Pantry.Panwrap.Dispatch
import Pantry.Panwrap.Step
import Pantry.Panwrap.Transparent
import Pantry.Panwrap.Rejections
import Pantry.Panwrap.Descriptors
import Pantry.Panwrap.Attribution
import Pantry.Panwrap.Unmapping
import Pantry.Panwrap.Unknown
import Pantry.Panwrap.Gate
import Pantry.Panwrap.Names
import Pantry.Panwrap.Time
import Pantry.Panwrap.Timestamps
import Pantry.Driver.Shim
import Pantry.Driver.Blocks
import Pantry.Driver.Queue
import Pantry.Driver.Devices
import Pantry.Driver.Numbering
import Pantry.Driver.Allocator
import Pantry.Driver.Synthesise
import Pantry.Driver.Resources
import Pantry.Driver.Encoding
import Pantry.Driver.Building
import Pantry.Driver.Helpers
import Pantry.Driver.Linked
import Pantry.Driver.Chains
import Pantry.Driver.RoundTrip
import Pantry.Driver.Trap
import Pantry.Driver.Upload
import Pantry.Driver.Batch
import Pantry.Driver.Fragment
import Pantry.Driver.Jobs
import Pantry.Driver.Workload
import Pantry.Driver.Frame
import Pantry.Driver.Session
import Pantry.Driver.Account
import Pantry.Driver.Observed
import Pantry.Driver.Prototype
import Pantry.Machine.Monitor
import Pantry.Machine.Bookkeeping
import Pantry.Machine.Ring
import Pantry.Panwrap.Nodes
import Pantry.Panwrap.Refinement
import Pantry.Panwrap.Threads
import Pantry.Panwrap.Ends
import Pantry.Panwrap.Reached
