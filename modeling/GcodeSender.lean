import GcodeSender.Main
import GcodeSender.Rehearsal
import GcodeSender.Proofs.Tracker.History
import GcodeSender.Proofs.Tracker.Order
import GcodeSender.Proofs.Tracker.Reentry
import GcodeSender.Proofs.Tracker.Flight
import GcodeSender.Proofs.Tracker.Account
import GcodeSender.Proofs.Tracker.Record
import GcodeSender.Proofs.Tracker.Still
import GcodeSender.Proofs.Tracker.Messages
import GcodeSender.Proofs.Tracker.Faults
import GcodeSender.Proofs.Machine.Report
import GcodeSender.Proofs.Gcode.Reading
import GcodeSender.Proofs.Gcode.Numbers
import GcodeSender.Proofs.Gcode.Rendering
import GcodeSender.Proofs.Text.Printable
import GcodeSender.Proofs.Text.Encoding
import GcodeSender.Proofs.Text.Wire
import GcodeSender.Proofs.Text.Lines
import GcodeSender.Proofs.Link.Deeds
import GcodeSender.Proofs.Link.Streaming
import GcodeSender.Proofs.Link.Device
import GcodeSender.Proofs.Link.FlowControl
import GcodeSender.Proofs.Link.Listening
import GcodeSender.Proofs.Link.Fates
import GcodeSender.Proofs.Link.Holes
import GcodeSender.Proofs.Tracker.Books
import GcodeSender.Proofs.Tracker.Prevailing
import GcodeSender.Proofs.Tracker.Threads
import GcodeSender.Proofs.Tracker.Turns
import GcodeSender.Proofs.Tracker.Observers
import GcodeSender.Proofs.Link.Handshake
import GcodeSender.Proofs.Link.Service
import GcodeSender.Proofs.Link.Ownership
import GcodeSender.Proofs.Tracker.Poise
import GcodeSender.Proofs.Link.Delivery
import GcodeSender.Proofs.Link.Composure
import GcodeSender.Proofs.Session.Interleaving
import GcodeSender.Proofs.Session.Completion
import GcodeSender.Proofs.Gcode.Jogging
import GcodeSender.Proofs.Tracker.Reports
import GcodeSender.Proofs.Tracker.Cancelling
import GcodeSender.Proofs.Session.Closing
import GcodeSender.Proofs.Tracker.Pace
import GcodeSender.Proofs.Tracker.Trace
import GcodeSender.Proofs.Tracker.Catchup
import GcodeSender.Proofs.Motion.Straight
import GcodeSender.Proofs.Tracker.Drift
import GcodeSender.Proofs.Geometry.Turning
import GcodeSender.Proofs.Geometry.Sweep
import GcodeSender.Proofs.Motion.Moments
import GcodeSender.Proofs.Geometry.Centre
import GcodeSender.Proofs.Motion.Helix
import GcodeSender.Proofs.Motion.Circle
import GcodeSender.Proofs.Motion.Chord
import GcodeSender.Proofs.Tracker.Landing
import GcodeSender.Proofs.Geometry.Direction
import GcodeSender.Proofs.Geometry.Radius
import GcodeSender.Proofs.Motion.Datum
import GcodeSender.Proofs.Tracker.Malformed
import GcodeSender.Proofs.Link.Disconnection
import GcodeSender.Proofs.Link.Readiness
import GcodeSender.Proofs.Gcode.Cutting
import GcodeSender.Proofs.Tracker.WordOrder
import GcodeSender.Proofs.Config.Sections
