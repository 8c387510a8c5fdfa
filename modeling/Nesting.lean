import Nesting.Lib.Run
import Nesting.Common.Sim
import Nesting.Common.Schedule
import Nesting.Ieee8021q
import Nesting.Gating.GateController
import Nesting.Gating.System
import Nesting.Gating.LookAhead
import Nesting.Gating.Swap
import Nesting.Lib.Timeline
import Nesting.Gating.Cyclic
import Nesting.Adaptation.TrafGenGCL
import Nesting.Adaptation.Order
import Nesting.Adaptation.Poison
import Nesting.Gating.Rounds
import Nesting.Gating.Promise
import Nesting.Gating.Rewrites
import Nesting.Gating.GuardBand
import Nesting.Lib.Agenda
import Nesting.Manager.ScheduleManager
import Nesting.Manager.Execute
import Nesting.Manager.Enable
import Nesting.Manager.Change
import Nesting.Lib.Reassembly
import Nesting.Mac.TransmissionSelection
import Nesting.Mac.EtherMac
import Nesting.Mac.States
import Nesting.Mac.Conserve
import Nesting.Mac.Timing
import Nesting.Mac.Asserts
import Nesting.Adaptation.Exclusive
import Nesting.Adaptation.Turns
import Nesting.Clock.Oscillator
import Nesting.Clock.Coherent
import Nesting.Clock.Delivery
import Nesting.Clock.Frequency
import Nesting.Clock.RealtimeClock
import Nesting.Clock.LocalTime
import Nesting.Lib.Mailbox
import Nesting.Queue.CreditBasedShaper
import Nesting.Queue.ShaperSteps
import Nesting.Queue.Bandwidth
import Nesting.Queue.Coordinated
import Nesting.Queue.ShaperAsserts
import Nesting.Queue.Column
import Nesting.Queue.Network
import Nesting.Mac.Requests
import Nesting.Queue.Handshake
import Nesting.Queue.ColumnSteps
import Nesting.Queue.Notices
import Nesting.Queue.WakeUp
import Nesting.Clock.Timestamps
import Nesting.Clock.Punctual
import Nesting.Clock.LegacyClock
import Nesting.Clock.Listeners
import Nesting.Common.Normalize
import Nesting.Manager.GateSchedule
import Nesting.Lib.Grid
import Nesting.Manager.CycleTimes
import Nesting.Relay.FilteringDatabase
import Nesting.Relay.ForwardingRelayUnit
import Nesting.Lib.Chronicle
import Nesting.Relay.Loading
import Nesting.Relay.Aging
import Nesting.Udp.TrafficGenerator
import Nesting.Udp.Served
import Nesting.Manager.Operations
import Nesting.Manager.Progress
import Nesting.Manager.Tracked
import Nesting.Manager.NextGateClose
import Nesting.Gating.Closings
import Nesting.Gating.Foresight
import Nesting.Gating.Exact
import Nesting.Common.Mutators
import Nesting.Adaptation.Reserve
import Nesting.Adaptation.StepLimit
import Nesting.Adaptation.Pointers
import Nesting.Clock.Aim
import Nesting.Clock.PhaseJump
import Nesting.Clock.Drift
import Nesting.Clock.NoPast
import Nesting.Mac.Receive
import Nesting.Mac.ByteCount
import Nesting.Mac.Fragments
import Nesting.Mac.Sending
import Nesting.Mac.FragmentSizes
import Nesting.Mac.HoldAdvance
import Nesting.Mac.Deferral
import Nesting.Queue.Accounting
import Nesting.Sender.HostSchedule
import Nesting.Sender.TrafGenSched
import Nesting.Sender.Periodic
import Nesting.Relay.VlanEncap
import Nesting.Relay.VlanSurvival
import Nesting.Gating.Pace
import Nesting.Gating.LookEnds
import Nesting.Gating.HoldRequests
import Nesting.Lib.Pipeline
import Nesting.Queue.Flow
import Nesting.Mac.Link
import Nesting.Queue.EndToEnd
import Nesting.Adaptation.Regulator
import Nesting.Lib.Settle
import Nesting.Adaptation.Converge
import Nesting.Queue.QueuingFrames
import Nesting.Relay.Switch
import Nesting.Mac.LineRate
import Nesting.Queue.Priority
import Nesting.Clock.Subscriber
import Nesting.Gating.Clocked
import Nesting.Sender.Jitter
import Nesting.Sender.Clocked
import Nesting.Mac.Latency
import Nesting.Udp.OnSchedule
