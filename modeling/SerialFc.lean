import SerialFc.Lib.Run
import SerialFc.Lib.Fifo
import SerialFc.Model.Chip
import SerialFc.Properties.Discipline
import SerialFc.Properties.StreamIntegrity
import SerialFc.Properties.Transmission
import SerialFc.Properties.Endings
import SerialFc.Properties.TransmitStream
import SerialFc.Lib.Simulation
import SerialFc.Lib.Latch
import SerialFc.Properties.EventLatch
import SerialFc.Lib.Desk
import SerialFc.Properties.DeskView
import SerialFc.Properties.DeskMoves
import SerialFc.Properties.DeskSteps
import SerialFc.Properties.RequestQueues
import SerialFc.Lib.Turns
import SerialFc.Model.CommStatus
import SerialFc.Properties.OutQueue
import SerialFc.Properties.WriteOrder
import SerialFc.Properties.PurgeBarrier
import SerialFc.Properties.ErrorGate
import SerialFc.Properties.RtsCounter
import SerialFc.Properties.HoldLaw
import SerialFc.Properties.RtsToggle
import SerialFc.Properties.InputFlow
import SerialFc.Properties.XonTiming
import SerialFc.Properties.ReceiveFlow
import SerialFc.Properties.IndexedAccess
import SerialFc.Properties.PowerCycle
import SerialFc.Properties.PcieBaud
import SerialFc.Properties.BaudDivisor
import SerialFc.Properties.DueTimes
import SerialFc.Properties.Divisions
import SerialFc.Properties.OpenAtomic
import SerialFc.Properties.RingOwnership
import SerialFc.Properties.FlushBarrier
import SerialFc.Properties.FrameFifo
import SerialFc.Properties.FrameAccount
import SerialFc.Properties.FramePass
import SerialFc.Properties.FrameTotals
import SerialFc.Model.Configure
import SerialFc.Properties.RejectedRequests
import SerialFc.Model.ReadBack
import SerialFc.Properties.SettingView
import SerialFc.Properties.SettingChange
import SerialFc.Properties.SettingRequest
import SerialFc.Properties.SettingValue
import SerialFc.Properties.RoundTrip
import SerialFc.Model.NineBit
import SerialFc.Properties.NinthBits
import SerialFc.Lib.ShiftOut
import SerialFc.Model.ClockBits
import SerialFc.Properties.ClockPins
import SerialFc.Lib.Bracket
import SerialFc.Model.ClockSearch
import SerialFc.Properties.ClockSearch
import SerialFc.Properties.ClockLimits
import SerialFc.Lib.BitField
import SerialFc.Model.ClockWord
import SerialFc.Properties.ClockWord
import SerialFc.Properties.RestartLoop
import SerialFc.Model.Lifetime
import SerialFc.Properties.Configuration
import SerialFc.Model.Routines
import SerialFc.Properties.Routines
import SerialFc.Model.QueueSize
import SerialFc.Properties.RingSize
import SerialFc.Properties.HonestResize
import SerialFc.Model.ReadWatch
import SerialFc.Properties.ReadWaits
import SerialFc.Properties.IntervalTimeout
