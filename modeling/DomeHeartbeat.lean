import DomeHeartbeat.Reactive.Machine
import DomeHeartbeat.Reactive.Ring
import DomeHeartbeat.Reactive.Counter
import DomeHeartbeat.Reactive.Fifo
import DomeHeartbeat.Reactive.Watchdog
import DomeHeartbeat.Reactive.Alarm
import DomeHeartbeat.Reactive.Pulse
import DomeHeartbeat.Reactive.Stages
import DomeHeartbeat.Reactive.Unwinding
import DomeHeartbeat.Reactive.Refinement
import DomeHeartbeat.Reactive.Channel
import DomeHeartbeat.Reactive.Account
import DomeHeartbeat.Reactive.Progress
import DomeHeartbeat.Reactive.Loop
import DomeHeartbeat.Reactive.Preemption
import DomeHeartbeat.Firmware.Device
import DomeHeartbeat.Firmware.TimerIsr
import DomeHeartbeat.Firmware.PollUsb
import DomeHeartbeat.Firmware.PollUsbStatements
import DomeHeartbeat.Firmware.Transmitter
import DomeHeartbeat.Firmware.Usb
import DomeHeartbeat.Firmware.UsbPort
import DomeHeartbeat.Serial.Input
import DomeHeartbeat.Serial.Output
import DomeHeartbeat.Serial.PlcDrain
import DomeHeartbeat.Serial.TrafficLeds
import DomeHeartbeat.Atomic.Monitor
import DomeHeartbeat.Atomic.DeadMan
import DomeHeartbeat.Atomic.Commands
import DomeHeartbeat.Atomic.CloseCycle
import DomeHeartbeat.Atomic.Phases
import DomeHeartbeat.Atomic.Reports
import DomeHeartbeat.Atomic.Siren
import DomeHeartbeat.Atomic.SirenWarning
import DomeHeartbeat.Atomic.StrayCommands
import DomeHeartbeat.Atomic.IgnoredBytes
import DomeHeartbeat.Atomic.PlcIndependence
import DomeHeartbeat.Atomic.Transmission
import DomeHeartbeat.Atomic.TransmitBudget
import DomeHeartbeat.Atomic.Delivery
import DomeHeartbeat.Preempted.Monitor
import DomeHeartbeat.Preempted.RelayAgreement
import DomeHeartbeat.Preempted.Disable
import DomeHeartbeat.Preempted.StickyLatch
import DomeHeartbeat.Preempted.StatusReport
import DomeHeartbeat.Preempted.StatusRequests
import DomeHeartbeat.Preempted.Countdown
import DomeHeartbeat.Preempted.SecondDisable
import DomeHeartbeat.Preempted.Serialization
import DomeHeartbeat.Preempted.Blocked
import DomeHeartbeat.Preempted.CommandBudget
import DomeHeartbeat.Preempted.Transmission
import DomeHeartbeat.Preempted.Mirror
import DomeHeartbeat.Preempted.ReportRate
import DomeHeartbeat.Attached.Monitor
import DomeHeartbeat.Attached.HostBytes
import DomeHeartbeat.Attached.PollLoop
import DomeHeartbeat.Attached.Reports
import DomeHeartbeat.Attached.StatusHistory
import DomeHeartbeat.Attached.DeadHost
import DomeHeartbeat.Attached.Latency
import DomeHeartbeat.Attached.TripReport
import DomeHeartbeat.Attached.WholeDevice
