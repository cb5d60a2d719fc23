import UsbTransfer.Session
import UsbTransfer.Simulated
import UsbTransfer.Dictated
import UsbTransfer.Native.Link
import UsbTransfer.Duration
import UsbTransfer.Describe
import UsbTransfer.Cli.Argument
import UsbTransfer.Json.Printer
import UsbTransfer.Json.Parser
import UsbTransfer.Json.Codec
import UsbTransfer.Trace
import UsbTransfer.Toml.Basic
import UsbTransfer.Toml.Quoted
import UsbTransfer.Toml.Parser
import UsbTransfer.Toml.Printer
import UsbTransfer.Config.File
import UsbTransfer.LogFilter
import UsbTransfer.Cli.Usage
import UsbTransfer.Cli.Execution
import UsbTransfer.Cli.Program
import UsbTransfer.Config.Json
import UsbTransfer.Cli.Json
import UsbTransfer.Main
import UsbTransfer.Text.Letter
import UsbTransfer.Pattern.Basic
import UsbTransfer.Pattern.Machine
import UsbTransfer.Proofs.Run
import UsbTransfer.Proofs.Placement
import UsbTransfer.Proofs.Settlement
import UsbTransfer.Proofs.Frame
import UsbTransfer.Proofs.Lawful
import UsbTransfer.Proofs.Course
import UsbTransfer.Proofs.Slot
import UsbTransfer.Proofs.Parking
import UsbTransfer.Proofs.Ledger
import UsbTransfer.Proofs.Delivery
import UsbTransfer.Proofs.Reuse
import UsbTransfer.Proofs.Agreement
import UsbTransfer.Proofs.Tape
import UsbTransfer.Proofs.Reference
import UsbTransfer.Proofs.Stride
import UsbTransfer.Proofs.Refusal
import UsbTransfer.Proofs.Occupancy
import UsbTransfer.Proofs.Origin
import UsbTransfer.Proofs.Retention
import UsbTransfer.Proofs.Custody
import UsbTransfer.Proofs.Boundary
import UsbTransfer.Proofs.Tenancy
import UsbTransfer.Proofs.Stock
import UsbTransfer.Proofs.Conclusion
import UsbTransfer.Proofs.Extent
import UsbTransfer.Proofs.Audience
import UsbTransfer.Proofs.Mailbox
import UsbTransfer.Proofs.Provenance
import UsbTransfer.Proofs.Sizing
import UsbTransfer.Proofs.Mirror
import UsbTransfer.Proofs.Interface
import UsbTransfer.Proofs.Claims
import UsbTransfer.Proofs.Detachment
import UsbTransfer.Proofs.Drain
import UsbTransfer.Proofs.InForce
import UsbTransfer.Proofs.Awaited
import UsbTransfer.Proofs.Modes
import UsbTransfer.Proofs.FullPackets
import UsbTransfer.Proofs.Simulation
import UsbTransfer.Proofs.Powerless
import UsbTransfer.Proofs.ClosedOnce
import UsbTransfer.Proofs.Timing
import UsbTransfer.Proofs.Crew
import UsbTransfer.Proofs.CrewSane
import UsbTransfer.Proofs.PumpHistory
import UsbTransfer.Proofs.PumpStop
import UsbTransfer.Proofs.CrewRest
import UsbTransfer.Proofs.CrewSession
import UsbTransfer.Proofs.StopsWhenTold
import UsbTransfer.Proofs.Replay
import UsbTransfer.Proofs.Confinement
import UsbTransfer.Proofs.Tolerance
import UsbTransfer.Proofs.Translation
import UsbTransfer.Proofs.Vacancy
import UsbTransfer.Proofs.Asked
import UsbTransfer.Proofs.Unanswered
import UsbTransfer.Proofs.Plain
import UsbTransfer.Proofs.Printed
import UsbTransfer.Proofs.Saving
import UsbTransfer.Proofs.OutcomeCode
import UsbTransfer.Proofs.NumberText
import UsbTransfer.Proofs.DeviceIdText
import UsbTransfer.Proofs.HexText
import UsbTransfer.Proofs.SetupStage
import UsbTransfer.Proofs.SharedStorage
import UsbTransfer.Proofs.JsonText
import UsbTransfer.Proofs.JsonForms
