import ControllerLink.Bytes
import ControllerLink.Checksum
import ControllerLink.Console.PortList
import ControllerLink.Console.Program
import ControllerLink.Decimal.Numeral
import ControllerLink.Json.Printer
import ControllerLink.Link.CommandLine
import ControllerLink.Link.Schedule
import ControllerLink.Main
import ControllerLink.Packet.Codec
import ControllerLink.Port.Scripted
import ControllerLink.Port.Serial
import ControllerLink.Proofs.BitFlips
import ControllerLink.Proofs.ByteOrder
import ControllerLink.Proofs.ByteStrings
import ControllerLink.Proofs.Callers
import ControllerLink.Proofs.CaptureAgreement
import ControllerLink.Proofs.CaptureSummary
import ControllerLink.Proofs.CatalogCodec
import ControllerLink.Proofs.CommandUpdates
import ControllerLink.Proofs.Conservation
import ControllerLink.Proofs.CutTexts
import ControllerLink.Proofs.Cutting
import ControllerLink.Proofs.Damage
import ControllerLink.Proofs.DamagedPackets
import ControllerLink.Proofs.DebugNames
import ControllerLink.Proofs.DecoderAgreement
import ControllerLink.Proofs.Delivery
import ControllerLink.Proofs.DurationTexts
import ControllerLink.Proofs.ExactNumbers
import ControllerLink.Proofs.FailingOutput
import ControllerLink.Proofs.FatalReads
import ControllerLink.Proofs.FrameBlocks
import ControllerLink.Proofs.Gathering
import ControllerLink.Proofs.LineLayout
import ControllerLink.Proofs.LinePresentation
import ControllerLink.Proofs.LinkLog
import ControllerLink.Proofs.LinkSteps
import ControllerLink.Proofs.Loopback
import ControllerLink.Proofs.NoiseAndFailure
import ControllerLink.Proofs.Offering
import ControllerLink.Proofs.OutboundStream
import ControllerLink.Proofs.OutputLines
import ControllerLink.Proofs.PacketCodec
import ControllerLink.Proofs.PacketImage
import ControllerLink.Proofs.Patience
import ControllerLink.Proofs.Pauses
import ControllerLink.Proofs.PlainText
import ControllerLink.Proofs.Polling
import ControllerLink.Proofs.PortHealth
import ControllerLink.Proofs.Questions
import ControllerLink.Proofs.QuietGap
import ControllerLink.Proofs.ReadAll
import ControllerLink.Proofs.ReaderLog
import ControllerLink.Proofs.Reception
import ControllerLink.Proofs.Reconnection
import ControllerLink.Proofs.RecordImage
import ControllerLink.Proofs.RecordLeaves
import ControllerLink.Proofs.RegisterPeriod
import ControllerLink.Proofs.Residue
import ControllerLink.Proofs.Resumption
import ControllerLink.Proofs.ScriptedReads
import ControllerLink.Proofs.Sending
import ControllerLink.Proofs.ShiftRegister
import ControllerLink.Proofs.Shutdown
import ControllerLink.Proofs.SkippedBytes
import ControllerLink.Proofs.SpacedTexts
import ControllerLink.Proofs.SupervisorAccounts
import ControllerLink.Proofs.TelemetryDelivery
import ControllerLink.Proofs.Threads
import ControllerLink.Proofs.TokenTexts
import ControllerLink.Proofs.Utf8Text
import ControllerLink.Proofs.Verification
import ControllerLink.Proofs.WriterHistory
import ControllerLink.Record.Command
import ControllerLink.Record.Reading
import ControllerLink.Record.Telemetry
import ControllerLink.Report.Capture
import ControllerLink.Report.Reporter
import ControllerLink.Stream.Session
import ControllerLink.Stream.Writer
import ControllerLink.Text.Blank
import ControllerLink.Text.Quoted
import ControllerLink.Text.Table
import ControllerLink.Text.Utf8
