import RadioFlash.Clock
import RadioFlash.Checksum
import RadioFlash.Image.Blocks
import RadioFlash.Target.Reply
import RadioFlash.Device
import RadioFlash.Link.Bench
import RadioFlash.Target.CommandMode
import RadioFlash.Xmodem.Sender
import RadioFlash.Install.Report
import RadioFlash.Host.Machine
import RadioFlash.CommandLine.Parse
import RadioFlash.Tool.Options
import RadioFlash.Journal.Pattern
import RadioFlash.Journal.Filter
import RadioFlash.Journal.Line
import RadioFlash.Text.Json
import RadioFlash.Toml.Reader
import RadioFlash.Toml.Value
import RadioFlash.Toml.Syntax
import RadioFlash.Toml.Document
import RadioFlash.Tool.Settings
import RadioFlash.Host.Workspace
import RadioFlash.Host.Responder
import RadioFlash.Tool.Console
import RadioFlash.Tool.Inspect
import RadioFlash.Tool.Load
import RadioFlash.Tool.Install
import RadioFlash.Tool.Run
import RadioFlash.CommandLine.Completion.Bash
import RadioFlash.CommandLine.Completion.Fish
import RadioFlash.CommandLine.Completion.Elvish
import RadioFlash.CommandLine.Completion.Zsh
import RadioFlash.CommandLine.Completion.PowerShell
import RadioFlash.Main
import RadioFlash.Proofs.ImageReading
import RadioFlash.Proofs.SessionRuns
import RadioFlash.Proofs.TransferSteps
import RadioFlash.Proofs.CommandSteps
import RadioFlash.Proofs.SessionFrame
import RadioFlash.Proofs.EchoTalk
import RadioFlash.Proofs.TransferTrack
import RadioFlash.Proofs.BlockTransfer
import RadioFlash.Proofs.CommandChecks
import RadioFlash.Proofs.ImageRefusal
import RadioFlash.Proofs.StatusLine
import RadioFlash.Proofs.PortDiscipline
import RadioFlash.Proofs.XmodemSend
import RadioFlash.Proofs.ImageValidation
import RadioFlash.Proofs.XmodemFailure
import RadioFlash.Proofs.EblRetries
import RadioFlash.Proofs.XmodemRetries
import RadioFlash.Proofs.XmodemSilence
import RadioFlash.Proofs.EblRound
import RadioFlash.Proofs.CrcDivision
import RadioFlash.Proofs.WrappingDeadlines
import RadioFlash.Proofs.ResponseLines
import RadioFlash.Proofs.EscapeTiming
import RadioFlash.Proofs.ReplyNumbers
import RadioFlash.Proofs.CommandCalls
import RadioFlash.Proofs.SourceAgreement
import RadioFlash.Proofs.StepChains
import RadioFlash.Proofs.RecordBounds
import RadioFlash.Proofs.BenchAgreement
