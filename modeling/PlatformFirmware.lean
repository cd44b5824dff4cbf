import PlatformFirmware.ErrorRecord.Store
import PlatformFirmware.HotPlug.Service
import PlatformFirmware.ManagementMode.Dump
import PlatformFirmware.Parameter.Service
import PlatformFirmware.Proofs.LittleEndian
import PlatformFirmware.Simulation.Board
import PlatformFirmware.Simulation.SecureWorld
import PlatformFirmware.Proofs.Action
import PlatformFirmware.Proofs.ErrorRecord.Calls
import PlatformFirmware.Proofs.Trace
import PlatformFirmware.Proofs.ErrorRecord.Conservation
import PlatformFirmware.Proofs.Mailbox.Block
import PlatformFirmware.Proofs.Mailbox.Polling
import PlatformFirmware.Proofs.Mailbox.Transaction
import PlatformFirmware.Proofs.Mailbox.Freshness
import PlatformFirmware.Proofs.Mailbox.Accesses
import PlatformFirmware.Proofs.Mailbox.Timing
import PlatformFirmware.Proofs.Mailbox.Answering
import PlatformFirmware.Proofs.Mailbox.Exclusion
import PlatformFirmware.Proofs.Mailbox.Isolation
import PlatformFirmware.Proofs.SecurePartition.Lifetime
import PlatformFirmware.Proofs.HotPlug.PortMap
import PlatformFirmware.Proofs.Parameter.Confidentiality
import PlatformFirmware.Proofs.ManagementMode.Filling
import PlatformFirmware.Proofs.Parameter.Wire
import PlatformFirmware.Proofs.ManagementMode.Exchange
import PlatformFirmware.Proofs.Parameter.Backends
import PlatformFirmware.Proofs.Parameter.Refinement
import PlatformFirmware.Proofs.Parameter.Step
import PlatformFirmware.Proofs.Parameter.History
import PlatformFirmware.Proofs.ErrorRecord.Flushing
import PlatformFirmware.Proofs.ErrorRecord.Announcement
import PlatformFirmware.Proofs.ErrorRecord.Publication
import PlatformFirmware.Proofs.ErrorRecord.Parsing
import PlatformFirmware.Proofs.ErrorRecord.BootLog
import PlatformFirmware.Proofs.ManagementMode.Delivery
import PlatformFirmware.Proofs.ManagementMode.Checked
import PlatformFirmware.Proofs.ManagementMode.Untrusted
import PlatformFirmware.Proofs.Parameter.Atomicity
import PlatformFirmware.Proofs.ErrorRecord.Formatting
import PlatformFirmware.Proofs.ErrorRecord.Loans
import PlatformFirmware.Proofs.ErrorRecord.Release
import PlatformFirmware.Proofs.ErrorRecord.TableLayout
import PlatformFirmware.Proofs.Mailbox.CommandWord
import PlatformFirmware.Proofs.Mailbox.Decoding
import PlatformFirmware.Proofs.Parameter.Gate
import PlatformFirmware.Proofs.ErrorRecord.Enabling
import PlatformFirmware.Proofs.ErrorRecord.Readiness
import PlatformFirmware.Proofs.Reporting
import PlatformFirmware.Proofs.HotPlug.Reporting
import PlatformFirmware.Proofs.Parameter.Reporting
import PlatformFirmware.Proofs.ErrorRecord.Reporting
import PlatformFirmware.Proofs.Outcomes
import PlatformFirmware.Proofs.ErrorRecord.SharedTable
import PlatformFirmware.Proofs.Mailbox.Posting
import PlatformFirmware.Proofs.Mailbox.PollingControl
import PlatformFirmware.Proofs.ManagementMode.Invocations
import PlatformFirmware.Proofs.ManagementMode.Operations
import PlatformFirmware.Proofs.Parameter.Codec
import PlatformFirmware.Proofs.Mailbox.PassThrough
import PlatformFirmware.Proofs.SecurePartition.Arguments
import PlatformFirmware.Proofs.Efi.Status
import PlatformFirmware.Proofs.Mailbox.Reencoding
import PlatformFirmware.Proofs.Parameter.Entries
