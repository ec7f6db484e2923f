import Minikernel.CommandLine
import Minikernel.Json.Writing
import Minikernel.Kernel.Snapshot
import Minikernel.Main
import Minikernel.Proofs.Image.Acceptance
import Minikernel.Proofs.Image.DirectoryLookup
import Minikernel.Proofs.Image.Instantiation
import Minikernel.Proofs.Image.Placement
import Minikernel.Proofs.Image.ShortestForm
import Minikernel.Proofs.Image.SizeBound
import Minikernel.Proofs.Image.Truncation
import Minikernel.Proofs.Kernel.Accounts
import Minikernel.Proofs.Kernel.AllOrNothing
import Minikernel.Proofs.Kernel.Ancestry
import Minikernel.Proofs.Kernel.ArgumentPassing
import Minikernel.Proofs.Kernel.ArgumentWalk
import Minikernel.Proofs.Kernel.CallEffects
import Minikernel.Proofs.Kernel.ConsoleInput
import Minikernel.Proofs.Kernel.ConsoleOutput
import Minikernel.Proofs.Kernel.Documents
import Minikernel.Proofs.Kernel.ExitOrder
import Minikernel.Proofs.Kernel.Halting
import Minikernel.Proofs.Kernel.History
import Minikernel.Proofs.Kernel.JoinAgreement
import Minikernel.Proofs.Kernel.Ledger
import Minikernel.Proofs.Kernel.Scheduling
import Minikernel.Proofs.Kernel.Settings
import Minikernel.Proofs.Kernel.Shutdown
import Minikernel.Proofs.Kernel.Sleeping
import Minikernel.Proofs.Kernel.StackRoom
import Minikernel.Proofs.Kernel.Starting
import Minikernel.Proofs.Kernel.StatusDelivery
import Minikernel.Proofs.Memory.ArgumentCheck
import Minikernel.Proofs.Memory.ArgumentLayout
import Minikernel.Proofs.Memory.Creation
import Minikernel.Proofs.Memory.ExactTransfer
import Minikernel.Proofs.Memory.LastWrite
import Minikernel.Proofs.Memory.Leases
import Minikernel.Proofs.Table.Accounting
import Minikernel.Proofs.Table.Aging
import Minikernel.Proofs.Table.Balance
import Minikernel.Proofs.Table.Delivery
import Minikernel.Proofs.Table.Departure
import Minikernel.Proofs.Table.History
import Minikernel.Proofs.Table.Launching
import Minikernel.Proofs.Table.Lifecycle
import Minikernel.Proofs.Table.Lookup
import Minikernel.Proofs.Table.Operations
import Minikernel.Proofs.Table.Order
import Minikernel.Proofs.Table.Orphaning
import Minikernel.Proofs.Table.Parentless
import Minikernel.Proofs.Table.Race
import Minikernel.Proofs.Table.Step
import Minikernel.Proofs.Table.Stranding
import Minikernel.Proofs.Table.Waking
import Minikernel.Proofs.User.Echo
import Minikernel.Proofs.User.Spawning
import Minikernel.Proofs.User.StackDiscipline
import Minikernel.User.Script
