import Iommu.Action
import Iommu.Address
import Iommu.Codec.Basic
import Iommu.Codec.Configuration
import Iommu.Codec.Names
import Iommu.Codec.Records
import Iommu.Command
import Iommu.CommandLine
import Iommu.Configuration
import Iommu.Controller.Commands
import Iommu.Controller.InPlace
import Iommu.Controller.Requests
import Iommu.Controller.State
import Iommu.Controller.Step
import Iommu.Controller.Streams
import Iommu.Controller.Translate
import Iommu.Controller.Update
import Iommu.Decimal.Shortest
import Iommu.Error
import Iommu.Event
import Iommu.Fault
import Iommu.FaultLog
import Iommu.Json.Reader
import Iommu.Json.Token
import Iommu.Json.Value
import Iommu.Json.Writer
import Iommu.LogFilter
import Iommu.Main
import Iommu.PageRequest
import Iommu.PageTable
import Iommu.Permissions
import Iommu.Proofs.Controller.Inversion
import Iommu.Proofs.Stream.Edit
import Iommu.Proofs.Stream.Walk
import Iommu.Proofs.Tlb.Index
import Iommu.Proofs.Tlb.Residence
import Iommu.Queue
import Iommu.Queue.Named
import Iommu.Resources
import Iommu.Scenario.AddressLiteral
import Iommu.Scenario.Basic
import Iommu.Scenario.Reader
import Iommu.Scenario.Report
import Iommu.Scenario.Run
import Iommu.Security
import Iommu.Sink
import Iommu.Stall
import Iommu.Stream
import Iommu.Stream.Config
import Iommu.Stream.InPlace
import Iommu.Stream.Step
import Iommu.Stream.Walk
import Iommu.Text.Blank
import Iommu.Text.Natural
import Iommu.Text.Printable
import Iommu.Text.Quoted
import Iommu.Tlb
import Iommu.Tlb.Index
import Iommu.Transaction
import Iommu.Proofs.Controller.Core
import Iommu.Proofs.Controller.WellFormed
import Iommu.Proofs.Cache.Coherent
import Iommu.Proofs.Cache.Transparent
import Iommu.Proofs.Stall.Waiting
import Iommu.Proofs.Stall.Answerable
import Iommu.Proofs.Frame.Held
import Iommu.Proofs.Frame.OutputWidth
import Iommu.Proofs.Controller.Reach
import Iommu.Proofs.Queue.Bounded
import Iommu.Proofs.Command.Turns
import Iommu.Proofs.Command.Order
import Iommu.Proofs.Tlb.Room
import Iommu.Proofs.Cache.Changes
import Iommu.Proofs.Fault.Log
import Iommu.Proofs.Controller.Sized
import Iommu.Proofs.Controller.StreamTable
import Iommu.Proofs.Controller.Populated
import Iommu.Proofs.Controller.Conforms
import Iommu.Proofs.Action
import Iommu.Proofs.Stream.InPlace
import Iommu.Proofs.Controller.Atomic
import Iommu.Proofs.Fault.Ledger
import Iommu.Proofs.Fault.Accounting
import Iommu.Proofs.Queue.Offers
import Iommu.Proofs.Queue.Fifo
import Iommu.Proofs.Event.Offered
import Iommu.Proofs.Event.Conservation
import Iommu.Proofs.Cache.Answer
import Iommu.Proofs.Command.Rounds
import Iommu.Proofs.Request.Conservation
import Iommu.Proofs.Stall.Recovery
import Iommu.Proofs.Tlb.Shares
import Iommu.Proofs.Controller.Isolation
import Iommu.Proofs.Security.Veil
import Iommu.Proofs.Security.Noninterference
import Iommu.Proofs.Tlb.Tidy
import Iommu.Proofs.Tlb.Census
import Iommu.Proofs.Tlb.History
import Iommu.Proofs.Controller.Reconfigured
import Iommu.Proofs.Tlb.Later
import Iommu.Proofs.Controller.Timeless
import Iommu.Proofs.Controller.Clock
import Iommu.Proofs.Controller.Delayed
import Iommu.Proofs.Controller.Choice
import Iommu.Proofs.Controller.Fresh
import Iommu.Proofs.Command.Effect
import Iommu.Proofs.Command.Batching
import Iommu.Proofs.Command.Range
import Iommu.Proofs.Tlb.Inclusion
import Iommu.Proofs.Stream.History
import Iommu.Proofs.Stream.Reference
import Iommu.Proofs.Stream.Page
import Iommu.Proofs.PageTable.AllOrNothing
import Iommu.Proofs.Stream.Bulk
import Iommu.Proofs.Cache.Bulk
import Iommu.Proofs.Tlb.Epoch
import Iommu.Proofs.Json.Spelling
import Iommu.Proofs.Json.Document
import Iommu.Proofs.Json.Soundness
import Iommu.Proofs.Codec.Record
import Iommu.Proofs.Codec.Configuration
import Iommu.Proofs.Codec.RoundTrip
import Iommu.Proofs.Scenario.Script
import Iommu.Proofs.Scenario.Faithful
import Iommu.Proofs.Text.Numeral
import Iommu.Proofs.Scenario.AddressGrammar
import Iommu.Proofs.Action
