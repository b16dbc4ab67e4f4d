import TimingFleet.Text.Colour
import TimingFleet.Text.Grid
import TimingFleet.Text.Columns
import TimingFleet.Clock.Ticks
import TimingFleet.Clock.Duration
import TimingFleet.Register.Endpoint
import TimingFleet.Register.BoardIo
import TimingFleet.Register.Master
import TimingFleet.Error
import TimingFleet.Device.Build
import TimingFleet.Session.Procedure
import TimingFleet.EndpointGroup
import TimingFleet.Fleet
import TimingFleet.Report
import TimingFleet.Connections.Basic
import TimingFleet.Main
import TimingFleet.Proofs.Device.Registers
import TimingFleet.Proofs.Session.Serving
import TimingFleet.Proofs.Session.Granularity
import TimingFleet.Proofs.Procedure.Logic
import TimingFleet.Proofs.Register.SfpPacket
import TimingFleet.Proofs.Session.Logic
import TimingFleet.Proofs.Board.Operations
import TimingFleet.Proofs.Fleet.Seats
import TimingFleet.Proofs.Fleet.Measurement
import TimingFleet.Proofs.Fleet.Transmitters
import TimingFleet.Proofs.Fleet.EchoConditions
import TimingFleet.Proofs.Fleet.DelayOutcome
import TimingFleet.Proofs.Session.Effects
import TimingFleet.Proofs.Session.Handles
import TimingFleet.Proofs.Session.Dispatch
import TimingFleet.Proofs.Session.Lifetime
import TimingFleet.Proofs.Operation.Basic
import TimingFleet.Proofs.Operation.Leftovers
import TimingFleet.Proofs.Device.ReadoutBuffer
import TimingFleet.Proofs.EndpointGroup.Readout
import TimingFleet.Proofs.EndpointGroup.Resolve
import TimingFleet.Proofs.EndpointGroup.ReadoutAccount
import TimingFleet.Proofs.Register.PathText
import TimingFleet.Proofs.Device.EndpointLayout
import TimingFleet.Proofs.Session.Fetching
import TimingFleet.Proofs.EndpointGroup.Reports
import TimingFleet.Proofs.EndpointGroup.Switching
import TimingFleet.Proofs.EndpointGroup.Reachable
import TimingFleet.Proofs.EndpointGroup.Enabling
import TimingFleet.Proofs.Device.Agreement
import TimingFleet.Proofs.Session.Locality
import TimingFleet.Proofs.EndpointGroup.Commuting
import TimingFleet.Proofs.Board.Scan
import TimingFleet.Proofs.Operation.Arguments
import TimingFleet.Proofs.Session.Failures
import TimingFleet.Proofs.EndpointIds.Grammar
import TimingFleet.Proofs.Board.LinkFlags
import TimingFleet.Proofs.Session.PacketHistory
import TimingFleet.Proofs.Fleet.ArgumentChecks
import TimingFleet.Proofs.Fleet.Places
import TimingFleet.Proofs.Session.AddressTable
import TimingFleet.Proofs.Session.Patience
import TimingFleet.Proofs.Operation.Patience
import TimingFleet.Proofs.Connections.AddressMap
import TimingFleet.Proofs.Connections.OpenFleet
import TimingFleet.Proofs.Board.Reset
import TimingFleet.Proofs.Fleet.InOrder
import TimingFleet.Proofs.Fleet.Setup
import TimingFleet.Proofs.EndpointGroup.ExactReadout
import TimingFleet.Proofs.Board.SlotScans
import TimingFleet.Proofs.Board.PortScan
import TimingFleet.Proofs.Fleet.Scanning
import TimingFleet.Proofs.EndpointIds.FirstError
import TimingFleet.Proofs.Report.StatusTable
import TimingFleet.Proofs.Board.TimeSync
import TimingFleet.Proofs.Operation.Reports
import TimingFleet.Proofs.EndpointIds.Canonical
import TimingFleet.Proofs.Connections.SimulatedAddress
import TimingFleet.Proofs.Connections.SimulatedDevices
import TimingFleet.Proofs.Connections.Opening
import TimingFleet.Proofs.Text.Dyed
import TimingFleet.Proofs.Text.DyedGrid
import TimingFleet.Proofs.Report.Colours
import TimingFleet.Proofs.Text.Columns
import TimingFleet.Proofs.Clock.Moments
import TimingFleet.Proofs.Session.GroupReads
import TimingFleet.Proofs.Session.Faults
import TimingFleet.Proofs.CommandLine.AddressText
import TimingFleet.Proofs.Register.PacketFormat
import TimingFleet.Proofs.Register.DesignIdText
import TimingFleet.Proofs.Report.CounterTable
