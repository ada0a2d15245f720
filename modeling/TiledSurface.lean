import TiledSurface.Driver.Command
import TiledSurface.Driver.Summary
import TiledSurface.Json.Reader
import TiledSurface.Json.Records
import TiledSurface.Proofs.Descriptor.Table
import TiledSurface.Proofs.Driver.Attempts
import TiledSurface.Proofs.Driver.Plans
import TiledSurface.Proofs.Driver.Moves
import TiledSurface.Proofs.Driver.Runs
import TiledSurface.Proofs.Driver.Slots
import TiledSurface.Proofs.Driver.Reservations
import TiledSurface.Proofs.Driver.Shapes
import TiledSurface.Proofs.Driver.Mirror
import TiledSurface.Proofs.Driver.Translation
import TiledSurface.Proofs.Driver.Attachments
import TiledSurface.Proofs.Driver.Mappings
import TiledSurface.Proofs.Driver.Conservation
import TiledSurface.Proofs.LittleEndian
import TiledSurface.Proofs.Window.Partition
import TiledSurface.Proofs.Descriptor.Codec
import TiledSurface.Proofs.Descriptor.Regions
import TiledSurface.Proofs.Driver.DeviceMemory
import TiledSurface.Proofs.Driver.StaleMappings
import TiledSurface.Proofs.Driver.FailedConfigure
import TiledSurface.Proofs.Driver.Neighbours
import TiledSurface.Proofs.Driver.EventLog
import TiledSurface.Proofs.Driver.Sessions
import TiledSurface.Proofs.Driver.Acceptance
import TiledSurface.Proofs.Driver.Maintenance
import TiledSurface.Proofs.Driver.Cleaning
import TiledSurface.Proofs.Driver.Notes
import TiledSurface.Proofs.Driver.Programming
import TiledSurface.Proofs.Driver.Repetition
import TiledSurface.Proofs.Driver.Vacancies
import TiledSurface.Proofs.Driver.Permanence
import TiledSurface.Proofs.Driver.Afresh
import TiledSurface.Proofs.Driver.Refusals
import TiledSurface.Proofs.Fault.Accounts
import TiledSurface.Proofs.Window.FirstFit
import TiledSurface.Proofs.Fault.RateLimit
import TiledSurface.Proofs.Driver.RateLimit
import TiledSurface.Proofs.Driver.Calls
import TiledSurface.Proofs.OrderedMap
import TiledSurface.Proofs.Driver.Statistics
import TiledSurface.Proofs.Driver.Commuting
import TiledSurface.Proofs.Window.Ownership
import TiledSurface.Proofs.Window.History
import TiledSurface.Proofs.Footprint.Exact
import TiledSurface.Proofs.Footprint.Coverage
import TiledSurface.Proofs.Descriptor.Fields
import TiledSurface.Proofs.Descriptor.Blocks
import TiledSurface.Proofs.Engine.Replay
import TiledSurface.Proofs.Descriptor.Tenancies
import TiledSurface.Proofs.Fault.Addresses
import TiledSurface.Proofs.Driver.BringUp
import TiledSurface.Proofs.Window.Merging
import TiledSurface.Proofs.Json.Records
import TiledSurface.Proofs.Rounding
