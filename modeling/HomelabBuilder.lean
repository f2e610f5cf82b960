import HomelabBuilder.Assistant.ChatStream
import HomelabBuilder.Assistant.ContextNotes
import HomelabBuilder.Assistant.DecisionsTold
import HomelabBuilder.Assistant.EventStream
import HomelabBuilder.Blueprints.Blueprint
import HomelabBuilder.Blueprints.Decisions
import HomelabBuilder.Blueprints.Fit
import HomelabBuilder.Blueprints.FitMonotone
import HomelabBuilder.Canvas.CableVlans
import HomelabBuilder.Canvas.EditsInFlight
import HomelabBuilder.Canvas.GuestNetwork
import HomelabBuilder.Canvas.PortCount
import HomelabBuilder.Canvas.PortResize
import HomelabBuilder.Canvas.ProposalPreview
import HomelabBuilder.Canvas.ReviewedChanges
import HomelabBuilder.Canvas.SavedLinks
import HomelabBuilder.Canvas.UndoRedo
import HomelabBuilder.Conversation.Messages
import HomelabBuilder.Conversation.Replay
import HomelabBuilder.Conversation.StorableJSON
import HomelabBuilder.Conversation.Turns
import HomelabBuilder.Foundation.Differences
import HomelabBuilder.Foundation.Extremes
import HomelabBuilder.Foundation.Flows
import HomelabBuilder.Foundation.History
import HomelabBuilder.Foundation.Keyed
import HomelabBuilder.Foundation.LeastLoaded
import HomelabBuilder.Foundation.Matching
import HomelabBuilder.Foundation.Numerals
import HomelabBuilder.Foundation.Orderless
import HomelabBuilder.Foundation.Overrides
import HomelabBuilder.Foundation.Reports
import HomelabBuilder.Foundation.Rows
import HomelabBuilder.Foundation.Runs
import HomelabBuilder.Foundation.TokenBucket
import HomelabBuilder.Foundation.Turns
import HomelabBuilder.Foundation.Utf8
import HomelabBuilder.Foundation.WorkerPool
import HomelabBuilder.Foundation.Worklist
import HomelabBuilder.Gaming.ComposeFile
import HomelabBuilder.Gaming.Instance
import HomelabBuilder.Gaming.OwnerValues
import HomelabBuilder.Gaming.PartyPower
import HomelabBuilder.Gaming.Plan
import HomelabBuilder.Gaming.PlanPatches
import HomelabBuilder.Gaming.PlanReplay
import HomelabBuilder.Gaming.PlanSettings
import HomelabBuilder.Gaming.Registry
import HomelabBuilder.Gaming.SharedVariables
import HomelabBuilder.Inventory.Links
import HomelabBuilder.Inventory.Requests
import HomelabBuilder.Ipam.AddressOwners
import HomelabBuilder.Ipam.AddressSafety
import HomelabBuilder.Ipam.Conflicts
import HomelabBuilder.Ipam.HostBlocks
import HomelabBuilder.Ipam.HostCapacity
import HomelabBuilder.Ipam.HostRoom
import HomelabBuilder.Ipam.LeaseDemand
import HomelabBuilder.Ipam.LeasePools
import HomelabBuilder.Ipam.Membership
import HomelabBuilder.Ipam.Reallocation
import HomelabBuilder.Ipam.Requested
import HomelabBuilder.Layout.Clearance
import HomelabBuilder.Llm.ToolCallStream
import HomelabBuilder.Login.Lockout
import HomelabBuilder.Mcp.RateLimit
import HomelabBuilder.Planner.GameServerPlan
import HomelabBuilder.Planner.LanPartyPlan
import HomelabBuilder.Planner.PartyCircuits
import HomelabBuilder.Planner.PortClashes
import HomelabBuilder.Proposals.Pending
import HomelabBuilder.Proposals.Revisions
import HomelabBuilder.Proxmox.Fetch
import HomelabBuilder.Proxmox.Match
import HomelabBuilder.Proxmox.Partition
import HomelabBuilder.Proxmox.Payload
import HomelabBuilder.Proxmox.Reconcile
import HomelabBuilder.Proxmox.SameReading
import HomelabBuilder.Proxmox.Snapshot
import HomelabBuilder.Secrets.AssistantSettings
import HomelabBuilder.Secrets.Destinations
import HomelabBuilder.Secrets.Instance
import HomelabBuilder.Secrets.Integration
import HomelabBuilder.Secrets.Removals
import HomelabBuilder.Secrets.Requests
import HomelabBuilder.Services.AutomaticLANs
import HomelabBuilder.Services.CableDirection
import HomelabBuilder.Services.ComposeExport
import HomelabBuilder.Services.ConnectionKeys
import HomelabBuilder.Services.EdgeWalk
import HomelabBuilder.Services.ExportedNetwork
import HomelabBuilder.Services.ExportedServices
import HomelabBuilder.Services.GamingDetails
import HomelabBuilder.Services.LegacyPowerConversion
import HomelabBuilder.Services.NetworkRules
import HomelabBuilder.Services.PortAgreement
import HomelabBuilder.Services.PowerLoads
import HomelabBuilder.Services.RoundTrip
import HomelabBuilder.Services.SaveAlone
import HomelabBuilder.Services.SaveValidation
import HomelabBuilder.Services.StoredAddresses
import HomelabBuilder.Services.SyncGraph
import HomelabBuilder.Services.TopologyDiff
import HomelabBuilder.Services.TopologyPorts
import HomelabBuilder.Services.VirtualNetworkShape
import HomelabBuilder.Sessions.Autosave
import HomelabBuilder.Sessions.Recovery
import HomelabBuilder.Topology.Loops
import HomelabBuilder.Topology.Placement
import HomelabBuilder.Topology.Positions
import HomelabBuilder.Topology.PowerPaths
import HomelabBuilder.Topology.Racks
import HomelabBuilder.Wiring.PortValidation
import HomelabBuilder.Wiring.PowerLoads
import HomelabBuilder.Wiring.SharedDependency
