import HomelabBuilder.Canvas.Store

/-! # Devices of the canvas

What an edit makes of one device: partial updates, guests and components, the
virtual network of a host, copies, and the details a LAN table starts with.
-/

namespace HomelabBuilder.Canvas

/-! ## Values as scripts read them -/

def truthy : Json → Bool
  | .null => false
  | .bool value => value
  | .num value => value ≠ 0
  | .str text => text ≠ ""
  | .arr _ => true
  | .obj _ => true

def givenAt (details : List (String × Json)) (key : String) : Option Json :=
  (details.lookup key).filter truthy

def textAt (json : Json) (key : String) : Option String :=
  (json.members.lookup key).bind Json.asString

def itemsAt (json : Json) (key : String) : List Json :=
  ((json.members.lookup key).bind Json.asArray).getD []

def membersAt (json : Json) (key : String) : List (String × Json) :=
  ((json.members.lookup key).map Json.members).getD []

/-- An id that is set: an empty one counts as none. -/
def idOf (id : Option String) : Option String := id.filter (· ≠ "")

/-! ## Partial updates -/

/-- `Partial<HardwareNode>`. -/
structure DevicePatch where
  id : Option String := none
  type : Option String := none
  name : Option String := none
  ip : Option String := none
  macAddress : Option String := none
  powerDraw : Option (Option Rat) := none
  x : Option Rat := none
  y : Option Rat := none
  details : Option (Option (List (String × Json))) := none
  vms : Option (Option (List Guest)) := none
  internalComponents : Option (Option (List Component)) := none
  parentID : Option (Option String) := none

/-- `{ ...device, ...patch }`. -/
def DevicePatch.apply (patch : DevicePatch) (device : HardwareNode) : HardwareNode where
  id := patch.id.getD device.id
  type := patch.type.getD device.type
  name := patch.name.getD device.name
  ip := patch.ip.getD device.ip
  macAddress := patch.macAddress.getD device.macAddress
  powerDraw := patch.powerDraw.getD device.powerDraw
  x := patch.x.getD device.x
  y := patch.y.getD device.y
  details := patch.details.getD device.details
  vms := patch.vms.getD device.vms
  internalComponents := patch.internalComponents.getD device.internalComponents
  parentID := patch.parentID.getD device.parentID

/-- `Partial<VirtualMachine>`. -/
structure GuestPatch where
  id : Option String := none
  name : Option String := none
  type : Option String := none
  ip : Option String := none
  macAddress : Option String := none
  os : Option String := none
  cpuCores : Option Rat := none
  ramMB : Option Int := none
  status : Option String := none
  details : Option Json := none

def GuestPatch.apply (patch : GuestPatch) (vm : Guest) : Guest where
  id := patch.id.getD vm.id
  name := patch.name.getD vm.name
  type := patch.type.getD vm.type
  ip := patch.ip.getD vm.ip
  macAddress := patch.macAddress.getD vm.macAddress
  os := patch.os.getD vm.os
  cpuCores := patch.cpuCores.getD vm.cpuCores
  ramMB := patch.ramMB.getD vm.ramMB
  status := patch.status.getD vm.status
  details := patch.details.getD vm.details

/-- `Partial<HardwareComponent>`. -/
structure ComponentPatch where
  id : Option String := none
  type : Option String := none
  name : Option String := none
  powerDraw : Option Rat := none
  details : Option Json := none

def ComponentPatch.apply (patch : ComponentPatch) (component : Component) : Component where
  id := patch.id.getD component.id
  type := patch.type.getD component.type
  name := patch.name.getD component.name
  powerDraw := patch.powerDraw.getD component.powerDraw
  details := patch.details.getD component.details

/-! ## Virtual networks -/

def virtualNetworkKey : String := "virtual_network"
def uplinkID : String := "uplink"

/-- One bridge that joins all guests to the uplink. -/
def initialVirtualNetwork (host : HardwareNode) : Json :=
  .obj
    [("switches", .arr
        [.obj [("id", .str "bridge-0"), ("name", .str "vmbr0"), ("x", .num 280), ("y", .num 180)]]),
      ("positions", .obj []),
      ("edges", .arr
        (.obj [("id", .str "uplink-bridge"), ("source", .str uplinkID), ("target", .str "bridge-0")] ::
          (host.vms.getD []).map fun vm =>
            .obj [("id", .str ("bridge-" ++ vm.id)), ("source", .str "bridge-0"),
              ("target", .str vm.id)]))]

def removeVirtualEndpoints (network : Json) (ids : List String) : Json :=
  let gone (id : Option String) : Bool := id.any (· ∈ ids)
  .obj
    [("switches", .arr ((itemsAt network "switches").filter fun node => !gone (textAt node "id"))),
      ("positions", .obj ((membersAt network "positions").filter fun entry => entry.1 ∉ ids)),
      ("edges", .arr ((itemsAt network "edges").filter fun edge =>
        !gone (textAt edge "source") && !gone (textAt edge "target")))]

/-- `Object.fromEntries`: the last entry of a key counts, at the place of the first. -/
def fromEntries (entries : List (String × Json)) : List (String × Json) :=
  entries.foldl (fun object entry => Table.set object entry.1 entry.2) []

def remapVirtualEndpoints (network : Json) (ids : List (String × String)) : Json :=
  let remap (id : String) : String := (ids.lookup id).getD id
  let remapAt (edge : List (String × Json)) (key : String) : List (String × Json) :=
    match (edge.lookup key).bind Json.asString with
    | some id => Table.set edge key (.str (remap id))
    | none => edge
  .obj
    [("switches", .arr (itemsAt network "switches")),
      ("positions", .obj (fromEntries ((membersAt network "positions").map fun entry =>
        (remap entry.1, entry.2)))),
      ("edges", .arr ((itemsAt network "edges").map fun edge =>
        .obj (remapAt (remapAt edge.members "source") "target")))]

/-! ## New devices -/

def defaultTableSeats : Nat := 8
def defaultSeatWatts : Nat := 350
def tableSwitchWatts : Nat := 10
def tableSwitchSizes : List Nat := [5, 8, 16, 24, 48]
def tableSwitchSpeeds : List String := ["1 GbE", "2.5 GbE", "10 GbE"]

/-- The smallest switch that seats every player and keeps a port for the uplink. -/
def tableSwitchPortsFor (seats : Nat) : Nat :=
  (tableSwitchSizes.find? fun size => seats + 1 ≤ size).getD (seats + 1)

/-- `newTableDetails()`: the details of a new table of the usual size. -/
def newTableDetails : List (String × Json) :=
  [("seats", .num defaultTableSeats), ("seat_watts", .num defaultSeatWatts),
    ("switch_ports", .num (tableSwitchPortsFor defaultTableSeats)),
    ("switch_speed", .str (tableSwitchSpeeds.headD ""))]

/-- What a full table of the usual size pulls. -/
def newTablePowerDraw : Rat := defaultTableSeats * defaultSeatWatts + tableSwitchWatts

/-- A LAN table always has its seats, switch and power figure. -/
def completed (rawNode : HardwareNode) : HardwareNode :=
  if rawNode.type = "lan_table" ∧ ((rawNode.details.getD []).lookup "seats").isNone then
    { rawNode with
      name := if rawNode.name = "New lan_table" then "LAN Table" else rawNode.name
      details := some (Table.merge newTableDetails (rawNode.details.getD []))
      powerDraw :=
        if rawNode.powerDraw.getD 0 = 0 then some newTablePowerDraw else rawNode.powerDraw }
  else rawNode

/-- The keys that say which physical machine a device is. -/
def assetDetailKeys : List String :=
  ["inventory_item_id", "inventory_label", "inventory_quantity", "proxmox_node"]

def withoutAssetLink (details : List (String × Json)) : List (String × Json) :=
  details.filter fun entry => entry.1 ∉ assetDetailKeys

/-- Guests and components under ids of their own, taken from `fresh` in order. -/
def withFreshChildIDs (fresh : Nat → String) (node : HardwareNode) : HardwareNode :=
  let vms := node.vms.getD []
  let components := node.internalComponents.getD []
  let vmIDs := (vms.mapIdx fun index vm => (vm.id, fresh index))
  { node with
    vms := some (vms.mapIdx fun index vm => { vm with id := fresh index })
    internalComponents := some (components.mapIdx fun index component =>
      { component with id := fresh (vms.length + index) })
    details :=
      match givenAt (node.details.getD []) virtualNetworkKey with
      | some network => some (Table.set (node.details.getD []) virtualNetworkKey
          (remapVirtualEndpoints network vmIDs))
      | none => node.details }

def unlinked (component : Component) : Component :=
  match component.details with
  | .obj members => { component with details := .obj (withoutAssetLink members) }
  | _ => component

/-- The copy of a device: no address, no guests, no link to the inventory. -/
def copied (fresh : Nat → String) (newID : String) (orig : HardwareNode) : HardwareNode :=
  withFreshChildIDs fresh { orig with
    id := newID
    name := orig.name ++ " (copy)"
    ip := ""
    macAddress := ""
    x := orig.x + 40
    y := orig.y + 40
    vms := some []
    details := some (withoutAssetLink (Table.erase (orig.details.getD []) virtualNetworkKey))
    internalComponents := some ((orig.internalComponents.getD []).map unlinked) }

/-- The card of a device that was just added. -/
def newCard (type : String) (device : HardwareNode) : FlowNode where
  id := device.id
  type := type
  x := device.x
  y := device.y
  data := device
  label := device.name
  parentID := idOf device.parentID

/-! ## Guests -/

/-- A game from the catalog becomes a game server for the usual group. -/
def newGuest (services : List Service) (rawVM : Guest) : Guest :=
  let wanted := rawVM.details.members.lookup "catalog_service_id"
  match (services.find? fun service => wanted = some (.str service.id)).bind (·.game) with
  | none => rawVM
  | some game =>
      if (givenAt rawVM.details.members Gaming.instanceKey).isSome then rawVM
      else
        let server : Gaming.Instance :=
          { profile := game.slug
            players := game.playersOrDefault 0
            exposure := Gaming.exposureLAN
            portOffset := 0 }
        { rawVM with
          cpuCores := game.cpuCores server.players
          ramMB := game.ramMB server.players
          details := .obj (Table.set rawVM.details.members Gaming.instanceKey server.details) }

/-- The details of a host without one of its guests on the virtual network. -/
def detailsWithout (vmID : String) (host : HardwareNode) : List (String × Json) :=
  match givenAt (host.details.getD []) virtualNetworkKey with
  | some network => Table.set (host.details.getD []) virtualNetworkKey
      (removeVirtualEndpoints network [vmID])
  | none => host.details.getD []

/-! ## Tags -/

def tagsKey : String := "tags"

def nodeTags (node : HardwareNode) : List Json :=
  (((node.details.getD []).lookup tagsKey).bind Json.asArray).getD []

def untagged (tagID : String) (node : HardwareNode) : HardwareNode :=
  if .str tagID ∈ nodeTags node then
    { node with
      details := some (Table.set (node.details.getD []) tagsKey
        (.arr ((nodeTags node).filter (· ≠ .str tagID)))) }
  else node

end HomelabBuilder.Canvas
