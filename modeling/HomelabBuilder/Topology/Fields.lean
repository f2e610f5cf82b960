import HomelabBuilder.Topology.Operation

/-! # Fields of operations

`topology_ops_fields.go`: how names, texts, addresses and details are checked
and in which form they are stored.
-/

namespace HomelabBuilder.Topology

open Services Wiring

/-! ## Texts and numbers -/

def cleanName (value fallback : String) : Except String String := do
  let trimmed := trimSpace value
  let name := if trimmed = "" then fallback else trimmed
  require (name ≠ "") "name is required"
  require (name.length ≤ maxNameLength) "name is too long (120 characters at most)"
  .ok name

def cleanText (field value : String) (limit : Nat) : Except String String := do
  let text := trimSpace value
  require (text.length ≤ limit)
    (field ++ " is too long (" ++ toString limit ++ " characters at most)")
  .ok text

def checkRange (field : String) (value : Rat) (low high : Nat) : Except String Unit :=
  require (low ≤ value ∧ value ≤ high)
    (field ++ " must be between " ++ toString low ++ " and " ++ toString high)

def isWhole (value : Rat) : Bool := value.den = 1

/-! ## Addresses -/

def upperChar (char : Char) : Char := if char = '-' then ':' else char.toUpper

/-- `macPattern`. -/
def isMAC (text : String) : Bool :=
  text.toList.length = 17 && text.toList.zipIdx.all fun entry =>
    if entry.2 % 3 = 2 then entry.1 = ':' else entry.1 ∈ "0123456789ABCDEF".toList

/-- A hardware address the way it is stored, or "" to clear it. -/
def cleanMAC (value : String) : Except String String :=
  if trimSpace value = "" then .ok ""
  else do
    let mac := String.ofList ((trimSpace value).toList.map upperChar)
    require (isMAC mac) ("mac_address " ++ quoted (trimSpace value) ++
      " is not a hardware address (AA:BB:CC:DD:EE:FF)")
    .ok mac

def isIPv4 (value : String) : Bool :=
  (Net.parseIPTo4 value).isSome && value.toList.count '.' = 3

/-- A prefix length, or a dotted mask of ones followed by zeros. -/
def isSubnetMask (value : String) : Bool :=
  match atoi value.toList with
  | some bits => 1 ≤ bits && bits ≤ 32
  | none =>
      (Net.parseIPTo4 value).any fun mask =>
        (List.range 32).any fun ones => mask = 2 ^ 32 - 2 ^ (31 - ones)

/-! ## Details -/

/-- Details the canvas and the address planning own. -/
def reservedDetailKeys : List String :=
  ["virtual_network", "interfaces", "wan_ip", "lan_gateway_ip", "lan_subnet", "rack_position",
    "dhcp_pool", "port_config", "vlans", "port_networks", "power_load"]

def isReservedDetail (key : String) : Bool :=
  key ∈ reservedDetailKeys || (cutPrefix "blueprint_" key).isSome

def numberDetailKeys : List String :=
  ["cpu", "cpu_cores", "ram", "storage", "ports", "rack_size", "rack_units", "price_est",
    "capacity_va", "psu_count", "outlets", "capacity_w", "amps", "breaker_amps", "voltage"]

def boolDetailKeys : List String :=
  ["dhcp_enabled", "dhcp_locked", "routing_enabled", "nat_enabled", "firewall_enabled",
    "hypervisor_enabled", "app_host_enabled", "storage_enabled", "managed"]

def enumDetailKeys : List (String × List String) :=
  [("network_zone", ["wan", "lan", "dmz", "cloud"]),
    ("server_profile", ["general", "hypervisor", "storage", "gateway"])]

def maxRackSizeU : Nat := 60

/-- The bound on a number detail that has one beyond being non-negative. -/
def checkNumberDetail (key : String) (number : Rat) (nodeType : String) : Except String Unit :=
  match key with
  | "ports" =>
      require (1 ≤ number ∧ number ≤ 128 ∧ isWhole number)
        "details.ports must be a whole number from 1 to 128"
  | "rack_size" => do
      require (nodeType = "rack") "details.rack_size only applies to rack nodes"
      require (1 ≤ number ∧ number ≤ maxRackSizeU ∧ isWhole number)
        "details.rack_size must be a whole number from 1 to 60"
  | "rack_units" =>
      require (1 ≤ number ∧ number ≤ maxRackSizeU ∧ isWhole number)
        "details.rack_units must be a whole number from 1 to 60"
  | _ => .ok ()

def cleanNumberDetail (key : String) (value : Json) (nodeType : String) : Except String Json := do
  let message := "details." ++ key ++ " must be a non-negative number"
  let number ← given value.asNumber message
  require (0 ≤ number) message
  checkNumberDetail key number nodeType
  .ok (.num number)

def cleanOtherDetail (key : String) : Json → Except String Json
  | .str text => do
      require (text.utf8ByteSize ≤ maxDetailStringLength)
        ("details." ++ key ++ " is too long (2000 characters at most)")
      .ok (.str text)
  | .bool value => .ok (.bool value)
  | .num value => .ok (.num value)
  | _ => .error ("details." ++ key ++ " must be text, a number or true/false")

def cleanDetailValue (key : String) (value : Json) (nodeType : String) : Except String Json :=
  match cleanGamingDetail key value nodeType with
  | some cleaned => cleaned
  | none =>
      if key ∈ numberDetailKeys then cleanNumberDetail key value nodeType
      else if key ∈ boolDetailKeys then do
        let flag ← given value.asBool ("details." ++ key ++ " must be true or false")
        .ok (.bool flag)
      else
        match enumDetailKeys.lookup key with
        | some allowed =>
            (cleanEnum ("details." ++ key) (value.asString.getD "") allowed).map Json.str
        | none =>
            let text := trimSpace (value.asString.getD "")
            match key with
            | "public_ip" => do
                require (isIPv4 text) "details.public_ip must be an IPv4 address"
                .ok (.str text)
            | "subnet_mask" => do
                require (isSubnetMask text)
                  "details.subnet_mask must be a dotted mask such as 255.255.255.0 or a prefix length such as 24"
                .ok (.str text)
            | _ => cleanOtherDetail key value

/-- One entry of a merge patch: a null value removes the key. -/
def mergeDetail (nodeType : String) (details : List (String × Json)) (entry : String × Json) :
    Except String (List (String × Json)) := do
  require (entry.1 ≠ "" ∧ entry.1.utf8ByteSize ≤ 64) "details keys must be 1-64 characters"
  require (isReservedDetail entry.1 = false)
    ("details." ++ entry.1 ++ " is managed by the builder and cannot be set")
  match entry.2 with
  | .null => .ok (Table.erase details entry.1)
  | value => do
      let cleaned ← cleanDetailValue entry.1 value nodeType
      .ok (Table.set details entry.1 cleaned)

def mergeEntries (nodeType : String) :
    List (String × Json) → List (String × Json) → Except String (List (String × Json))
  | details, [] => .ok details
  | details, entry :: rest => do
      let details ← mergeDetail nodeType details entry
      mergeEntries nodeType details rest

def mergeDetails (details patch : List (String × Json)) (nodeType : String) :
    Except String (List (String × Json)) := do
  let merged ← mergeEntries nodeType details (byKey patch)
  require (merged.length ≤ maxDetailKeys) "details can hold at most 60 keys"
  .ok merged

/-! ## Cables -/

def connectionTypes : List String := ["ethernet", "wireless", "vpn", "power"]
def connectionDirections : List String := ["auto", "lan", "wan"]

/-- The properties of a cable an operation gives. -/
def applyConnectionFields (edge : EdgeDTO) (op : TopologyOp) : Except String EdgeDTO := do
  let edge ← whenGiven op.speed edge fun speed => do
    let speed ← cleanText "speed" speed 40
    .ok { edge with speed := speed }
  let edge ← whenGiven op.direction edge fun direction => do
    let direction ← cleanEnum "direction" direction connectionDirections
    .ok { edge with direction := direction }
  let edge ← whenGiven op.wirelessStandard edge fun standard => do
    let standard ← cleanText "wireless_standard" standard 40
    .ok { edge with wirelessStandard := standard }
  whenGiven op.subnet edge fun subnet => do
    let subnet ← cleanText "subnet" subnet 64
    .ok { edge with subnet := subnet }

def checkWireless (connectionType sourceType targetType : String) : Except String Unit :=
  require (connectionType = "wireless" → sourceType ∈ ["access_point", "iot"] ∨
    targetType ∈ ["access_point", "iot"])
    "a wireless connection needs an access point or IoT device on one end"

/-! ## Guests -/

def vmTypes : List String := ["vm", "container", "lxc", "other"]
def vmStatuses : List String := ["running", "stopped", "paused"]
def guestVMIDKey : String := "proxmox_vmid"
def guestDiskKey : String := "disk_gb"

/-- A detail that its empty value removes. -/
def setOrErase (details : List (String × Json)) (key : String) (empty : Bool) (value : Json) :
    List (String × Json) :=
  if empty then Table.erase details key else Table.set details key value

def applyStaticIP (vm : VMDTO) (value : String) : Except String VMDTO :=
  let static := trimSpace value
  if static = "" then .ok { vm with details := Table.erase vm.details "static_ip", ip := "" }
  else do
    require (isIPv4 static) ("static_ip " ++ quoted static ++ " is not an IPv4 address")
    .ok { vm with details := Table.set vm.details "static_ip" (.str static), ip := static }

def applyVMTexts (vm : VMDTO) (op : TopologyOp) : Except String VMDTO := do
  let vm ← whenGiven op.os vm fun os => do
    let os ← cleanText "os" os 80
    .ok { vm with os := os }
  let vm ← whenGiven op.status vm fun status => do
    let status ← cleanEnum "status" status vmStatuses
    .ok { vm with status := status }
  let vm ← whenGiven op.macAddress vm fun mac => do
    let mac ← cleanMAC mac
    .ok { vm with macAddress := mac }
  let vm ← whenGiven op.notes vm fun notes => do
    let notes ← cleanText "notes" notes maxDetailStringLength
    .ok { vm with details := setOrErase vm.details "notes" (notes = "") (.str notes) }
  let vm ← whenGiven op.diskGB vm fun size => do
    checkRange "disk_gb" size 0 4000000
    .ok { vm with details := setOrErase vm.details guestDiskKey (size = 0) (.num size) }
  let vm ← whenGiven op.vmid vm fun vmid => do
    require (isWhole vmid ∧ 0 ≤ vmid ∧ vmid ≤ 999999999) "vmid must be a whole number"
    .ok { vm with details := setOrErase vm.details guestVMIDKey (vmid = 0) (.num vmid) }
  whenGiven op.staticIP vm (applyStaticIP vm)

def applyVMType (vm : VMDTO) (op : TopologyOp) : Except String VMDTO :=
  if op.type = "" then .ok vm
  else do
    let vmType ← cleanEnum "type" op.type vmTypes
    .ok { vm with type := vmType }

def applyVMFields (vm : VMDTO) (op : TopologyOp) : Except String VMDTO := do
  let vm ← applyVMType vm op
  let vm ← whenGiven op.name vm fun name => do
    let name ← cleanName name ""
    .ok { vm with name := name }
  let vm ← whenGiven op.cpuCores vm fun cores => do
    checkRange "cpu_cores" cores 0 1024
    .ok { vm with cpuCores := cores }
  let vm ← whenGiven op.ramMB vm fun ram => do
    checkRange "ram_mb" ram 0 16777216
    .ok { vm with ramMB := mathRound ram }
  applyVMTexts vm op

def changedGame (floats : Floats) (server : Gaming.Instance) (op : TopologyOp) :
    Except String Gaming.Instance := do
  let server ← whenGiven op.players server fun players => do
    require (isWhole players ∧ 1 ≤ players) "players must be a whole number of at least 1"
    .ok { server with players := truncate floats players }
  let server ← whenGiven op.exposure server fun exposure =>
    .ok { server with exposure := toLower (trimSpace exposure) }
  whenGiven op.portOffset server fun offset => do
    require (isWhole offset) "port_offset must be a whole number"
    .ok { server with portOffset := truncate floats offset }

/-- Sets the game server settings of a guest and sizes it for its players. Memory
and cores given in the same operation are kept; a new server is always sized. -/
def applyGameFields (env : Env) (vm : VMDTO) (op : TopologyOp) (created : Bool) :
    Except String VMDTO := do
  let parsed ← Gaming.parseInstance (vm.details.lookup Gaming.instanceKey)
  let changed := op.players.isSome || op.exposure.isSome || op.portOffset.isSome
  match parsed with
  | none => do
      require (changed = false) (quoted vm.name ++
        " is not a game server; players, exposure and port_offset apply to services added from a game in the catalog (see list_services)")
      .ok vm
  | some server =>
      if !changed && !created then .ok vm
      else do
        let server ← changedGame env.floats server op
        let (server, profile) ← server.normalize env.profileBySlug
        let vm := { vm with
          details := Table.set vm.details Gaming.instanceKey server.details }
        if created || op.players.isSome then
          .ok { vm with
            cpuCores := if op.cpuCores.isNone then profile.cpuCores server.players else vm.cpuCores
            ramMB := if op.ramMB.isNone then profile.ramMB server.players else vm.ramMB }
        else .ok vm

/-! ## Addresses of devices -/

/-- Pins an address: the gateway address of a router, or a static address that
IPAM keeps for any other networked device. "" releases it. -/
def setNodeIP (node : NodeDTO) (value : String) : Except String NodeDTO := do
  let value := trimSpace value
  require (node.type ∉ nonNetworkTypes) (node.type ++ " nodes do not get IP addresses")
  if value = "" then
    .ok { node with ip := "", details := Table.erase node.details "dhcp_locked" }
  else do
    require (isIPv4 value) ("ip " ++ quoted value ++ " is not an IPv4 address")
    .ok { node with
      ip := value
      details := if node.type = "router" then node.details
        else Table.set node.details "dhcp_locked" (.bool true) }

end HomelabBuilder.Topology
