import HomelabBuilder.Foundation.FirstFit
import HomelabBuilder.Foundation.Word
import HomelabBuilder.Net.Address

/-! # Requests, responses and device zones

The data hlbIPAM receives and answers with (`models.go`) and the address zones
of the device types (`types.go`).
-/

namespace HomelabBuilder.Ipam

/-! ## Request -/

structure RouterDTO where
  id : String
  gatewayIP : String := ""
  subnet : String := ""
  dhcpEnabled : Bool := false
  deriving DecidableEq

structure VMDTO where
  id : String
  existingIP : String := ""
  deriving DecidableEq

structure NodeDTO where
  id : String
  type : String
  connections : List String := []
  existingIP : String := ""
  vms : List VMDTO := []
  /-- Leases needed for devices behind this node that are not listed. -/
  dhcpClients : Int := 0
  deriving DecidableEq

structure ZoneOverride where
  baseOffset : Int
  step : Int
  canHostVMs : Bool
  deriving DecidableEq

structure AllocateRequest where
  routers : List RouterDTO
  nodes : List NodeDTO
  customZones : List (String × ZoneOverride) := []
  deriving DecidableEq

/-! ## Response -/

structure Issue where
  nodeID : String
  message : String
  deriving DecidableEq

structure RouterResult where
  id : String
  gatewayIP : String
  subnet : String
  dhcpStart : String := ""
  dhcpEnd : String := ""
  dhcpSize : Int := 0
  dhcpClients : Int := 0
  deriving DecidableEq

structure VMResult where
  id : String
  assignedIP : String := ""
  deriving DecidableEq

structure NodeResult where
  id : String
  type : String
  assignedIP : String := ""
  vms : List VMResult := []
  deriving DecidableEq

structure AllocateResponse where
  routers : List RouterResult
  nodes : List NodeResult
  conflicts : List Issue
  warnings : List Issue
  deriving DecidableEq

/-! ## Zones -/

structure ZoneConfig where
  baseOffset : Int
  step : Int
  canHostVMs : Bool
  deriving DecidableEq

def defaultDeviceZones : List (String × ZoneConfig) :=
  [ ("router", ⟨1, 1, false⟩),
    ("switch", ⟨10, 1, false⟩),
    ("access_point", ⟨20, 1, false⟩),
    ("ups", ⟨80, 1, false⟩),
    ("pdu", ⟨85, 1, false⟩),
    ("disk", ⟨90, 1, false⟩),
    ("nas", ⟨100, 10, true⟩),
    ("server", ⟨150, 10, true⟩),
    ("server_v2", ⟨150, 10, true⟩),
    ("firewall", ⟨2, 1, false⟩),
    ("vps", ⟨120, 10, true⟩),
    ("pc", ⟨160, 10, true⟩),
    ("minipc", ⟨170, 10, true⟩),
    ("sbc", ⟨180, 10, true⟩),
    ("gpu", ⟨190, 1, false⟩),
    ("cpu", ⟨199, 1, false⟩),
    ("hba", ⟨195, 1, false⟩),
    ("pcie", ⟨198, 1, false⟩),
    ("iot", ⟨200, 10, true⟩),
    ("modem", ⟨5, 1, false⟩),
    ("console", ⟨30, 1, false⟩) ]

def fallbackZone : ZoneConfig := ⟨220, 1, false⟩

def vmHostTypeOrder : List String :=
  ["nas", "vps", "server_v2", "server", "pc", "minipc", "sbc", "iot"]

/-- Types without an address of their own; traffic does not pass through them. -/
def nonNetworkTypes : List String :=
  ["disk", "gpu", "cpu", "hba", "pcie", "pdu", "power_outlet", "ups", "rack",
    "lan_table"]

def getZone (deviceType : String) (zones : List (String × ZoneConfig)) : ZoneConfig :=
  match zones.lookup deviceType with
  | some zone => zone
  | none => (defaultDeviceZones.lookup deviceType).getD fallbackZone

/-- Custom zones take the place of the built-in ones. -/
def mergeZones (custom : List (String × ZoneOverride)) : List (String × ZoneConfig) :=
  (custom.map fun entry =>
    (entry.1, ⟨entry.2.baseOffset, entry.2.step, entry.2.canHostVMs⟩)) ++
    defaultDeviceZones

def vmHostStartOffset : Int := 100

/-- The share of a subnet each VM host gets for its guests. -/
def calculateDynamicStep (vmHostCount : Nat) (capacity dhcpReserved : Nat) : Int :=
  if vmHostCount = 0 then 20
  else
    let margin := wrap32 (30 + dhcpReserved)
    let usable := if margin < capacity then sub32 (sub32 capacity 30) dhcpReserved else 0
    if usable < wrap32 (wrap32 vmHostCount * 2) then 2
    else
      let step := usable / wrap32 vmHostCount
      if 50 < step then 50 else if step < 2 then 2 else step

end HomelabBuilder.Ipam

/-! # One subnet

`subnet.go` and `ip.go`: reading a subnet, carving its DHCP pool, and finding
a free address in it.
-/

namespace HomelabBuilder.Ipam

open Net

/-! ## Reading a subnet -/

/-- `ipToUint32(net.ParseIP(text))`: zero for anything but an IPv4 address. -/
def ipToUint32 (text : String) : Nat := (parseIPTo4 text).getD 0

def isValidIPv4 (text : String) : Bool := (parseIPTo4 text).isSome

/-- What `parseCIDR` returns: the broadcast address is `network + capacity`. -/
structure Subnet where
  network : Nat
  capacity : Nat
  mask : Nat
  deriving DecidableEq

def Subnet.ofMask (network mask : Nat) : Subnet where
  network := network
  capacity := 2 ^ 32 - 1 - mask
  mask := mask

def Subnet.zero : Subnet where
  network := 0
  capacity := 0
  mask := 0

/-- A subnet in CIDR form, or a bare address taken as its /24. -/
def parsePrefix (subnet : String) : Option Subnet :=
  match netParseCIDR subnet with
  | some (network, mask) =>
      some (.ofMask ((to4 network).getD 0) ((to4 mask).getD 0))
  | none =>
      (parseIP subnet).map fun ip =>
        .ofMask ((to4 ip).getD 0 &&& 0xFFFFFF00) 0xFFFFFF00

/-- `parseCIDR`: `a.b.c.d/m.m.m.m`, `a.b.c.d/len` and a bare address. -/
def parseCIDR (subnet : String) : Option Subnet :=
  match cut '/' subnet.toList with
  | some (ipText, maskText) =>
      if '.' ∈ maskText then
        match parseIP (String.ofList ipText) with
        | none => none
        | some ip =>
            match parseIPTo4 (String.ofList maskText) with
            | some mask => some (.ofMask ((to4 ip).getD 0 &&& mask) mask)
            | none => parsePrefix subnet
      else parsePrefix subnet
  | none => parsePrefix subnet

theorem parseIPTo4_lt {text : String} {address : Nat}
    (parsed : parseIPTo4 text = some address) : address < 2 ^ 32 := by
  rcases Option.bind_eq_some_iff.mp parsed with ⟨ip, _, low⟩
  exact to4_lt low

@[simp] theorem ipToUint32_formatIPv4 (address : Nat) (bound : address < 2 ^ 32) :
    ipToUint32 (formatIPv4 address) = address := by
  rw [ipToUint32, parseIPTo4_formatIPv4 address bound]
  rfl

/-! ## The allocator of one subnet -/

structure SubnetAllocator where
  network : Nat
  capacity : Nat
  used : List Nat
  dhcpStart : Nat := 0
  dhcpEnd : Nat := 0
  deriving DecidableEq

namespace SubnetAllocator

def isUsable (sa : SubnetAllocator) (ip : Nat) : Bool :=
  if sa.capacity ≤ 1 then false
  else sa.network < ip && ip < wrap32 (sa.network + sa.capacity)

def isDHCPReserved (sa : SubnetAllocator) (ip : Nat) : Bool :=
  sa.dhcpStart ≠ 0 && sa.dhcpStart ≤ ip && ip ≤ sa.dhcpEnd

def isAvailable (sa : SubnetAllocator) (ip : Nat) : Bool :=
  sa.isUsable ip && !sa.isDHCPReserved ip && !sa.used.contains ip

/-- The number of addresses in the DHCP pool. -/
def dhcpPoolSize (sa : SubnetAllocator) : Int :=
  if sa.dhcpStart = 0 then 0 else sub32 sa.dhcpEnd sa.dhcpStart + 1

/-- `sa.Used[ip] = true`. -/
def markUsed (sa : SubnetAllocator) (ip : Nat) : SubnetAllocator :=
  { sa with used := ip :: sa.used }

end SubnetAllocator

/-- `uint32(math.Ceil(float64(dhcpDemand) * DHCPHeadroom))`, with a headroom
of one quarter; the product is rounded once more to a double. -/
def leasesWithHeadroom (dhcpDemand : Nat) : Nat :=
  uint32OfDouble ((roundToDouble (5 * roundToDouble dhcpDemand) + 3) / 4)

/-- The last offset of the pool counted from its first address. -/
def dhcpPoolOffset (capacity : Nat) (dhcpDemand : Int) : Nat :=
  let third := capacity / 3
  let poolSize := if third < 10 then capacity / 2 else third
  let needed := leasesWithHeadroom dhcpDemand.toNat
  if 0 < dhcpDemand ∧ poolSize + 1 < needed then needed - 1 else poolSize

/-- The bounds of the DHCP pool, both zero when it does not fit. -/
def dhcpPool (network capacity : Nat) (dhcpDemand : Int) : Nat × Nat :=
  let startOffset := if capacity < 100 then capacity / 4 else 50
  let start := wrap32 (network + startOffset)
  let stop := wrap32 (start + dhcpPoolOffset capacity dhcpDemand)
  let lastUsable := wrap32 (network + capacity - 1)
  if lastUsable < start then (0, 0)
  else if lastUsable < stop then (start, lastUsable)
  else (start, stop)

def newSubnetAllocator (subnetText gatewayIP : String) (reqDHCPEnabled : Bool)
    (dhcpDemand : Int) : SubnetAllocator :=
  let subnet := (parseCIDR subnetText).getD
    ((parseCIDR (gatewayIP ++ "/24")).getD .zero)
  let gateway := ipToUint32 gatewayIP
  let plain : SubnetAllocator :=
    { network := subnet.network, capacity := subnet.capacity, used := [] }
  let edges :=
    if 0 < subnet.capacity then
      [wrap32 (subnet.network + subnet.capacity), subnet.network]
    else [subnet.network]
  let used := if plain.isUsable gateway then gateway :: edges else edges
  if reqDHCPEnabled && 1 < subnet.capacity then
    let pool := dhcpPool subnet.network subnet.capacity dhcpDemand
    { plain with used := used, dhcpStart := pool.1, dhcpEnd := pool.2 }
  else { plain with used := used }

/-! ## Finding a free address -/

/-- The addresses from `start` up to, and without, `stop`. -/
def addressesFrom (start stop : Nat) : List Nat := List.range' start (stop - start)

namespace SubnetAllocator

/-- The order in which `AllocateSlot` tries addresses: from the offset to the
end of the subnet, then the addresses below the offset. -/
def slotOrder (sa : SubnetAllocator) (baseOffset : Int) : List Nat :=
  let offset :=
    if baseOffset < 1 ∨ sa.capacity ≤ 1 ∨ sa.capacity ≤ toUint32 baseOffset then 1
    else toUint32 baseOffset
  let startIP := wrap32 (sa.network + offset)
  addressesFrom startIP (wrap32 (sa.network + sa.capacity)) ++
    addressesFrom (wrap32 (sa.network + 1)) startIP

/-- The first free address in slot order, zero when the subnet is exhausted. -/
def allocateSlot (sa : SubnetAllocator) (baseOffset : Int) : Nat :=
  (FirstFit.pick sa.isAvailable (sa.slotOrder baseOffset)).getD 0

/-- The first free address from `start` to `stop`, both included. -/
def allocateInRange (sa : SubnetAllocator) (start stop : Nat) : Nat :=
  let start := if start ≤ sa.network then wrap32 (sa.network + 1) else start
  if sa.capacity ≤ 1 then 0
  else
    let lastUsable := wrap32 (sa.network + sa.capacity - 1)
    let stop := if lastUsable < stop then lastUsable else stop
    (FirstFit.pick sa.isAvailable (addressesFrom start (stop + 1))).getD 0

end SubnetAllocator

end HomelabBuilder.Ipam
