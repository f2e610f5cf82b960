import HomelabBuilder.Foundation.Text
import HomelabBuilder.Net.Address
import HomelabBuilder.Proxmox.Snapshot

/-! # What a cluster answers

`types.go` and `payload.go`: a snapshot with all its fields, and what is made of the
entries of `/cluster/resources` and of a guest's configuration. Numbers are exact.
-/

namespace HomelabBuilder.Proxmox.Reading

/-! ## Snapshots -/

inductive GuestKind
  | vm
  | lxc
  deriving DecidableEq

def GuestKind.text : GuestKind → String
  | .vm => "vm"
  | .lxc => "lxc"

inductive GuestStatus
  | running
  | stopped
  | paused
  deriving DecidableEq

/-- A number of the API, `none` where it is none or not finite. -/
abbrev FlexNumber := Option Rat

structure Interface where
  name : String
  type : String := ""
  active : Bool := false
  address : String := ""
  cidr : String := ""
  gateway : String := ""
  bridgePorts : String := ""
  mac : String := ""
  deriving DecidableEq

structure Node where
  name : String
  online : Bool
  address : String := ""
  cidr : String := ""
  gateway : String := ""
  cpuModel : String := ""
  sockets : Int := 0
  cores : Int := 0
  threads : Int := 0
  memoryMB : Int := 0
  memoryUsedMB : Int := 0
  diskGB : Rat := 0
  version : String := ""
  kernel : String := ""
  uptimeSeconds : Int := 0
  interfaces : List Interface := []
  deriving DecidableEq

structure Guest where
  vmid : Int
  name : String
  kind : GuestKind
  node : String
  status : GuestStatus
  template : Bool
  cpus : FlexNumber
  memoryMB : Int
  diskGB : Rat
  os : String := ""
  tags : List String
  ip : String := ""
  mac : String := ""
  bridge : String := ""
  vlan : Int := 0
  deriving DecidableEq

structure Storage where
  name : String
  node : String
  type : String
  shared : Bool
  active : Bool
  totalGB : Rat
  usedGB : Rat
  content : String
  deriving DecidableEq

structure Snapshot where
  version : String
  cluster : String := ""
  nodes : List Node := []
  guests : List Guest := []
  storage : List Storage := []
  notes : List String := []
  deriving DecidableEq

/-- The interfaces of a host in the order of their names. -/
def Node.sorted (node : Node) : Node :=
  { node with interfaces := node.interfaces.insertionSort fun left right => left.name ≤ right.name }

def storageBefore (left right : Storage) : Prop :=
  left.node < right.node ∨ left.node = right.node ∧ left.name ≤ right.name

instance : DecidableRel storageBefore := fun _ _ => inferInstanceAs (Decidable (_ ∨ _))

/-- Puts everything in one order, so two readings of the same cluster are equal. -/
def Snapshot.sorted (snapshot : Snapshot) : Snapshot :=
  { snapshot with
    nodes := (snapshot.nodes.insertionSort fun left right => left.name ≤ right.name).map Node.sorted
    guests := snapshot.guests.insertionSort fun left right => left.vmid ≤ right.vmid
    storage := snapshot.storage.insertionSort storageBefore }

/-! ## Numbers and labels -/

namespace FlexNumber

def asInt (number : FlexNumber) : Int :=
  match number with
  | none => 0
  | some value => if value < 0 ∨ 2147483647 < value then 0 else value.floor

def asBool (number : FlexNumber) : Bool := number ≠ some 0

def toGB (number : FlexNumber) : Rat :=
  match number with
  | none => 0
  | some value => if value < 0 then 0 else roundHalfAway (value / 1073741824 * 10) / 10

def toMB (number : FlexNumber) : Int :=
  match number with
  | none => 0
  | some value =>
      if value < 0 ∨ 2147483647 < value / 1048576 then 0 else roundHalfAway (value / 1048576)

end FlexNumber

/-- `strings.ToLower`, `strings.ToUpper` and `strings.EqualFold`. -/
structure Letters where
  toLower : String → String
  toUpper : String → String
  equalFold : String → String → Bool

/-- A name of a remote system, printable and of a sane length. -/
def cleanLabel (value : String) (limit : Nat) : String :=
  String.ofList (((trimSpace value).toList.filter fun char =>
    !(char.toNat < 0x20 || char.toNat = 0x7F)).take limit)

/-- The IPv4 address of "192.168.1.5/24"; "dhcp" and "manual" are no address. -/
def hostAddress (value : String) : String :=
  let trimmed := (trimSpace value).toList
  let address := ((Net.cut '/' trimmed).map Prod.fst).getD trimmed
  ((Net.parseIPTo4 (String.ofList address)).map Net.formatIPv4).getD ""

def splitTags (raw : String) : List String :=
  (((trimSpace raw).toList.splitOnP (· ∈ [';', ',', ' '])).filter (· ≠ [])).map String.ofList

/-! ## The resource list -/

/-- An entry of `/cluster/resources`. -/
structure Resource where
  type : String
  node : String := ""
  status : String := ""
  name : String := ""
  vmid : FlexNumber := some 0
  maxCPU : FlexNumber := some 0
  maxMem : FlexNumber := some 0
  mem : FlexNumber := some 0
  maxDisk : FlexNumber := some 0
  disk : FlexNumber := some 0
  uptime : FlexNumber := some 0
  template : FlexNumber := some 0
  tags : String := ""
  storage : String := ""
  plugin : String := ""
  shared : FlexNumber := some 0
  content : String := ""

section

variable (letters : Letters)

def guestStatus (raw : String) : GuestStatus :=
  if letters.toLower raw = "running" then .running
  else if letters.toLower raw ∈ ["paused", "suspended", "prelaunch"] then .paused
  else .stopped

def nodeOf (entry : Resource) : Option Node :=
  let node := cleanLabel entry.node 63
  if entry.type = "node" ∧ node ≠ "" then
    some
      { name := node
        online := letters.equalFold entry.status "online"
        threads := entry.maxCPU.asInt
        memoryMB := entry.maxMem.toMB
        memoryUsedMB := entry.mem.toMB
        diskGB := entry.maxDisk.toGB
        uptimeSeconds := entry.uptime.asInt }
  else none

def guestOf (entry : Resource) : Option Guest :=
  let node := cleanLabel entry.node 63
  let vmid := entry.vmid.asInt
  if entry.type ∈ ["qemu", "lxc"] ∧ vmid ≠ 0 ∧ node ≠ "" then
    let kind := if entry.type = "lxc" then GuestKind.lxc else .vm
    let name := cleanLabel entry.name 120
    some
      { vmid, kind, node
        name := if name = "" then kind.text ++ "-" ++ toString vmid else name
        status := guestStatus letters entry.status
        template := entry.template.asBool
        cpus := entry.maxCPU
        memoryMB := entry.maxMem.toMB
        diskGB := entry.maxDisk.toGB
        tags := splitTags entry.tags }
  else none

def storageOf (entry : Resource) : Option Storage :=
  let node := cleanLabel entry.node 63
  let name := cleanLabel entry.storage 100
  if entry.type = "storage" ∧ name ≠ "" ∧ node ≠ "" then
    some
      { name, node
        type := cleanLabel entry.plugin 40
        shared := entry.shared.asBool
        active := letters.equalFold entry.status "available"
        totalGB := entry.maxDisk.toGB
        usedGB := entry.disk.toGB
        content := cleanLabel entry.content 120 }
  else none

end

/-- The hosts that only their guests name: a token without Sys.Audit sees no hosts. -/
def unlistedNodes (known : List String) : List Guest → List Node
  | [] => []
  | guest :: rest =>
      if guest.node ∈ known then unlistedNodes known rest
      else { name := guest.node, online := true } :: unlistedNodes (guest.node :: known) rest

def listedNodes (letters : Letters) (resources : List Resource) : List Node :=
  resources.filterMap (nodeOf letters)

def listedGuests (letters : Letters) (resources : List Resource) : List Guest :=
  resources.filterMap (guestOf letters)

def listedStorage (letters : Letters) (resources : List Resource) : List Storage :=
  resources.filterMap (storageOf letters)

/-- The hosts, guests and storage of the entries. -/
def applyResources (letters : Letters) (version : String) (resources : List Resource) : Snapshot :=
  let nodes := listedNodes letters resources
  let guests := listedGuests letters resources
  { version, guests
    nodes := nodes ++ unlistedNodes (nodes.map Node.name) guests
    storage := listedStorage letters resources }

/-! ## The configuration of a guest -/

/-- What a netN line of a guest's configuration says. -/
structure GuestNIC where
  mac : String := ""
  bridge : String := ""
  vlan : Int := 0
  ip : String := ""

/-- `strconv.Atoi` where it gives a tag of a VLAN. -/
def vlanTag (value : String) : Option Int :=
  let digits := match value.toList with
    | '+' :: rest => rest
    | chars => chars
  (Net.decimal digits).bind fun tag => if 0 < tag ∧ tag < 4095 then some tag else none

/-- Six pairs of hex digits with colons between them. -/
def isHardwareAddress (value : String) : Bool :=
  value.toList.length = 17 && value.toList.zipIdx.all fun entry =>
    if entry.2 % 3 = 2 then entry.1 = ':' else Net.isHexDigit entry.1

/-- The trimmed parts of a comma-separated line with what stands left and right of "=". -/
def settingsOf (value : String) : List (String × String) :=
  (value.toList.splitOn ',').filterMap fun part =>
    (Net.cut '=' (trimSpace (String.ofList part)).toList).map fun setting =>
      (String.ofList setting.1, String.ofList setting.2)

def applySetting (letters : Letters) (nic : GuestNIC) (setting : String × String) : GuestNIC :=
  let val := trimSpace setting.2
  let key := letters.toLower setting.1
  if key = "bridge" then { nic with bridge := cleanLabel val 40 }
  else if key = "tag" then { nic with vlan := (vlanTag val).getD nic.vlan }
  else if key = "hwaddr" ∨ key = "macaddr" then
    if isHardwareAddress val then { nic with mac := letters.toUpper val } else nic
  else if key = "ip" then { nic with ip := hostAddress val }
  -- the model of a virtual card is the key: virtio=<mac>, e1000=<mac>
  else if nic.mac = "" ∧ isHardwareAddress val then { nic with mac := letters.toUpper val }
  else nic

def parseNIC (letters : Letters) (value : String) : GuestNIC :=
  (settingsOf value).foldl (applySetting letters) {}

/-- The address of a cloud-init line: "ip=192.168.1.50/24,gw=192.168.1.1". -/
def parseIPConfig (letters : Letters) (value : String) : String :=
  (((settingsOf value).find? fun setting => letters.equalFold setting.1 "ip").map
    fun setting => hostAddress setting.2).getD ""

def osNames : List (String × String) := [
  ("l26", "Linux"), ("l24", "Linux 2.4"), ("other", ""),
  ("win11", "Windows 11"), ("win10", "Windows 10"), ("win8", "Windows 8"), ("win7", "Windows 7"),
  ("wvista", "Windows Vista"), ("wxp", "Windows XP"), ("w2k", "Windows 2000"),
  ("w2k3", "Windows Server 2003"), ("w2k8", "Windows Server 2008"), ("solaris", "Solaris"),
  ("debian", "Debian"), ("ubuntu", "Ubuntu"), ("alpine", "Alpine Linux"), ("centos", "CentOS"),
  ("fedora", "Fedora"), ("archlinux", "Arch Linux"), ("opensuse", "openSUSE"), ("gentoo", "Gentoo"),
  ("nixos", "NixOS"), ("devuan", "Devuan"), ("unmanaged", "")]

def osName (letters : Letters) (ostype : String) : String :=
  let ostype := letters.toLower (trimSpace ostype)
  (osNames.lookup ostype).getD (cleanLabel ostype 40)

end HomelabBuilder.Proxmox.Reading
