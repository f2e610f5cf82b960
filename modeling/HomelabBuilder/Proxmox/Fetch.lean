import HomelabBuilder.Foundation.WorkerPool
import HomelabBuilder.Proxmox.Payload

/-! # Reading a cluster

`Client.Fetch`: the answers of a cluster and every snapshot that a reading of them may
give. Hosts and guests are read in detail by workers in any interleaving. All requests
are answered within the time a reading has.
-/

namespace HomelabBuilder.Proxmox.Reading

open WorkerPool

/-! ## Answers -/

/-- A failure with a message meant for the owner. -/
structure FetchError where
  kind : String
  message : String
  deriving DecidableEq

inductive Answer (α : Type)
  | data (value : α)
  | status (code : Nat)
  | failed (error : FetchError)

structure ClusterEntry where
  type : String
  name : String := ""
  ip : String := ""
  online : FlexNumber := some 0

structure NodeStatus where
  model : String := ""
  cores : FlexNumber := some 0
  cpus : FlexNumber := some 0
  sockets : FlexNumber := some 0
  memoryTotal : FlexNumber := some 0
  memoryUsed : FlexNumber := some 0
  rootTotal : FlexNumber := some 0
  pveVersion : String := ""
  kversion : String := ""
  uptime : FlexNumber := some 0

structure NodeInterface where
  iface : String
  type : String := ""
  active : FlexNumber := some 0
  address : String := ""
  cidr : String := ""
  gateway : String := ""
  bridgePorts : String := ""

structure ContainerInterface where
  name : String
  inet : String

structure AgentAddress where
  address : String
  type : String

structure AgentInterface where
  name : String
  addresses : List AgentAddress

/-- What the API answers to each request. A configuration is the text under each key. -/
structure Cluster where
  version : Answer String
  resources : Answer (List Resource)
  status : Answer (List ClusterEntry)
  nodeStatus : String → Answer NodeStatus
  network : String → Answer (List NodeInterface)
  config : String → GuestKind → Int → Answer (String → String)
  interfaces : String → Int → Answer (List ContainerInterface)
  agent : String → Int → Answer (List AgentInterface)

def Answer.entries {α : Type} : Answer (List α) → List α
  | .data values => values
  | _ => []

def maxDetailedNodes : Nat := 32

def maxDetailedGuests : Nat := 300

def parallelRequests : Nat := 6

/-! ## The first calls -/

/-- Why a call the whole reading depends on failed. -/
def essential {α : Type} (path : String) : Answer α → Except FetchError α
  | .data value => .ok value
  | .failed error => .error error
  | .status code =>
      if code = 401 then
        .error ⟨"auth", "Proxmox refused the token. Check the token id (user@realm!tokenname) and the secret."⟩
      else if code = 403 then
        .error ⟨"permission", "The token may not read the cluster. Give the user and the token the PVEAuditor role on /."⟩
      else if code = 404 then
        .error ⟨"protocol", "The address answered, but there is no Proxmox API at it. Check the address and the port."⟩
      else
        .error ⟨"protocol", "Proxmox answered with an error: " ++ path ++ " answered " ++
          toString code ++ "."⟩

def readVersion (cluster : Cluster) : Except FetchError String := do
  let version ← essential "/version" cluster.version
  if version = "" then
    .error ⟨"protocol", "The address answered, but not like a Proxmox API. Check the address and the port (8006 unless a proxy is in front)."⟩
  else .ok (cleanLabel version 40)

/-- An entry of `/cluster/status` names the cluster, or says where a host is. -/
def applyStatus (snapshot : Snapshot) (entry : ClusterEntry) : Snapshot :=
  if entry.type = "cluster" then { snapshot with cluster := cleanLabel entry.name 63 }
  else if entry.type = "node" then
    { snapshot with
      nodes := snapshot.nodes.map fun node =>
        if node.name = entry.name then
          { node with address := hostAddress entry.ip, online := entry.online.asBool }
        else node }
  else snapshot

def hostsHiddenNote : String :=
  "The token cannot read the hosts themselves (Sys.Audit on /). Guests are listed; processors, memory and interfaces of the hosts are not."

/-- The snapshot before hosts and guests are read in detail. -/
def opening (letters : Letters) (cluster : Cluster) : Except FetchError Snapshot := do
  let version ← readVersion cluster
  let resources ← essential "/cluster/resources" cluster.resources
  let listed := applyResources letters version resources
  let hidden := (resources.all fun entry => entry.type ≠ "node") && !listed.guests.isEmpty
  .ok (cluster.status.entries.foldl applyStatus
    { listed with notes := if hidden then [hostsHiddenNote] else [] })

/-! ## Hosts -/

/-- "8.2.4" of "pve-manager/8.2.4/faa83925c9641325". -/
def pveVersion (raw : String) : String :=
  match raw.toList.splitOn '/' with
  | _ :: version :: _ => cleanLabel (String.ofList version) 40
  | _ => cleanLabel raw 40

def hostDetailsNote : String :=
  "The token cannot read host details (Sys.Audit). Give the user and the token the PVEAuditor role on /."

def withStatus (node : Node) (status : NodeStatus) : Node :=
  let threads := status.cpus.asInt
  let memory := status.memoryTotal.toMB
  let disk := status.rootTotal.toGB
  { node with
    cpuModel := cleanLabel status.model 120
    sockets := status.sockets.asInt
    cores := status.cores.asInt
    threads := if 0 < threads then threads else node.threads
    memoryMB := if 0 < memory then memory else node.memoryMB
    memoryUsedMB := if 0 < memory then status.memoryUsed.toMB else node.memoryUsedMB
    diskGB := if 0 < disk then disk else node.diskGB
    version := pveVersion status.pveVersion
    kernel := cleanLabel status.kversion 120
    uptimeSeconds := status.uptime.asInt }

def interfaceOf (entry : NodeInterface) : Option Interface :=
  let name := cleanLabel entry.iface 40
  if name = "" then none
  else
    let address := hostAddress entry.address
    some
      { name, address
        type := cleanLabel entry.type 20
        active := entry.active.asBool
        gateway := hostAddress entry.gateway
        bridgePorts := cleanLabel entry.bridgePorts 120
        cidr := if address ≠ "" ∧ entry.cidr.contains '/' then cleanLabel entry.cidr 40 else "" }

/-- The interface with the default route is how the host is reached. -/
def Interface.IsRoute (interface : Interface) : Prop :=
  interface.gateway ≠ "" ∧ interface.address ≠ ""

instance : DecidablePred Interface.IsRoute := fun _ => inferInstanceAs (Decidable (_ ∧ _))

def addInterface (node : Node) (interface : Interface) : Node :=
  let listed := { node with interfaces := node.interfaces ++ [interface] }
  if interface.IsRoute then
    { listed with
      gateway := interface.gateway
      cidr := interface.cidr
      address := if node.address = "" then interface.address else node.address }
  else listed

def interfacesOf (cluster : Cluster) (host : String) : List Interface :=
  (cluster.network host).entries.filterMap interfaceOf

def readStatus (cluster : Cluster) (node : Node) : Node :=
  match cluster.nodeStatus node.name with
  | .data status => withStatus node status
  | _ => node

def readNode (cluster : Cluster) (node : Node) : Node :=
  if node.online then
    (interfacesOf cluster node.name).foldl addInterface (readStatus cluster node)
  else node

def nodeNotes (cluster : Cluster) (node : Node) : List String :=
  if node.online then
    match cluster.nodeStatus node.name with
    | .data _ => []
    | .status 403 => [hostDetailsNote]
    | _ => ["Host " ++ node.name ++ " did not answer with its details."]
  else []

def manyHostsNote : String := "Only the first 32 hosts were read in detail."

def hostJob (cluster : Cluster) : Job Node String where
  reports := nodeNotes cluster
  effect := readNode cluster

/-- A reading of the first hosts in detail. -/
def ReadNodes (cluster : Cluster) (snapshot after : Snapshot) : Prop :=
  let count := snapshot.nodes.length
  let notes := if maxDetailedNodes < count then addNote snapshot.notes manyHostsNote
    else snapshot.notes
  ∃ nodes' notes', Finishes parallelRequests (hostJob cluster)
    (List.range (min count maxDetailedNodes)) snapshot.nodes notes nodes' notes' ∧
    after = { snapshot with nodes := nodes', notes := notes' }

/-! ## Guests -/

section

variable (letters : Letters) (config : String → String)

/-- One card of a guest, under its number in the configuration. -/
def applyNIC (guest : Guest) (index : Nat) : Guest :=
  let line := config ("net" ++ toString index)
  if line = "" then guest
  else
    let nic := parseNIC letters line
    let carded := if guest.mac = "" then
      { guest with mac := nic.mac, bridge := nic.bridge, vlan := nic.vlan } else guest
    let addressed := if carded.ip = "" then { carded with ip := nic.ip } else carded
    if addressed.ip = "" then
      { addressed with ip := parseIPConfig letters (config ("ipconfig" ++ toString index)) }
    else addressed

def applyConfig (guest : Guest) : Guest :=
  (List.range 8).foldl (applyNIC letters config)
    { guest with os := osName letters (config "ostype") }

end

/-- The first address of a container's interfaces. -/
def containerAddress (entries : List ContainerInterface) : String :=
  ((entries.filter (·.name ≠ "lo")).map fun entry => hostAddress entry.inet).find? (· ≠ "")
    |>.getD ""

/-- Neither the loopback nor a link-local address counts. -/
def isGuestAddress (ip : String) : Bool :=
  ip ≠ "" && !"127.".toList.isPrefixOf ip.toList && !"169.254.".toList.isPrefixOf ip.toList

def agentAddress (entries : List AgentInterface) : String :=
  (((entries.filter (·.name ≠ "lo")).flatMap AgentInterface.addresses).filter
    (·.type = "ipv4") |>.map fun address => hostAddress address.address).find? isGuestAddress
    |>.getD ""

/-- A running guest that takes its address from DHCP: ask what it holds. -/
def askAddress (cluster : Cluster) (config : String → String) (guest : Guest) : Guest :=
  if guest.ip ≠ "" ∨ guest.status ≠ .running then guest
  else if guest.kind = .lxc then
    match cluster.interfaces guest.node guest.vmid with
    | .data entries => { guest with ip := containerAddress entries }
    | _ => guest
  else if config "agent" = "" ∨ (config "agent").toList.head? = some '0' then guest
  else
    match cluster.agent guest.node guest.vmid with
    | .data entries => { guest with ip := agentAddress entries }
    | _ => guest

def readGuest (letters : Letters) (cluster : Cluster) (guest : Guest) : Guest :=
  match cluster.config guest.node guest.kind guest.vmid with
  | .data config => askAddress cluster config (applyConfig letters config guest)
  | _ => guest

def guestConfigNote : String :=
  "The token cannot read guest configurations (VM.Audit), so their addresses and network cards are missing."

def guestNotes (cluster : Cluster) (guest : Guest) : List String :=
  match cluster.config guest.node guest.kind guest.vmid with
  | .status 403 => [guestConfigNote]
  | _ => []

def manyGuestsNote : String :=
  "Only the first 300 guests were read in detail; the rest are listed with their size and state."

def guestJob (letters : Letters) (cluster : Cluster) : Job Guest String where
  reports := guestNotes cluster
  effect := readGuest letters cluster

/-- A guest that is no template, on a host that is online. -/
def Wanted (nodes : List Node) (guest : Guest) : Prop :=
  guest.template = false ∧ ((nodes.reverse.find? (·.name = guest.node)).map Node.online) = some true

instance (nodes : List Node) : DecidablePred (Wanted nodes) :=
  fun _ => inferInstanceAs (Decidable (_ ∧ _))

def ReadGuests (letters : Letters) (cluster : Cluster) (snapshot after : Snapshot) : Prop :=
  let wanted := indexesOf (fun guest => decide (Wanted snapshot.nodes guest)) snapshot.guests
  let notes := if maxDetailedGuests < wanted.length then addNote snapshot.notes manyGuestsNote
    else snapshot.notes
  ∃ guests' notes', Finishes parallelRequests (guestJob letters cluster)
    (wanted.take maxDetailedGuests) snapshot.guests notes guests' notes' ∧
    after = { snapshot with guests := guests', notes := notes' }

/-! ## The whole reading -/

/-- What `Client.Fetch` may return. -/
inductive Fetch (letters : Letters) (cluster : Cluster) : Except FetchError Snapshot → Prop
  | refused {error : FetchError} : opening letters cluster = .error error →
      Fetch letters cluster (.error error)
  | read {snapshot hostsRead guestsRead : Snapshot} : opening letters cluster = .ok snapshot →
      ReadNodes cluster snapshot hostsRead → ReadGuests letters cluster hostsRead guestsRead →
      Fetch letters cluster (.ok guestsRead.sorted)

end HomelabBuilder.Proxmox.Reading
