import HomelabBuilder.Foundation.Matching
import HomelabBuilder.Proxmox.Snapshot

/-! # Plan and cluster

`reconcile.go`: which planned host is which Proxmox host, which guests are on
both sides, and how full each host is. The result is a report; nothing changes.
-/

namespace HomelabBuilder.Proxmox

/-- A virtual machine, container or service of the plan. `vmid` is the Proxmox id it
was imported from, 0 when it never was. -/
structure PlannedGuest where
  id : String
  name : String
  kind : String := ""
  cpus : Rat := 0
  memoryMB : Int := 0
  diskGB : Rat := 0
  status : String := ""
  vmid : Int := 0

/-- A device of the plan that can run guests. -/
structure PlannedHost where
  id : String
  name : String
  cpus : Rat := 0
  ramGB : Rat := 0
  storageGB : Rat := 0
  proxmoxNode : String := ""
  itemID : String := ""
  guests : List PlannedGuest := []

/-! ## Pairing hosts -/

def choiceNew : String := "new"
def choiceSkip : String := "skip"

inductive PairedBy
  | choice
  | link
  | inventory
  | name
  deriving DecidableEq

/-- Why a host has its device, and whether it is left out. -/
structure PairReason where
  pairedBy : Option PairedBy := none
  skip : Bool := false

/-- Which device of the plan a Proxmox host is. -/
abbrev Pairing := Matching.Decision String PairReason

abbrev Pairings := List (String × Pairing)

section

variable (planned : List PlannedHost) (itemNode choices : String → String)

/-- A choice that names nothing in the plan, or a device that is taken, is no choice. -/
def chooseHost (pairs : Pairings) (node : Node) : Pairings :=
  let choice := choices node.name
  if choice = choiceSkip then (node.name, ⟨none, { pairedBy := some .choice, skip := true }⟩) :: pairs
  else if choice = choiceNew then (node.name, ⟨none, { pairedBy := some .choice }⟩) :: pairs
  else if choice ≠ "" && planned.any (fun host => host.id = choice) &&
      choice ∉ Matching.taken pairs then
    (node.name, ⟨some choice, { pairedBy := some .choice }⟩) :: pairs
  else pairs

def pairPass (pairedBy : PairedBy) (fits : Node → PlannedHost → Bool) (nodes : List Node)
    (pairs : Pairings) : Pairings :=
  Matching.pass fits Node.name PlannedHost.id { pairedBy := some pairedBy } planned pairs nodes

/-- A host that nothing was decided for has no device. -/
def leaveOpen (pairs : Pairings) (node : Node) : Pairings :=
  if (pairs.lookup node.name).isSome then pairs else (node.name, ⟨none, {}⟩) :: pairs

/-- `PairHosts`: what the owner chose, what the plan already says, the inventory item
both stand for, an equal name. -/
def pairHosts (nodes : List Node) : Pairings :=
  let chosen := nodes.foldl (chooseHost planned choices) []
  let linked := pairPass planned .link (fun node host =>
    host.proxmoxNode ≠ "" && host.proxmoxNode = node.name) nodes chosen
  let stocked := pairPass planned .inventory (fun node host =>
    host.itemID ≠ "" && itemNode host.itemID = node.name) nodes linked
  let named := pairPass planned .name (fun node host =>
    normalizeName node.name ≠ "" && normalizeName host.name = normalizeName node.name) nodes stocked
  nodes.foldl leaveOpen named

end

/-! ## Figures -/

inductive FigureState
  | same
  | differs
  | unknown
  deriving DecidableEq

/-- One number of the plan beside the same number on the cluster. -/
structure Figure where
  planned : Rat := 0
  actual : Rat := 0
  state : FigureState := .unknown

def compare (planned actual : Rat) (same : Bool) : Figure :=
  { planned
    actual
    state := if 0 < planned ∧ 0 < actual then if same then .same else .differs else .unknown }

/-- How much of a host its guests take, by the plan and really. -/
structure Load where
  capacity : Rat := 0
  planned : Rat := 0
  actual : Rat := 0

def Load.add (load more : Load) : Load where
  capacity := load.capacity + more.capacity
  planned := load.planned + more.planned
  actual := load.actual + more.actual

def storageFits (reader : Reader) (plannedGB actualGB : Rat) : Bool :=
  reader.times plannedGB (7 / 10) ≤ actualGB && actualGB ≤ reader.times plannedGB (11 / 10)

def hostStorageGB (snapshot : Snapshot) (node : Node) : Rat :=
  let own := snapshot.localStorageGB node.name
  if 0 < own then roundHalfAway own else roundHalfAway node.diskGB

def consumes (status : String) : Bool := status ≠ statusStopped

def orDefault (value fallback : Rat) : Rat := if 0 < value then value else fallback

def defaultGuestMemoryMB : Rat := 512
def defaultGuestCPUs : Rat := 1
def defaultGuestDiskGB : Rat := 10
def tightHeadroomPercent : Int := 20

/-! ## Matching guests -/

inductive MatchedBy
  | id
  | name
  deriving DecidableEq

abbrev GuestPairs := List (Nat × Matching.Decision Nat MatchedBy)

def sameVMID (actual : Guest × Nat) (plan : PlannedGuest × Nat) : Bool :=
  0 < plan.1.vmid && plan.1.vmid = actual.1.vmid

/-- A guest linked to another id is that other guest, whatever it is called. -/
def sameName (actual : Guest × Nat) (plan : PlannedGuest × Nat) : Bool :=
  normalizeName actual.1.name ≠ "" && plan.1.vmid = 0 &&
    normalizeName plan.1.name = normalizeName actual.1.name

/-- First by the Proxmox id a guest was imported from, then by name; places in the
actual list to places in the planned one. -/
def matchGuests (planned : List PlannedGuest) (actual : List Guest) : GuestPairs :=
  let byID := Matching.pass sameVMID Prod.snd Prod.snd .id planned.zipIdx [] actual.zipIdx
  Matching.pass sameName Prod.snd Prod.snd .name planned.zipIdx byID actual.zipIdx

/-! ## Rows -/

inductive RowState
  | matched
  | discovered
  | missing
  deriving DecidableEq

structure GuestRow where
  state : RowState
  vmid : Int
  name : String
  kind : String
  status : String
  ip : String := ""
  plannedID : String := ""
  plannedName : String := ""
  matchedBy : Option MatchedBy := none
  cpus : Figure
  memoryMB : Figure
  diskGB : Rat := 0
  differs : Bool := false

def discoveredRow (guest : Guest) : GuestRow where
  state := .discovered
  vmid := guest.vmid
  name := guest.name
  kind := guest.kind
  status := guest.status
  ip := guest.ip
  diskGB := guest.diskGB
  cpus := { actual := guest.cpus }
  memoryMB := { actual := guest.memoryMB }

def matchedRow (guest : Guest) (plan : PlannedGuest) (how : MatchedBy) : GuestRow :=
  let cpus := compare plan.cpus guest.cpus (plan.cpus = guest.cpus)
  let memoryMB := compare plan.memoryMB guest.memoryMB (plan.memoryMB = guest.memoryMB)
  { discoveredRow guest with
    state := .matched
    matchedBy := some how
    plannedID := plan.id
    plannedName := plan.name
    cpus := cpus
    memoryMB := memoryMB
    differs := cpus.state = .differs || memoryMB.state = .differs ||
      (plan.status ≠ "" && plan.status ≠ guest.status) }

def missingRow (plan : PlannedGuest) : GuestRow where
  state := .missing
  name := plan.name
  kind := plan.kind
  status := plan.status
  plannedID := plan.id
  plannedName := plan.name
  vmid := plan.vmid
  cpus := { planned := plan.cpus }
  memoryMB := { planned := plan.memoryMB }

structure Counts where
  matched : Nat := 0
  differing : Nat := 0
  discovered : Nat := 0
  missing : Nat := 0

def Counts.count (counts : Counts) (row : GuestRow) : Counts :=
  match row.state with
  | .matched =>
      { counts with
        matched := counts.matched + 1
        differing := if row.differs then counts.differing + 1 else counts.differing }
  | .discovered => { counts with discovered := counts.discovered + 1 }
  | .missing => { counts with missing := counts.missing + 1 }

/-- What the loops over the guests of a host build up. -/
structure Comparison where
  rows : List GuestRow := []
  seen : List Nat := []
  counts : Counts
  memoryMB : Load := {}
  vcpus : Load := {}
  diskGB : Load := {}

section

variable (planned : List PlannedGuest) (pairs : GuestPairs)

/-- The planned guest an actual one is matched with. -/
def matchOf (place : Nat) : Option (Nat × PlannedGuest × MatchedBy) :=
  (pairs.lookup place).bind fun decision => decision.target.bind fun index =>
    planned[index]?.map fun plan => (index, plan, decision.reason)

def compareActual (state : Comparison) (entry : Guest × Nat) : Comparison :=
  let guest := entry.1
  let found := matchOf planned pairs entry.2
  let row := match found with
    | some (_, plan, how) => matchedRow guest plan how
    | none => discoveredRow guest
  let running := consumes guest.status
  { rows := state.rows ++ [row]
    seen := match found with
      | some (index, _, _) => index :: state.seen
      | none => state.seen
    counts := state.counts.count row
    diskGB := state.diskGB.add { actual := guest.diskGB }
    memoryMB := if running then state.memoryMB.add { actual := guest.memoryMB } else state.memoryMB
    vcpus := if running then state.vcpus.add { actual := guest.cpus } else state.vcpus }

def comparePlanned (state : Comparison) (entry : PlannedGuest × Nat) : Comparison :=
  let plan := entry.1
  let running := consumes plan.status
  let unseen := entry.2 ∉ state.seen
  { rows := if unseen then state.rows ++ [missingRow plan] else state.rows
    seen := state.seen
    counts := if unseen then state.counts.count (missingRow plan) else state.counts
    diskGB := state.diskGB.add { planned := orDefault plan.diskGB defaultGuestDiskGB }
    memoryMB :=
      if running then
        state.memoryMB.add { planned := orDefault plan.memoryMB defaultGuestMemoryMB }
      else state.memoryMB
    vcpus :=
      if running then state.vcpus.add { planned := orDefault plan.cpus defaultGuestCPUs }
      else state.vcpus }

end

def compareGuests (planned : List PlannedGuest) (actual : List Guest) (counts : Counts) :
    Comparison :=
  planned.zipIdx.foldl comparePlanned
    (actual.zipIdx.foldl (compareActual planned (matchGuests planned actual)) { counts := counts })

/-! ## Reports -/

/-- One Proxmox host beside the planned device it is. The headroom is the memory left
free by whichever is larger, -1 when the host's memory is not known. -/
structure HostReport where
  node : String
  online : Bool
  skipped : Bool
  plannedID : String := ""
  plannedName : String := ""
  pairedBy : Option PairedBy := none
  cpus : Figure := {}
  ramGB : Figure := {}
  storageGB : Figure := {}
  guests : List GuestRow := []
  memoryMB : Load := {}
  vcpus : Load := {}
  diskGB : Load := {}
  headroomPercent : Int := -1
  warnings : List String := []

structure Totals where
  vcpus : Load := {}
  memoryMB : Load := {}
  diskGB : Load := {}

structure Reconciliation where
  hosts : List HostReport := []
  totals : Totals := {}
  counts : Counts := {}

def headroomPercent (memoryMB : Load) : Int :=
  if 0 < memoryMB.capacity then
    roundHalfAway (100 - max memoryMB.planned memoryMB.actual / memoryMB.capacity * 100)
  else -1

def memoryWarnings (memoryMB : Load) : List String :=
  if memoryMB.capacity ≤ 0 then []
  else if memoryMB.capacity < memoryMB.actual then
    ["The running guests are given more memory than the host has."]
  else if memoryMB.capacity < memoryMB.planned then
    ["The plan gives guests more memory than the host has."]
  else if headroomPercent memoryMB < tightHeadroomPercent then
    ["Only " ++ toString (headroomPercent memoryMB) ++
      "% of the memory is left. This host is close to full."]
  else []

def diskWarnings (diskGB : Load) : List String :=
  if 0 < diskGB.capacity ∧ diskGB.capacity < diskGB.actual then
    ["The guests' disks add up to more than the host's own storage; they are thin-provisioned " ++
      "or live on shared storage."]
  else []

section

variable (reader : Reader) (snapshot : Snapshot) (planned : List PlannedHost) (pairs : Pairings)

/-- `byID[id]`, the last host of an id. -/
def plannedByID (id : String) : Option PlannedHost :=
  planned.reverse.find? fun host => host.id = id

/-- The figures of a host that is compared, and what its guests add up to. An offline
host has no figures, so the plan's are the best there are. -/
def hostReport (node : Node) (pairedBy : Option PairedBy) (plan : Option PlannedHost)
    (compared : Comparison) : HostReport :=
  let storage := hostStorageGB snapshot node
  let capacity (own : Rat) (ofPlan : PlannedHost → Rat) : Rat :=
    match plan with
    | some plan => orDefault own (ofPlan plan)
    | none => own
  let memoryMB := { compared.memoryMB with
    capacity := capacity node.memoryMB fun plan => plan.ramGB * 1024 }
  let diskGB := { compared.diskGB with
    capacity := capacity storage PlannedHost.storageGB
    planned := roundHalfAway compared.diskGB.planned
    actual := roundHalfAway compared.diskGB.actual }
  { node := node.name
    online := node.online
    skipped := false
    plannedID := (plan.map PlannedHost.id).getD ""
    plannedName := (plan.map PlannedHost.name).getD ""
    pairedBy := plan.bind fun _ => pairedBy
    cpus := match plan with
      | some plan => compare plan.cpus node.threads
          (plan.cpus = node.threads || (0 < node.cores && plan.cpus = node.cores))
      | none => { actual := node.threads }
    ramGB := match plan with
      | some plan => compare plan.ramGB (shownGB node.memoryMB)
          (memoryFits reader node.memoryMB plan.ramGB)
      | none => { actual := shownGB node.memoryMB }
    storageGB := match plan with
      | some plan => compare plan.storageGB storage (storageFits reader plan.storageGB storage)
      | none => { actual := storage }
    guests := compared.rows
    memoryMB := memoryMB
    vcpus := { compared.vcpus with capacity := capacity node.threads PlannedHost.cpus }
    diskGB := diskGB
    headroomPercent := headroomPercent memoryMB
    warnings := memoryWarnings memoryMB ++ diskWarnings diskGB }

def reconcileHost (result : Reconciliation) (node : Node) : Reconciliation :=
  let pair := (pairs.lookup node.name).getD ⟨none, {}⟩
  if pair.reason.skip then
    { result with
      hosts := result.hosts ++
        [{ node := node.name, online := node.online, skipped := true, pairedBy := pair.reason.pairedBy }] }
  else
    let plan := pair.target.bind (plannedByID planned)
    let compared := compareGuests ((plan.map PlannedHost.guests).getD [])
      (snapshot.guestsOn node.name) result.counts
    let report := hostReport reader snapshot node pair.reason.pairedBy plan compared
    { hosts := result.hosts ++ [report]
      totals :=
        { vcpus := result.totals.vcpus.add report.vcpus
          memoryMB := result.totals.memoryMB.add report.memoryMB
          diskGB := result.totals.diskGB.add report.diskGB }
      counts := compared.counts }

/-- Compares the plan with the snapshot, host by host. -/
def reconcile : Reconciliation :=
  (snapshot.nodes.insertionSort fun left right => left.name ≤ right.name).foldl
    (reconcileHost reader snapshot planned pairs) {}

end

end HomelabBuilder.Proxmox
