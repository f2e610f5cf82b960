import Mathlib.Data.String.Basic
import HomelabBuilder.Foundation.Orderless
import HomelabBuilder.Proxmox.Fetch

/-! # Two readings of one cluster

A cluster may list its entries in another order at the next reading, and the workers may
be scheduled in another way. Sorting at the end makes up for that unless an earlier step
depended on the order: lists cut to their first entries, values overwritten by later
entries, notes appended by workers.
-/

namespace HomelabBuilder.Proxmox.Reading

open Orderless WorkerPool

/-! ## Answers up to order -/

inductive Answer.Reordered {α : Type} : Answer (List α) → Answer (List α) → Prop
  | data {left right : List α} : left.Perm right → Reordered (.data left) (.data right)
  | status (code : Nat) : Reordered (.status code) (.status code)
  | failed (error : FetchError) : Reordered (.failed error) (.failed error)

theorem Answer.Reordered.entries {α : Type} {left right : Answer (List α)}
    (reordered : left.Reordered right) : left.entries.Perm right.entries := by
  cases reordered with
  | data perm => exact perm
  | status code => exact .refl _
  | failed error => exact .refl _

/-- Every request gets the same answer, up to the order of the entries. -/
structure SameAnswers (cluster reading : Cluster) : Prop where
  version : reading.version = cluster.version
  resources : cluster.resources.Reordered reading.resources
  status : cluster.status.Reordered reading.status
  nodeStatus : reading.nodeStatus = cluster.nodeStatus
  network : ∀ host, (cluster.network host).Reordered (reading.network host)
  config : reading.config = cluster.config
  interfaces : reading.interfaces = cluster.interfaces
  agent : reading.agent = cluster.agent

/-- Host names, guest ids and storage names on one host are distinct. -/
structure Distinct (letters : Letters) (resources : List Resource) : Prop where
  nodes : ((listedNodes letters resources).map Node.name).Nodup
  guests : ((listedGuests letters resources).map Guest.vmid).Nodup
  storage : ((listedStorage letters resources).map fun storage =>
    (storage.node, storage.name)).Nodup

/-! ## The skeleton -/

section Skeleton

variable {letters : Letters}

theorem mem_unlistedNodes {node : Node} {guests : List Guest} {known : List String} :
    node ∈ unlistedNodes known guests ↔
      (∃ guest ∈ guests, guest.node = node.name ∧ node.name ∉ known) ∧
        node = { name := node.name, online := true } := by
  induction guests generalizing known with
  | nil => simp [unlistedNodes]
  | cons guest rest induction =>
      unfold unlistedNodes
      split
      next seen =>
        rw [induction]
        refine and_congr_left fun _ => ⟨?_, ?_⟩
        · rintro ⟨other, later, same, new⟩
          exact ⟨other, List.mem_cons_of_mem _ later, same, new⟩
        · rintro ⟨other, member, same, new⟩
          rcases List.mem_cons.mp member with rfl | later
          · exact absurd (same ▸ seen) new
          · exact ⟨other, later, same, new⟩
      next new =>
        rw [List.mem_cons, induction]
        constructor
        · rintro (rfl | ⟨⟨other, later, same, apart⟩, shape⟩)
          · exact ⟨⟨guest, List.mem_cons_self, rfl, new⟩, rfl⟩
          · exact ⟨⟨other, List.mem_cons_of_mem _ later, same,
              fun seen => apart (List.mem_cons_of_mem _ seen)⟩, shape⟩
        · rintro ⟨⟨other, member, same, apart⟩, shape⟩
          by_cases first : guest.node = node.name
          · left
            rw [shape, first]
          · right
            rcases List.mem_cons.mp member with rfl | later
            · exact absurd same first
            · refine ⟨⟨other, later, same, fun seen => ?_⟩, shape⟩
              rcases List.mem_cons.mp seen with equal | seen
              · exact first equal.symm
              · exact apart seen

theorem nodup_unlistedNodes (known : List String) (guests : List Guest) :
    ((unlistedNodes known guests).map Node.name).Nodup := by
  induction guests generalizing known with
  | nil => exact List.nodup_nil
  | cons guest rest induction =>
      unfold unlistedNodes
      split
      · exact induction known
      · rw [List.map_cons, List.nodup_cons]
        refine ⟨fun member => ?_, induction _⟩
        rcases List.mem_map.mp member with ⟨node, listed, same⟩
        rcases (mem_unlistedNodes.mp listed).1 with ⟨_, _, _, new⟩
        exact new (same ▸ List.mem_cons_self)

theorem unlistedNodes_perm {known known' : List String} {guests guests' : List Guest}
    (same : ∀ name, name ∈ known ↔ name ∈ known') (perm : guests.Perm guests') :
    (unlistedNodes known guests).Perm (unlistedNodes known' guests') := by
  refine (List.perm_ext_iff_of_nodup (nodup_unlistedNodes known guests).of_map
    (nodup_unlistedNodes known' guests').of_map).mpr fun node => ?_
  rw [mem_unlistedNodes, mem_unlistedNodes, same]
  simp only [perm.mem_iff]

/-- One snapshot under construction and the same with its lists in another order. -/
structure Snapshot.Reordered (snapshot other : Snapshot) : Prop where
  version : other.version = snapshot.version
  cluster : other.cluster = snapshot.cluster
  nodes : snapshot.nodes.Perm other.nodes
  guests : snapshot.guests.Perm other.guests
  storage : snapshot.storage.Perm other.storage
  notes : other.notes = snapshot.notes

/-- Hosts, guests and storage are told apart by their names. -/
structure Snapshot.Distinct (snapshot : Snapshot) : Prop where
  nodes : (snapshot.nodes.map Node.name).Nodup
  guests : (snapshot.guests.map Guest.vmid).Nodup
  storage : (snapshot.storage.map fun storage => (storage.node, storage.name)).Nodup

theorem applyResources_reordered (version : String) {resources resources' : List Resource}
    (perm : resources.Perm resources') :
    (applyResources letters version resources).Reordered
      (applyResources letters version resources') where
  version := rfl
  cluster := rfl
  nodes := by
    have nodes := perm.filterMap (nodeOf letters)
    exact nodes.append (unlistedNodes_perm (fun name => (nodes.map Node.name).mem_iff)
      (perm.filterMap (guestOf letters)))
  guests := perm.filterMap _
  storage := perm.filterMap _
  notes := rfl

theorem applyResources_distinct (version : String) {resources : List Resource}
    (distinct : Reading.Distinct letters resources) :
    (applyResources letters version resources).Distinct where
  nodes := by
    change ((listedNodes letters resources ++ unlistedNodes
      ((listedNodes letters resources).map Node.name) (listedGuests letters resources)).map
        Node.name).Nodup
    rw [List.map_append]
    refine List.nodup_append.mpr ⟨distinct.nodes, nodup_unlistedNodes _ _, ?_⟩
    rintro name listed other unlisted rfl
    rcases List.mem_map.mp unlisted with ⟨node, member, rfl⟩
    rcases (mem_unlistedNodes.mp member).1 with ⟨_, _, _, new⟩
    exact new listed
  guests := distinct.guests
  storage := distinct.storage

end Skeleton

/-! ## Where hosts are -/

def clusterEntries (entries : List ClusterEntry) : List ClusterEntry :=
  entries.filter fun entry => entry.type = "cluster"

/-- The entries of `/cluster/status` for one host. -/
def hostEntries (entries : List ClusterEntry) (host : String) : List ClusterEntry :=
  entries.filter fun entry => entry.type = "node" && entry.name = host

def clusterLabel (entry : ClusterEntry) : String := cleanLabel entry.name 63

def placeOf (entry : ClusterEntry) : String × Bool := (hostAddress entry.ip, entry.online.asBool)

def putAt (node : Node) (place : String × Bool) : Node :=
  { node with address := place.1, online := place.2 }

/-- The last entry of a host counts. -/
def placeNode (entries : List ClusterEntry) (node : Node) : Node :=
  ((hostEntries entries node.name).getLast?.map placeOf).elim node (putAt node)

@[simp]
theorem name_placeNode (entries : List ClusterEntry) (node : Node) :
    (placeNode entries node).name = node.name := by
  unfold placeNode
  cases (hostEntries entries node.name).getLast?.map placeOf <;> rfl

theorem foldl_applyStatus (snapshot : Snapshot) (entries : List ClusterEntry) :
    entries.foldl applyStatus snapshot =
      { snapshot with
        cluster := ((clusterEntries entries).getLast?.map clusterLabel).getD snapshot.cluster
        nodes := snapshot.nodes.map (placeNode entries) } := by
  induction entries using List.reverseRecOn with
  | nil =>
      have same : placeNode [] = id := rfl
      rw [same, List.map_id]
      rfl
  | append_singleton entries entry induction =>
      rw [List.foldl_append, induction, List.foldl_cons, List.foldl_nil, applyStatus]
      unfold clusterEntries
      rw [List.filter_append]
      by_cases names : entry.type = "cluster"
      · have same : placeNode (entries ++ [entry]) = placeNode entries := by
          funext node
          simp [placeNode, hostEntries, names]
        simp [names, same, clusterLabel]
      · by_cases host : entry.type = "node"
        · have placed : snapshot.nodes.map (placeNode (entries ++ [entry])) =
              (snapshot.nodes.map (placeNode entries)).map fun node =>
                if node.name = entry.name then putAt node (placeOf entry) else node := by
            rw [List.map_map]
            refine List.map_congr_left fun node _ => ?_
            rw [Function.comp_apply, name_placeNode]
            by_cases it : node.name = entry.name
            · rw [if_pos it]
              have last : (hostEntries (entries ++ [entry]) node.name).getLast? = some entry := by
                simp [hostEntries, host, it]
              unfold placeNode
              rw [last]
              cases (hostEntries entries node.name).getLast?.map placeOf <;> rfl
            · have other : hostEntries (entries ++ [entry]) node.name =
                  hostEntries entries node.name := by
                simp [hostEntries, Ne.symm it]
              rw [if_neg it]
              unfold placeNode
              rw [other]
          rw [if_neg names, if_pos host, placed]
          simp [names, putAt, placeOf]
        · have same : placeNode (entries ++ [entry]) = placeNode entries := by
            funext node
            simp [placeNode, hostEntries, host]
          simp [names, host, same]

/-! ## The interfaces of a host -/

def routesOf (interfaces : List Interface) : List Interface :=
  interfaces.filter fun interface => interface.IsRoute

theorem isRoute_of_head? {interfaces : List Interface} {route : Interface}
    (first : (routesOf interfaces).head? = some route) : route.IsRoute := by
  simpa using (List.mem_filter.mp (List.mem_of_head? first)).2

theorem foldl_addInterface (node : Node) (interfaces : List Interface) :
    interfaces.foldl addInterface node =
      { node with
        interfaces := node.interfaces ++ interfaces
        gateway := ((routesOf interfaces).getLast?.map Interface.gateway).getD node.gateway
        cidr := ((routesOf interfaces).getLast?.map Interface.cidr).getD node.cidr
        address := if node.address = "" then
          ((routesOf interfaces).head?.map Interface.address).getD "" else node.address } := by
  induction interfaces using List.reverseRecOn with
  | nil =>
      have same : (if node.address = "" then "" else node.address) = node.address := by
        split
        next none => exact none.symm
        next => rfl
      simp [routesOf, same]
  | append_singleton interfaces interface induction =>
      rw [List.foldl_append, induction, List.foldl_cons, List.foldl_nil, addInterface]
      by_cases route : interface.IsRoute
      · have routes : routesOf (interfaces ++ [interface]) = routesOf interfaces ++ [interface] := by
          simp [routesOf, route]
        rw [if_pos route, routes]
        by_cases reached : node.address = ""
        · cases first : (routesOf interfaces).head? with
          | none =>
              rw [List.head?_eq_none_iff.mp first]
              simp [reached]
          | some other =>
              have known : other.address ≠ "" := (isRoute_of_head? first).2
              simp [reached, first, known]
        · simp [reached]
      · have routes : routesOf (interfaces ++ [interface]) = routesOf interfaces := by
          simp [routesOf, route]
        rw [if_neg route, routes]
        simp

/-- What a reading needs of the interfaces of a host to see the same host in any order. -/
structure SettledInterfaces (address : String) (interfaces : List Interface) : Prop where
  gateways : Agree Interface.gateway (routesOf interfaces)
  cidrs : Agree Interface.cidr (routesOf interfaces)
  addresses : address = "" → Agree Interface.address (routesOf interfaces)
  names : ∀ interface ∈ interfaces, ∀ other ∈ interfaces,
    interface.name = other.name → interface = other

theorem SettledInterfaces.sorted_eq {node : Node} {interfaces interfaces' : List Interface}
    (settled : SettledInterfaces node.address interfaces) (perm : interfaces.Perm interfaces')
    (bare : node.interfaces = []) :
    (interfaces.foldl addInterface node).sorted = (interfaces'.foldl addInterface node).sorted := by
  have routes : (routesOf interfaces).Perm (routesOf interfaces') := perm.filter _
  have arranged := insertionSort_key_eq_of_perm Interface.name perm settled.names
  have address : (if node.address = "" then
      ((routesOf interfaces).head?.map Interface.address).getD "" else node.address) =
      if node.address = "" then
        ((routesOf interfaces').head?.map Interface.address).getD "" else node.address := by
    split
    next none => rw [(settled.addresses none).head? routes]
    next => rfl
  rw [foldl_addInterface, foldl_addInterface]
  unfold Node.sorted
  dsimp only
  rw [bare, List.nil_append, List.nil_append, arranged, settled.gateways.getLast? routes,
    settled.cidrs.getLast? routes, address]

/-! ## What a reading must not depend on -/

/-- A host of which a reading in detail tells nothing. -/
def SilentHost (cluster : Cluster) (node : Node) : Prop := nodeNotes cluster node = []

instance (cluster : Cluster) : DecidablePred (SilentHost cluster) :=
  fun _ => inferInstanceAs (Decidable (_ = _))

def SilentGuest (cluster : Cluster) (guest : Guest) : Prop := guestNotes cluster guest = []

instance (cluster : Cluster) : DecidablePred (SilentGuest cluster) :=
  fun _ => inferInstanceAs (Decidable (_ = _))

/-- Which items are read in detail makes no difference: all of them are, or reading them
changes none, and tells nothing or the same whichever are chosen. -/
def AnyChoice {α : Type} (limit : Nat) (items : List α) (unchanged silent : α → Prop)
    [DecidablePred silent] : Prop :=
  items.length ≤ limit ∨ (∀ item ∈ items, unchanged item) ∧
    ((∀ item ∈ items, silent item) ∨ (items.filter fun item => silent item).length < limit)

/-- The steps that depend on the order of the answers have nothing to choose from. The
snapshot is the one before hosts and guests are read in detail. -/
structure SettledAt (letters : Letters) (cluster : Cluster) (snapshot : Snapshot) : Prop where
  label : Agree clusterLabel (clusterEntries cluster.status.entries)
  places : ∀ node ∈ snapshot.nodes, Agree placeOf (hostEntries cluster.status.entries node.name)
  interfaces : ∀ node ∈ snapshot.nodes, node.online = true →
    SettledInterfaces node.address (interfacesOf cluster node.name)
  notes : ∀ node ∈ snapshot.nodes, ∀ other ∈ snapshot.nodes, ∀ note ∈ nodeNotes cluster node,
    ∀ note' ∈ nodeNotes cluster other, note = note'
  hosts : AnyChoice maxDetailedNodes snapshot.nodes
    (fun node => (readNode cluster node).sorted = node.sorted) (SilentHost cluster)
  guests : AnyChoice maxDetailedGuests
    (snapshot.guests.filter fun guest => Wanted snapshot.nodes guest)
    (fun guest => readGuest letters cluster guest = guest) (SilentGuest cluster)

/-- Nothing to settle where the first calls fail. -/
def Settled (letters : Letters) (cluster : Cluster) : Prop :=
  ∀ snapshot, opening letters cluster = .ok snapshot → SettledAt letters cluster snapshot

/-! ## The first calls -/

section Opening

variable {letters : Letters} {cluster reading : Cluster} {snapshot : Snapshot}

theorem essential_status {α : Type} (path : String) (code : Nat) :
    ∃ error, essential (α := α) path (.status code) = .error error := by
  unfold essential
  dsimp only
  split_ifs
  all_goals exact ⟨_, rfl⟩

theorem opening_eq_ok (opened : opening letters cluster = .ok snapshot) :
    ∃ version resources notes, readVersion cluster = .ok version ∧
      cluster.resources = .data resources ∧
      snapshot = cluster.status.entries.foldl applyStatus
        { applyResources letters version resources with notes := notes } ∧
      notes = if (resources.all fun entry => entry.type ≠ "node") &&
        !(applyResources letters version resources).guests.isEmpty then [hostsHiddenNote] else [] := by
  unfold opening at opened
  cases said : readVersion cluster with
  | error error =>
      rw [said] at opened
      cases opened
  | ok version =>
      rw [said] at opened
      cases listed : cluster.resources with
      | data resources =>
          rw [listed] at opened
          cases opened
          exact ⟨version, resources, _, rfl, rfl, rfl, rfl⟩
      | status code =>
          rw [listed] at opened
          rcases essential_status (α := List Resource) "/cluster/resources" code with ⟨error, refused⟩
          rw [refused] at opened
          cases opened
      | failed error =>
          rw [listed] at opened
          cases opened

theorem readVersion_eq (same : SameAnswers cluster reading) :
    readVersion reading = readVersion cluster := by
  unfold readVersion
  rw [same.version]

theorem opening_error {error : FetchError} (same : SameAnswers cluster reading)
    (refused : opening letters cluster = .error error) :
    opening letters reading = .error error := by
  unfold opening at refused ⊢
  rw [readVersion_eq same]
  cases said : readVersion cluster with
  | error error =>
      rw [said] at refused
      exact refused
  | ok version =>
      rw [said] at refused
      have resources := same.resources
      cases listed : cluster.resources with
      | data entries =>
          rw [listed] at refused
          cases refused
      | status code =>
          rw [listed] at refused resources
          generalize reading.resources = answer at resources ⊢
          cases resources
          rcases essential_status (α := List Resource) "/cluster/resources" code with ⟨other, because⟩
          rw [because] at refused ⊢
          exact refused
      | failed error =>
          rw [listed] at refused resources
          generalize reading.resources = answer at resources ⊢
          cases resources
          exact refused

theorem opening_eq (said : ∃ version, readVersion cluster = .ok version)
    {resources : List Resource} (listed : cluster.resources = .data resources) :
    ∃ version notes, readVersion cluster = .ok version ∧
      opening letters cluster = .ok (cluster.status.entries.foldl applyStatus
        { applyResources letters version resources with notes := notes }) ∧
      notes = if (resources.all fun entry => entry.type ≠ "node") &&
        !(applyResources letters version resources).guests.isEmpty then [hostsHiddenNote] else [] := by
  rcases said with ⟨version, said⟩
  refine ⟨version, _, said, ?_, rfl⟩
  unfold opening
  rw [said, listed]
  rfl

theorem interfaces_nodeOf {entry : Resource} {node : Node}
    (listed : nodeOf letters entry = some node) : node.interfaces = [] := by
  unfold nodeOf at listed
  dsimp only at listed
  split at listed
  · rw [← Option.some.inj listed]
  · cases listed

theorem interfaces_applyResources {version : String} {resources : List Resource} {node : Node}
    (member : node ∈ (applyResources letters version resources).nodes) : node.interfaces = [] := by
  rcases List.mem_append.mp member with listed | unlisted
  · rcases List.mem_filterMap.mp listed with ⟨entry, _, is⟩
    exact interfaces_nodeOf is
  · rw [(mem_unlistedNodes.mp unlisted).2]

@[simp]
theorem interfaces_placeNode (entries : List ClusterEntry) (node : Node) :
    (placeNode entries node).interfaces = node.interfaces := by
  unfold placeNode
  cases (hostEntries entries node.name).getLast?.map placeOf <;> rfl

theorem placeNode_eq {entries entries' : List ClusterEntry} {node : Node}
    (agree : Agree placeOf (hostEntries entries node.name)) (perm : entries.Perm entries') :
    placeNode entries node = placeNode entries' node := by
  have hosts : (hostEntries entries node.name).Perm (hostEntries entries' node.name) :=
    perm.filter _
  unfold placeNode
  rw [agree.getLast? hosts]

/-- Another order of the answers gives the same hosts, guests and storage in another order. -/
theorem opening_reordered {resources : List Resource} (same : SameAnswers cluster reading)
    (listed : cluster.resources = .data resources) (distinct : Distinct letters resources)
    (settled : SettledAt letters cluster snapshot)
    (opened : opening letters cluster = .ok snapshot) :
    (∃ other, opening letters reading = .ok other ∧ snapshot.Reordered other) ∧
      snapshot.Distinct ∧ ∀ node ∈ snapshot.nodes, node.interfaces = [] := by
  rcases opening_eq_ok opened with ⟨version, entries, notes, said, found, shape, told⟩
  cases listed.symm.trans found
  have reordered := same.resources
  rw [found] at reordered
  cases there : reading.resources with
  | status code =>
      rw [there] at reordered
      cases reordered
  | failed error =>
      rw [there] at reordered
      cases reordered
  | data resources' =>
      rw [there] at reordered
      cases reordered with
      | data perm =>
          rw [foldl_applyStatus] at shape
          have skeleton := @applyResources_reordered letters version _ _ perm
          have apart := applyResources_distinct version distinct
          have statuses := same.status.entries
          rcases @opening_eq letters _ ⟨version, (readVersion_eq same).trans said⟩ _ there with
            ⟨version', notes', said', opened', told'⟩
          cases (said.symm.trans (readVersion_eq same).symm).trans said'
          have quiet : notes' = notes := by
            rw [told, told', skeleton.guests.isEmpty_eq, perm.all_eq]
          refine ⟨⟨_, opened', ?_⟩, ?_, ?_⟩
          · rw [foldl_applyStatus, shape, quiet]
            constructor
            · rfl
            · exact congrArg (Option.getD · _)
                (settled.label.getLast? (statuses.filter _)).symm
            · refine (skeleton.nodes.map _).trans (.of_eq (List.map_congr_left fun node member => ?_))
              refine placeNode_eq ?_ statuses
              have place := settled.places (placeNode cluster.status.entries node) (by
                rw [shape]
                exact List.mem_map_of_mem (skeleton.nodes.mem_iff.mpr member))
              rw [name_placeNode] at place
              exact place
            · exact skeleton.guests
            · exact skeleton.storage
            · rfl
          · rw [shape]
            constructor
            · dsimp only
              rw [List.map_map]
              have names : Node.name ∘ placeNode cluster.status.entries = Node.name :=
                funext fun node => name_placeNode _ node
              rw [names]
              exact apart.nodes
            · exact apart.guests
            · exact apart.storage
          · rw [shape]
            intro node member
            rcases List.mem_map.mp member with ⟨skeletal, listed, rfl⟩
            rw [interfaces_placeNode]
            exact @interfaces_applyResources letters version resources skeletal listed

end Opening

/-! ## Choosing what is read in detail -/

theorem AnyChoice.exists_told {α : Type} {limit : Nat} {items items' : List α}
    {unchanged silent : α → Prop} [DecidablePred silent]
    (choice : AnyChoice limit items unchanged silent) (perm : items.Perm items')
    (told : ∃ item ∈ items, ¬silent item) : ∃ item ∈ items'.take limit, ¬silent item := by
  by_cases few : items.length ≤ limit
  · rw [List.take_of_length_le (perm.length_eq ▸ few)]
    rcases told with ⟨item, member, loud⟩
    exact ⟨item, perm.mem_iff.mp member, loud⟩
  · rcases (choice.resolve_left few).2 with quiet | rare
    · rcases told with ⟨item, member, loud⟩
      exact absurd (quiet item member) loud
    · by_contra none
      push Not at none
      have all : (items'.take limit).filter (fun item => silent item) = items'.take limit :=
        List.filter_eq_self.mpr fun item member => decide_eq_true (none item member)
      have length : (items'.take limit).length = limit := by
        rw [List.length_take, ← perm.length_eq]
        omega
      have bound := ((List.take_sublist limit items').filter fun item => silent item).length_le
      rw [all, length, ← (perm.filter _).length_eq] at bound
      omega

/-! ## Hosts in detail -/

section Details

variable {letters : Letters} {cluster reading : Cluster} {snapshot other after : Snapshot}

theorem readStatus_kept (cluster : Cluster) (node : Node) :
    (readStatus cluster node).name = node.name ∧
    (readStatus cluster node).online = node.online ∧
    (readStatus cluster node).address = node.address ∧
    (readStatus cluster node).interfaces = node.interfaces := by
  unfold readStatus
  split
  · simp only [withStatus, and_self]
  · simp only [and_self]

theorem readNode_kept (cluster : Cluster) (node : Node) :
    (readNode cluster node).name = node.name ∧ (readNode cluster node).online = node.online := by
  have kept := readStatus_kept cluster node
  unfold readNode
  split
  · rw [foldl_addInterface]
    exact ⟨kept.1, kept.2.1⟩
  · simp only [and_self]

theorem nodeNotes_eq (same : SameAnswers cluster reading) (node : Node) :
    nodeNotes reading node = nodeNotes cluster node := by
  unfold nodeNotes
  rw [same.nodeStatus]

theorem sorted_readNode_eq (same : SameAnswers cluster reading) {node : Node}
    (bare : node.interfaces = []) (settled : node.online = true →
      SettledInterfaces node.address (interfacesOf cluster node.name)) :
    (readNode reading node).sorted = (readNode cluster node).sorted := by
  unfold readNode
  split
  next online =>
    have perm : (interfacesOf cluster node.name).Perm (interfacesOf reading node.name) :=
      (same.network node.name).entries.filterMap interfaceOf
    have status : readStatus reading node = readStatus cluster node := by
      unfold readStatus
      rw [same.nodeStatus]
    have kept := readStatus_kept cluster node
    rw [status]
    refine (SettledInterfaces.sorted_eq ?_ perm (kept.2.2.2.trans bare)).symm
    rw [kept.2.2.1]
    exact settled online
  next => rfl

/-- The notes there are when the workers begin. -/
def notesBefore (notes : List String) (many : Prop) [Decidable many] (note : String) :
    List String :=
  if many then addNote notes note else notes

theorem readNodes_result (same : SameAnswers cluster reading)
    (settled : SettledAt letters cluster snapshot) (reordered : snapshot.Reordered other)
    (bare : ∀ node ∈ snapshot.nodes, node.interfaces = [])
    (read : ReadNodes reading other after) :
    after = { other with nodes := after.nodes, notes := after.notes } ∧
    after.nodes.map Node.sorted =
      other.nodes.map (fun node => (readNode cluster node).sorted) ∧
    after.nodes.map (fun node => (node.name, node.online)) =
      other.nodes.map (fun node => (node.name, node.online)) ∧
    Collected (notesBefore snapshot.notes (maxDetailedNodes < snapshot.nodes.length) manyHostsNote)
      (fun note => ∃ node ∈ snapshot.nodes, note ∈ nodeNotes cluster node) after.notes := by
  rcases read with ⟨nodes, notes, finishes, rfl⟩
  rcases finishes.result List.nodup_range with ⟨cells, collected⟩
  have length := reordered.nodes.length_eq
  refine ⟨rfl, ?_, ?_, ?_⟩
  · refine List.ext_getElem? fun index => ?_
    rw [List.getElem?_map, List.getElem?_map, cells, Option.map_map]
    cases at_ : other.nodes[index]? with
    | none => rfl
    | some node =>
        have member : node ∈ snapshot.nodes :=
          reordered.nodes.mem_iff.mpr (List.mem_of_getElem? at_)
        have bound := (List.getElem?_eq_some_iff.mp at_).1
        refine congrArg some ?_
        dsimp only [Function.comp_apply]
        split
        next => exact sorted_readNode_eq same (bare node member) (settled.interfaces node member)
        next beyond =>
          rw [List.mem_range] at beyond
          have many : ¬snapshot.nodes.length ≤ maxDetailedNodes := by omega
          exact ((settled.hosts.resolve_left many).1 node member).symm
  · refine List.ext_getElem? fun index => ?_
    rw [List.getElem?_map, List.getElem?_map, cells, Option.map_map]
    refine congrFun (congrArg Option.map (funext fun node => ?_)) _
    dsimp only [Function.comp_apply]
    split
    next =>
      have kept := readNode_kept reading node
      exact Prod.ext kept.1 kept.2
    next => rfl
  · unfold notesBefore
    rw [length, ← reordered.notes]
    rcases collected with ⟨extra, told, nodup, each⟩
    refine ⟨extra, told, nodup, fun note => (each note).trans (and_congr_left fun _ => ?_)⟩
    constructor
    · rintro ⟨index, -, reported⟩
      rcases Job.mem_reportsAt.mp reported with ⟨node, at_, reported⟩
      dsimp only [hostJob] at reported
      rw [nodeNotes_eq same] at reported
      exact ⟨node, reordered.nodes.mem_iff.mpr (List.mem_of_getElem? at_), reported⟩
    · rintro ⟨node, member, reported⟩
      have loud : ¬SilentHost cluster node := List.ne_nil_of_mem reported
      rcases settled.hosts.exists_told reordered.nodes ⟨node, member, loud⟩ with
        ⟨teller, chosen, tells⟩
      rcases List.exists_mem_of_ne_nil _ tells with ⟨note', reported'⟩
      have member' := reordered.nodes.mem_iff.mpr (List.mem_of_mem_take chosen)
      cases settled.notes node member teller member' note reported note' reported'
      rcases List.mem_iff_getElem?.mp chosen with ⟨index, at_⟩
      rw [List.getElem?_take] at at_
      split at at_
      next low =>
        have bound := (List.getElem?_eq_some_iff.mp at_).1
        refine ⟨index, List.mem_range.mpr (by omega), Job.mem_reportsAt.mpr ⟨teller, at_, ?_⟩⟩
        dsimp only [hostJob]
        rw [nodeNotes_eq same]
        exact reported'
      next => cases at_

/-! ## Guests in detail -/

theorem wanted_iff {nodes : List Node} (distinct : (nodes.map Node.name).Nodup) (guest : Guest) :
    Wanted nodes guest ↔ guest.template = false ∧
      (guest.node, true) ∈ nodes.map fun node => (node.name, node.online) := by
  refine and_congr_right fun _ => ?_
  rw [List.mem_map]
  constructor
  · intro found
    rcases Option.map_eq_some_iff.mp found with ⟨node, first, online⟩
    have name := List.find?_some first
    refine ⟨node, List.mem_reverse.mp (List.mem_of_find?_eq_some first), ?_⟩
    exact Prod.ext (by simpa using name) online
  · rintro ⟨node, member, same⟩
    have name : node.name = guest.node := congrArg Prod.fst same
    have online : node.online = true := congrArg Prod.snd same
    cases first : nodes.reverse.find? (·.name = guest.node) with
    | none =>
        have missed := List.find?_eq_none.mp first node (List.mem_reverse.mpr member)
        exact absurd (by simpa using name) missed
    | some found =>
        have named := List.find?_some first
        have listed := List.mem_reverse.mp (List.mem_of_find?_eq_some first)
        have it : found = node := apart_of_nodup_map distinct found listed node member
          ((by simpa using named : found.name = guest.node).trans name.symm)
        rw [it, Option.map_some, online]

theorem wanted_congr {nodes nodes' : List Node} (distinct : (nodes.map Node.name).Nodup)
    (same : (nodes.map fun node => (node.name, node.online)).Perm
      (nodes'.map fun node => (node.name, node.online))) (guest : Guest) :
    Wanted nodes guest ↔ Wanted nodes' guest := by
  have distinct' : (nodes'.map Node.name).Nodup := by
    have names := same.map Prod.fst
    rw [List.map_map, List.map_map] at names
    exact names.nodup_iff.mp distinct
  rw [wanted_iff distinct, wanted_iff distinct', same.mem_iff]

theorem readGuest_eq (same : SameAnswers cluster reading) (guest : Guest) :
    readGuest letters reading guest = readGuest letters cluster guest := by
  have asked : askAddress reading = askAddress cluster := by
    funext config guest
    unfold askAddress
    rw [same.interfaces, same.agent]
  unfold readGuest
  rw [same.config, asked]

theorem guestNotes_eq (same : SameAnswers cluster reading) (guest : Guest) :
    guestNotes reading guest = guestNotes cluster guest := by
  unfold guestNotes
  rw [same.config]

theorem eq_of_mem_guestNotes {guest : Guest} {note : String}
    (reported : note ∈ guestNotes cluster guest) : note = guestConfigNote := by
  unfold guestNotes at reported
  split at reported
  · exact List.mem_singleton.mp reported
  · exact absurd reported List.not_mem_nil

def finalGuest (letters : Letters) (cluster : Cluster) (nodes : List Node) (guest : Guest) : Guest :=
  if Wanted nodes guest then readGuest letters cluster guest else guest

theorem readGuests_result (same : SameAnswers cluster reading)
    (settled : SettledAt letters cluster snapshot) (guests : snapshot.guests.Perm other.guests)
    (hosts : ∀ guest, Wanted other.nodes guest ↔ Wanted snapshot.nodes guest)
    (read : ReadGuests letters reading other after) :
    after = { other with guests := after.guests, notes := after.notes } ∧
    after.guests = other.guests.map (finalGuest letters cluster snapshot.nodes) ∧
    Collected (notesBefore other.notes (maxDetailedGuests <
        (snapshot.guests.filter fun guest => Wanted snapshot.nodes guest).length) manyGuestsNote)
      (fun note => ∃ guest ∈ snapshot.guests, Wanted snapshot.nodes guest ∧
        note ∈ guestNotes cluster guest) after.notes := by
  rcases read with ⟨cells', notes, finishes, rfl⟩
  have asked : (fun guest => decide (Wanted other.nodes guest)) =
      fun guest => decide (Wanted snapshot.nodes guest) :=
    funext fun guest => decide_eq_decide.mpr (hosts guest)
  rw [asked] at finishes
  have arranged : (snapshot.guests.filter fun guest => Wanted snapshot.nodes guest).Perm
      (other.guests.filter fun guest => Wanted snapshot.nodes guest) := guests.filter _
  have length := arranged.length_eq
  rw [length_indexesOf, ← length] at finishes
  rcases finishes.result ((nodup_indexesOf _ _).sublist (List.take_sublist _ _)) with
    ⟨cells, collected⟩
  refine ⟨rfl, ?_, ?_⟩
  · refine List.ext_getElem? fun index => ?_
    rw [List.getElem?_map, cells]
    cases at_ : other.guests[index]? with
    | none => rfl
    | some guest =>
        have member := guests.mem_iff.mpr (List.mem_of_getElem? at_)
        refine congrArg some ?_
        unfold finalGuest
        have listed := mem_indexesOf (fun guest => decide (Wanted snapshot.nodes guest)) at_
        by_cases wanted : Wanted snapshot.nodes guest
        · rw [if_pos wanted]
          split
          next => exact readGuest_eq same guest
          next cut =>
            have many : ¬(snapshot.guests.filter fun guest =>
                Wanted snapshot.nodes guest).length ≤ maxDetailedGuests := by
              intro few
              rw [List.take_of_length_le (by rw [length_indexesOf, ← length]; exact few)] at cut
              exact cut (listed.mpr (decide_eq_true wanted))
            exact ((settled.guests.resolve_left many).1 guest
              (List.mem_filter.mpr ⟨member, decide_eq_true wanted⟩)).symm
        · rw [if_neg wanted]
          refine if_neg fun chosen => ?_
          exact wanted (of_decide_eq_true (listed.mp (List.mem_of_mem_take chosen)))
  · rcases collected with ⟨extra, told, nodup, each⟩
    refine ⟨extra, told, nodup, fun note => (each note).trans (and_congr_left fun _ => ?_)⟩
    constructor
    · rintro ⟨index, chosen, reported⟩
      rcases Job.mem_reportsAt.mp reported with ⟨guest, at_, reported⟩
      dsimp only [guestJob] at reported
      rw [guestNotes_eq same] at reported
      have wanted := (mem_indexesOf _ at_).mp (List.mem_of_mem_take chosen)
      exact ⟨guest, guests.mem_iff.mpr (List.mem_of_getElem? at_), of_decide_eq_true wanted,
        reported⟩
    · rintro ⟨guest, member, wanted, reported⟩
      have loud : ¬SilentGuest cluster guest := List.ne_nil_of_mem reported
      rcases settled.guests.exists_told arranged
        ⟨guest, List.mem_filter.mpr ⟨member, decide_eq_true wanted⟩, loud⟩ with
        ⟨teller, chosen, tells⟩
      rcases List.exists_mem_of_ne_nil _ tells with ⟨note', reported'⟩
      cases (eq_of_mem_guestNotes reported).trans (eq_of_mem_guestNotes reported').symm
      have taken := congrArg (List.take maxDetailedGuests)
        (map_indexesOf (fun guest => decide (Wanted snapshot.nodes guest)) other.guests)
      rw [← List.map_take, ← List.map_take] at taken
      have there : some teller ∈ ((other.guests.filter fun guest =>
          Wanted snapshot.nodes guest).take maxDetailedGuests).map some :=
        List.mem_map_of_mem chosen
      rw [← taken] at there
      rcases List.mem_map.mp there with ⟨index, listed, at_⟩
      refine ⟨index, listed, Job.mem_reportsAt.mpr ⟨teller, at_, ?_⟩⟩
      dsimp only [guestJob]
      rw [guestNotes_eq same]
      exact reported'

end Details

/-! ## The whole reading -/

section Whole

variable {letters : Letters} {cluster reading : Cluster} {snapshot after : Snapshot}

theorem storage_total (left right : Storage) :
    storageBefore left right ∨ storageBefore right left := by
  rcases lt_trichotomy left.node right.node with less | same | more
  · exact .inl (.inl less)
  · exact (le_total left.name right.name).imp (fun le => .inr ⟨same, le⟩)
      fun ge => .inr ⟨same.symm, ge⟩
  · exact .inr (.inl more)

theorem storage_trans (left middle right : Storage) (first : storageBefore left middle)
    (second : storageBefore middle right) : storageBefore left right := by
  rcases first with less | ⟨same, le⟩
  · rcases second with less' | ⟨same', -⟩
    · exact .inl (less.trans less')
    · exact .inl (same' ▸ less)
  · rcases second with less' | ⟨same', le'⟩
    · exact .inl (same ▸ less')
    · exact .inr ⟨same.trans same', le.trans le'⟩

theorem storage_antisymm {left right : Storage} (before : storageBefore left right)
    (behind : storageBefore right left) :
    (left.node, left.name) = (right.node, right.name) := by
  rcases before with less | ⟨same, le⟩
  · rcases behind with more | ⟨same, -⟩
    · exact absurd more (lt_asymm less)
    · exact absurd same.symm less.ne
  · rcases behind with more | ⟨-, ge⟩
    · exact absurd same.symm more.ne
    · exact Prod.ext same (le_antisymm le ge)

/-- What every reading of a settled cluster ends with. -/
structure Ends (letters : Letters) (cluster : Cluster) (snapshot after : Snapshot) : Prop where
  version : after.version = snapshot.version
  label : after.cluster = snapshot.cluster
  nodes : after.nodes = (snapshot.nodes.map fun node =>
    (readNode cluster node).sorted).insertionSort fun left right => left.name ≤ right.name
  guests : after.guests = (snapshot.guests.map
    (finalGuest letters cluster snapshot.nodes)).insertionSort fun left right =>
      left.vmid ≤ right.vmid
  storage : after.storage = snapshot.storage.insertionSort storageBefore
  notes : ∃ middle,
    Collected (notesBefore snapshot.notes (maxDetailedNodes < snapshot.nodes.length) manyHostsNote)
      (fun note => ∃ node ∈ snapshot.nodes, note ∈ nodeNotes cluster node) middle ∧
    Collected (notesBefore middle (maxDetailedGuests <
        (snapshot.guests.filter fun guest => Wanted snapshot.nodes guest).length) manyGuestsNote)
      (fun note => ∃ guest ∈ snapshot.guests, Wanted snapshot.nodes guest ∧
        note ∈ guestNotes cluster guest) after.notes

theorem vmid_applyConfig (config : String → String) (guest : Guest) :
    (applyConfig letters config guest).vmid = guest.vmid := by
  have card : ∀ (guest : Guest) index, (applyNIC letters config guest index).vmid = guest.vmid := by
    intro guest index
    unfold applyNIC
    dsimp only
    split_ifs <;> rfl
  have cards : ∀ (indexes : List Nat) (guest : Guest),
      (indexes.foldl (applyNIC letters config) guest).vmid = guest.vmid := by
    intro indexes
    induction indexes with
    | nil => exact fun _ => rfl
    | cons index rest induction => exact fun guest => (induction _).trans (card guest index)
  exact cards _ _

@[simp]
theorem vmid_askAddress (config : String → String) (guest : Guest) :
    (askAddress cluster config guest).vmid = guest.vmid := by
  unfold askAddress
  split
  · rfl
  · split
    · split <;> rfl
    · split
      · rfl
      · split <;> rfl

@[simp]
theorem vmid_finalGuest (cluster : Cluster) (nodes : List Node) (guest : Guest) :
    (finalGuest letters cluster nodes guest).vmid = guest.vmid := by
  unfold finalGuest readGuest
  split
  · split
    · rw [vmid_askAddress, vmid_applyConfig]
    · rfl
  · rfl

theorem Ends.eq {left right : Snapshot} (settled : SettledAt letters cluster snapshot)
    (ends : Ends letters cluster snapshot left) (ends' : Ends letters cluster snapshot right) :
    left = right := by
  have notes : left.notes = right.notes := by
    rcases ends.notes with ⟨middle, hosts, guests⟩
    rcases ends'.notes with ⟨middle', hosts', guests'⟩
    have same : middle = middle' := by
      refine hosts.eq hosts' ?_
      rintro note note' ⟨node, member, reported⟩ ⟨node', member', reported'⟩
      exact settled.notes node member node' member' note reported note' reported'
    cases same
    refine guests.eq guests' ?_
    rintro note note' ⟨guest, -, -, reported⟩ ⟨guest', -, -, reported'⟩
    exact (eq_of_mem_guestNotes reported).trans (eq_of_mem_guestNotes reported').symm
  cases left
  cases right
  simp only [Snapshot.mk.injEq]
  exact ⟨ends.version.trans ends'.version.symm, ends.label.trans ends'.label.symm,
    ends.nodes.trans ends'.nodes.symm, ends.guests.trans ends'.guests.symm,
    ends.storage.trans ends'.storage.symm, notes⟩

theorem ends_of_fetch {resources : List Resource} {outcome : Except FetchError Snapshot}
    (same : SameAnswers cluster reading) (listed : cluster.resources = .data resources)
    (distinct : Distinct letters resources) (settled : SettledAt letters cluster snapshot)
    (opened : opening letters cluster = .ok snapshot) (fetched : Fetch letters reading outcome) :
    ∃ after, outcome = .ok after ∧ Ends letters cluster snapshot after := by
  rcases opening_reordered same listed distinct settled opened with
    ⟨⟨other, opened', reordered⟩, apart, bare⟩
  cases fetched with
  | refused refused => cases opened'.symm.trans refused
  | @read begun hostsRead guestsRead begins hosts guests =>
      cases opened'.symm.trans begins
      rcases readNodes_result same settled reordered bare hosts with
        ⟨shape, nodes, names, hostNotes⟩
      have names' : (hostsRead.nodes.map fun node => (node.name, node.online)).Perm
          (snapshot.nodes.map fun node => (node.name, node.online)) := by
        rw [names]
        exact reordered.nodes.symm.map _
      have wanted : ∀ guest, Wanted hostsRead.nodes guest ↔ Wanted snapshot.nodes guest :=
        fun guest => (wanted_congr apart.nodes names'.symm guest).symm
      have guests' : snapshot.guests.Perm hostsRead.guests := by
        rw [shape]
        exact reordered.guests
      rcases readGuests_result same settled guests' wanted guests with
        ⟨shape', finals, guestNotes⟩
      refine ⟨_, rfl, ?_⟩
      rw [shape']
      constructor
      · change hostsRead.version = _
        rw [shape]
        exact reordered.version
      · change hostsRead.cluster = _
        rw [shape]
        exact reordered.cluster
      · change (hostsRead.nodes.insertionSort _).map Node.sorted = _
        have moved := List.map_insertionSort (fun left right : Node => left.name ≤ right.name)
          (fun left right : Node => left.name ≤ right.name) Node.sorted hostsRead.nodes
          fun _ _ _ _ => Iff.rfl
        rw [moved, nodes]
        refine (insertionSort_key_eq_of_perm Node.name (reordered.nodes.map _) ?_).symm
        refine apart_of_nodup_map ?_
        rw [List.map_map]
        have kept : Node.name ∘ (fun node => (readNode cluster node).sorted) = Node.name :=
          funext fun node => (readNode_kept cluster node).1
        rw [kept]
        exact apart.nodes
      · change guestsRead.guests.insertionSort _ = _
        rw [finals]
        refine (insertionSort_key_eq_of_perm Guest.vmid (guests'.map _) ?_).symm
        refine apart_of_nodup_map ?_
        rw [List.map_map]
        have kept : Guest.vmid ∘ finalGuest letters cluster snapshot.nodes = Guest.vmid :=
          funext fun guest => vmid_finalGuest cluster snapshot.nodes guest
        rw [kept]
        exact apart.guests
      · change hostsRead.storage.insertionSort _ = _
        rw [shape]
        refine (insertionSort_eq_of_perm reordered.storage storage_total storage_trans ?_).symm
        intro left memberLeft right memberRight before behind
        exact apart_of_nodup_map apart.storage left memberLeft right memberRight
          (storage_antisymm before behind)
      · exact ⟨hostsRead.notes, hostNotes, guestNotes⟩

end Whole

theorem exists_fetch (letters : Letters) (cluster : Cluster) :
    ∃ outcome, Fetch letters cluster outcome := by
  cases opened : opening letters cluster with
  | error error => exact ⟨_, .refused opened⟩
  | ok snapshot =>
      rcases exists_finishes (by decide : 0 < parallelRequests) (hostJob cluster)
        (List.range (min snapshot.nodes.length maxDetailedNodes)) snapshot.nodes
        (notesBefore snapshot.notes (maxDetailedNodes < snapshot.nodes.length) manyHostsNote) with
        ⟨nodes, hostNotes, hosts⟩
      generalize read : { snapshot with nodes := nodes, notes := hostNotes } = hostsRead
      rcases exists_finishes (by decide : 0 < parallelRequests) (guestJob letters cluster)
        ((indexesOf (fun guest => decide (Wanted hostsRead.nodes guest)) hostsRead.guests).take
          maxDetailedGuests) hostsRead.guests
        (notesBefore hostsRead.notes (maxDetailedGuests < (indexesOf (fun guest =>
          decide (Wanted hostsRead.nodes guest)) hostsRead.guests).length) manyGuestsNote) with
        ⟨guests, guestNotes, done⟩
      exact ⟨_, .read opened ⟨nodes, hostNotes, hosts, read.symm⟩ ⟨guests, guestNotes, done, rfl⟩⟩

/-- All readings of the cluster return the same, whatever the order of the answers and
however the readers are scheduled. -/
def ReadsAlike (letters : Letters) (cluster : Cluster) : Prop :=
  ∀ first second, SameAnswers cluster first → SameAnswers cluster second →
    ∀ outcome outcome', Fetch letters first outcome → Fetch letters second outcome' →
      outcome = outcome'

/-- Two readings of a settled cluster are equal. -/
theorem readsAlike_of_settled (letters : Letters) (cluster : Cluster)
    (distinct : ∀ resources, cluster.resources = .data resources → Distinct letters resources)
    (settled : Settled letters cluster) : ReadsAlike letters cluster := by
  intro first second same same' outcome outcome' fetched fetched'
  cases opened : opening letters cluster with
  | error error =>
      have refused : ∀ reading result, SameAnswers cluster reading →
          Fetch letters reading result → result = .error error := by
        intro reading result same fetched
        have there := opening_error same opened
        cases fetched with
        | refused because => exact because.symm.trans there
        | read begins => cases there.symm.trans begins
      rw [refused _ _ same fetched, refused _ _ same' fetched']
  | ok snapshot =>
      have at_ := settled snapshot opened
      rcases opening_eq_ok opened with ⟨_, resources, _, _, listed, _⟩
      have apart := distinct resources listed
      rcases ends_of_fetch same listed apart at_ opened fetched with ⟨after, rfl, ends⟩
      rcases ends_of_fetch same' listed apart at_ opened fetched' with ⟨after', rfl, ends'⟩
      rw [ends.eq at_ ends']

/-! ## A cluster that reads in two ways -/

/-- The names of the examples are written in small letters. -/
def plainLetters : Letters where
  toLower := id
  toUpper := id
  equalFold left right := left = right

/-- A cluster that lists its hosts and gives no details. -/
def silentCluster (hosts : List String) (code : Nat) : Cluster where
  version := .data "8.2.4"
  resources := .data (hosts.map fun host => { type := "node", node := host, status := "online" })
  status := .data []
  nodeStatus _ := .status code
  network _ := .status code
  config _ _ _ := .status code
  interfaces _ _ := .status code
  agent _ _ := .status code

theorem sameAnswers_refl (hosts : List String) (code : Nat) :
    SameAnswers (silentCluster hosts code) (silentCluster hosts code) where
  version := rfl
  resources := .data (.refl _)
  status := .data (.refl _)
  nodeStatus := rfl
  network _ := .status code
  config := rfl
  interfaces := rfl
  agent := rfl

def silentHosts : Snapshot where
  version := "8.2.4"
  nodes := [{ name := "alpha", online := true }, { name := "beta", online := true }]

theorem opening_silentCluster (code : Nat) :
    opening plainLetters (silentCluster ["alpha", "beta"] code) = .ok silentHosts := by
  have listed : applyResources plainLetters "8.2.4"
      (["alpha", "beta"].map fun host => { type := "node", node := host, status := "online" }) =
      silentHosts := by
    decide +kernel
  have version : readVersion (silentCluster ["alpha", "beta"] code) = .ok "8.2.4" := by
    have label : cleanLabel "8.2.4" 40 = "8.2.4" := by decide
    change Except.ok (cleanLabel "8.2.4" 40) = _
    rw [label]
  unfold opening
  rw [version]
  change Except.ok _ = _
  rw [listed]
  rfl

theorem distinct_silentCluster : Distinct plainLetters
    (["alpha", "beta"].map fun host => { type := "node", node := host, status := "online" }) where
  nodes := by decide
  guests := by decide
  storage := by decide

/-- Two hosts do not answer: which of them the notes name first is a matter of scheduling. -/
theorem silentCluster_reads_two_ways :
    (∀ resources, (silentCluster ["alpha", "beta"] 500).resources = .data resources →
      Distinct plainLetters resources) ∧
    ¬ReadsAlike plainLetters (silentCluster ["alpha", "beta"] 500) := by
  constructor
  · intro resources listed
    cases listed
    exact distinct_silentCluster
  · intro alike
    have same := sameAnswers_refl ["alpha", "beta"] 500
    have reads : ∀ nodes notes, Finishes parallelRequests
        (hostJob (silentCluster ["alpha", "beta"] 500)) [0, 1] silentHosts.nodes [] nodes notes →
        ∃ outcome, Fetch plainLetters (silentCluster ["alpha", "beta"] 500) (.ok outcome) ∧
          outcome.notes = notes := fun nodes notes finishes =>
      ⟨_, .read (opening_silentCluster 500) ⟨nodes, notes, finishes, rfl⟩ ⟨[], notes, .refl, rfl⟩, rfl⟩
    have orders := @finishes_either Node String parallelRequests
      (hostJob (silentCluster ["alpha", "beta"] 500)) silentHosts.nodes [] _ (by decide) 0 1 _ _
      rfl rfl
    rcases reads _ _ orders.1 with ⟨first, fetched, notes⟩
    rcases reads _ _ orders.2 with ⟨second, fetched', notes'⟩
    have equal := Except.ok.inj (alike _ _ same same _ _ fetched fetched')
    rw [← equal, notes] at notes'
    revert notes'
    decide

/-! ## A cluster that reads in one way -/

def homeResources : List Resource :=
  [{ type := "node", node := "alpha", status := "online" },
    { type := "node", node := "beta", status := "online" },
    { type := "lxc", node := "alpha", status := "running", name := "media", vmid := some 100 },
    { type := "qemu", node := "beta", status := "stopped", name := "files", vmid := some 101 }]

/-- Two hosts with a bridge and a port each, and a guest on each of them. The token may
not read the details of hosts and guests. -/
def homeCluster : Cluster where
  version := .data "8.2.4"
  resources := .data homeResources
  status := .data
    [{ type := "cluster", name := "home" },
      { type := "node", name := "alpha", ip := "10.0.0.2", online := some 1 },
      { type := "node", name := "beta", ip := "10.0.0.3", online := some 1 }]
  nodeStatus _ := .status 403
  network host := .data
    [{ iface := "vmbr0", type := "bridge", active := some 1, cidr := "10.0.0.0/24",
        gateway := "10.0.0.1", address := if host = "alpha" then "10.0.0.2" else "10.0.0.3" },
      { iface := "eno1", type := "eth", active := some 1 }]
  config _ _ _ := .status 403
  interfaces _ _ := .status 403
  agent _ _ := .status 403

def homeSnapshot : Snapshot :=
  homeCluster.status.entries.foldl applyStatus (applyResources plainLetters "8.2.4" homeResources)

theorem opening_homeCluster : opening plainLetters homeCluster = .ok homeSnapshot := by
  have version : readVersion homeCluster = .ok "8.2.4" := by
    have label : cleanLabel "8.2.4" 40 = "8.2.4" := by decide
    change Except.ok (cleanLabel "8.2.4" 40) = _
    rw [label]
  unfold opening
  rw [version]
  rfl

instance {α γ : Type} [DecidableEq γ] (value : α → γ) (items : List α) :
    Decidable (Agree value items) :=
  inferInstanceAs (Decidable (∀ item ∈ items, ∀ other ∈ items, value item = value other))

theorem agree_of_length_eq_one {α γ : Type} {value : α → γ} {items : List α}
    (one : items.length = 1) : Agree value items := by
  rcases List.length_eq_one_iff.mp one with ⟨item, rfl⟩
  intro first firstListed second secondListed
  rw [List.mem_singleton.mp firstListed, List.mem_singleton.mp secondListed]

theorem settled_homeCluster : Settled plainLetters homeCluster := by
  intro snapshot opened
  cases opening_homeCluster.symm.trans opened
  have told : ∀ node ∈ homeSnapshot.nodes, nodeNotes homeCluster node = [hostDetailsNote] := by
    decide
  have oneRoute : ∀ node ∈ homeSnapshot.nodes,
      (routesOf (interfacesOf homeCluster node.name)).length = 1 := by
    decide
  have names : ∀ node ∈ homeSnapshot.nodes,
      ((interfacesOf homeCluster node.name).map Interface.name).Nodup := by
    decide
  constructor
  · decide
  · decide
  · intro node member _
    have one := oneRoute node member
    exact ⟨agree_of_length_eq_one one, agree_of_length_eq_one one,
      fun _ => agree_of_length_eq_one one, fun interface listed other listed' same =>
        List.inj_on_of_nodup_map (names node member) listed listed' same⟩
  · intro node member other member' note reported note' reported'
    rw [told node member, List.mem_singleton] at reported
    rw [told other member', List.mem_singleton] at reported'
    exact reported.trans reported'.symm
  · exact .inl (by decide)
  · exact .inl (by decide)

theorem readsAlike_of_settled_homeCluster :
    ReadsAlike plainLetters homeCluster ∧ (∃ outcome, Fetch plainLetters homeCluster outcome) ∧
      opening plainLetters homeCluster = .ok homeSnapshot ∧
      homeSnapshot.nodes.map (fun node => (node.name, node.address)) =
        [("alpha", "10.0.0.2"), ("beta", "10.0.0.3")] ∧
      homeSnapshot.guests.map (fun guest => (guest.vmid, guest.node)) =
        [(100, "alpha"), (101, "beta")] := by
  refine ⟨readsAlike_of_settled plainLetters homeCluster ?_ settled_homeCluster,
    exists_fetch plainLetters homeCluster, opening_homeCluster, by decide, by decide⟩
  intro resources listed
  cases listed
  exact ⟨by decide, by decide, by decide⟩

end HomelabBuilder.Proxmox.Reading
