import HomelabBuilder.Foundation.Worklist
import HomelabBuilder.Services.ValidationOrder
import HomelabBuilder.Services.VirtualNetworkShape

/-! # The guest network of the canvas

`virtual-network.ts` searches the cables of a host itself, without the table of
neighbours the server builds. Both find the guests that a path over switches
joins to the uplink.
-/

namespace HomelabBuilder.Canvas

open Services

def otherEnd (id : String) (edge : VirtualEdge) : Option String :=
  if edge.source = id then some edge.target
  else if edge.target = id then some edge.source
  else none

def nextEnds (edges : List VirtualEdge) (id : String) : List String :=
  (edges.filterMap (otherEnd id)).filter (· ≠ "")

/-- The search of `connectedVirtualMachines`, over so many vertices of its queue. -/
def connectedSearch (network : VirtualNetwork) (rounds : Nat) : Worklist.State String :=
  let switches := (network.switches.getD []).map (·.id)
  Worklist.drain (nextEnds (network.edges.getD [])) (· ∈ switches) rounds (Worklist.initial uplink)

/-- A switch joins the queue once, behind the uplink. -/
def connectedVirtualMachines (network : VirtualNetwork) : List String :=
  (connectedSearch network ((network.switches.getD []).length + 1)).seen

def Cabled (network : VirtualNetwork) (left right : String) : Prop :=
  ∃ edge ∈ network.edges.getD [], (edge.source = left ∧ edge.target = right) ∨
    (edge.target = left ∧ edge.source = right)

/-- A path over switches leads from the uplink to a vertex. -/
def Uplinked (network : VirtualNetwork) (id : String) : Prop :=
  ∃ inner : List String, (∀ vertex ∈ inner, vertex ∈ (network.switches.getD []).map (·.id)) ∧
    List.IsChain (Cabled network) (uplink :: (inner ++ [id]))

section Accepted

variable {network : VirtualNetwork}

theorem mem_neighbors_iff {left right : String} :
    right ∈ network.neighbors left ↔ Cabled network left right := by
  unfold VirtualNetwork.neighbors Cabled
  rw [List.mem_flatMap]
  refine exists_congr fun edge => and_congr_right fun _ => ?_
  rw [List.mem_append]
  by_cases source : edge.source = left
  · by_cases target : edge.target = left
    · simp [source, target, eq_comm]
    · simp [source, target, eq_comm]
  · by_cases target : edge.target = left
    · simp [source, target, eq_comm]
    · simp [source, target]

/-- The ends of an accepted cable differ, and neither is empty. -/
structure PlainCables (network : VirtualNetwork) : Prop where
  different : ∀ edge ∈ network.edges.getD [], edge.source ≠ edge.target
  named : ∀ edge ∈ network.edges.getD [], edge.source ≠ "" ∧ edge.target ≠ ""

theorem mem_nextEnds_iff (plain : PlainCables network) {left right : String} :
    right ∈ nextEnds (network.edges.getD []) left ↔ Cabled network left right := by
  unfold nextEnds Cabled
  rw [List.mem_filter, List.mem_filterMap]
  constructor
  · rintro ⟨⟨edge, member, isEnd⟩, _⟩
    refine ⟨edge, member, ?_⟩
    unfold otherEnd at isEnd
    split at isEnd
    · rename_i source
      exact .inl ⟨source, Option.some.inj isEnd⟩
    · split at isEnd
      · rename_i target
        exact .inr ⟨target, Option.some.inj isEnd⟩
      · cases isEnd
  · rintro ⟨edge, member, ⟨rfl, rfl⟩ | ⟨rfl, rfl⟩⟩
    · exact ⟨⟨edge, member, if_pos rfl⟩, by simpa using (plain.named edge member).2⟩
    · refine ⟨⟨edge, member, ?_⟩, by simpa using (plain.named edge member).1⟩
      rw [otherEnd, if_neg (plain.different edge member), if_pos rfl]

theorem plainCables_of_valid {runtime : Runtime} (strict : runtime.parseUUID "" = none)
    {node : NodeDTO} (valid : validateNetwork runtime node network = .ok ()) :
    PlainCables network := by
  rcases validateNetwork_eq_ok_iff.mp valid with ⟨switches, positions, edges, rfl, fits⟩
  have named : "" ∉ endpointsOf node.vms switches := by
    unfold endpointsOf
    rw [List.mem_cons, List.mem_append, List.mem_map, List.mem_map]
    rintro (isUplink | ⟨vm, member, empty⟩ | ⟨other, member, empty⟩)
    · exact absurd isUplink (by decide)
    · have parsed := (fits.guests vm member).1
      rw [empty, strict] at parsed
      cases parsed
    · exact fits.named other member empty
  refine ⟨fun edge member => (fits.joins edge member).different, fun edge member => ⟨?_, ?_⟩⟩
  · exact fun empty => named (empty ▸ (fits.joins edge member).source)
  · exact fun empty => named (empty ▸ (fits.joins edge member).target)

theorem mem_connectedVirtualMachines_iff (network : VirtualNetwork) {id : String} :
    id ∈ connectedVirtualMachines network ↔
      Worklist.Reaches (nextEnds (network.edges.getD []))
        (· ∈ (network.switches.getD []).map (·.id)) uplink id := by
  apply Worklist.mem_seen_drain_iff ((network.switches.getD []).map (·.id))
  · intro vertex member
    simpa using member
  · rw [List.length_map]

theorem connected_iff_reachable (plain : PlainCables network) (id : String) :
    id ∈ connectedVirtualMachines network ↔ id ∈ network.reachable := by
  rw [mem_connectedVirtualMachines_iff, mem_reachable_iff]
  constructor
  · intro reaches
    refine reaches.mono (fun left right adjacent => ?_) fun vertex isSwitch => .inr ?_
    · exact mem_neighbors_iff.mpr ((mem_nextEnds_iff plain).mp adjacent)
    · rw [decide_eq_true_eq] at isSwitch ⊢
      exact List.mem_cons_of_mem uplink isSwitch
  · intro reaches
    refine reaches.mono (fun left right adjacent => ?_) fun vertex isSwitch => ?_
    · exact (mem_nextEnds_iff plain).mpr (mem_neighbors_iff.mp adjacent)
    · rw [decide_eq_true_eq, VirtualNetwork.switchIDs, List.mem_cons] at isSwitch
      exact isSwitch.imp_right fun member => by simpa using member

theorem connected_iff_uplinked (plain : PlainCables network) {id : String} (guest : id ≠ uplink) :
    id ∈ connectedVirtualMachines network ↔ Uplinked network id := by
  rw [mem_connectedVirtualMachines_iff, Worklist.reaches_iff_path, or_iff_right guest]
  refine exists_congr fun inner => and_congr ?_ (List.IsChain.iff fun left right => ?_)
  · simp only [decide_eq_true_eq]
  · exact mem_nextEnds_iff plain

end Accepted

/-- The canvas and the server find the same vertices in an accepted network, and
a guest is among them exactly when a path over switches joins it to the uplink. -/
theorem guest_network_agrees (runtime : Runtime) (strict : runtime.parseUUID "" = none)
    (nodes : List NodeDTO) (valid : validateVirtualNetworks runtime nodes = .ok ()) :
    ∀ node ∈ nodes, ∀ network, readVirtualNetwork (.obj node.details) = some network →
      (∀ id, id ∈ connectedVirtualMachines network ↔ id ∈ network.reachable) ∧
      ∀ vm ∈ node.vms, vm.id ∈ network.reachable ↔ Uplinked network vm.id := by
  intro node member network read
  have accepted := validateNetwork_of_read (validateEach_eq_ok_iff.mp valid node member) read
  have plain := plainCables_of_valid strict accepted
  refine ⟨connected_iff_reachable plain, fun vm guest => ?_⟩
  have notUplink : vm.id ≠ uplink := by
    rcases validateNetwork_eq_ok_iff.mp accepted with ⟨switches, positions, edges, _, fits⟩
    rintro same
    apply (List.nodup_cons.mp fits.endpoints).1
    rw [← same]
    exact List.mem_append_left _ (List.mem_map_of_mem guest)
  rw [← connected_iff_reachable plain, connected_iff_uplinked plain notUplink]

/-- A host with a switch, a guest behind it, and a second guest behind the first. -/
def chainedGuests : NodeDTO where
  id := (UUID.numbered 0).text
  type := "server"
  name := "host"
  details :=
    [("virtual_network", .obj
      [ ("switches", .arr [.obj [("id", .str "s")]]),
        ("positions", .obj []),
        ("edges", .arr
          [ .obj [("id", .str "e1"), ("source", .str "uplink"), ("target", .str "s")],
            .obj [("id", .str "e2"), ("source", .str "s"),
              ("target", .str (UUID.numbered 1).text)],
            .obj [("id", .str "e3"), ("source", .str (UUID.numbered 1).text),
              ("target", .str (UUID.numbered 2).text)] ]) ])]
  vms :=
    [ { id := (UUID.numbered 1).text, name := "a", type := "vm" },
      { id := (UUID.numbered 2).text, name := "b", type := "vm" } ]

theorem guest_network_agrees_chainedGuests :
    ∃ network, readVirtualNetwork (.obj chainedGuests.details) = some network ∧
      (∀ id, id ∈ connectedVirtualMachines network ↔ id ∈ network.reachable) ∧
      ∀ vm ∈ chainedGuests.vms, vm.id ∈ network.reachable ↔ Uplinked network vm.id := by
  have holds : (readVirtualNetwork (.obj chainedGuests.details)).isSome = true := by decide
  rcases Option.isSome_iff_exists.mp holds with ⟨network, read⟩
  exact ⟨network, read, guest_network_agrees Runtime.plain (by decide) [chainedGuests] (by decide)
    chainedGuests List.mem_cons_self network read⟩

end HomelabBuilder.Canvas
