import HomelabBuilder.Canvas.DrawnCables

/-! # What the canvas draws and a save accepts

A link the canvas lets be drawn keeps a graph valid unless it is a second
network cable between the same devices, or one to a part that belongs into a
device.
-/

namespace HomelabBuilder.Canvas

open Services (NodeDTO EdgeDTO Runtime graphIssues edgeIssues validHandles nestedOnlyTypes
  connectsFreely FitsPower powerArcs nodesByID)
open Services.EdgeScan (Ends FitsNetwork FitsTable checkEdge pairKey portKey keyOf endPorts)
open Wiring (powerInPrefix powerOutPrefix powerInputCount powerOutputCount isPowerSource Floats)

/-! ## What the canvas checks -/

section Checked

variable {link cable : LinkEnd} {types : List (String × String)} {edges : List LinkEnd}
  {ignoreLoops : Bool}

theorem of_checkConnection (drawn : checkConnection link types edges ignoreLoops = .ok) :
    link.source ≠ link.target ∧ ∃ sourceType targetType,
      typeOf types link.source = some sourceType ∧ typeOf types link.target = some targetType ∧
      if isPowerEdge link then checkPowerConnection link edges = .ok
      else checkNetworkConnection types link sourceType targetType edges ignoreLoops = .ok := by
  unfold checkConnection at drawn
  split at drawn
  · cases drawn
  · rename_i ends
    simp only [not_or] at ends
    refine ⟨ends.2.2, ?_⟩
    split at drawn
    · rename_i sourceType targetType hasSource hasTarget
      refine ⟨sourceType, targetType, hasSource, hasTarget, ?_⟩
      split at drawn
      · rename_i power
        rw [if_pos power]
        exact drawn
      · rename_i network
        rw [if_neg network]
        exact drawn
    · cases drawn

structure PowerDrawn (link cable : LinkEnd) (edges : List LinkEnd) : Prop where
  normal : normalizePowerConnection link = some cable
  socket : ∀ edge ∈ edges, isPowerEdge edge = true →
    ¬ (edge.source = cable.source ∧ edge.sourceHandle = cable.sourceHandle)
  input : ∀ edge ∈ edges, isPowerEdge edge = true →
    ¬ (edge.target = cable.target ∧ edge.targetHandle = cable.targetHandle)
  feeds : searches (feedArcs edges) cable.target cable.source = false

theorem powerDrawn_of_check (drawn : checkPowerConnection link edges = .ok) :
    ∃ cable, PowerDrawn link cable edges := by
  unfold checkPowerConnection at drawn
  split at drawn
  · cases drawn
  · rename_i cable normal
    dsimp only at drawn
    split at drawn
    · cases drawn
    · rename_i socket
      split at drawn
      · cases drawn
      · rename_i input
        split at drawn
        · cases drawn
        · rename_i feeds
          refine ⟨cable, normal, ?_, ?_, by simpa using feeds⟩
          · intro edge member power same
            apply socket
            rw [List.any_eq_true]
            exact ⟨edge, List.mem_filter.mpr ⟨member, power⟩, by simpa using same⟩
          · intro edge member power same
            apply input
            rw [List.any_eq_true]
            exact ⟨edge, List.mem_filter.mpr ⟨member, power⟩, by simpa using same⟩

/-- A network cable the canvas lets be drawn. -/
structure NetworkDrawn (types : List (String × String)) (link : LinkEnd)
    (sourceType targetType : String) (edges : List LinkEnd) : Prop where
  sourcePort : isWifiAssociation sourceType targetType = true ∧ sourceType = "access_point" ∨
    handleInUse types edges link.source link.sourceHandle = false
  targetPort : isWifiAssociation sourceType targetType = true ∧ targetType = "access_point" ∨
    handleInUse types edges link.target link.targetHandle = false
  sourceTable : hasUplink edges link.source sourceType = false
  targetTable : hasUplink edges link.target targetType = false
  hub : isWifiAssociation sourceType targetType = true ∨ canNodeConnectToAny sourceType = true ∨
    canNodeConnectToAny targetType = true

theorem networkDrawn_of_check {sourceType targetType : String}
    (drawn : checkNetworkConnection types link sourceType targetType edges ignoreLoops = .ok) :
    NetworkDrawn types link sourceType targetType edges := by
  unfold checkNetworkConnection at drawn
  dsimp only at drawn
  split at drawn
  · cases drawn
  · rename_i sourcePort
    split at drawn
    · cases drawn
    · rename_i targetPort
      split at drawn
      · cases drawn
      · rename_i table
        split at drawn
        · cases drawn
        · split at drawn
          · cases drawn
          · rename_i hub
            rw [Bool.or_eq_true, not_or, Bool.not_eq_true, Bool.not_eq_true] at table
            refine ⟨?_, ?_, table.1, table.2, ?_⟩
            · rw [Bool.and_eq_true, not_and_or, Bool.not_eq_true, Bool.not_eq_true] at sourcePort
              exact sourcePort.imp_left (by simp)
            · rw [Bool.and_eq_true, not_and_or, Bool.not_eq_true, Bool.not_eq_true] at targetPort
              exact targetPort.imp_left (by simp)
            · by_contra stranded
              simp only [not_or, Bool.not_eq_true] at stranded
              simp [stranded.1, stranded.2.1, stranded.2.2] at hub

end Checked

/-! ## The link on its cards -/

/-- A link between two devices on handles their cards have. -/
structure OnCards (floats : Floats) (nodes : List NodeDTO) (link : LinkEnd)
    (source target : NodeDTO) : Prop where
  sourceListed : source ∈ nodes
  sourceID : source.id = link.source
  sourceHandle : link.sourceHandle ∈ validHandles floats source.type source.details
  targetListed : target ∈ nodes
  targetID : target.id = link.target
  targetHandle : link.targetHandle ∈ validHandles floats target.type target.details

def LinkEnd.takenPorts (source target : NodeDTO) (link : LinkEnd) : List (String × String) :=
  if isPowerEdge link then [(link.source, link.sourceHandle), (link.target, link.targetHandle)]
  else
    let isWifiClient := Services.isWifiAssociation source.type target.type
    endPorts isWifiClient source link.sourceHandle ++ endPorts isWifiClient target link.targetHandle

def LinkEnd.swapped (link : LinkEnd) : LinkEnd where
  source := link.target
  target := link.source
  sourceHandle := link.targetHandle
  targetHandle := link.sourceHandle

def LinkEnd.joining (link : LinkEnd) : EdgeDTO :=
  { source := link.source, target := link.target }

/-- What a save asks of a drawn link beyond the checks of the canvas. Ports are
compared by their keys, which run id and handle together. -/
structure Savable (nodes : List NodeDTO) (edges : List EdgeDTO) (link : LinkEnd)
    (source target : NodeDTO) : Prop where
  unpaired : isPowerEdge link = false → ∀ edge ∈ edges, edge.isPower = false →
    pairKey edge ≠ pairKey link.joining
  loose : isPowerEdge link = false →
    source.type ∉ nestedOnlyTypes ∧ target.type ∉ nestedOnlyTypes
  apart : ∀ edge ∈ edges, ∀ edgeSource edgeTarget, Ends nodes edge edgeSource edgeTarget →
    ∀ taken ∈ edge.takenPorts edgeSource edgeTarget, ∀ port ∈ link.takenPorts source target,
      keyOf taken = keyOf port → taken = port

namespace OnCards

variable {floats : Floats} {nodes : List NodeDTO} {link : LinkEnd} {source target : NodeDTO}

theorem ends (onCards : OnCards floats nodes link source target) (valid : ValidNodes nodes)
    (apart : link.source ≠ link.target) : Ends nodes link.joining source target where
  source := (congrArg _ onCards.sourceID.symm).trans (valid.nodesByID_eq onCards.sourceListed)
  target := (congrArg _ onCards.targetID.symm).trans (valid.nodesByID_eq onCards.targetListed)
  apart := apart

theorem swapped (onCards : OnCards floats nodes link source target) :
    OnCards floats nodes link.swapped target source :=
  ⟨onCards.targetListed, onCards.targetID, onCards.targetHandle, onCards.sourceListed,
    onCards.sourceID, onCards.sourceHandle⟩

end OnCards

theorem plain_of_validHandles {floats : Floats} {node : NodeDTO} {handle : String}
    (member : handle ∈ validHandles floats node.type node.details) : '\x00' ∉ handle.toList := by
  rcases handle_cases member with ⟨_, network⟩ | ⟨index, _, rfl⟩ | ⟨index, _, rfl⟩
  · exact network.plain
  · exact plain_numbered (by decide) index
  · exact plain_numbered (by decide) index

theorem network_of_validHandles {floats : Floats} {node : NodeDTO} {handle : String}
    (member : handle ∈ validHandles floats node.type node.details)
    (network : isPowerHandle handle = false) :
    isPowerSource node.type = false ∧ NetworkHandle handle := by
  rcases handle_cases member with fine | ⟨index, _, rfl⟩ | ⟨index, _, rfl⟩
  · exact fine
  · rw [isPowerHandle_append _ _ (by simp)] at network
    cases network
  · rw [isPowerHandle_append _ _ (by simp)] at network
    cases network

theorem isPowerHandle_of_powerHandleIndex {handle start : String}
    (known : start ∈ [powerInPrefix, powerOutPrefix]) (index : 0 ≤ powerHandleIndex handle start) :
    isPowerHandle handle = true := by
  unfold powerHandleIndex at index
  split at index
  · rename_i rest found
    rw [eq_append_of_cutPrefix found]
    exact isPowerHandle_append _ _ known
  · omega

theorem socket_of_validHandles {floats : Floats} {node : NodeDTO} {handle : String}
    (member : handle ∈ validHandles floats node.type node.details)
    (plugged : 0 ≤ powerHandleIndex handle powerOutPrefix) :
    isPowerSource node.type = true ∧ 0 ≤ Wiring.powerHandleIndex handle powerOutPrefix ∧
      Wiring.powerHandleIndex handle powerOutPrefix <
        powerOutputCount floats node.type node.details := by
  rcases handle_cases member with ⟨_, network⟩ | ⟨index, _, rfl⟩ | ⟨index, inRange, rfl⟩
  · have power := isPowerHandle_of_powerHandleIndex (by simp) plugged
    rw [unpowered_of_network network.unpowered] at power
    cases power
  · have other : cutPrefix powerOutPrefix (powerInPrefix ++ toString index) = none := by
      rw [cutPrefix, String.toList_append]
      rfl
    rw [powerHandleIndex, other] at plugged
    exact absurd plugged (by decide)
  · have isSource : isPowerSource node.type = true := by
      by_contra none
      rw [powerOutputCount, Option.not_isSome_iff_eq_none.mp none] at inRange
      dsimp only at inRange
      omega
    have most := (Wiring.powerOutputCount_of_isPowerSource isSource floats node.details).2
    unfold Wiring.maxPowerOutputs at most
    rw [Wiring.powerHandleIndex_append (by omega)]
    exact ⟨isSource, by omega, inRange⟩

theorem input_of_validHandles {floats : Floats} {node : NodeDTO} {handle : String}
    (member : handle ∈ validHandles floats node.type node.details)
    (plugged : 0 ≤ powerHandleIndex handle powerInPrefix) :
    0 ≤ Wiring.powerHandleIndex handle powerInPrefix ∧
      Wiring.powerHandleIndex handle powerInPrefix <
        powerInputCount floats node.type node.details := by
  rcases handle_cases member with ⟨_, network⟩ | ⟨index, inRange, rfl⟩ | ⟨index, _, rfl⟩
  · have power := isPowerHandle_of_powerHandleIndex (by simp) plugged
    rw [unpowered_of_network network.unpowered] at power
    cases power
  · have most := Wiring.powerInputCount_le floats node.type node.details
    rw [Wiring.powerHandleIndex_append (by omega)]
    exact ⟨by omega, inRange⟩
  · have other : cutPrefix powerInPrefix (powerOutPrefix ++ toString index) = none := by
      rw [cutPrefix, String.toList_append]
      rfl
    rw [powerHandleIndex, other] at plugged
    exact absurd plugged (by decide)

/-! ## Ports -/

section Ports

variable {floats : Floats} {nodes : List NodeDTO} {edges : List EdgeDTO} {link : LinkEnd}
  {source target : NodeDTO}

theorem endPorts_sublist (isWifiClient : Bool) (node : NodeDTO) (handle : String) :
    (endPorts isWifiClient node handle).Sublist [(node.id, handle)] := by
  unfold endPorts
  split
  · exact List.nil_sublist _
  · exact List.Sublist.refl _

theorem mem_takenPorts {edge : EdgeDTO} (ends : Ends nodes edge source target)
    {port : String × String} (taken : port ∈ edge.takenPorts source target) :
    port = (edge.source, edge.sourceHandle) ∨ port = (edge.target, edge.targetHandle) := by
  have sourceID := (Services.id_of_nodesByID ends.source).2
  have targetID := (Services.id_of_nodesByID ends.target).2
  unfold EdgeDTO.takenPorts at taken
  split at taken
  · simpa using taken
  · split at taken
    · cases taken
    · rcases List.mem_append.mp taken with atSource | atTarget
      · left
        rw [← sourceID]
        exact List.mem_singleton.mp ((endPorts_sublist _ _ _).subset atSource)
      · right
        rw [← targetID]
        exact List.mem_singleton.mp ((endPorts_sublist _ _ _).subset atTarget)

theorem takenPorts_sublist (onCards : OnCards floats nodes link source target) :
    (link.takenPorts source target).Sublist
      [(link.source, link.sourceHandle), (link.target, link.targetHandle)] := by
  unfold LinkEnd.takenPorts
  split
  · exact List.Sublist.refl _
  · rw [← onCards.sourceID, ← onCards.targetID]
    exact (endPorts_sublist _ _ _).append (endPorts_sublist _ _ _)

theorem nodup_takenKeys (onCards : OnCards floats nodes link source target)
    (apart : link.source ≠ link.target) : ((link.takenPorts source target).map keyOf).Nodup := by
  apply List.Nodup.sublist ((takenPorts_sublist onCards).map keyOf)
  rw [List.map_cons, List.map_singleton, List.nodup_cons, List.mem_singleton]
  refine ⟨?_, List.nodup_singleton _⟩
  intro same
  have ports := keyOf_inj (plain_of_validHandles onCards.sourceHandle)
    (plain_of_validHandles onCards.targetHandle) same
  exact apart (congrArg Prod.fst ports)

theorem unused_iff_apart (graph : ValidGraph floats nodes edges)
    (free : ∀ edge ∈ edges, ∀ edgeSource edgeTarget, Ends nodes edge edgeSource edgeTarget →
      ∀ taken ∈ edge.takenPorts edgeSource edgeTarget, taken ∉ link.takenPorts source target) :
    (∀ key ∈ (link.takenPorts source target).map keyOf,
        key ∉ (edges.foldl (checkEdge floats nodes) {}).usedPorts) ↔
      ∀ edge ∈ edges, ∀ edgeSource edgeTarget, Ends nodes edge edgeSource edgeTarget →
        ∀ taken ∈ edge.takenPorts edgeSource edgeTarget, ∀ port ∈ link.takenPorts source target,
          keyOf taken = keyOf port → taken = port := by
  constructor
  · intro unused edge member edgeSource edgeTarget ends taken isTaken port isPort same
    refine absurd ?_ (unused (keyOf port) (List.mem_map_of_mem isPort))
    refine (Services.EdgeScan.mem_usedPorts_foldl floats edges {} graph.joins).mpr (.inr ?_)
    exact ⟨edge, member, edgeSource, edgeTarget, ends, same ▸ List.mem_map_of_mem isTaken⟩
  · intro apart key isKey used
    rcases List.mem_map.mp isKey with ⟨port, isPort, rfl⟩
    rcases (Services.EdgeScan.mem_usedPorts_foldl floats edges {} graph.joins).mp used with
      old | ⟨edge, member, edgeSource, edgeTarget, ends, isTaken⟩
    · cases old
    · rcases List.mem_map.mp isTaken with ⟨taken, isTaken, same⟩
      have equal := apart edge member edgeSource edgeTarget ends taken isTaken port isPort same
      exact free edge member edgeSource edgeTarget ends taken isTaken (equal ▸ isPort)

end Ports

/-! ## Power cables -/

/-- The power cable `onConnect` adds. -/
def powerCable (cable : LinkEnd) : EdgeDTO := savedEdge cable { connectionType := "power" }

@[simp]
theorem isPower_powerCable (cable : LinkEnd) : (powerCable cable).isPower = true := rfl

theorem normalizePowerConnection_cases {link cable : LinkEnd}
    (normal : normalizePowerConnection link = some cable) :
    0 ≤ powerHandleIndex cable.sourceHandle powerOutPrefix ∧
      0 ≤ powerHandleIndex cable.targetHandle powerInPrefix ∧
      (cable = link ∨ cable = link.swapped) := by
  unfold normalizePowerConnection at normal
  dsimp only at normal
  split at normal
  · rename_i straight
    cases normal
    exact ⟨straight.1, straight.2, .inl rfl⟩
  · split at normal
    · rename_i swapped
      cases normal
      exact ⟨swapped.2, swapped.1, .inr rfl⟩
    · cases normal

section Power

variable {floats : Floats} {nodes : List NodeDTO} {edges : List EdgeDTO} {link cable : LinkEnd}
  {source target : NodeDTO}

theorem fitsPower_of_normal (valid : ValidNodes nodes)
    (onCards : OnCards floats nodes link source target) (apart : link.source ≠ link.target)
    (normal : normalizePowerConnection link = some cable) :
    FitsPower floats nodes (powerCable cable) := by
  rcases normalizePowerConnection_cases normal with ⟨socket, input, ends⟩
  have fits : ∀ {cable : LinkEnd} {from_ into : NodeDTO}, OnCards floats nodes cable from_ into →
      cable.source ≠ cable.target → 0 ≤ powerHandleIndex cable.sourceHandle powerOutPrefix →
      0 ≤ powerHandleIndex cable.targetHandle powerInPrefix →
      FitsPower floats nodes (powerCable cable) := by
    intro cable from_ into onCards apart socket input
    have joined := onCards.ends valid apart
    exact
      { source := ⟨from_, joined.source, socket_of_validHandles onCards.sourceHandle socket⟩
        target := ⟨into, joined.target, input_of_validHandles onCards.targetHandle input⟩
        apart := apart }
  rcases ends with rfl | rfl
  · exact fits onCards apart socket input
  · exact fits onCards.swapped (Ne.symm apart) socket input

theorem acyclic_of_powerDrawn (graph : ValidGraph floats nodes edges)
    (drawn : PowerDrawn link cable (edges.map linkEnd)) :
    Arcs.Acyclic (powerArcs (edges ++ [powerCable cable])) := by
  have subset : powerArcs edges ⊆ feedArcs (edges.map linkEnd) := by
    intro arc member
    rcases List.mem_map.mp member with ⟨edge, listed, rfl⟩
    rcases List.mem_filter.mp listed with ⟨listed, power⟩
    have given : edge.target ≠ "" :=
      Services.head_ne_empty graph.power.fits edge.source edge.target member
    apply List.mem_map.mpr
    refine ⟨linkEnd edge, List.mem_filter.mpr ⟨List.mem_map_of_mem listed, ?_⟩, rfl⟩
    rw [graph.isPowerEdge_linkEnd listed, power, Bool.true_and]
    exact decide_eq_true given
  apply graph.power.acyclic.insert
  · intro arc member
    rcases List.mem_map.mp member with ⟨edge, listed, rfl⟩
    rcases List.mem_filter.mp listed with ⟨listed, power⟩
    rcases List.mem_append.mp listed with old | new
    · exact .inl (List.mem_map.mpr ⟨edge, List.mem_filter.mpr ⟨old, power⟩, rfl⟩)
    · rw [List.mem_singleton.mp new]
      exact .inr rfl
  · intro path
    have reaches : Arcs.Reaches (feedArcs (edges.map linkEnd)) cable.target cable.source :=
      Relation.ReflTransGen.mono (fun _ _ arc => subset arc) _ _ path
    exact absurd (searches_of_reaches reaches) (by rw [drawn.feeds]; decide)

theorem apart_prefixes {left right : String} : powerOutPrefix ++ left ≠ powerInPrefix ++ right := by
  intro same
  have lists := congrArg String.toList same
  rw [String.toList_append, String.toList_append] at lists
  simp [powerOutPrefix, powerInPrefix] at lists

theorem spelled_of_powerHandleIndex {handle start : String}
    (plugged : 0 ≤ powerHandleIndex handle start) : ∃ rest, handle = start ++ rest := by
  unfold powerHandleIndex at plugged
  split at plugged
  · rename_i rest found
    exact ⟨_, eq_append_of_cutPrefix found⟩
  · omega

theorem spelled_of_wiringIndex {handle start : String}
    (plugged : 0 ≤ Wiring.powerHandleIndex handle start) : ∃ rest, handle = start ++ rest := by
  unfold Wiring.powerHandleIndex at plugged
  split at plugged
  · rename_i rest found
    exact ⟨_, eq_append_of_cutPrefix found⟩
  · omega

theorem free_of_powerDrawn (graph : ValidGraph floats nodes edges)
    (drawn : PowerDrawn link cable (edges.map linkEnd)) {edge : EdgeDTO} (member : edge ∈ edges)
    {edgeSource edgeTarget : NodeDTO} (ends : Ends nodes edge edgeSource edgeTarget)
    {taken : String × String} (isTaken : taken ∈ edge.takenPorts edgeSource edgeTarget) :
    taken ≠ (cable.source, cable.sourceHandle) ∧ taken ≠ (cable.target, cable.targetHandle) := by
  rcases normalizePowerConnection_cases drawn.normal with ⟨socket, input, _⟩
  have listed := List.mem_map_of_mem (f := linkEnd) member
  cases power : edge.isPower with
  | true =>
      have isPowerEdge_ := (graph.isPowerEdge_linkEnd member).trans power
      have fits := graph.power.fits edge member power
      rcases fits.source with ⟨_, _, _, edgeSocket, _⟩
      rcases fits.target with ⟨_, _, edgeInput, _⟩
      rcases spelled_of_powerHandleIndex socket with ⟨socketRest, socketHandle⟩
      rcases spelled_of_powerHandleIndex input with ⟨inputRest, inputHandle⟩
      rcases spelled_of_wiringIndex edgeSocket with ⟨edgeRest, edgeHandle⟩
      rcases spelled_of_wiringIndex edgeInput with ⟨otherRest, otherHandle⟩
      rcases mem_takenPorts ends isTaken with rfl | rfl
      · refine ⟨?_, ?_⟩
        · intro same
          rw [Prod.mk.injEq] at same
          exact drawn.socket _ listed isPowerEdge_ same
        · intro same
          rw [Prod.mk.injEq, edgeHandle, inputHandle] at same
          exact apart_prefixes same.2
      · refine ⟨?_, ?_⟩
        · intro same
          rw [Prod.mk.injEq, otherHandle, socketHandle] at same
          exact apart_prefixes same.2.symm
        · intro same
          rw [Prod.mk.injEq] at same
          exact drawn.input _ listed isPowerEdge_ same
  | false =>
      have handles := graph.network.handles edge member power
      have socketPower : isPowerHandle cable.sourceHandle = true :=
        isPowerHandle_of_powerHandleIndex (by simp) socket
      have inputPower : isPowerHandle cable.targetHandle = true :=
        isPowerHandle_of_powerHandleIndex (by simp) input
      have unpowered : isPowerHandle taken.2 = false := by
        rcases mem_takenPorts ends isTaken with rfl | rfl
        · exact unpowered_of_network handles.1
        · exact unpowered_of_network handles.2
      refine ⟨?_, ?_⟩
      · rintro rfl
        rw [socketPower] at unpowered
        cases unpowered
      · rintro rfl
        rw [inputPower] at unpowered
        cases unpowered

theorem isPowerEdge_of_normal (normal : normalizePowerConnection link = some cable) :
    isPowerEdge link = true := by
  rcases normalizePowerConnection_cases normal with ⟨socket, _, rfl | rfl⟩
  · rw [isPowerEdge, isPowerHandle_of_powerHandleIndex (by simp) socket, Bool.true_or]
  · have power : isPowerHandle link.targetHandle = true :=
      isPowerHandle_of_powerHandleIndex (by simp) socket
    rw [isPowerEdge, power, Bool.or_true]

theorem mem_portKeys_powerCable (normal : normalizePowerConnection link = some cable)
    {key : String} :
    key ∈ (powerCable cable).portKeys ↔ key ∈ (link.takenPorts source target).map keyOf := by
  rw [LinkEnd.takenPorts, if_pos (isPowerEdge_of_normal normal)]
  rcases normalizePowerConnection_cases normal with ⟨_, _, rfl | rfl⟩
  · exact Iff.rfl
  · simp only [EdgeDTO.portKeys, List.map_cons, List.map_nil, List.mem_cons, List.not_mem_nil,
      or_false]
    exact or_comm

theorem powerCable_accepted_iff (graph : ValidGraph floats nodes edges)
    (onCards : OnCards floats nodes link source target) (apart : link.source ≠ link.target)
    (drawn : PowerDrawn link cable (edges.map linkEnd)) :
    edgeIssues floats nodes (edges ++ [powerCable cable]) = [] ↔
      Savable nodes edges link source target := by
  have power := isPowerEdge_of_normal drawn.normal
  have fits := fitsPower_of_normal graph.rows onCards apart drawn.normal
  have ports : ∀ key, key ∈ (powerCable cable).portKeys ↔
      key ∈ (link.takenPorts source target).map keyOf := fun key =>
    mem_portKeys_powerCable drawn.normal
  have twoPorts : (powerCable cable).portKeys.Nodup := by
    have keys := nodup_takenKeys onCards apart
    rw [LinkEnd.takenPorts, if_pos power] at keys
    rcases normalizePowerConnection_cases drawn.normal with ⟨_, _, rfl | rfl⟩
    · exact keys
    · exact List.nodup_reverse.mp keys
  have free : ∀ edge ∈ edges, ∀ edgeSource edgeTarget, Ends nodes edge edgeSource edgeTarget →
      ∀ taken ∈ edge.takenPorts edgeSource edgeTarget, taken ∉ link.takenPorts source target := by
    intro edge member edgeSource edgeTarget ends taken isTaken isPort
    have unused := free_of_powerDrawn graph drawn member ends isTaken
    rw [LinkEnd.takenPorts, if_pos power, List.mem_cons, List.mem_singleton] at isPort
    rcases normalizePowerConnection_cases drawn.normal with ⟨_, _, rfl | rfl⟩
    · exact isPort.elim unused.1 unused.2
    · exact isPort.elim unused.2 unused.1
  have allFit : ∀ edge ∈ edges ++ [powerCable cable], edge.isPower →
      FitsPower floats nodes edge := by
    intro edge member isPower
    rcases List.mem_append.mp member with old | new
    · exact graph.power.fits edge old isPower
    · exact List.mem_singleton.mp new ▸ fits
  have noLoop : Services.powerLoopNode (edges ++ [powerCable cable]) = "" :=
    (Arcs.loopVertex_eq_blank_iff (Services.head_ne_empty allFit)).mpr
      (acyclic_of_powerDrawn graph drawn)
  rw [Services.edgeIssues_append_eq_nil_iff,
    Services.EdgeScan.isClean_checkEdge_power (isPower_powerCable cable)]
  constructor
  · rintro ⟨⟨_, _, frees⟩, _⟩
    refine ⟨fun network => absurd (network.symm.trans power) (by decide),
      fun network => absurd (network.symm.trans power) (by decide), ?_⟩
    exact (unused_iff_apart graph free).mp fun key isKey => frees.2 key ((ports key).mpr isKey)
  · intro savable
    refine ⟨⟨graph.clean, fits, twoPorts, ?_⟩, noLoop⟩
    intro key isKey
    exact (unused_iff_apart graph free).mpr savable.apart key ((ports key).mp isKey)

end Power

/-! ## Network cables -/

section Network

variable {floats : Floats} {nodes : List NodeDTO} {edges : List EdgeDTO} {link : LinkEnd}
  {source target : NodeDTO}

/-- The network cable `onConnect` adds. -/
def networkCable (nodes : List NodeDTO) (link : LinkEnd) : EdgeDTO :=
  savedEdge link (networkCableData (nodeTypes nodes) link)

theorem isWifiAssociation_eq (a b : String) :
    isWifiAssociation a b = Services.isWifiAssociation a b := rfl

theorem typeOf_link (valid : ValidNodes nodes) (onCards : OnCards floats nodes link source target) :
    typeOf (nodeTypes nodes) link.source = some source.type ∧
      typeOf (nodeTypes nodes) link.target = some target.type := by
  rw [← onCards.sourceID, ← onCards.targetID]
  exact ⟨valid.typeOf_eq onCards.sourceListed, valid.typeOf_eq onCards.targetListed⟩

/-- A link at an access point is wireless, unless it goes to a LAN table. -/
def AccessPointLink (source target : NodeDTO) : Prop :=
  requiredConnectionType (some source.type) (some target.type) ≠ some "ethernet" ∧
    (source.type = "access_point" ∨ target.type = "access_point")

theorem type_networkCable (valid : ValidNodes nodes)
    (onCards : OnCards floats nodes link source target) :
    AccessPointLink source target ∧ (networkCable nodes link).type = "wireless" ∨
      ¬ AccessPointLink source target ∧ (networkCable nodes link).type = "ethernet" := by
  rcases typeOf_link valid onCards with ⟨sourceType, targetType⟩
  have type : (networkCable nodes link).type =
      orElse (networkCableData (nodeTypes nodes) link).connectionType "ethernet" := rfl
  rw [type, networkCableData, sourceType, targetType]
  by_cases accessPoint : AccessPointLink source target
  · left
    refine ⟨accessPoint, ?_⟩
    rcases accessPoint with ⟨cabled, atPoint⟩
    have isLink : (decide (requiredConnectionType (some source.type) (some target.type) ≠
        some "ethernet") && (decide (some source.type = some "access_point") ||
          decide (some target.type = some "access_point"))) = true := by
      simpa [cabled] using atPoint
    simp only [isLink, if_true]
    rfl
  · right
    refine ⟨accessPoint, ?_⟩
    have isLink : (decide (requiredConnectionType (some source.type) (some target.type) ≠
        some "ethernet") && (decide (some source.type = some "access_point") ||
          decide (some target.type = some "access_point"))) = false := by
      unfold AccessPointLink at accessPoint
      simpa using accessPoint
    simp only [isLink]
    rfl

theorem mem_endPorts {isWifiClient : Bool} {node : NodeDTO} {handle : String}
    {port : String × String} (member : port ∈ endPorts isWifiClient node handle) :
    port = (node.id, handle) ∧ ¬ (isWifiClient = true ∧ node.type = "access_point") := by
  unfold endPorts at member
  split at member
  · cases member
  · rename_i takes
    refine ⟨List.mem_singleton.mp member, ?_⟩
    rintro ⟨client, accessPoint⟩
    simp [client, accessPoint] at takes

theorem handleInUse_of_taken (graph : ValidGraph floats nodes edges) {edge : EdgeDTO}
    (member : edge ∈ edges) (network : edge.isPower = false) {edgeSource edgeTarget : NodeDTO}
    (ends : Ends nodes edge edgeSource edgeTarget) {port : String × String}
    (taken : port ∈ edge.takenPorts edgeSource edgeTarget) :
    handleInUse (nodeTypes nodes) (edges.map linkEnd) port.1 port.2 = true := by
  rcases typeOf_source graph.rows ends with ⟨sourceType, targetType⟩
  have sourceID := (Services.id_of_nodesByID ends.source).2
  have targetID := (Services.id_of_nodesByID ends.target).2
  have plain : isPowerEdge (linkEnd edge) = false := (graph.isPowerEdge_linkEnd member).trans network
  -- The device of the port has the type of the end the cable takes it at.
  have uses : ∀ {id type : String}, typeOf (nodeTypes nodes) id = some type →
      ¬ (Services.isWifiAssociation edgeSource.type edgeTarget.type = true ∧
        type = "access_point") → takesPort (nodeTypes nodes) (linkEnd edge) id = true := by
    intro id type found counted
    unfold takesPort
    rw [plain]
    simp only [linkEnd, sourceType, targetType, found]
    by_contra unused
    apply counted
    simpa [and_comm, isWifiAssociation_eq] using unused
  unfold EdgeDTO.takenPorts at taken
  rw [network] at taken
  simp only [Bool.false_eq_true, if_false] at taken
  unfold handleInUse
  rw [List.any_eq_true]
  refine ⟨linkEnd edge, List.mem_map_of_mem member, ?_⟩
  split at taken
  · cases taken
  · rcases List.mem_append.mp taken with atSource | atTarget
    · rcases mem_endPorts atSource with ⟨rfl, counted⟩
      rw [sourceID, uses sourceType counted]
      simp [linkEnd]
    · rcases mem_endPorts atTarget with ⟨rfl, counted⟩
      rw [targetID, uses targetType counted]
      simp [linkEnd]

theorem free_of_networkDrawn (graph : ValidGraph floats nodes edges)
    (onCards : OnCards floats nodes link source target) (network : isPowerEdge link = false)
    (drawn : NetworkDrawn (nodeTypes nodes) link source.type target.type (edges.map linkEnd))
    {edge : EdgeDTO} (member : edge ∈ edges) {edgeSource edgeTarget : NodeDTO}
    (ends : Ends nodes edge edgeSource edgeTarget) {taken : String × String}
    (isTaken : taken ∈ edge.takenPorts edgeSource edgeTarget) :
    taken ∉ link.takenPorts source target := by
  intro isPort
  rcases Bool.or_eq_false_iff.mp network with ⟨sourcePlain, targetPlain⟩
  have sourceHandle := (network_of_validHandles onCards.sourceHandle sourcePlain).2
  have targetHandle := (network_of_validHandles onCards.targetHandle targetPlain).2
  have unpowered : Services.EdgeScan.isPowerHandle taken.2 = false := by
    rcases List.mem_pair.mp ((takenPorts_sublist onCards).subset isPort) with rfl | rfl
    · exact sourceHandle.unpowered
    · exact targetHandle.unpowered
  have edgeNetwork : edge.isPower = false := by
    by_contra power
    have handles := (graph.power.fits edge member (Bool.not_eq_false _ ▸ power)).handles
    rcases mem_takenPorts ends isTaken with rfl | rfl
    · exact absurd (unpowered.symm.trans handles.1) (by decide)
    · exact absurd (unpowered.symm.trans handles.2) (by decide)
  have inUse := handleInUse_of_taken graph member edgeNetwork ends isTaken
  rw [LinkEnd.takenPorts, network] at isPort
  simp only [Bool.false_eq_true, if_false] at isPort
  rcases List.mem_append.mp isPort with atSource | atTarget
  · rcases mem_endPorts atSource with ⟨rfl, counted⟩
    rw [onCards.sourceID] at inUse
    exact absurd (inUse.symm.trans (drawn.sourcePort.resolve_left counted)) (by decide)
  · rcases mem_endPorts atTarget with ⟨rfl, counted⟩
    rw [onCards.targetID] at inUse
    exact absurd (inUse.symm.trans (drawn.targetPort.resolve_left counted)) (by decide)

theorem lookup_tableUplinks_of_drawn (graph : ValidGraph floats nodes edges) {id : String}
    (unused : hasUplink (edges.map linkEnd) id "lan_table" = false) :
    (edges.foldl (checkEdge floats nodes) {}).tableUplinks.lookup id = none := by
  refine Services.EdgeScan.lookup_tableUplinks_foldl floats edges {} graph.joins ?_
  intro edge member
  by_contra attached
  rw [not_or, not_and_or, not_not, not_not, Bool.not_eq_true] at attached
  have used : hasUplink (edges.map linkEnd) id "lan_table" = true := by
    rw [hasUplink, decide_eq_true rfl, Bool.true_and, List.any_eq_true]
    refine ⟨linkEnd edge, List.mem_map_of_mem member, ?_⟩
    rw [graph.isPowerEdge_linkEnd member, attached.1]
    rcases attached.2 with rfl | rfl <;> simp [linkEnd]
  exact absurd (unused.symm.trans used) (by decide)

theorem fitsTable_of_drawn (graph : ValidGraph floats nodes edges) {node : NodeDTO} {id : String}
    (named : node.id = id) (unused : hasUplink (edges.map linkEnd) id node.type = false)
    {edge : EdgeDTO} (cabled : node.type = "lan_table" → edge.type = "ethernet") :
    FitsTable ((edges.foldl (checkEdge floats nodes) {}).tableUplinks.lookup node.id) node edge := by
  intro table
  have isTable : node.type = "lan_table" := table
  rw [isTable] at unused
  rw [named, lookup_tableUplinks_of_drawn graph unused, cabled isTable]
  decide

theorem connectsFreely_of_canvas {type : String} (connects : canNodeConnectToAny type = true)
    (loose : type ∉ nestedOnlyTypes) : type ∈ connectsFreely := by
  have known : type ∈ connectsToAny := of_decide_eq_true connects
  revert loose
  simp only [connectsToAny, List.mem_cons, List.not_mem_nil, or_false] at known
  rcases known with rfl | rfl | rfl | rfl | rfl | rfl | rfl | rfl <;> decide

theorem accessPoint_of_isWifiAssociation {a b : String}
    (client : Services.isWifiAssociation a b = true) : a = "access_point" ∨ b = "access_point" := by
  unfold Services.isWifiAssociation at client
  simp only [Bool.or_eq_true, Bool.and_eq_true, decide_eq_true_eq] at client
  exact client.imp And.left And.left

theorem not_isWifiAssociation_of_table {a b : String} (table : a = "lan_table" ∨ b = "lan_table") :
    isWifiAssociation a b = false := by
  rcases table with rfl | rfl
  · simp [isWifiAssociation, wifiClientTypes]
  · simp [isWifiAssociation, wifiClientTypes]

theorem accessPointLink_of_isWifiAssociation
    (client : Services.isWifiAssociation source.type target.type = true) :
    AccessPointLink source target := by
  refine ⟨?_, accessPoint_of_isWifiAssociation client⟩
  rw [requiredConnectionType, isWifiAssociation_eq, client, if_pos rfl]
  decide

theorem not_accessPointLink_of_table
    (table : source.type = "lan_table" ∨ target.type = "lan_table") :
    ¬ AccessPointLink source target := by
  rintro ⟨cabled, _⟩
  apply cabled
  rw [requiredConnectionType, not_isWifiAssociation_of_table table]
  rcases table with table | table <;> simp [table]

theorem takenPorts_networkCable (valid : ValidNodes nodes)
    (onCards : OnCards floats nodes link source target) (network : isPowerEdge link = false) :
    (networkCable nodes link).takenPorts source target = link.takenPorts source target := by
  rw [LinkEnd.takenPorts, network, EdgeDTO.takenPorts, EdgeDTO.isPower]
  rcases type_networkCable valid onCards with ⟨_, media⟩ | ⟨_, media⟩ <;> rw [media] <;> rfl

theorem fitsNetwork_iff (graph : ValidGraph floats nodes edges)
    (onCards : OnCards floats nodes link source target) (apart : link.source ≠ link.target)
    (network : isPowerEdge link = false)
    (drawn : NetworkDrawn (nodeTypes nodes) link source.type target.type (edges.map linkEnd)) :
    FitsNetwork (edges.foldl (checkEdge floats nodes) {}) source target (networkCable nodes link) ↔
      Savable nodes edges link source target := by
  have keys : (networkCable nodes link).takenKeys source target =
      (link.takenPorts source target).map keyOf := by
    rw [EdgeDTO.takenKeys, takenPorts_networkCable graph.rows onCards network]
  have unused := unused_iff_apart graph fun edge member edgeSource edgeTarget ends taken isTaken =>
    free_of_networkDrawn graph onCards network drawn member ends isTaken
  have seen (key : String) : key ∈ (edges.foldl (checkEdge floats nodes) {}).seenPairs ↔
      ∃ edge ∈ edges, edge.isPower = false ∧ key = pairKey edge := by
    have counted := @Services.EdgeScan.mem_seenPairs_foldl floats nodes key edges {} graph.joins
    simpa using counted
  constructor
  · intro fits
    refine ⟨?_, fun _ => fits.loose, unused.mp (keys ▸ fits.ports)⟩
    intro _ edge member wired same
    exact fits.pair ((seen _).mpr ⟨edge, member, wired, same.symm⟩)
  · intro savable
    rcases Bool.or_eq_false_iff.mp network with ⟨sourcePlain, targetPlain⟩
    rcases network_of_validHandles onCards.sourceHandle sourcePlain with ⟨sourceNetwork, sourceHandle⟩
    rcases network_of_validHandles onCards.targetHandle targetPlain with ⟨targetNetwork, targetHandle⟩
    have loose := savable.loose network
    have media := type_networkCable graph.rows onCards
    have cabled : source.type = "lan_table" ∨ target.type = "lan_table" →
        (networkCable nodes link).type = "ethernet" := by
      intro table
      exact (media.resolve_left fun accessPoint =>
        not_accessPointLink_of_table table accessPoint.1).2
    exact
      { handles := ⟨sourceHandle.unpowered, targetHandle.unpowered⟩
        networked := ⟨sourceNetwork, targetNetwork⟩
        pair := by
          intro paired
          rcases (seen _).mp paired with ⟨edge, member, wired, same⟩
          exact savable.unpaired network edge member wired same.symm
        loose := loose
        gateway := by
          rcases drawn.hub with client | connects | connects
          · exact .inl client
          · exact .inr (.inl (connectsFreely_of_canvas connects loose.1))
          · exact .inr (.inr (connectsFreely_of_canvas connects loose.2))
        wireless := by
          intro client
          exact (media.resolve_right fun other =>
            other.1 (accessPointLink_of_isWifiAssociation client)).2
        sourceTable := fitsTable_of_drawn graph onCards.sourceID drawn.sourceTable fun table =>
          cabled (.inl table)
        targetTable := fitsTable_of_drawn graph onCards.targetID drawn.targetTable fun table =>
          cabled (.inr table)
        endpoint := by
          intro wireless
          have accessPoint := (media.resolve_right fun other =>
            absurd (other.2.symm.trans wireless) (by decide)).1
          rcases accessPoint.2 with here | here
          · exact .inl here
          · exact .inr (.inl here)
        ports := keys ▸ unused.mpr savable.apart
        apart := keys ▸ nodup_takenKeys onCards apart }

/-- A save takes a network cable the canvas lets be drawn between devices that have
none yet and that are no parts. -/
theorem networkCable_accepted_iff (graph : ValidGraph floats nodes edges)
    (onCards : OnCards floats nodes link source target) (apart : link.source ≠ link.target)
    (network : isPowerEdge link = false)
    (drawn : NetworkDrawn (nodeTypes nodes) link source.type target.type (edges.map linkEnd)) :
    edgeIssues floats nodes (edges ++ [networkCable nodes link]) = [] ↔
      Savable nodes edges link source target := by
  have joined := onCards.ends graph.rows apart
  have ends : Ends nodes (networkCable nodes link) source target :=
    ⟨joined.source, joined.target, joined.apart⟩
  have media : (networkCable nodes link).type = "ethernet" ∨
      (networkCable nodes link).type = "wireless" :=
    (type_networkCable graph.rows onCards).symm.imp And.right And.right
  have isNetwork : (networkCable nodes link).isPower = false := by
    rcases media with media | media <;> rw [EdgeDTO.isPower, media] <;> rfl
  have noLoop : Services.powerLoopNode (edges ++ [networkCable nodes link]) = "" := by
    have arcs : powerArcs (edges ++ [networkCable nodes link]) = powerArcs edges := by
      rw [powerArcs, powerArcs, List.filter_append, List.filter_cons_of_neg (by simp [isNetwork]),
        List.filter_nil, List.append_nil]
    rw [Services.powerLoopNode, arcs]
    exact (Arcs.loopVertex_eq_blank_iff (Services.head_ne_empty graph.power.fits)).mpr
      graph.power.acyclic
  rw [Services.edgeIssues_append_eq_nil_iff,
    Services.EdgeScan.isClean_checkEdge_network ends media,
    fitsNetwork_iff graph onCards apart network drawn]
  exact ⟨fun accepted => accepted.1.2, fun savable => ⟨⟨graph.clean, savable⟩, noLoop⟩⟩

theorem linkEnd_ne_of_networkDrawn (graph : ValidGraph floats nodes edges)
    (onCards : OnCards floats nodes link source target) (network : isPowerEdge link = false)
    (drawn : NetworkDrawn (nodeTypes nodes) link source.type target.type (edges.map linkEnd))
    {edge : EdgeDTO} (member : edge ∈ edges) : linkEnd edge ≠ link := by
  intro same
  rcases typeOf_link graph.rows onCards with ⟨sourceType, targetType⟩
  have inUse : ∀ {id type handle : String}, typeOf (nodeTypes nodes) id = some type →
      (link.source = id ∧ link.sourceHandle = handle ∨
        link.target = id ∧ link.targetHandle = handle) →
      handleInUse (nodeTypes nodes) (edges.map linkEnd) id handle = false →
      isWifiAssociation source.type target.type = true ∧ type = "access_point" := by
    intro id type handle found here unused
    by_contra counted
    have used : handleInUse (nodeTypes nodes) (edges.map linkEnd) id handle = true := by
      rw [handleInUse, List.any_eq_true]
      refine ⟨link, same ▸ List.mem_map_of_mem member, ?_⟩
      rw [takesPort, network]
      simp only [sourceType, targetType, found]
      simp only [Option.some.injEq, Bool.and_eq_true, Bool.or_eq_true, decide_eq_true_eq]
      refine ⟨?_, here⟩
      by_contra unused
      apply counted
      simpa [and_comm] using unused
    exact absurd (unused.symm.trans used) (by decide)
  -- An access point is no Wi-Fi client, so one of the ends takes a port.
  have atSource := drawn.sourcePort.elim id (inUse sourceType (.inl ⟨rfl, rfl⟩))
  have atTarget := drawn.targetPort.elim id (inUse targetType (.inr ⟨rfl, rfl⟩))
  have client := atSource.1
  rw [atSource.2, atTarget.2] at client
  revert client
  decide

end Network

/-! ## Any link -/

section Links

variable {runtime : Runtime} {nodes : List NodeDTO} {edges : List EdgeDTO} {link : LinkEnd}
  {source target : NodeDTO} {ignoreLoops : Bool}

theorem connected_of_new (library : CanvasLibrary) {types : List (String × String)}
    {cable : EdgeDTO} (drawn : drawnCable types link = some cable)
    (new : ∀ edge ∈ edges, linkEnd edge ≠ linkEnd cable) :
    connected library types edges link = edges ++ [cable] := by
  rw [connected, drawn]
  exact library.addEdge_new linkEnd cable edges new

/-- When a save takes what the canvas lets be drawn. -/
theorem connected_accepted_iff (library : CanvasLibrary)
    (accepted : graphIssues runtime nodes edges = [])
    (onCards : OnCards runtime.floats nodes link source target)
    (drawn : checkConnection link (nodeTypes nodes) (edges.map linkEnd) ignoreLoops = .ok) :
    graphIssues runtime nodes (connected library (nodeTypes nodes) edges link) = [] ↔
      Savable nodes edges link source target := by
  have graph := validGraph_of_graphIssues accepted
  rw [graphIssues_eq_nil_iff accepted]
  rcases of_checkConnection drawn with ⟨apart, sourceType, targetType, hasSource, hasTarget, checked⟩
  cases power : isPowerEdge link with
  | true =>
      rw [if_pos power] at checked
      rcases powerDrawn_of_check checked with ⟨cable, drawn⟩
      have added : drawnCable (nodeTypes nodes) link = some (powerCable cable) := by
        rw [drawnCable, if_pos power, drawn.normal]
        rfl
      rw [connected_of_new library added]
      · exact powerCable_accepted_iff graph onCards apart drawn
      · intro edge member same
        have ends : linkEnd edge = cable := same
        have isPower := isPowerHandle_of_powerHandleIndex (by simp)
          (normalizePowerConnection_cases drawn.normal).1
        refine drawn.socket _ (List.mem_map_of_mem member) ?_ ?_
        · rw [ends, isPowerEdge, isPower, Bool.true_or]
        · rw [ends]
          exact ⟨rfl, rfl⟩
  | false =>
      rw [power] at checked
      rcases typeOf_link graph.rows onCards with ⟨source_, target_⟩
      cases Option.some.inj (hasSource.symm.trans source_)
      cases Option.some.inj (hasTarget.symm.trans target_)
      have drawn := networkDrawn_of_check checked
      have added : drawnCable (nodeTypes nodes) link = some (networkCable nodes link) := by
        rw [drawnCable, power]
        rfl
      rw [connected_of_new library added]
      · exact networkCable_accepted_iff graph onCards apart power drawn
      · intro edge member
        exact linkEnd_ne_of_networkDrawn graph onCards power drawn member

end Links

def twoSwitches : List NodeDTO :=
  [{ id := "core", type := "switch", name := "Core" },
    { id := "desk", type := "switch", name := "Desk" }]

def oneCable : List EdgeDTO :=
  [{ source := "core", sourceHandle := "eth0", target := "desk", targetHandle := "eth0",
     type := "ethernet", speed := "1 GbE", direction := "auto" }]

/-- A second link between them, on free ports. -/
def secondLink : LinkEnd where
  source := "core"
  target := "desk"
  sourceHandle := "eth1"
  targetHandle := "eth1"

theorem twoSwitches_accepted : graphIssues Runtime.plain twoSwitches oneCable = [] := by
  decide

theorem secondLink_onCards : OnCards Runtime.plain.floats twoSwitches secondLink
    { id := "core", type := "switch", name := "Core" }
    { id := "desk", type := "switch", name := "Desk" } where
  sourceListed := List.mem_cons_self
  sourceID := rfl
  sourceHandle := by decide
  targetListed := List.mem_cons_of_mem _ List.mem_cons_self
  targetID := rfl
  targetHandle := by decide

theorem secondLink_drawn :
    checkConnection secondLink (nodeTypes twoSwitches) (oneCable.map linkEnd) true = .ok := by
  decide

/-- A third switch beside them, and a link to it. -/
def threeSwitches : List NodeDTO :=
  twoSwitches ++ [{ id := "hall", type := "switch", name := "Hall" }]

def hallLink : LinkEnd where
  source := "core"
  target := "hall"
  sourceHandle := "eth1"
  targetHandle := "eth0"

theorem hallLink_onCards : OnCards Runtime.plain.floats threeSwitches hallLink
    { id := "core", type := "switch", name := "Core" }
    { id := "hall", type := "switch", name := "Hall" } where
  sourceListed := List.mem_cons_self
  sourceID := rfl
  sourceHandle := by decide
  targetListed := List.mem_append_right _ (List.mem_singleton_self _)
  targetID := rfl
  targetHandle := by decide

theorem hallLink_savable : Savable threeSwitches oneCable hallLink
    { id := "core", type := "switch", name := "Core" }
    { id := "hall", type := "switch", name := "Hall" } where
  unpaired := by decide
  loose := by decide
  apart := by
    intro edge listed edgeSource edgeTarget ends taken isTaken port isPort
    rw [List.mem_singleton.mp listed] at ends isTaken
    cases Option.some.inj (ends.source.symm.trans (show _ = some
      { id := "core", type := "switch", name := "Core" } from rfl))
    cases Option.some.inj (ends.target.symm.trans (show _ = some
      { id := "desk", type := "switch", name := "Desk" } from rfl))
    have distinct : ∀ taken ∈ [("core", "eth0"), ("desk", "eth0")],
        ∀ port ∈ [("core", "eth1"), ("hall", "eth0")], keyOf taken = keyOf port → taken = port := by
      decide
    exact distinct taken isTaken port isPort

/-- The link to the third switch is saved, the second one between two switches is not. -/
theorem connected_accepted_iff_secondLink :
    graphIssues Runtime.plain threeSwitches
        (connected .plain (nodeTypes threeSwitches) oneCable hallLink) = [] ∧
      ¬Savable twoSwitches oneCable secondLink
        { id := "core", type := "switch", name := "Core" }
        { id := "desk", type := "switch", name := "Desk" } := by
  have hall := connected_accepted_iff .plain (show graphIssues Runtime.plain threeSwitches
    oneCable = [] by decide) hallLink_onCards (show checkConnection hallLink (nodeTypes threeSwitches)
      (oneCable.map linkEnd) false = .ok by decide)
  have desk := connected_accepted_iff .plain twoSwitches_accepted secondLink_onCards
    secondLink_drawn
  refine ⟨hall.mpr hallLink_savable, ?_⟩
  intro savable
  have saved := desk.mpr savable
  revert saved
  decide

/-- With loops allowed the canvas draws a second cable that no save takes. -/
theorem secondLink_refused :
    ¬ ∀ (library : CanvasLibrary) (runtime : Runtime) (nodes : List NodeDTO)
      (edges : List EdgeDTO) (link : LinkEnd) (source target : NodeDTO) (ignoreLoops : Bool),
      graphIssues runtime nodes edges = [] →
      OnCards runtime.floats nodes link source target →
      checkConnection link (nodeTypes nodes) (edges.map linkEnd) ignoreLoops = .ok →
      graphIssues runtime nodes (connected library (nodeTypes nodes) edges link) = [] := by
  intro claim
  have saved := claim .plain .plain twoSwitches oneCable secondLink _ _ true twoSwitches_accepted
    secondLink_onCards secondLink_drawn
  revert saved
  decide

end HomelabBuilder.Canvas
