import HomelabBuilder.Services.NetworkRules

/-! # One more cable

What the walk over the edges has noted at the end of a clean graph, and when it
finds nothing wrong with one more network cable.
-/

namespace HomelabBuilder.Services

open Wiring

namespace EdgeScan

variable {floats : Floats} {nodes : List NodeDTO} {scan : EdgeScan}

/-! ## Ports that are taken -/

@[simp]
theorem usedPorts_report (wrong : Bool) (issue : EdgeIssue) :
    (scan.report wrong issue).usedPorts = scan.usedPorts := by
  cases wrong <;> rfl

@[simp]
theorem usedPorts_checkPair (edge : EdgeDTO) : (scan.checkPair edge).usedPorts = scan.usedPorts := by
  have note (left right : String) : (scan.notePair left right).usedPorts = scan.usedPorts := by
    unfold notePair
    split
    · exact usedPorts_report _ _
    · rfl
  unfold checkPair
  split <;> apply note

@[simp]
theorem usedPorts_checkTable (node : NodeDTO) (edge : EdgeDTO) :
    (scan.checkTable node edge).usedPorts = scan.usedPorts := by
  unfold checkTable
  split
  · rfl
  · simp

theorem mem_usedPorts_usePort {id handle port : String} :
    port ∈ (scan.usePort id handle).usedPorts ↔
      port ∈ scan.usedPorts ∨ port = portKey id handle := by
  unfold usePort
  split
  · rename_i taken
    rw [usedPorts_report]
    refine ⟨.inl, ?_⟩
    rintro (old | rfl)
    · exact old
    · exact taken
  · rw [List.mem_cons, or_comm]

/-- One end of a network cable as a port, if it takes one. -/
def endPorts (isWifiClient : Bool) (node : NodeDTO) (handle : String) : List (String × String) :=
  if handle = "" || (isWifiClient && node.type = "access_point") then [] else [(node.id, handle)]

def keyOf (port : String × String) : String := portKey port.1 port.2

theorem mem_usedPorts_takePort {isWifiClient : Bool} {node : NodeDTO} {handle port : String} :
    port ∈ (scan.takePort isWifiClient node handle).usedPorts ↔
      port ∈ scan.usedPorts ∨ port ∈ (endPorts isWifiClient node handle).map keyOf := by
  unfold takePort endPorts
  split
  · simp
  · rw [mem_usedPorts_usePort, List.map_singleton, List.mem_singleton, keyOf]

end EdgeScan

/-- The ports a cable between two nodes takes. -/
def EdgeDTO.takenPorts (source target : NodeDTO) (edge : EdgeDTO) : List (String × String) :=
  if edge.isPower then [(edge.source, edge.sourceHandle), (edge.target, edge.targetHandle)]
  else if edge.type = "vpn" then []
  else
    let isWifiClient := isWifiAssociation source.type target.type
    EdgeScan.endPorts isWifiClient source edge.sourceHandle ++
      EdgeScan.endPorts isWifiClient target edge.targetHandle

def EdgeDTO.takenKeys (source target : NodeDTO) (edge : EdgeDTO) : List String :=
  (edge.takenPorts source target).map EdgeScan.keyOf

namespace EdgeScan

variable {floats : Floats} {nodes : List NodeDTO} {scan : EdgeScan}

structure Ends (nodes : List NodeDTO) (edge : EdgeDTO) (source target : NodeDTO) : Prop where
  source : nodesByID nodes edge.source = some source
  target : nodesByID nodes edge.target = some target
  apart : edge.source ≠ edge.target

theorem exists_ends {edge : EdgeDTO} (joins : Joins nodes edge) :
    ∃ source target, Ends nodes edge source target := by
  rcases joins with ⟨⟨source, hasSource⟩, ⟨target, hasTarget⟩, apart⟩
  exact ⟨source, target, hasSource, hasTarget, apart⟩

section Step

variable {edge : EdgeDTO} {source target : NodeDTO}

theorem checkEdge_eq (ends : Ends nodes edge source target) :
    checkEdge floats nodes scan edge =
      if edge.type = edgeTypePower then
        (scan.report (edge.type ∉ allowedEdgeTypes)
          (.unsupportedType edge.source edge.target edge.type)).checkPower floats source target edge
      else
        (scan.report (edge.type ∉ allowedEdgeTypes)
          (.unsupportedType edge.source edge.target edge.type)).checkNetwork source target edge := by
  rw [checkEdge, ends.source, ends.target]
  dsimp only
  rw [if_neg ends.apart]

theorem mem_usedPorts_checkEdge (ends : Ends nodes edge source target) {port : String} :
    port ∈ (checkEdge floats nodes scan edge).usedPorts ↔
      port ∈ scan.usedPorts ∨ port ∈ edge.takenKeys source target := by
  rw [checkEdge_eq ends]
  unfold EdgeDTO.takenKeys EdgeDTO.takenPorts EdgeDTO.isPower
  by_cases power : edge.type = edgeTypePower
  · simp only [power, if_true, decide_true, checkPower, mem_usedPorts_usePort, usedPorts_report,
      List.map_cons, List.map_nil, keyOf, List.mem_cons, List.not_mem_nil, or_false, or_assoc]
  · simp only [power, if_false, decide_false, Bool.false_eq_true]
    unfold checkNetwork
    dsimp only
    split
    · simp
    · simp only [mem_usedPorts_takePort, usedPorts_report, usedPorts_checkTable,
        usedPorts_checkPair, List.map_append, List.mem_append, or_assoc]

/-! ## Pairs that have been seen -/

theorem mem_seenPairs_checkPair {key : String} :
    key ∈ (scan.checkPair edge).seenPairs ↔ key ∈ scan.seenPairs ∨ key = pairKey edge := by
  have note (left right : String) : key ∈ (scan.notePair left right).seenPairs ↔
      key ∈ scan.seenPairs ∨ key = portKey left right := by
    unfold notePair
    split
    · rename_i seen
      rw [seenPairs_report]
      refine ⟨.inl, ?_⟩
      rintro (old | rfl)
      · exact old
      · exact seen
    · rw [List.mem_cons, or_comm]
  unfold checkPair pairKey
  split <;> apply note

theorem mem_seenPairs_checkEdge (ends : Ends nodes edge source target) {key : String} :
    key ∈ (checkEdge floats nodes scan edge).seenPairs ↔
      key ∈ scan.seenPairs ∨ edge.isPower = false ∧ key = pairKey edge := by
  rw [checkEdge_eq ends, EdgeDTO.isPower]
  by_cases power : edge.type = edgeTypePower
  · simp [power, checkPower]
  · simp only [power, if_false, decide_false, true_and]
    unfold checkNetwork
    dsimp only
    split
    · simp [mem_seenPairs_checkPair]
    · simp [mem_seenPairs_checkPair]

/-! ## Uplinks of LAN tables -/

@[simp]
theorem tableUplinks_report (wrong : Bool) (issue : EdgeIssue) :
    (scan.report wrong issue).tableUplinks = scan.tableUplinks := by
  cases wrong <;> rfl

@[simp]
theorem tableUplinks_usePort (id handle : String) :
    (scan.usePort id handle).tableUplinks = scan.tableUplinks := by
  unfold usePort
  split
  · exact tableUplinks_report _ _
  · rfl

@[simp]
theorem tableUplinks_takePort (isWifiClient : Bool) (node : NodeDTO) (handle : String) :
    (scan.takePort isWifiClient node handle).tableUplinks = scan.tableUplinks := by
  unfold takePort
  split
  · rfl
  · exact tableUplinks_usePort _ _

@[simp]
theorem tableUplinks_checkPair (edge : EdgeDTO) :
    (scan.checkPair edge).tableUplinks = scan.tableUplinks := by
  have note (left right : String) :
      (scan.notePair left right).tableUplinks = scan.tableUplinks := by
    unfold notePair
    split
    · exact tableUplinks_report _ _
    · rfl
  unfold checkPair
  split <;> apply note

theorem lookup_tableUplinks_checkTable {node : NodeDTO} {id : String} (other : id ≠ node.id) :
    (scan.checkTable node edge).tableUplinks.lookup id = scan.tableUplinks.lookup id := by
  unfold checkTable
  split
  · rfl
  · simp [Table.lookup_set, other]

theorem lookup_tableUplinks_checkEdge (ends : Ends nodes edge source target) {id : String}
    (elsewhere : edge.isPower = true ∨ id ≠ edge.source ∧ id ≠ edge.target) :
    (checkEdge floats nodes scan edge).tableUplinks.lookup id = scan.tableUplinks.lookup id := by
  have sourceID := (id_of_nodesByID ends.source).2
  have targetID := (id_of_nodesByID ends.target).2
  rw [checkEdge_eq ends]
  by_cases power : edge.type = edgeTypePower
  · simp [power, checkPower]
  · have notPower : edge.isPower = false := decide_eq_false power
    rw [notPower] at elsewhere
    have apart := elsewhere.resolve_left (by simp)
    rw [← sourceID, ← targetID] at apart
    rw [if_neg power]
    unfold checkNetwork
    dsimp only
    split
    · simp [lookup_tableUplinks_checkTable apart.1, lookup_tableUplinks_checkTable apart.2]
    · simp [lookup_tableUplinks_checkTable apart.1, lookup_tableUplinks_checkTable apart.2]

end Step

/-! ## A whole graph -/

section Graph

variable (floats)

theorem mem_usedPorts_foldl {port : String} : ∀ (edges : List EdgeDTO) (scan : EdgeScan),
    (∀ edge ∈ edges, Joins nodes edge) →
    (port ∈ (edges.foldl (checkEdge floats nodes) scan).usedPorts ↔ port ∈ scan.usedPorts ∨
      ∃ edge ∈ edges, ∃ source target, Ends nodes edge source target ∧
        port ∈ edge.takenKeys source target)
  | [], scan, _ => by simp
  | edge :: rest, scan, joins => by
      rcases exists_ends (joins edge List.mem_cons_self) with ⟨source, target, ends⟩
      rw [List.foldl_cons, mem_usedPorts_foldl rest _ fun other member =>
        joins other (List.mem_cons_of_mem edge member), mem_usedPorts_checkEdge ends]
      constructor
      · rintro ((old | taken) | ⟨other, member, rest⟩)
        · exact .inl old
        · exact .inr ⟨edge, List.mem_cons_self, source, target, ends, taken⟩
        · exact .inr ⟨other, List.mem_cons_of_mem edge member, rest⟩
      · rintro (old | ⟨other, member, otherSource, otherTarget, otherEnds, taken⟩)
        · exact .inl (.inl old)
        · rcases List.mem_cons.mp member with rfl | member
          · have sameSource := Option.some.inj (ends.source.symm.trans otherEnds.source)
            have sameTarget := Option.some.inj (ends.target.symm.trans otherEnds.target)
            rw [← sameSource, ← sameTarget] at taken
            exact .inl (.inr taken)
          · exact .inr ⟨other, member, otherSource, otherTarget, otherEnds, taken⟩

theorem mem_seenPairs_foldl {key : String} : ∀ (edges : List EdgeDTO) (scan : EdgeScan),
    (∀ edge ∈ edges, Joins nodes edge) →
    (key ∈ (edges.foldl (checkEdge floats nodes) scan).seenPairs ↔ key ∈ scan.seenPairs ∨
      ∃ edge ∈ edges, edge.isPower = false ∧ key = pairKey edge)
  | [], scan, _ => by simp
  | edge :: rest, scan, joins => by
      rcases exists_ends (joins edge List.mem_cons_self) with ⟨source, target, ends⟩
      rw [List.foldl_cons, mem_seenPairs_foldl rest _ fun other member =>
        joins other (List.mem_cons_of_mem edge member), mem_seenPairs_checkEdge ends,
        or_assoc, List.exists_mem_cons_iff]

theorem lookup_tableUplinks_foldl {id : String} : ∀ (edges : List EdgeDTO) (scan : EdgeScan),
    (∀ edge ∈ edges, Joins nodes edge) →
    (∀ edge ∈ edges, edge.isPower = true ∨ id ≠ edge.source ∧ id ≠ edge.target) →
    (edges.foldl (checkEdge floats nodes) scan).tableUplinks.lookup id =
      scan.tableUplinks.lookup id
  | [], _, _, _ => rfl
  | edge :: rest, scan, joins, elsewhere => by
      rcases exists_ends (joins edge List.mem_cons_self) with ⟨source, target, ends⟩
      rw [List.foldl_cons, lookup_tableUplinks_foldl rest _
        (fun other member => joins other (List.mem_cons_of_mem edge member))
        (fun other member => elsewhere other (List.mem_cons_of_mem edge member)),
        lookup_tableUplinks_checkEdge ends (elsewhere edge List.mem_cons_self)]

end Graph

/-! ## When the next cable is fine -/

theorem isClean_checkPair {edge : EdgeDTO} :
    (scan.checkPair edge).IsClean ↔ scan.IsClean ∧ pairKey edge ∉ scan.seenPairs := by
  have note (left right : String) : (scan.notePair left right).IsClean ↔
      scan.IsClean ∧ portKey left right ∉ scan.seenPairs := by
    unfold notePair
    split
    · rename_i seen
      simp [isClean_report, seen]
    · rename_i new
      simp [IsClean, new]
  unfold checkPair pairKey
  split <;> apply note

theorem isClean_takePort {isWifiClient : Bool} {node : NodeDTO} {handle : String} :
    (scan.takePort isWifiClient node handle).IsClean ↔
      scan.IsClean ∧ ∀ key ∈ (endPorts isWifiClient node handle).map keyOf,
        key ∉ scan.usedPorts := by
  unfold takePort endPorts
  split
  · simp
  · rw [isClean_usePort]
    simp [keyOf]

def FitsTable (uplinks : Option Nat) (node : NodeDTO) (edge : EdgeDTO) : Prop :=
  node.type = nodeTypeLANTable →
    edge.type ≠ "wireless" ∧ edge.type ≠ "vpn" ∧ uplinks.getD 0 ≠ 1

theorem isClean_checkTable {node : NodeDTO} {edge : EdgeDTO} :
    (scan.checkTable node edge).IsClean ↔
      scan.IsClean ∧ FitsTable (scan.tableUplinks.lookup node.id) node edge := by
  unfold checkTable FitsTable
  split
  · rename_i other
    simp [other]
  · rename_i table
    have isTable : node.type = nodeTypeLANTable := not_not.mp table
    dsimp only
    rw [isClean_report]
    have kept (uplinks : List (String × Nat)) :
        ({ scan.report (edge.type = "wireless" || edge.type = "vpn") (.tableNotCabled node.id) with
            tableUplinks := uplinks } : EdgeScan).IsClean ↔
          (scan.report (edge.type = "wireless" || edge.type = "vpn")
            (.tableNotCabled node.id)).IsClean := Iff.rfl
    rw [kept, isClean_report, tableUplinks_report]
    simp [isTable, and_assoc]

/-- What one more network cable has to keep to. -/
structure FitsNetwork (scan : EdgeScan) (source target : NodeDTO) (edge : EdgeDTO) : Prop where
  handles : isPowerHandle edge.sourceHandle = false ∧ isPowerHandle edge.targetHandle = false
  networked : isPowerSource source.type = false ∧ isPowerSource target.type = false
  pair : pairKey edge ∉ scan.seenPairs
  loose : source.type ∉ nestedOnlyTypes ∧ target.type ∉ nestedOnlyTypes
  gateway : isWifiAssociation source.type target.type = true ∨ source.type ∈ connectsFreely ∨
    target.type ∈ connectsFreely
  wireless : isWifiAssociation source.type target.type = true → edge.type = "wireless"
  sourceTable : FitsTable (scan.tableUplinks.lookup source.id) source edge
  targetTable : FitsTable (scan.tableUplinks.lookup target.id) target edge
  endpoint : edge.type = "wireless" → source.type = "access_point" ∨
    target.type = "access_point" ∨ source.type = "iot" ∨ target.type = "iot"
  ports : ∀ key ∈ edge.takenKeys source target, key ∉ scan.usedPorts
  apart : (edge.takenKeys source target).Nodup

theorem nodup_endKeys (isWifiClient : Bool) (node : NodeDTO) (handle : String) :
    ((endPorts isWifiClient node handle).map keyOf).Nodup := by
  unfold endPorts
  split
  · exact List.nodup_nil
  · exact List.nodup_singleton _

theorem isClean_checkNetwork {source target : NodeDTO} {edge : EdgeDTO}
    (network : edge.isPower = false) (wired : edge.type ≠ "vpn") (apart : source.id ≠ target.id) :
    (scan.checkNetwork source target edge).IsClean ↔
      scan.IsClean ∧ FitsNetwork scan source target edge := by
  have keys : edge.takenKeys source target =
      (endPorts (isWifiAssociation source.type target.type) source edge.sourceHandle).map keyOf ++
        (endPorts (isWifiAssociation source.type target.type) target
          edge.targetHandle).map keyOf := by
    simp [EdgeDTO.takenKeys, EdgeDTO.takenPorts, network, wired]
  unfold checkNetwork
  dsimp only
  rw [if_neg wired, isClean_takePort, isClean_takePort, isClean_report, isClean_checkTable,
    isClean_checkTable, isClean_report, isClean_report, isClean_report, isClean_checkPair,
    isClean_report, isClean_report, isClean_report,
    lookup_tableUplinks_checkTable (Ne.symm apart)]
  simp only [seenPairs_report, tableUplinks_report, tableUplinks_checkPair, usedPorts_report,
    usedPorts_checkTable, usedPorts_checkPair, mem_usedPorts_takePort]
  constructor
  · intro clean
    rcases clean with ⟨⟨⟨⟨⟨⟨⟨⟨⟨⟨⟨⟨clean, handles⟩, sourcePlain⟩, targetPlain⟩, pair⟩, loose⟩, gateway⟩,
      wireless⟩, sourceTable⟩, targetTable⟩, endpoint⟩, sourcePort⟩, targetPort⟩
    refine ⟨clean, Bool.or_eq_false_iff.mp handles, ⟨sourcePlain, targetPlain⟩, pair, ?_, ?_, ?_,
      sourceTable, targetTable, ?_, ?_, ?_⟩
    · simpa using loose
    · by_contra stranded
      simp only [not_or, Bool.not_eq_true] at stranded
      simp [stranded.1, stranded.2.1, stranded.2.2] at gateway
    · intro client
      simpa [client] using wireless
    · intro isWireless
      by_contra nowhere
      simp only [not_or] at nowhere
      simp [isWireless, nowhere.1, nowhere.2.1, nowhere.2.2.1, nowhere.2.2.2] at endpoint
    · intro key member
      rw [keys] at member
      rcases List.mem_append.mp member with member | member
      · exact sourcePort key member
      · exact fun used => targetPort key member (.inl used)
    · rw [keys, List.nodup_append]
      refine ⟨nodup_endKeys _ _ _, nodup_endKeys _ _ _, ?_⟩
      rintro key first _ second rfl
      exact targetPort key second (.inr first)
  · rintro ⟨clean, fits⟩
    have ports := fits.ports
    have nodup := fits.apart
    rw [keys] at ports nodup
    refine ⟨⟨⟨⟨⟨⟨⟨⟨⟨⟨⟨⟨clean, Bool.or_eq_false_iff.mpr fits.handles⟩, fits.networked.1⟩,
      fits.networked.2⟩, fits.pair⟩, ?_⟩, ?_⟩, ?_⟩, fits.sourceTable⟩, fits.targetTable⟩, ?_⟩, ?_⟩, ?_⟩
    · simp [fits.loose]
    · rcases fits.gateway with client | free | free
      · simp [client]
      · simp [free]
      · simp [free]
    · cases client : isWifiAssociation source.type target.type with
      | false => simp
      | true => simp [fits.wireless client]
    · by_cases isWireless : edge.type = "wireless"
      · rcases fits.endpoint isWireless with here | here | here | here <;> simp [here]
      · simp [isWireless]
    · exact fun key member => ports key (List.mem_append_left _ member)
    · rintro key member (used | first)
      · exact ports key (List.mem_append_right _ member) used
      · exact (List.nodup_append.mp nodup).2.2 key first key member rfl

theorem isClean_checkEdge_network {edge : EdgeDTO} {source target : NodeDTO}
    (ends : Ends nodes edge source target) (media : edge.type = "ethernet" ∨ edge.type = "wireless") :
    (checkEdge floats nodes scan edge).IsClean ↔
      scan.IsClean ∧ FitsNetwork scan source target edge := by
  have network : edge.type ≠ edgeTypePower := by
    rcases media with media | media <;> rw [media] <;> decide
  have wired : edge.type ≠ "vpn" := by
    rcases media with media | media <;> rw [media] <;> decide
  have allowed : edge.type ∈ allowedEdgeTypes := by
    rcases media with media | media <;> rw [media] <;> decide
  have apart : source.id ≠ target.id := by
    rw [(id_of_nodesByID ends.source).2, (id_of_nodesByID ends.target).2]
    exact ends.apart
  rw [checkEdge_eq ends, if_neg network, report_of_fine (by simpa using allowed)]
  exact isClean_checkNetwork (decide_eq_false network) wired apart

theorem isClean_checkEdge_power {edge : EdgeDTO} (power : edge.isPower = true) :
    (checkEdge floats nodes scan edge).IsClean ↔
      scan.IsClean ∧ FitsPower floats nodes edge ∧ scan.Frees edge := by
  refine ⟨fits_of_isClean power, ?_⟩
  rintro ⟨clean, fits, frees⟩
  rw [checkEdge_of_fits power fits frees]
  exact clean

end EdgeScan

theorem edgeIssues_append_eq_nil_iff {floats : Floats} {nodes : List NodeDTO}
    {edges : List EdgeDTO} {edge : EdgeDTO} :
    edgeIssues floats nodes (edges ++ [edge]) = [] ↔
      (EdgeScan.checkEdge floats nodes (edges.foldl (EdgeScan.checkEdge floats nodes) {})
        edge).IsClean ∧ powerLoopNode (edges ++ [edge]) = "" := by
  unfold edgeIssues
  rw [List.foldl_append, List.foldl_cons, List.foldl_nil]
  dsimp only
  rw [List.append_eq_nil_iff, List.append_eq_nil_iff, EdgeScan.IsClean]
  constructor
  · rintro ⟨⟨missing, issues⟩, loop⟩
    refine ⟨⟨issues, missing⟩, ?_⟩
    by_contra found
    rw [if_neg found] at loop
    cases loop
  · rintro ⟨⟨issues, missing⟩, loop⟩
    exact ⟨⟨missing, issues⟩, if_pos loop⟩

end HomelabBuilder.Services
