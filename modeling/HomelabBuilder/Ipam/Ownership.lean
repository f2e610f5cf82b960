import Mathlib.Data.Nat.Find
import Mathlib.Order.Bounds.Basic
import HomelabBuilder.Foundation.Table
import HomelabBuilder.Foundation.Worklist
import HomelabBuilder.Ipam.Allocator

/-! # Who owns a node

The breadth-first searches of `Allocate` give every node to the first router
with a path to it. A path runs over listed devices that pass traffic on, and a
synthetic gateway may not start it with a step into its own node.
-/

namespace HomelabBuilder.Ipam

open Net

/-! ## Paths -/

/-- The undirected graph of all `Connections`. -/
def Adjacent (nodes : List NodeDTO) (left right : String) : Prop :=
  ∃ node ∈ nodes, (node.id = left ∧ right ∈ node.connections) ∨
    (node.id = right ∧ left ∈ node.connections)

/-- A listed node that is no router and whose type passes traffic on. -/
def Forwards (req : AllocateRequest) (id : String) : Prop :=
  isRouterID req.routers id = false ∧
    ∃ node ∈ req.nodes, node.id = id ∧ node.type ∉ nonNetworkTypes

/-- A path from a router: its first step is not the NAT boundary, and every
vertex between its ends forwards. -/
inductive GatewayPath (req : AllocateRequest) (routerID : String) : String → Prop
  | first {id : String} : Adjacent req.nodes routerID id →
      skipNATBoundary routerID routerID id = false → GatewayPath req routerID id
  | extend {middle id : String} : GatewayPath req routerID middle →
      Forwards req middle → Adjacent req.nodes middle id → GatewayPath req routerID id

def DistinctNodeIDs (req : AllocateRequest) : Prop := (req.nodes.map (·.id)).Nodup

/-! ## The adjacency table -/

theorem mem_appendUnique {values : List String} {value other : String} :
    other ∈ appendUnique values value ↔ other ∈ values ∨ other = value := by
  unfold appendUnique
  split
  · rename_i member
    exact ⟨.inl, fun cases => cases.elim id fun equal => equal ▸ member⟩
  · simp

theorem mem_neighbors_connect {table : Adjacency} {source target left right : String} :
    right ∈ (table.connect source target).neighbors left ↔
      right ∈ table.neighbors left ∨ (left = source ∧ right = target) := by
  unfold Adjacency.connect Adjacency.neighbors
  rw [Table.lookup_cons]
  by_cases equal : left = source
  · simp [equal, mem_appendUnique]
  · simp [equal]

private theorem mem_neighbors_foldl_connections (id : String) {left right : String} :
    ∀ (connections : List String) (table : Adjacency),
    right ∈ (connections.foldl (fun table neighbor =>
        (table.connect id neighbor).connect neighbor id) table).neighbors left ↔
      right ∈ table.neighbors left ∨ (left = id ∧ right ∈ connections) ∨
        (right = id ∧ left ∈ connections)
  | [], table => by simp
  | head :: tail, table => by
      rw [List.foldl_cons, mem_neighbors_foldl_connections id tail,
        mem_neighbors_connect, mem_neighbors_connect]
      simp only [List.mem_cons]
      tauto

private theorem mem_neighbors_foldl_nodes {left right : String} :
    ∀ (nodes : List NodeDTO) (table : Adjacency),
    right ∈ (nodes.foldl (fun table node =>
        node.connections.foldl (fun table neighbor =>
          (table.connect node.id neighbor).connect neighbor node.id) table)
        table).neighbors left ↔
      right ∈ table.neighbors left ∨ Adjacent nodes left right
  | [], table => by simp [Adjacent]
  | head :: tail, table => by
      rw [List.foldl_cons, mem_neighbors_foldl_nodes tail,
        mem_neighbors_foldl_connections]
      simp only [Adjacent, List.exists_mem_cons_iff]
      constructor <;> rintro (known | rest) <;> grind

theorem mem_neighbors_adjacencyOf {nodes : List NodeDTO} {left right : String} :
    right ∈ (adjacencyOf nodes).neighbors left ↔ Adjacent nodes left right := by
  rw [adjacencyOf, mem_neighbors_foldl_nodes]
  simp [Adjacency.neighbors]

/-! ## Nodes by id -/

theorem nodeByID_mem {nodes : List NodeDTO} {id : String} {node : NodeDTO}
    (found : nodeByID nodes id = some node) : node ∈ nodes ∧ node.id = id := by
  refine ⟨List.mem_reverse.mp (List.mem_of_find?_eq_some found), ?_⟩
  simpa using List.find?_some found

theorem nodeByID_eq_none {nodes : List NodeDTO} {id : String} :
    nodeByID nodes id = none ↔ ∀ node ∈ nodes, node.id ≠ id := by
  simp [nodeByID]

theorem nodeByID_of_mem {nodes : List NodeDTO} (distinct : (nodes.map (·.id)).Nodup)
    {node : NodeDTO} (member : node ∈ nodes) : nodeByID nodes node.id = some node := by
  cases found : nodeByID nodes node.id with
  | none => exact absurd rfl (nodeByID_eq_none.mp found node member)
  | some other =>
      have other := nodeByID_mem found
      rw [List.inj_on_of_nodup_map distinct other.1 member other.2]

/-! ## The search of one router -/

theorem skipNATBoundary_of_ne {routerID current neighbor : String}
    (different : current ≠ routerID) :
    skipNATBoundary routerID current neighbor = false := by
  unfold skipNATBoundary
  split
  · simp [different]
  · rfl

def steps (req : AllocateRequest) (routerID current : String) : List String :=
  ((adjacencyOf req.nodes).neighbors current).filter fun neighbor =>
    !skipNATBoundary routerID current neighbor

def forwards (req : AllocateRequest) (id : String) : Bool :=
  !isRouterID req.routers id &&
    (nodeByID req.nodes id).any fun node => node.type ∉ nonNetworkTypes

def Walk.worklist (walk : Walk) : Worklist.State String where
  seen := walk.seen
  queue := walk.queue

/-- The entries a search adds to the owners once its router is fixed: every
listed node it has seen that nobody owned before and that is no router. -/
def claimed (req : AllocateRequest) (ri : Nat) (owners : List (String × Nat))
    (seen : List String) (id : String) : Option Nat :=
  match owners.lookup id with
  | some owner => some owner
  | none =>
      if id ∈ seen ∧ isRouterID req.routers id = false ∧ (nodeByID req.nodes id).isSome then
        some ri
      else none

section Search

variable {req : AllocateRequest} {ri : Nat} {routerID : String}

private theorem visitNeighbor_skip {current neighbor : String} {walk : Walk}
    (skip : skipNATBoundary routerID current neighbor = true) :
    visitNeighbor req ri routerID current walk neighbor = walk := by
  simp [visitNeighbor, skip]

private theorem visitNeighbor_worklist {current neighbor : String} {walk : Walk}
    (allowed : skipNATBoundary routerID current neighbor = false) :
    (visitNeighbor req ri routerID current walk neighbor).worklist =
      Worklist.visit (forwards req) walk.worklist neighbor := by
  unfold visitNeighbor Worklist.visit Walk.worklist forwards
  by_cases seen : neighbor ∈ walk.seen
  · simp [seen]
  · simp only [seen, allowed, Bool.false_eq_true, or_self, if_false]
    cases isRouter : isRouterID req.routers neighbor with
    | true => simp
    | false =>
        cases found : nodeByID req.nodes neighbor with
        | none => simp
        | some node =>
            by_cases inert : node.type ∈ nonNetworkTypes <;> simp [inert]

private theorem visitNeighbor_lookup {owners : List (String × Nat)} {walk : Walk}
    (routerID current neighbor : String)
    (agree : ∀ id, walk.ownerRouter.lookup id = claimed req ri owners walk.seen id) (id : String) :
    (visitNeighbor req ri routerID current walk neighbor).ownerRouter.lookup id =
      claimed req ri owners (visitNeighbor req ri routerID current walk neighbor).seen id := by
  unfold visitNeighbor
  split
  · exact agree id
  · rename_i fresh
    simp only [not_or] at fresh
    cases isRouter : isRouterID req.routers neighbor with
    | true =>
        simp only [if_true]
        rw [agree id]
        unfold claimed
        by_cases equal : id = neighbor <;> simp [equal, isRouter, fresh.1]
    | false =>
        cases found : nodeByID req.nodes neighbor with
        | none =>
            simp only [Bool.false_eq_true, if_false]
            rw [agree id]
            unfold claimed
            by_cases equal : id = neighbor <;> simp [equal, found, fresh.1]
        | some node =>
            simp only [Bool.false_eq_true, if_false]
            by_cases equal : id = neighbor
            · subst equal
              have before := agree id
              unfold claimed at before ⊢
              cases known : owners.lookup id with
              | some owner =>
                  rw [known] at before
                  rw [before]
                  simp [before]
              | none =>
                  have unowned : walk.ownerRouter.lookup id = none := by
                    rw [agree id, claimed, known]
                    simp [fresh.1]
                  rw [unowned]
                  simp [isRouter, found]
            · have rest : claimed req ri owners (neighbor :: walk.seen) id =
                  claimed req ri owners walk.seen id := by
                simp [claimed, equal]
              rw [rest, ← agree id]
              split
              · rfl
              · simp [Table.lookup_cons, equal]

private theorem foldl_visitNeighbor (routerID current : String) {owners : List (String × Nat)} :
    ∀ (neighbors : List String) {walk : Walk},
    (∀ id, walk.ownerRouter.lookup id = claimed req ri owners walk.seen id) →
    let after := neighbors.foldl (visitNeighbor req ri routerID current) walk
    after.worklist =
        (neighbors.filter fun neighbor => !skipNATBoundary routerID current neighbor).foldl
          (Worklist.visit (forwards req)) walk.worklist ∧
      ∀ id, after.ownerRouter.lookup id = claimed req ri owners after.seen id
  | [], _, agree => ⟨rfl, agree⟩
  | head :: tail, walk, agree => by
      have rest := foldl_visitNeighbor routerID current tail
        (visitNeighbor_lookup routerID current head agree)
      refine ⟨?_, rest.2⟩
      rw [List.foldl_cons, rest.1]
      cases boundary : skipNATBoundary routerID current head with
      | true => simp [boundary, visitNeighbor_skip boundary]
      | false => simp [boundary, visitNeighbor_worklist boundary]

private theorem drainQueue_spec (owners : List (String × Nat)) :
    ∀ (rounds : Nat) {walk : Walk},
    (∀ id, walk.ownerRouter.lookup id = claimed req ri owners walk.seen id) →
    let after := drainQueue req ri routerID rounds walk
    after.worklist =
        Worklist.drain (steps req routerID) (forwards req) rounds walk.worklist ∧
      ∀ id, after.ownerRouter.lookup id = claimed req ri owners after.seen id
  | 0, _, agree => ⟨rfl, agree⟩
  | rounds + 1, walk, agree => by
      unfold drainQueue Worklist.drain
      cases queue : walk.queue with
      | nil => simpa [Walk.worklist, queue] using agree
      | cons current rest =>
          have popped : ∀ id, ({ walk with queue := rest } : Walk).ownerRouter.lookup id =
              claimed req ri owners ({ walk with queue := rest } : Walk).seen id := agree
          have visited := foldl_visitNeighbor routerID current
            ((adjacencyOf req.nodes).neighbors current) popped
          have drained := drainQueue_spec owners rounds visited.2
          refine ⟨?_, drained.2⟩
          have pending : walk.worklist.queue = current :: rest := queue
          rw [pending]
          exact drained.1.trans (by rw [visited.1]; rfl)

/-- What one search leaves behind: the old owners, and this router as the owner
of every other listed node it reaches. -/
theorem walkFrom_lookup (owners : List (String × Nat)) (declared : isRouterID req.routers routerID = true)
    (id : String) :
    (walkFrom req owners ri routerID).ownerRouter.lookup id =
      claimed req ri owners (walkFrom req owners ri routerID).seen id := by
  apply (drainQueue_spec owners _ _).2
  intro id
  unfold claimed
  cases known : owners.lookup id with
  | some owner => rfl
  | none =>
      by_cases equal : id = routerID <;> simp [equal, declared]

private theorem walkFrom_worklist (owners : List (String × Nat))
    (declared : isRouterID req.routers routerID = true) :
    (walkFrom req owners ri routerID).worklist =
      Worklist.drain (steps req routerID) (forwards req) (req.nodes.length + 1)
        (Worklist.initial routerID) := by
  apply (drainQueue_spec owners _ _).1
  intro id
  unfold claimed
  cases known : owners.lookup id with
  | some owner => rfl
  | none =>
      by_cases equal : id = routerID <;> simp [equal, declared]

end Search

section Reachability

variable {req : AllocateRequest}

theorem isRouterID_of_getElem? {routers : List RouterDTO} {index : Nat} {router : RouterDTO}
    (listed : routers[index]? = some router) : isRouterID routers router.id = true := by
  simp only [isRouterID, List.any_eq_true, decide_eq_true_eq]
  exact ⟨router, List.mem_of_getElem? listed, rfl⟩

theorem forwards_iff (distinct : DistinctNodeIDs req) (id : String) :
    forwards req id = true ↔ Forwards req id := by
  simp only [forwards, Forwards, Bool.and_eq_true, Bool.not_eq_true']
  refine and_congr_right fun _ => ?_
  constructor
  · intro passes
    cases found : nodeByID req.nodes id with
    | none => simp [found] at passes
    | some node =>
        have listed := nodeByID_mem found
        exact ⟨node, listed.1, listed.2, by simpa [found] using passes⟩
  · rintro ⟨node, member, rfl, passes⟩
    simpa [nodeByID_of_mem distinct member] using passes

theorem mem_steps {routerID current neighbor : String} :
    neighbor ∈ steps req routerID current ↔
      Adjacent req.nodes current neighbor ∧
        skipNATBoundary routerID current neighbor = false := by
  simp [steps, mem_neighbors_adjacencyOf]

theorem reaches_iff_gatewayPath (distinct : DistinctNodeIDs req) {routerID id : String}
    (declared : isRouterID req.routers routerID = true) (other : id ≠ routerID) :
    Worklist.Reaches (steps req routerID) (forwards req) routerID id ↔
      GatewayPath req routerID id := by
  have through {middle : String} (passes : Forwards req middle) : middle ≠ routerID := by
    rintro rfl
    exact absurd passes.1 (by simp [declared])
  constructor
  · intro reaches
    -- Along the way the search may come back to its router.
    have general : ∀ {vertex : String},
        Worklist.Reaches (steps req routerID) (forwards req) routerID vertex →
        vertex = routerID ∨ GatewayPath req routerID vertex := by
      intro vertex reached
      induction reached with
      | start => exact .inl rfl
      | step _ allowed successor induction =>
          have step := mem_steps.mp successor
          right
          rcases allowed with rfl | passes
          · exact .first step.1 step.2
          · have forwarding := (forwards_iff distinct _).mp passes
            exact .extend (induction.resolve_left (through forwarding)) forwarding step.1
    exact (general reaches).resolve_left other
  · intro path
    clear other
    induction path with
    | first adjacent allowed =>
        exact .step .start (.inl rfl) (mem_steps.mpr ⟨adjacent, allowed⟩)
    | extend _ passes adjacent induction =>
        refine .step induction (.inr ((forwards_iff distinct _).mpr passes)) (mem_steps.mpr ?_)
        exact ⟨adjacent, skipNATBoundary_of_ne (through passes)⟩

theorem mem_seen_walkFrom (distinct : DistinctNodeIDs req) (owners : List (String × Nat))
    (ri : Nat) {routerID id : String} (declared : isRouterID req.routers routerID = true)
    (other : id ≠ routerID) :
    id ∈ (walkFrom req owners ri routerID).seen ↔ GatewayPath req routerID id := by
  have complete (vertex : String) (passes : forwards req vertex = true) :
      vertex ∈ req.nodes.map (·.id) := by
    rcases (forwards_iff distinct vertex).mp passes with ⟨_, node, member, equal, _⟩
    exact List.mem_map.mpr ⟨node, member, equal⟩
  have enough : (req.nodes.map (·.id)).length + 1 ≤ req.nodes.length + 1 := by simp
  rw [← reaches_iff_gatewayPath distinct declared other,
    ← Worklist.mem_seen_drain_iff (req.nodes.map (·.id)) complete enough,
    ← walkFrom_worklist owners declared]
  rfl

end Reachability

/-! ## The owner -/

section Owner

variable {req : AllocateRequest}

/-- The routers with a path to a node, by index. -/
def reachingRouters (req : AllocateRequest) (routers : List RouterDTO) (id : String) : Set Nat :=
  {index | ∃ router, routers[index]? = some router ∧ GatewayPath req router.id id}

private theorem foldl_walkFrom_unclaimed {id : String}
    (foreign : isRouterID req.routers id = true ∨ ∀ node ∈ req.nodes, node.id ≠ id) :
    ∀ (entries : List (RouterDTO × Nat)) (owners : List (String × Nat)),
    (∀ entry ∈ entries, isRouterID req.routers entry.1.id = true) →
    owners.lookup id = none →
    (entries.foldl (fun owners entry =>
      (walkFrom req owners entry.2 entry.1.id).ownerRouter) owners).lookup id = none
  | [], _, _, unowned => unowned
  | head :: tail, owners, declared, unowned => by
      refine foldl_walkFrom_unclaimed foreign tail _
        (fun entry member => declared entry (List.mem_cons_of_mem head member)) ?_
      rw [walkFrom_lookup owners (declared head List.mem_cons_self), claimed, unowned]
      rcases foreign with isRouter | unlisted
      · simp [isRouter]
      · simp [nodeByID_eq_none.mpr unlisted]

theorem ownerRouter_eq_none_of_foreign {id : String}
    (foreign : isRouterID req.routers id = true ∨ ∀ node ∈ req.nodes, node.id ≠ id) :
    ownerRouter req id = none := by
  refine foldl_walkFrom_unclaimed foreign _ _ ?_ rfl
  intro entry member
  exact isRouterID_of_getElem? (List.mem_zipIdx_iff_getElem?.mp member)

private theorem isLeast_reachingRouters_cons {id : String} {head : RouterDTO}
    {tail : List RouterDTO} (index : Nat) :
    IsLeast (reachingRouters req (head :: tail) id) index ↔
      (GatewayPath req head.id id ∧ index = 0) ∨
        (¬ GatewayPath req head.id id ∧ ∃ rest, index = rest + 1 ∧
          IsLeast (reachingRouters req tail id) rest) := by
  by_cases path : GatewayPath req head.id id
  · have first : (0 : Nat) ∈ reachingRouters req (head :: tail) id := ⟨head, rfl, path⟩
    simp only [path, true_and, not_true_eq_false, false_and, or_false]
    constructor
    · intro least
      exact Nat.le_zero.mp (least.2 first)
    · rintro rfl
      exact ⟨first, fun _ _ => Nat.zero_le _⟩
  · simp only [path, false_and, not_false_eq_true, true_and, false_or]
    constructor
    · rintro ⟨⟨router, listed, reaches⟩, least⟩
      cases index with
      | zero =>
          cases listed
          exact absurd reaches path
      | succ rest =>
          refine ⟨rest, rfl, ⟨router, by simpa using listed, reaches⟩, ?_⟩
          rintro other ⟨otherRouter, otherListed, otherReaches⟩
          have bound := least (a := other + 1) ⟨otherRouter, by simpa using otherListed, otherReaches⟩
          exact Nat.le_of_succ_le_succ bound
    · rintro ⟨rest, rfl, ⟨router, listed, reaches⟩, least⟩
      refine ⟨⟨router, by simpa using listed, reaches⟩, ?_⟩
      rintro other ⟨otherRouter, otherListed, otherReaches⟩
      cases other with
      | zero =>
          cases otherListed
          exact absurd otherReaches path
      | succ other =>
          have bound := least (a := other) ⟨otherRouter, by simpa using otherListed, otherReaches⟩
          exact Nat.succ_le_succ bound

private theorem foldl_walkFrom_lookup (distinct : DistinctNodeIDs req) {id : String}
    (listed : (nodeByID req.nodes id).isSome = true)
    (plain : isRouterID req.routers id = false) (owner : Nat) :
    ∀ (routers : List RouterDTO) (offset : Nat) (owners : List (String × Nat)),
    (∀ router ∈ routers, isRouterID req.routers router.id = true) →
    (((routers.zipIdx offset).foldl (fun owners entry =>
        (walkFrom req owners entry.2 entry.1.id).ownerRouter) owners).lookup id = some owner ↔
      owners.lookup id = some owner ∨ (owners.lookup id = none ∧
        ∃ index, owner = offset + index ∧ IsLeast (reachingRouters req routers id) index))
  | [], offset, owners, _ => by
      simp [reachingRouters, IsLeast]
  | head :: tail, offset, owners, declared => by
      have headDeclared := declared head List.mem_cons_self
      have other : id ≠ head.id := by
        rintro rfl
        exact absurd plain (by simp [headDeclared])
      rw [List.zipIdx_cons, List.foldl_cons,
        foldl_walkFrom_lookup distinct listed plain owner tail (offset + 1) _
          fun router member => declared router (List.mem_cons_of_mem head member),
        walkFrom_lookup owners headDeclared, claimed]
      have reached := mem_seen_walkFrom distinct owners offset headDeclared other
      simp only [isLeast_reachingRouters_cons]
      cases owners.lookup id with
      | some previous => simp
      | none =>
          by_cases path : GatewayPath req head.id id
          · simp only [reached.mpr path, plain, listed, path]
            simp [eq_comm]
          · have unseen := mt reached.mp path
            simp only [unseen, path]
            simp only [false_and, if_false, reduceCtorEq, false_or, true_and, not_false_eq_true]
            constructor
            · rintro ⟨index, rfl, least⟩
              exact ⟨index + 1, by omega, index, rfl, least⟩
            · rintro ⟨_, rfl, index, rfl, least⟩
              exact ⟨index, by omega, least⟩

/-- Ownership is constrained reachability: the owner of a listed node is the
least router with a path to it. -/
theorem ownerRouter_eq_some_iff (distinct : DistinctNodeIDs req) {id : String}
    (listed : ∃ node ∈ req.nodes, node.id = id)
    (plain : isRouterID req.routers id = false) (owner : Nat) :
    ownerRouter req id = some owner ↔ IsLeast (reachingRouters req req.routers id) owner := by
  have found : (nodeByID req.nodes id).isSome = true := by
    rcases listed with ⟨node, member, rfl⟩
    rw [nodeByID_of_mem distinct member]
    rfl
  unfold ownerRouter
  rw [foldl_walkFrom_lookup distinct found plain owner req.routers 0 [] ?_]
  · simp
  · intro router member
    exact List.any_eq_true.mpr ⟨router, member, by simp⟩

theorem ownerRouter_eq_none_iff (distinct : DistinctNodeIDs req) {id : String}
    (listed : ∃ node ∈ req.nodes, node.id = id)
    (plain : isRouterID req.routers id = false) :
    ownerRouter req id = none ↔ reachingRouters req req.routers id = ∅ := by
  constructor
  · intro unowned
    by_contra reached
    classical
    have nonempty := Set.nonempty_iff_ne_empty.mpr reached
    have least : IsLeast (reachingRouters req req.routers id) (Nat.find nonempty) :=
      ⟨Nat.find_spec nonempty, fun _ member => Nat.find_min' nonempty member⟩
    rw [← ownerRouter_eq_some_iff distinct listed plain, unowned] at least
    cases least
  · intro unreached
    cases owned : ownerRouter req id with
    | none => rfl
    | some owner =>
        have least := (ownerRouter_eq_some_iff distinct listed plain owner).mp owned
        rw [unreached] at least
        exact absurd least.1 (Set.notMem_empty owner)

end Owner

end HomelabBuilder.Ipam
