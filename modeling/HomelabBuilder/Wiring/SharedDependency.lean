import HomelabBuilder.Foundation.Worklist
import HomelabBuilder.Wiring.PowerLoads

/-! # Shared dependencies

`sharedDependency`: whether the chains of two power supplies of a device meet in one
source or circuit. The text of a number is a parameter.
-/

namespace HomelabBuilder.Wiring

open Worklist

def displayName (node : Node) : String :=
  if trimSpace node.name ≠ "" then node.name else node.id

/-- The circuit of an outlet, "" when it has none. -/
def circuitOf (formatFloat : Rat → String) (details : List (String × Json)) : String :=
  match details.lookup "circuit" with
  | some (.str text) => trimSpace text
  | some (.num value) => formatFloat value
  | _ => ""

structure Chain where
  input : Int
  tokens : List String

namespace PowerGraph

variable (graph : PowerGraph) (formatFloat : Rat → String)

def sourcesOf (id : String) : List String := (graph.feeds id).map Feed.source

def circuit (id : String) : String :=
  ((node graph.nodes id).map fun found => circuitOf formatFloat found.details).getD ""

def tokensAt (id : String) : List String :=
  id :: if graph.circuit formatFloat id ≠ "" then ["circuit:" ++ graph.circuit formatFloat id] else []

/-- The source and everything that feeds it, each with its circuit, in the order of a search. -/
def upstreamTokens (start : String) : List String :=
  (order graph.sourcesOf (graph.nodes.length + 1) (initial start)).flatMap
    (graph.tokensAt formatFloat)

/-- The first cable of each input. -/
def firstFeeds : List Int → List Feed → List Feed
  | _, [] => []
  | seen, feed :: rest =>
      if feed.input ∈ seen then firstFeeds seen rest
      else feed :: firstFeeds (feed.input :: seen) rest

def chains (id : String) : List Chain :=
  (firstFeeds [] (graph.feeds id)).map fun feed =>
    ⟨feed.input, graph.upstreamTokens formatFloat feed.source⟩

/-- The first two chains that meet, and where. -/
def meeting : List Chain → Option (Chain × Chain × String)
  | [] => none
  | chain :: rest =>
      (rest.findSome? fun later =>
        (chain.tokens.find? fun token => token ∈ later.tokens).map fun token =>
          (chain, later, token)).or (meeting rest)

def tokenName (token : String) : String :=
  match cutPrefix "circuit:" token with
  | some circuit => "circuit " ++ String.ofList circuit
  | none => ((node graph.nodes token).map displayName).getD ""

def sharedDependency (id name : String) : Option String :=
  (meeting (graph.chains formatFloat id)).map fun (chain, later, token) =>
    "Power supplies " ++ toString (chain.input + 1) ++ " and " ++ toString (later.input + 1) ++
      " of " ++ name ++ " both depend on " ++ graph.tokenName token

/-! ## Outages -/

/-- What can fail: a source, or a circuit with all outlets on it. -/
inductive Outage
  | source (id : String)
  | circuit (name : String)

def Upstream : String → String → Prop :=
  Relation.ReflTransGen fun before after => after ∈ graph.sourcesOf before

/-- The outage is somewhere on the way up from a cable. -/
def Cuts (outage : Outage) (feed : Feed) : Prop :=
  ∃ id, graph.Upstream feed.source id ∧
    match outage with
    | .source failed => id = failed
    | .circuit failed => failed ≠ "" ∧ graph.circuit formatFloat id = failed

variable {graph}

theorem meeting_eq_none_iff (chains : List Chain) :
    meeting chains = none ↔
      chains.Pairwise fun left right => ∀ token ∈ left.tokens, token ∉ right.tokens := by
  induction chains with
  | nil => simp [meeting]
  | cons chain rest induction =>
      simp only [meeting, Option.or_eq_none_iff, List.findSome?_eq_none_iff, Option.map_eq_none_iff,
        List.find?_eq_none, decide_eq_true_eq, induction, List.pairwise_cons]

theorem sourcesOf_subset (joined : graph.Joined) (id : String) :
    graph.sourcesOf id ⊆ graph.nodes.map Node.id := by
  intro source listed
  rcases List.mem_map.mp listed with ⟨feed, sorted, rfl⟩
  rcases List.mem_map.mp ((List.mergeSort_perm _ _).mem_iff.mp sorted) with ⟨edge, kept, rfl⟩
  rcases Option.isSome_iff_exists.mp (joined edge (List.mem_filter.mp kept).1).1 with ⟨node, found⟩
  have known := mem_of_node found
  exact List.mem_map.mpr ⟨node, known.1, known.2⟩

theorem mem_upstreamTokens_iff (joined : graph.Joined) {start token : String} :
    token ∈ graph.upstreamTokens formatFloat start ↔
      ∃ id, graph.Upstream start id ∧ token ∈ graph.tokensAt formatFloat id := by
  have enough : (graph.nodes.map Node.id).length + 1 ≤ graph.nodes.length + 1 := by
    rw [List.length_map]
  rw [upstreamTokens, List.mem_flatMap]
  simp only [mem_order_iff (sourcesOf_subset joined) enough]
  rfl

theorem firstFeeds_of_nodup {feeds : List Feed} {seen : List Int}
    (apart : (feeds.map Feed.input).Nodup) (fresh : ∀ feed ∈ feeds, feed.input ∉ seen) :
    firstFeeds seen feeds = feeds := by
  induction feeds generalizing seen with
  | nil => rfl
  | cons feed rest induction =>
      have parts := List.nodup_cons.mp apart
      rw [firstFeeds, if_neg (fresh feed List.mem_cons_self), induction parts.2]
      intro other listed
      have different : other.input ≠ feed.input := fun same =>
        parts.1 (same ▸ List.mem_map_of_mem listed)
      exact List.not_mem_cons_of_ne_of_not_mem different (fresh other (List.mem_cons_of_mem _ listed))

theorem mem_tokensAt_iff {id token : String} :
    token ∈ graph.tokensAt formatFloat id ↔
      token = id ∨ graph.circuit formatFloat id ≠ "" ∧
        token = "circuit:" ++ graph.circuit formatFloat id := by
  unfold tokensAt
  split <;> simp [*]

def PlainIDs (graph : PowerGraph) : Prop :=
  ∀ node ∈ graph.nodes, cutPrefix "circuit:" node.id = none

theorem PlainIDs.ne_circuit (plain : graph.PlainIDs) {id name : String}
    (listed : id ∈ graph.nodes.map Node.id) : id ≠ "circuit:" ++ name := by
  rintro rfl
  rcases List.mem_map.mp listed with ⟨node, member, same⟩
  have cut := plain node member
  rw [same, cutPrefix_append] at cut
  cases cut

theorem upstream_listed (joined : graph.Joined) {id start vertex : String}
    (feeds : start ∈ graph.sourcesOf id) (reaches : graph.Upstream start vertex) :
    vertex ∈ graph.nodes.map Node.id := by
  induction reaches with
  | refl => exact sourcesOf_subset joined id feeds
  | tail _ adjacent _ => exact sourcesOf_subset joined _ adjacent

theorem disjoint_iff (joined : graph.Joined) (plain : graph.PlainIDs) {id : String}
    {left right : Feed} (inLeft : left ∈ graph.feeds id) (inRight : right ∈ graph.feeds id) :
    (∀ token ∈ graph.upstreamTokens formatFloat left.source,
        token ∉ graph.upstreamTokens formatFloat right.source) ↔
      ∀ outage, ¬(graph.Cuts formatFloat outage left ∧ graph.Cuts formatFloat outage right) := by
  simp only [mem_upstreamTokens_iff formatFloat joined, mem_tokensAt_iff]
  have listed : ∀ {feed vertex}, feed ∈ graph.feeds id → graph.Upstream feed.source vertex →
      vertex ∈ graph.nodes.map Node.id := fun member reaches =>
    upstream_listed joined (List.mem_map_of_mem member) reaches
  constructor
  · rintro apart (failed | failed) ⟨⟨first, reachesFirst, cutFirst⟩, ⟨second, reachesSecond, cutSecond⟩⟩
    · exact apart failed ⟨first, reachesFirst, .inl cutFirst.symm⟩
        ⟨second, reachesSecond, .inl cutSecond.symm⟩
    · rcases cutFirst with ⟨named, same⟩
      exact apart ("circuit:" ++ failed)
        ⟨first, reachesFirst, .inr ⟨same ▸ named, same ▸ rfl⟩⟩
        ⟨second, reachesSecond, .inr ⟨cutSecond.2 ▸ named, cutSecond.2 ▸ rfl⟩⟩
  · rintro safe token ⟨first, reachesFirst, isFirst⟩ ⟨second, reachesSecond, isSecond⟩
    rcases isFirst with rfl | ⟨named, rfl⟩
    · rcases isSecond with rfl | ⟨_, same⟩
      · exact safe (.source token) ⟨⟨_, reachesFirst, rfl⟩, ⟨_, reachesSecond, rfl⟩⟩
      · exact plain.ne_circuit (listed inLeft reachesFirst) same
    · rcases isSecond with same | ⟨_, same⟩
      · exact plain.ne_circuit (listed inRight reachesSecond) same.symm
      · have lists := congrArg String.toList same
        rw [String.toList_append, String.toList_append] at lists
        have circuits := String.toList_inj.mp (List.append_cancel_left lists)
        exact safe (.circuit (graph.circuit formatFloat first))
          ⟨⟨_, reachesFirst, named, rfl⟩, ⟨_, reachesSecond, named, circuits.symm⟩⟩

theorem sharedDependency_eq_none (joined : graph.Joined) (apart : graph.Apart)
    (plain : graph.PlainIDs) (id name : String) :
    graph.sharedDependency formatFloat id name = none ↔
      (graph.feeds id).Pairwise fun left right => ∀ outage,
        ¬(graph.Cuts formatFloat outage left ∧ graph.Cuts formatFloat outage right) := by
  have inputs := (graph.inputs_perm id).nodup_iff.mpr (apart id)
  rw [sharedDependency, Option.map_eq_none_iff, meeting_eq_none_iff, chains,
    firstFeeds_of_nodup inputs (fun _ _ => List.not_mem_nil), List.pairwise_map]
  exact List.Pairwise.iff_of_mem fun inLeft inRight =>
    disjoint_iff formatFloat joined plain inLeft inRight

end PowerGraph

end HomelabBuilder.Wiring
