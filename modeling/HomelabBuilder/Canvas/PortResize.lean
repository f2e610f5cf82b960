import HomelabBuilder.Canvas.PortConfig
import HomelabBuilder.Foundation.Extremes
import HomelabBuilder.Foundation.Table
import HomelabBuilder.Services.TopologyPorts

/-! # Changing the number of ports

`withPortCount` of `port-config.ts`: the count is held between the highest port
with a cable and the most the canvas offers.
-/

namespace HomelabBuilder.Canvas

/-- The two ends of a link; a handle that is null reads as an empty text. -/
structure CableEnds where
  source : Option String
  target : Option String
  sourceHandle : String := ""
  targetHandle : String := ""

def maxPorts : Int := 96

/-- N for a handle that matches `/^eth(\d+)$/`. -/
def ethIndex (handle : String) : Option Int :=
  ((cutPrefix "eth" handle).bind Net.decimal).map Int.ofNat

/-- The numbered ports of a node that a cable sits on. -/
def cabledPorts (nodeID : String) (edge : CableEnds) : List Int :=
  if isPowerHandle edge.sourceHandle || isPowerHandle edge.targetHandle then []
  else
    (if edge.source = some nodeID then (ethIndex edge.sourceHandle).toList else []) ++
      if edge.target = some nodeID then (ethIndex edge.targetHandle).toList else []

/-- The highest N of an ethN port on the node that carries a network cable, or -1. -/
def highestCabledPort (nodeID : String) (edges : List CableEnds) : Int :=
  (edges.flatMap (cabledPorts nodeID)).foldl max (-1)

structure PortCountResult where
  details : List (String × Json)
  count : Int
  clamped : Bool

def trunc (value : Rat) : Int := if 0 ≤ value then value.floor else value.ceil

def clampCount (highest : Int) (requested : Option Rat) : Int :=
  let least := max 1 (highest + 1)
  let wanted := (requested.map trunc).getD least
  min maxPorts (max least wanted)

/-- The settings that stay. An assignment to `__proto__` makes no entry. -/
def keptSettings (count : Int) (config : List (String × Json)) : List (String × Json) :=
  config.filter fun entry =>
    decide (∀ index ∈ ethIndex entry.1, index < count) && entry.1 ≠ "__proto__"

/-- `withPortCount`; a request that is no finite number is `none`. -/
def withPortCount (nodeID : String) (nodeDetails : Json) (edges : List CableEnds)
    (requested : Option Rat) : PortCountResult :=
  let count := clampCount (highestCabledPort nodeID edges) requested
  let details := Table.set (nodeDetails.asObject.getD []) "ports" (.num count)
  { details :=
      match (details.lookup "port_config").bind Json.asObject with
      | none => details
      | some config =>
          let kept := keptSettings count config
          if kept = [] then Table.erase details "port_config"
          else Table.set details "port_config" (.obj kept)
    count := count
    clamped := requested ≠ some (count : Rat) }

/-! ## What a change keeps -/

def portSettings (details : List (String × Json)) (handle : String) : Option Json :=
  ((details.lookup "port_config").bind Json.asObject).bind (List.lookup handle)

/-- Whether a handle is a numbered port that `count` ports do not reach. -/
def BeyondCount (count : Int) (handle : String) : Prop := ∃ index ∈ ethIndex handle, count ≤ index

instance (count : Int) (handle : String) : Decidable (BeyondCount count handle) :=
  match found : ethIndex handle with
  | none => .isFalse (by simp [BeyondCount, found])
  | some index => decidable_of_iff (count ≤ index) (by simp [BeyondCount, found])

/-- A new number of ports that cuts no cable and changes nothing else. -/
structure CutsNoCable (nodeID : String) (nodeDetails : Json) (edges : List CableEnds)
    (result : PortCountResult) : Prop where
  least : 1 ≤ result.count
  covers : ∀ edge ∈ edges, ∀ index ∈ cabledPorts nodeID edge, index + 1 ≤ result.count
  stored : result.details.lookup "ports" = some (.num result.count)
  settings : ∀ handle, portSettings result.details handle =
    if BeyondCount result.count handle then none else portSettings nodeDetails.members handle
  frame : ∀ key, key ≠ "ports" → key ≠ "port_config" →
    result.details.lookup key = nodeDetails.members.lookup key

theorem highestCabledPort_le_iff {nodeID : String} {edges : List CableEnds} {bound : Int}
    (low : -1 ≤ bound) : highestCabledPort nodeID edges ≤ bound ↔
      ∀ edge ∈ edges, ∀ index ∈ cabledPorts nodeID edge, index ≤ bound := by
  unfold highestCabledPort
  rw [Extremes.foldl_max_le_iff]
  constructor
  · intro below edge listed index cabled
    exact below.2 index (List.mem_flatMap.mpr ⟨edge, listed, cabled⟩)
  · intro below
    refine ⟨low, ?_⟩
    intro index listed
    rcases List.mem_flatMap.mp listed with ⟨edge, listed, cabled⟩
    exact below edge listed index cabled

theorem neg_one_le_highestCabledPort (nodeID : String) (edges : List CableEnds) :
    -1 ≤ highestCabledPort nodeID edges :=
  ((Extremes.foldl_max_le_iff _ _ _).mp le_rfl).1

theorem one_le_clampCount (highest : Int) (requested : Option Rat) :
    1 ≤ clampCount highest requested := by
  simp only [clampCount, maxPorts]
  omega

theorem clampCount_le (highest : Int) (requested : Option Rat) :
    clampCount highest requested ≤ 96 := min_le_left ..

theorem lt_clampCount {highest : Int} (low : highest < 96) (requested : Option Rat) :
    highest + 1 ≤ clampCount highest requested := by
  simp only [clampCount, maxPorts]
  omega

theorem lookup_keptSettings (count : Int) (config : List (String × Json)) (handle : String) :
    (keptSettings count config).lookup handle =
      if BeyondCount count handle ∨ handle = "__proto__" then none else config.lookup handle := by
  have kept := Table.lookup_filter config
    (fun name => decide (∀ index ∈ ethIndex name, index < count) && name ≠ "__proto__") handle
  refine kept.trans ?_
  have opposite : (∀ index ∈ ethIndex handle, index < count) ↔ ¬BeyondCount count handle := by
    simp [BeyondCount]
  by_cases beyond : BeyondCount count handle ∨ handle = "__proto__"
  · rw [if_pos beyond, if_neg]
    rw [Bool.and_eq_true, decide_eq_true_iff, decide_eq_true_iff, opposite]
    exact fun both => beyond.elim both.1 both.2
  · rw [if_neg beyond, if_pos]
    rw [Bool.and_eq_true, decide_eq_true_iff, decide_eq_true_iff, opposite]
    exact not_or.mp beyond

section

variable (nodeID : String) (nodeDetails : Json) (edges : List CableEnds) (requested : Option Rat)

@[simp] theorem count_withPortCount : (withPortCount nodeID nodeDetails edges requested).count =
    clampCount (highestCabledPort nodeID edges) requested := rfl

theorem lookup_withPortCount {key : String} (other : key ≠ "port_config") :
    (withPortCount nodeID nodeDetails edges requested).details.lookup key =
      if key = "ports" then
        some (.num (withPortCount nodeID nodeDetails edges requested).count)
      else nodeDetails.members.lookup key := by
  rw [count_withPortCount]
  unfold withPortCount Json.members
  dsimp only
  split
  · rw [Table.lookup_set]
  · split
    · rw [Table.lookup_erase, if_neg other, Table.lookup_set]
    · rw [Table.lookup_set, if_neg other, Table.lookup_set]

theorem portSettings_withPortCount (handle : String) :
    portSettings (withPortCount nodeID nodeDetails edges requested).details handle =
      if BeyondCount (withPortCount nodeID nodeDetails edges requested).count handle ∨
        handle = "__proto__" then none
      else portSettings nodeDetails.members handle := by
  rw [count_withPortCount]
  generalize counted : clampCount (highestCabledPort nodeID edges) requested = count
  have before : (Table.set (nodeDetails.asObject.getD []) "ports" (.num count)).lookup
      "port_config" = nodeDetails.members.lookup "port_config" := by
    rw [Table.lookup_set, if_neg (by decide)]
    rfl
  have unfolded : portSettings nodeDetails.members handle =
      ((nodeDetails.members.lookup "port_config").bind Json.asObject).bind (List.lookup handle) :=
    rfl
  unfold withPortCount
  rw [counted, unfolded]
  dsimp only
  rw [before]
  cases found : (nodeDetails.members.lookup "port_config").bind Json.asObject with
  | none =>
      unfold portSettings
      dsimp only
      rw [before, found, Option.bind_none, ite_self]
  | some config =>
      have kept : (keptSettings count config).lookup handle =
          if BeyondCount count handle ∨ handle = "__proto__" then none else config.lookup handle :=
        lookup_keptSettings count config handle
      rw [Option.bind_some, ← kept]
      dsimp only
      split
      · rename_i empty
        unfold portSettings
        rw [Table.lookup_erase, if_pos rfl, empty]
        rfl
      · unfold portSettings
        rw [Table.lookup_set, if_pos rfl]
        rfl

/-- Every port from the count on loses its settings, and no cable is cut, exactly
where no cable sits beyond the most ports there are. -/
theorem cutsNoCable_iff :
    CutsNoCable nodeID nodeDetails edges (withPortCount nodeID nodeDetails edges requested) ↔
      (∀ edge ∈ edges, ∀ index ∈ cabledPorts nodeID edge, index < 96) ∧
        portSettings nodeDetails.members "__proto__" = none := by
  constructor
  · intro cuts
    constructor
    · intro edge listed index cabled
      have covered := cuts.covers edge listed index cabled
      have most := clampCount_le (highestCabledPort nodeID edges) requested
      rw [count_withPortCount] at covered
      omega
    · have same := cuts.settings "__proto__"
      have port : ¬BeyondCount (withPortCount nodeID nodeDetails edges requested).count
          "__proto__" := by
        rintro ⟨index, isPort, _⟩
        cases isPort
      rw [if_neg port, portSettings_withPortCount, if_pos (.inr rfl)] at same
      exact same.symm
  · rintro ⟨below, unnamed⟩
    have low : highestCabledPort nodeID edges ≤ 95 := by
      apply (highestCabledPort_le_iff (by decide)).mpr
      intro edge listed index cabled
      exact Int.le_of_lt_add_one (below edge listed index cabled)
    constructor
    · exact one_le_clampCount ..
    · intro edge listed index cabled
      have highest := (highestCabledPort_le_iff (neg_one_le_highestCabledPort nodeID edges)).mp
        le_rfl edge listed index cabled
      have covered := lt_clampCount (Int.lt_add_one_of_le low) requested
      rw [count_withPortCount]
      omega
    · rw [lookup_withPortCount nodeID nodeDetails edges requested (by decide), if_pos rfl]
    · intro handle
      rw [portSettings_withPortCount]
      by_cases proto : handle = "__proto__"
      · rw [if_pos (.inr proto), proto, unnamed, ite_self]
      · simp only [proto, or_false]
    · intro key notPorts notConfig
      rw [lookup_withPortCount nodeID nodeDetails edges requested notConfig, if_neg notPorts]

end

/-- A router with a cable on its hundredth port cannot keep it. -/
theorem cuts_a_cable : ¬ ∀ (nodeID : String) (nodeDetails : Json) (edges : List CableEnds)
    (requested : Option Rat), (∀ edge ∈ edges, ∀ index ∈ cabledPorts nodeID edge, index < 128) →
      CutsNoCable nodeID nodeDetails edges (withPortCount nodeID nodeDetails edges requested) := by
  intro claim
  have cuts := claim "router" (.obj [("ports", .num 128)])
    [{ source := some "router", target := some "switch", sourceHandle := "eth99",
       targetHandle := "target-0" }] (some 128) (by decide)
  have covered := cuts.covers _ List.mem_cons_self 99 (by decide)
  exact absurd covered (by decide)

end HomelabBuilder.Canvas
