import HomelabBuilder.Foundation.Keyed
import HomelabBuilder.Topology.Connections

/-! # Power loops

A save searches its power cables in depth for a loop, the change-set editor
searches in breadth for a way back before it draws a cable. Both ask about the
same graph.
-/

namespace HomelabBuilder.Topology

open Services Wiring

theorem mem_powerNext {edges : List EdgeDTO} {tail head : String} :
    head ∈ powerNext edges tail ↔ Arcs.Arc (powerArcs edges) tail head := by
  simp only [powerNext, Arcs.Arc, powerArcs, List.mem_map, List.mem_filter, Bool.and_eq_true,
    decide_eq_true_eq, Prod.mk.injEq]
  constructor
  · rintro ⟨edge, ⟨member, power, source⟩, target⟩
    exact ⟨edge, ⟨member, power⟩, source, target⟩
  · rintro ⟨edge, ⟨member, power⟩, source, target⟩
    exact ⟨edge, ⟨member, power, source⟩, target⟩

theorem reaches_of_search {edges : List EdgeDTO} {start goal : String} :
    Worklist.Reaches (powerNext edges) (· ∈ edges.map EdgeDTO.target) start goal ↔
      Arcs.Reaches (powerArcs edges) start goal := by
  constructor
  · intro search
    induction search with
    | start => exact .refl
    | step _ _ next induction => exact induction.tail (mem_powerNext.mp next)
  · intro path
    induction path with
    | refl => exact .start
    | @tail middle _ before arc induction =>
        apply induction.step _ (mem_powerNext.mpr arc)
        rcases Relation.ReflTransGen.cases_tail before with start | ⟨_, _, last⟩
        · exact .inl start
        · rcases List.mem_map.mp last with ⟨edge, kept, same⟩
          have target : edge.target = middle := congrArg Prod.snd same
          exact .inr (decide_eq_true
            (target ▸ List.mem_map_of_mem (List.mem_of_mem_filter kept)))

theorem powerPathExists_iff {edges : List EdgeDTO} {start goal : String} :
    powerPathExists edges start goal = true ↔ Arcs.Reaches (powerArcs edges) start goal := by
  unfold powerPathExists
  rw [decide_eq_true_eq, Worklist.mem_seen_drain_iff (edges.map EdgeDTO.target)
    (fun _ => of_decide_eq_true) (Nat.le_refl _)]
  exact reaches_of_search

theorem powerArcs_append_power (edges : List EdgeDTO) {edge : EdgeDTO} (power : edge.isPower) :
    powerArcs (edges ++ [edge]) = powerArcs edges ++ [(edge.source, edge.target)] := by
  rw [powerArcs, powerArcs, List.filter_append, List.filter_cons_of_pos power, List.filter_nil,
    List.map_append, List.map_singleton]

/-- A cable that is drawn closes a loop exactly when its target already fed its
source. -/
theorem noPath_iff_acyclic {edges : List EdgeDTO} (acyclic : Arcs.Acyclic (powerArcs edges))
    {edge : EdgeDTO} (power : edge.isPower) :
    powerPathExists edges edge.target edge.source = false ↔
      Arcs.Acyclic (powerArcs (edges ++ [edge])) := by
  rw [← Bool.not_eq_true, powerPathExists_iff, powerArcs_append_power edges power]
  constructor
  · intro apart
    apply acyclic.insert _ apart
    intro arc member
    rcases List.mem_append.mp member with old | new
    · exact .inl old
    · exact .inr (List.mem_singleton.mp new)
  · intro closed path
    have old : Arcs.Reaches (powerArcs edges ++ [(edge.source, edge.target)])
        edge.target edge.source :=
      Relation.ReflTransGen.mono (fun _ _ arc => List.mem_append_left _ arc) _ _ path
    have new : Arcs.Arc (powerArcs edges ++ [(edge.source, edge.target)])
        edge.source edge.target :=
      List.mem_append_right _ (List.mem_singleton_self _)
    exact closed edge.source (Relation.TransGen.head' new old)

def powerLoopError (source target : NodeDTO) : String :=
  "connecting " ++ quoted source.name ++ " to " ++ quoted target.name ++
    " would loop the power back into itself"

/-- The cable `plugIn` draws once the handles are picked. -/
def powerCord (source target : NodeDTO) (handles : String × String) : EdgeDTO :=
  { source := source.id, sourceHandle := handles.1, target := target.id
    targetHandle := handles.2, type := edgeTypePower, direction := "auto" }

theorem plugIn_of_noPath (env : Env) {edges : List EdgeDTO} {source target : NodeDTO}
    (takesPower : powerInputCount env.floats target.type target.details ≠ 0)
    (noPath : powerPathExists edges target.id source.id = false) (wantSource wantTarget : String) :
    plugIn env edges source target wantSource wantTarget =
      (pickPowerHandles env.floats edges source target wantSource wantTarget).map
        (powerCord source target) := by
  unfold plugIn require
  rw [if_pos takesPower, if_pos noPath]
  rfl

theorem plugIn_of_path (env : Env) {edges : List EdgeDTO} {source target : NodeDTO}
    (takesPower : powerInputCount env.floats target.type target.details ≠ 0)
    (path : powerPathExists edges target.id source.id ≠ false) (wantSource wantTarget : String) :
    plugIn env edges source target wantSource wantTarget =
      .error (powerLoopError source target) := by
  unfold plugIn require
  rw [if_pos takesPower, if_neg path]
  rfl

/-- The save validation and the editor agree on power loops. -/
theorem power_loops_agree (edges : List EdgeDTO) :
    ((∀ edge ∈ edges, edge.isPower → edge.source ≠ "" ∧ edge.target ≠ "") →
      (powerLoopNode edges ≠ "" ↔ ∃ id, Arcs.Cycles (powerArcs edges) id) ∧
        (powerLoopNode edges ≠ "" → Arcs.Cycles (powerArcs edges) (powerLoopNode edges))) ∧
    (Arcs.Acyclic (powerArcs edges) →
      (∀ edge : EdgeDTO, edge.isPower → (powerPathExists edges edge.target edge.source = false ↔
        Arcs.Acyclic (powerArcs (edges ++ [edge])))) ∧
      ∀ (env : Env) (source target : NodeDTO) (wantSource wantTarget : String),
        powerInputCount env.floats target.type target.details ≠ 0 →
        (Arcs.Acyclic (powerArcs edges ++ [(source.id, target.id)]) →
          plugIn env edges source target wantSource wantTarget =
            (pickPowerHandles env.floats edges source target wantSource wantTarget).map
              (powerCord source target)) ∧
        (¬ Arcs.Acyclic (powerArcs edges ++ [(source.id, target.id)]) →
          plugIn env edges source target wantSource wantTarget =
            .error (powerLoopError source target))) := by
  constructor
  · intro named
    have plain : ∀ tail head, Arcs.Arc (powerArcs edges) tail head → head ≠ "" := by
      intro tail head arc
      rcases List.mem_map.mp arc with ⟨edge, kept, same⟩
      rcases List.mem_filter.mp kept with ⟨member, power⟩
      cases same
      exact (named edge member power).2
    have spec := Arcs.loopVertex_spec plain
    refine ⟨⟨fun loud => ⟨_, spec.2 loud⟩, ?_⟩, spec.2⟩
    rintro ⟨id, cycle⟩ silent
    exact spec.1 silent id cycle
  · intro acyclic
    refine ⟨fun edge power => noPath_iff_acyclic acyclic power, ?_⟩
    intro env source target wantSource wantTarget takesPower
    have drawn : powerPathExists edges target.id source.id = false ↔
        Arcs.Acyclic (powerArcs edges ++ [(source.id, target.id)]) := by
      have power : (powerCord source target ("", "")).isPower := rfl
      have check := noPath_iff_acyclic acyclic power
      rwa [powerArcs_append_power edges power] at check
    constructor
    · intro open_
      exact plugIn_of_noPath env takesPower (drawn.mpr open_) wantSource wantTarget
    · intro closed
      exact plugIn_of_path env takesPower (mt drawn.mp closed) wantSource wantTarget

def feed (source target : String) : EdgeDTO :=
  { source := source, target := target, type := edgeTypePower }

theorem power_loops_agree_strip :
    (∃ id, Arcs.Cycles (powerArcs [feed "ups" "pdu", feed "pdu" "ups"]) id) ∧
      ¬ Arcs.Acyclic (powerArcs [feed "ups" "pdu", feed "pdu" "ups"]) := by
  have looped := power_loops_agree [feed "ups" "pdu", feed "pdu" "ups"]
  have straight := power_loops_agree [feed "ups" "pdu"]
  have acyclic : Arcs.Acyclic (powerArcs [feed "ups" "pdu"]) := by
    intro id cycle
    exact absurd ((straight.1 (by decide)).1.mpr ⟨id, cycle⟩) (by decide)
  have refused := (straight.2 acyclic).1 (feed "pdu" "ups") rfl
  exact ⟨(looped.1 (by decide)).1.mp (by decide), mt refused.mpr (by decide)⟩

end HomelabBuilder.Topology
