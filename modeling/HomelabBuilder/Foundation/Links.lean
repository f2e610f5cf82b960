import Mathlib.Combinatorics.SimpleGraph.Acyclic
import HomelabBuilder.Foundation.Worklist

/-! # Undirected graphs as lists of links

A breadth-first search over links, and when a list of links has no loops.
-/

namespace HomelabBuilder.Links

variable {α : Type*}

/-- The two ends are on a link, whichever way it is written. -/
def Joined (links : List (α × α)) (left right : α) : Prop :=
  (left, right) ∈ links ∨ (right, left) ∈ links

def graph (links : List (α × α)) : SimpleGraph α := SimpleGraph.fromRel fun left right =>
  (left, right) ∈ links

theorem graph_adj {links : List (α × α)} {left right : α} :
    (graph links).Adj left right ↔ left ≠ right ∧ Joined links left right :=
  SimpleGraph.fromRel_adj _ left right

/-- No walk along links comes back, no link leads to where it starts, and no two
links join the same ends. -/
structure LoopFree (links : List (α × α)) : Prop where
  acyclic : (graph links).IsAcyclic
  apart : ∀ link ∈ links, link.1 ≠ link.2
  single : links.Pairwise fun first second => second ≠ first ∧ second ≠ first.swap

theorem graph_mono {links fewer : List (α × α)} (subset : fewer ⊆ links) :
    graph fewer ≤ graph links := by
  intro left right adjacent
  rw [graph_adj] at adjacent ⊢
  exact ⟨adjacent.1, adjacent.2.imp (fun member => subset member) fun member => subset member⟩

theorem isAcyclic_of_subset {links fewer : List (α × α)} (acyclic : (graph links).IsAcyclic)
    (subset : fewer ⊆ links) : (graph fewer).IsAcyclic :=
  acyclic.anti (graph_mono subset)

theorem isAcyclic_insert {links more : List (α × α)} {left right : α}
    (acyclic : (graph links).IsAcyclic)
    (extends_ : ∀ link ∈ more, link ∈ links ∨ link = (left, right))
    (apart : ¬ (graph links).Reachable left right) : (graph more).IsAcyclic := by
  have more_le : graph more ≤ graph links ⊔ SimpleGraph.edge left right := by
    intro first second adjacent
    rw [graph_adj] at adjacent
    rw [SimpleGraph.sup_adj, graph_adj, SimpleGraph.edge_adj]
    rcases adjacent with ⟨different, forward | backward⟩
    · rcases extends_ _ forward with old | new
      · exact .inl ⟨different, .inl old⟩
      · cases new
        exact .inr ⟨.inl ⟨rfl, rfl⟩, different⟩
    · rcases extends_ _ backward with old | new
      · exact .inl ⟨different, .inr old⟩
      · cases new
        exact .inr ⟨.inr ⟨rfl, rfl⟩, different⟩
  exact (acyclic.sup_edge_of_not_reachable apart).anti more_le

theorem graph_nil : graph ([] : List (α × α)) = ⊥ := by
  apply SimpleGraph.ext
  funext left right
  apply propext
  simp [graph_adj, Joined]

theorem graph_cons (left right : α) (rest : List (α × α)) :
    graph ((left, right) :: rest) = graph rest ⊔ SimpleGraph.edge left right := by
  apply SimpleGraph.ext
  funext first second
  apply propext
  simp only [SimpleGraph.sup_adj, graph_adj, SimpleGraph.edge_adj, Joined, List.mem_cons,
    Prod.mk.injEq]
  constructor
  · rintro ⟨different, (⟨rfl, rfl⟩ | old) | ⟨rfl, rfl⟩ | old⟩
    · exact .inr ⟨.inl ⟨rfl, rfl⟩, different⟩
    · exact .inl ⟨different, .inl old⟩
    · exact .inr ⟨.inr ⟨rfl, rfl⟩, different⟩
    · exact .inl ⟨different, .inr old⟩
  · rintro (⟨different, old | old⟩ | ⟨⟨rfl, rfl⟩ | ⟨rfl, rfl⟩, different⟩)
    · exact ⟨different, .inl (.inr old)⟩
    · exact ⟨different, .inr (.inr old)⟩
    · exact ⟨different, .inl (.inl ⟨rfl, rfl⟩)⟩
    · exact ⟨different, .inr (.inl ⟨rfl, rfl⟩)⟩

/-! ## Searching -/

def ends (links : List (α × α)) : List α := links.flatMap fun link => [link.1, link.2]

theorem mem_ends_of_joined {links : List (α × α)} {left right : α}
    (joined : Joined links left right) : left ∈ ends links := by
  rcases joined with member | member
  · exact List.mem_flatMap.mpr ⟨_, member, List.mem_cons_self⟩
  · exact List.mem_flatMap.mpr ⟨_, member, List.mem_cons_of_mem _ List.mem_cons_self⟩

variable [DecidableEq α]

def neighbors (links : List (α × α)) (vertex : α) : List α :=
  links.flatMap fun link =>
    (if link.1 = vertex then [link.2] else []) ++ if link.2 = vertex then [link.1] else []

theorem mem_neighbors {links : List (α × α)} {vertex other : α} :
    other ∈ neighbors links vertex ↔ Joined links vertex other := by
  simp only [neighbors, List.mem_flatMap, List.mem_append, List.mem_ite_nil_right,
    List.mem_singleton, Joined, Prod.exists]
  constructor
  · rintro ⟨left, right, member, ⟨rfl, rfl⟩ | ⟨rfl, rfl⟩⟩
    · exact .inl member
    · exact .inr member
  · rintro (member | member)
    · exact ⟨vertex, other, member, .inl ⟨rfl, rfl⟩⟩
    · exact ⟨other, vertex, member, .inr ⟨rfl, rfl⟩⟩

instance (links : List (α × α)) (left right : α) : Decidable (Joined links left right) :=
  inferInstanceAs (Decidable ((left, right) ∈ links ∨ (right, left) ∈ links))

def searched (links : List (α × α)) (start : α) : List α :=
  (Worklist.drain (neighbors links) (· ∈ ends links) ((ends links).length + 1)
    (Worklist.initial start)).seen

theorem mem_searched_iff {links : List (α × α)} {start goal : α} :
    goal ∈ searched links start ↔ (graph links).Reachable start goal := by
  rw [searched, Worklist.mem_seen_drain_iff (ends links)
    (fun _ member => of_decide_eq_true member) (Nat.le_refl _)]
  constructor
  · intro reaches
    induction reaches with
    | start => exact SimpleGraph.Reachable.refl _
    | @step middle vertex _ _ successor induction =>
        by_cases same : middle = vertex
        · exact same ▸ induction
        · have adjacent := graph_adj.mpr ⟨same, mem_neighbors.mp successor⟩
          exact induction.trans adjacent.reachable
  · intro reachable
    rw [SimpleGraph.reachable_iff_reflTransGen] at reachable
    induction reachable with
    | refl => exact .start
    | tail _ adjacent induction =>
        have joined := (graph_adj.mp adjacent).2
        exact induction.step (.inr (decide_eq_true (mem_ends_of_joined joined)))
          (mem_neighbors.mpr joined)

theorem isAcyclic_cons_iff {left right : α} {rest : List (α × α)} :
    (graph ((left, right) :: rest)).IsAcyclic ↔
      (graph rest).IsAcyclic ∧ (right ∈ searched rest left → left = right ∨
        (left ≠ right ∧ Joined rest left right)) := by
  rw [graph_cons, SimpleGraph.isAcyclic_sup_fromEdgeSet_iff, mem_searched_iff, graph_adj]

end HomelabBuilder.Links
