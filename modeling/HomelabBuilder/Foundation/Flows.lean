import Mathlib.Algebra.BigOperators.Group.Finset.Piecewise
import Mathlib.Algebra.BigOperators.Ring.Finset
import Mathlib.Algebra.Field.Rat
import Mathlib.Data.Fintype.Order
import Mathlib.Order.WellFounded
import Mathlib.Tactic.Ring
import HomelabBuilder.Foundation.Arcs

/-! # Flows

What the vertices of an acyclic graph draw, carried along the arcs that feed them: every
vertex has one load, and what is drawn comes in where nothing feeds.
-/

namespace HomelabBuilder.Flows

open Arcs

variable {α : Type*} {arcs : List (α × α)}

/-! ## Well-founded graphs -/

theorem acc_of_reaches (acyclic : Acyclic arcs) (vertex : α) :
    Acc (fun after before => Arc arcs before after) vertex := by
  have heads : ∀ head : {head // head ∈ arcs.map Prod.snd},
      Acc (fun after before => Arc arcs before after) head.1 := by
    have finite : Finite {head // head ∈ arcs.map Prod.snd} := List.finite_toSet _
    have order : IsTrans {head // head ∈ arcs.map Prod.snd}
        (fun after before => Relation.TransGen (Arc arcs) before.1 after.1) :=
      ⟨fun _ _ _ second first => first.trans second⟩
    have strict : Std.Irrefl fun after before : {head // head ∈ arcs.map Prod.snd} =>
        Relation.TransGen (Arc arcs) before.1 after.1 := ⟨fun head => acyclic head.1⟩
    have founded := Finite.wellFounded_of_trans_of_irrefl
      (fun after before : {head // head ∈ arcs.map Prod.snd} =>
        Relation.TransGen (Arc arcs) before.1 after.1)
    intro head
    induction head using founded.induction with
    | _ head induction =>
        refine Acc.intro _ fun after arc => ?_
        exact induction ⟨after, List.mem_map_of_mem arc⟩ (.single arc)
  exact Acc.intro _ fun after arc => heads ⟨after, List.mem_map_of_mem arc⟩

theorem wellFounded (acyclic : Acyclic arcs) :
    WellFounded fun after before => Arc arcs before after := ⟨acc_of_reaches acyclic⟩

/-! ## Loads -/

/-- What the vertices draw themselves, which of them pass on what they feed, and the share
of a vertex that an arc into it carries. -/
structure Network (α : Type*) where
  arcs : List (α × α)
  draw : α → ℚ
  passes : α → Bool
  share : α → ℚ

namespace Network

variable (network : Network α)

def demand (load : α → ℚ) (vertex : α) : ℚ :=
  network.draw vertex + if network.passes vertex then load vertex else 0

variable [DecidableEq α]

def out (vertex : α) : List (α × α) := network.arcs.filter fun arc => arc.1 = vertex

/-- Every load is the sum of the shares that are asked of it. -/
def Balanced (load : α → ℚ) : Prop :=
  ∀ vertex, load vertex =
    ((network.out vertex).map fun arc => network.demand load arc.2 * network.share arc.2).sum

variable {network}

theorem exists_balanced (acyclic : Acyclic network.arcs) : ∃ load, network.Balanced load := by
  have founded := wellFounded acyclic
  have arc : ∀ {vertex} (arc : {arc // arc ∈ network.out vertex}),
      Arc network.arcs vertex arc.1.2 := by
    intro vertex ⟨arc, listed⟩
    rcases List.mem_filter.mp listed with ⟨member, starts⟩
    have same := of_decide_eq_true starts
    exact same ▸ member
  refine ⟨founded.fix fun vertex later => ((network.out vertex).attach.map fun next =>
    (network.draw next.1.2 + if network.passes next.1.2 then later next.1.2 (arc next) else 0) *
      network.share next.1.2).sum, fun vertex => ?_⟩
  rw [founded.fix_eq]
  exact congrArg List.sum (@List.attach_map_val _ _ (network.out vertex) fun arc =>
    network.demand (founded.fix _) arc.2 * network.share arc.2)

/-! ## Conservation -/

variable (network)

theorem sum_fibers {β : Type*} (vertices : Finset α) (key : β → α) (flow : β → ℚ) {items : List β}
    (within : ∀ item ∈ items, key item ∈ vertices) :
    ∑ vertex ∈ vertices, ((items.filter fun item => key item = vertex).map flow).sum =
      (items.map flow).sum := by
  induction items with
  | nil => simp
  | cons item rest induction =>
      have parts := List.forall_mem_cons.mp within
      have split : ∀ vertex, (((item :: rest).filter fun item => key item = vertex).map flow).sum =
          (if key item = vertex then flow item else 0) +
            ((rest.filter fun item => key item = vertex).map flow).sum := by
        intro vertex
        by_cases same : key item = vertex <;> simp [same]
      simp only [split, Finset.sum_add_distrib, induction parts.2]
      rw [Finset.sum_ite_eq, if_pos parts.1, List.map_cons, List.sum_cons]

def Fed (vertex : α) : Prop := ∃ arc ∈ network.arcs, arc.2 = vertex

instance (vertex : α) : Decidable (network.Fed vertex) :=
  inferInstanceAs (Decidable (∃ arc ∈ network.arcs, arc.2 = vertex))

theorem sum_into (load : α → ℚ) (vertex : α)
    (whole : network.Fed vertex →
      (network.arcs.filter fun arc => arc.2 = vertex).length * network.share vertex = 1) :
    ((network.arcs.filter fun arc => arc.2 = vertex).map fun arc =>
        network.demand load arc.2 * network.share arc.2).sum =
      if network.Fed vertex then network.demand load vertex else 0 := by
  have even : (network.arcs.filter fun arc => arc.2 = vertex).map (fun arc =>
      network.demand load arc.2 * network.share arc.2) =
        List.replicate (network.arcs.filter fun arc => arc.2 = vertex).length
          (network.demand load vertex * network.share vertex) := by
    refine List.eq_replicate_iff.mpr ⟨List.length_map _, fun flow listed => ?_⟩
    rcases List.mem_map.mp listed with ⟨arc, kept, rfl⟩
    rw [of_decide_eq_true (List.mem_filter.mp kept).2]
  rw [even, List.sum_replicate, nsmul_eq_mul]
  split
  case isTrue fed => rw [mul_left_comm, whole fed, mul_one]
  case isFalse unfed =>
    have none : network.arcs.filter (fun arc => arc.2 = vertex) = [] :=
      List.filter_eq_nil_iff.mpr fun arc listed same =>
        unfed ⟨arc, listed, of_decide_eq_true same⟩
    rw [none, List.length_nil, Nat.cast_zero, zero_mul]

variable {network}

theorem Balanced.load_eq_zero {load : α → ℚ} (balanced : network.Balanced load)
    (sources : ∀ arc ∈ network.arcs, network.passes arc.1 = true) {vertex : α}
    (ends : network.passes vertex = false) : load vertex = 0 := by
  have none : network.out vertex = [] := by
    refine List.filter_eq_nil_iff.mpr fun arc listed same => ?_
    have passes := sources arc listed
    rw [of_decide_eq_true same, ends] at passes
    cases passes
  rw [balanced vertex, none]
  rfl

theorem Balanced.conserved {load : α → ℚ} (balanced : network.Balanced load) {vertices : Finset α}
    (tails : ∀ arc ∈ network.arcs, arc.1 ∈ vertices)
    (heads : ∀ arc ∈ network.arcs, arc.2 ∈ vertices)
    (sources : ∀ arc ∈ network.arcs, network.passes arc.1 = true)
    (whole : ∀ vertex, network.Fed vertex →
      (network.arcs.filter fun arc => arc.2 = vertex).length * network.share vertex = 1) :
    ∑ vertex ∈ vertices with network.passes vertex = true ∧ ¬network.Fed vertex, load vertex =
      ∑ vertex ∈ vertices with network.Fed vertex, network.draw vertex := by
  have total : ∑ vertex ∈ vertices, load vertex =
      ∑ vertex ∈ vertices, if network.Fed vertex then network.demand load vertex else 0 := by
    calc
      _ = ∑ vertex ∈ vertices, ((network.out vertex).map fun arc =>
            network.demand load arc.2 * network.share arc.2).sum :=
          Finset.sum_congr rfl fun vertex _ => balanced vertex
      _ = (network.arcs.map fun arc => network.demand load arc.2 * network.share arc.2).sum :=
          sum_fibers vertices Prod.fst _ tails
      _ = ∑ vertex ∈ vertices, ((network.arcs.filter fun arc => arc.2 = vertex).map fun arc =>
            network.demand load arc.2 * network.share arc.2).sum :=
          (sum_fibers vertices Prod.snd _ heads).symm
      _ = _ := Finset.sum_congr rfl fun vertex _ => network.sum_into load vertex (whole vertex)
  have each : ∀ vertex ∈ vertices,
      (if network.passes vertex = true ∧ ¬network.Fed vertex then load vertex else 0) =
        (if network.Fed vertex then network.draw vertex else 0) + (load vertex -
          if network.Fed vertex then network.demand load vertex else 0) := by
    intro vertex _
    unfold demand
    cases passes : network.passes vertex with
    | false =>
        rw [balanced.load_eq_zero sources passes]
        by_cases fed : network.Fed vertex <;> simp [fed]
    | true => by_cases fed : network.Fed vertex <;> simp [fed]
  rw [Finset.sum_filter, Finset.sum_congr rfl each, Finset.sum_add_distrib, Finset.sum_sub_distrib,
    total, sub_self, add_zero, Finset.sum_filter]

end Network

end HomelabBuilder.Flows
