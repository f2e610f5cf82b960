import Mathlib.Algebra.BigOperators.Group.Multiset.Basic
import Mathlib.Algebra.Order.Archimedean.Basic
import Mathlib.Algebra.Order.BigOperators.Group.List
import Mathlib.Algebra.Order.BigOperators.Group.Multiset
import Mathlib.Algebra.Order.Field.Basic
import Mathlib.Data.List.Sort
import Mathlib.Tactic.FieldSimp
import Mathlib.Tactic.Linarith
import HomelabBuilder.Foundation.Rows

/-! # Loading the least loaded

Weights are put one after the other on the carrier that has the least load so far. Which
carriers take which weight is one thing; whether all stay within a limit depends on the
loads alone, without their carriers. Of equal weights as many fit as go into the free parts.
-/

namespace HomelabBuilder.LeastLoaded

theorem exists_least {V : Type*} [LinearOrder V] {values : Multiset V} (some : values ≠ 0) : ∃ least ∈ values, ∀ value ∈ values, least ≤ value := by
  induction values using Multiset.induction_on with
  | empty => exact absurd rfl some
  | cons head others induction =>
      by_cases alone : others = 0
      · subst alone
        refine ⟨head, Multiset.mem_cons_self _ _, fun value listed => ?_⟩
        rw [Multiset.cons_zero, Multiset.mem_singleton] at listed
        exact listed.ge
      · rcases induction alone with ⟨least, member, below⟩
        rcases le_total head least with less | more
        · refine ⟨head, Multiset.mem_cons_self _ _, fun value listed => ?_⟩
          rcases Multiset.mem_cons.mp listed with rfl | listed
          · exact le_rfl
          · exact less.trans (below value listed)
        · refine ⟨least, Multiset.mem_cons_of_mem member, fun value listed => ?_⟩
          rcases Multiset.mem_cons.mp listed with rfl | listed
          · exact more
          · exact below value listed

/-! ## Loads without carriers -/

section Loads

variable {K : Type*} [Field K] [LinearOrder K]

/-- Each weight, on the least load there is then, stays within the limit. -/
inductive Fits (limit : K) : Multiset K → List K → Prop
  | nil {loads : Multiset K} : Fits limit loads []
  | cons {loads : Multiset K} {least weight : K} {rest : List K} : least ∈ loads →
      (∀ load ∈ loads, least ≤ load) → least + weight ≤ limit →
      Fits limit ((least + weight) ::ₘ loads.erase least) rest → Fits limit loads (weight :: rest)

variable {limit : K} {loads : Multiset K} {weight least : K} {rest : List K}

theorem fits_cons_iff (member : least ∈ loads) (below : ∀ load ∈ loads, least ≤ load) :
    Fits limit loads (weight :: rest) ↔
      least + weight ≤ limit ∧ Fits limit ((least + weight) ::ₘ loads.erase least) rest := by
  constructor
  · intro fits
    cases fits with
    | cons member' below' room fits =>
        have same := le_antisymm (below _ member') (below' _ member)
        subst same
        exact ⟨room, fits⟩
  · rintro ⟨room, fits⟩
    exact .cons member below room fits

theorem fits_empty_iff (empty : Nat) {weights : List K} (taken : Multiset K)
    (nonneg : ∀ weight ∈ weights, 0 ≤ weight) (others : ∀ load ∈ taken, 0 ≤ load)
    (enough : weights.length ≤ empty) :
    Fits limit (taken + Multiset.replicate empty 0) (weights ++ rest) ↔
      (∀ weight ∈ weights, weight ≤ limit) ∧
        Fits limit (taken + (weights : Multiset K) + Multiset.replicate (empty - weights.length) 0) rest := by
  induction weights generalizing taken empty with
  | nil => simp
  | cons weight weights induction =>
      rw [List.length_cons] at enough
      rw [List.forall_mem_cons] at nonneg
      rcases Nat.exists_eq_add_of_le enough with ⟨spare, rfl⟩
      have count : weights.length + 1 + spare = (weights.length + spare) + 1 := by omega
      have member : (0 : K) ∈ taken + Multiset.replicate (weights.length + 1 + spare) 0 := by
        rw [Multiset.mem_add, count, Multiset.replicate_succ]
        exact .inr (Multiset.mem_cons_self _ _)
      have below : ∀ load ∈ taken + Multiset.replicate (weights.length + 1 + spare) 0,
          (0 : K) ≤ load := by
        intro load listed
        rcases Multiset.mem_add.mp listed with listed | listed
        · exact others load listed
        · exact (Multiset.eq_of_mem_replicate listed).ge
      have placed : (0 + weight) ::ₘ
          (taken + Multiset.replicate (weights.length + 1 + spare) 0).erase 0 =
          (weight ::ₘ taken) + Multiset.replicate (weights.length + spare) 0 := by
        rw [count, Multiset.replicate_succ, Multiset.add_cons, Multiset.erase_cons_head, zero_add,
          Multiset.cons_add]
      have others' : ∀ load ∈ weight ::ₘ taken, 0 ≤ load := by
        intro load listed
        rcases Multiset.mem_cons.mp listed with rfl | listed
        · exact nonneg.1
        · exact others load listed
      rw [List.cons_append, fits_cons_iff member below, placed,
        induction _ _ nonneg.2 others' (by omega), List.forall_mem_cons, zero_add, and_assoc]
      refine and_congr_right fun _ => and_congr_right fun _ => ?_
      have left : weights.length + spare - weights.length = spare := by omega
      have left' : weights.length + 1 + spare - (weight :: weights).length = spare := by
        rw [List.length_cons]
        omega
      rw [left, left', ← Multiset.cons_coe, Multiset.cons_add, Multiset.add_cons]

theorem fits_of_exists [IsStrictOrderedRing K] (nonneg : ∀ weight ∈ rest, 0 ≤ weight)
    (room : ∃ load ∈ loads, load + rest.sum ≤ limit) : Fits limit loads rest := by
  induction rest generalizing loads with
  | nil => exact .nil
  | cons weight rest induction =>
      rw [List.forall_mem_cons] at nonneg
      rcases room with ⟨load, member, room⟩
      rw [List.sum_cons] at room
      have later := List.sum_nonneg nonneg.2
      have some : loads ≠ 0 := by
        rintro rfl
        exact absurd member (Multiset.notMem_zero _)
      rcases exists_least some with ⟨least, least_mem, below⟩
      have less := below load member
      refine .cons least_mem below (by linarith) (induction nonneg.2 ?_)
      exact ⟨least + weight, Multiset.mem_cons_self _ _, by linarith⟩

section Room

variable [FloorSemiring K]

/-- How many weights of one size go into what is free. -/
def room (limit weight : K) (loads : Multiset K) : Nat :=
  (loads.map fun load => ⌊(limit - load) / weight⌋₊).sum

/-- The loads with as many weights of one size as go on each. -/
def saturated (limit weight : K) (loads : Multiset K) : Multiset K :=
  loads.map fun load => load + ⌊(limit - load) / weight⌋₊ * weight

theorem saturated_eq_self (full : room limit weight loads = 0) :
    saturated limit weight loads = loads := by
  unfold room at full
  rw [Multiset.sum_eq_zero_iff, Multiset.forall_mem_map_iff] at full
  unfold saturated
  refine (Multiset.map_congr rfl fun load member => ?_).trans (Multiset.map_id loads)
  rw [full load member, Nat.cast_zero, zero_mul, add_zero, id]

variable [IsStrictOrderedRing K]

theorem floor_pos_iff (positive : 0 < weight) (load : K) :
    0 < ⌊(limit - load) / weight⌋₊ ↔ load + weight ≤ limit := by
  rw [Nat.floor_pos, one_le_div positive]
  constructor <;> intro fits <;> linarith

theorem floor_add (positive : 0 < weight) {load : K} (fits : load + weight ≤ limit) :
    ⌊(limit - load) / weight⌋₊ = ⌊(limit - (load + weight)) / weight⌋₊ + 1 := by
  have split : (limit - load) / weight = (limit - (load + weight)) / weight + 1 := by
    field_simp
    ring
  rw [split, Nat.floor_add_one]
  exact div_nonneg (by linarith) positive.le

theorem room_eq_zero_iff (positive : 0 < weight) :
    room limit weight loads = 0 ↔ ∀ load ∈ loads, limit < load + weight := by
  unfold room
  rw [Multiset.sum_eq_zero_iff, Multiset.forall_mem_map_iff]
  refine forall₂_congr fun load _ => ?_
  rw [← not_le, ← floor_pos_iff positive, Nat.not_lt, Nat.le_zero]

/-- Of equal weights as many fit as go into the free parts; then there is no choice left
for what comes behind them. -/
theorem fits_replicate_iff (positive : 0 < weight) (some : loads ≠ 0)
    (nonneg : ∀ weight ∈ rest, 0 ≤ weight) (small : rest.sum ≤ weight) (count : Nat) :
    Fits limit loads (List.replicate count weight ++ rest) ↔
      count < room limit weight loads ∨
        count = room limit weight loads ∧ Fits limit (saturated limit weight loads) rest := by
  induction count generalizing loads with
  | zero =>
      rw [List.replicate_zero, List.nil_append]
      rcases Nat.eq_zero_or_pos (room limit weight loads) with full | free
      · rw [saturated_eq_self full, full]
        simp
      · refine iff_of_true (fits_of_exists nonneg ?_) (.inl free)
        by_contra none
        push Not at none
        refine free.ne' ((room_eq_zero_iff positive).mpr fun load member => ?_)
        linarith [none load member]
  | succ count induction =>
      rcases exists_least some with ⟨least, member, below⟩
      rw [List.replicate_succ, List.cons_append, fits_cons_iff member below]
      by_cases fits : least + weight ≤ limit
      · have one := floor_add positive fits
        rcases Multiset.exists_cons_of_mem member with ⟨others, rfl⟩
        have more : room limit weight (least ::ₘ others) =
            room limit weight ((least + weight) ::ₘ others) + 1 := by
          unfold room
          rw [Multiset.map_cons, Multiset.map_cons, Multiset.sum_cons, Multiset.sum_cons, one]
          omega
        have same : saturated limit weight (least ::ₘ others) =
            saturated limit weight ((least + weight) ::ₘ others) := by
          unfold saturated
          rw [Multiset.map_cons, Multiset.map_cons, one]
          congr 1
          push_cast
          ring
        rw [Multiset.erase_cons_head, induction (Multiset.cons_ne_zero), more, same]
        constructor
        · rintro ⟨-, less | ⟨equal, later⟩⟩
          · exact .inl (by omega)
          · exact .inr ⟨by omega, later⟩
        · rintro (less | ⟨equal, later⟩)
          · exact ⟨fits, .inl (by omega)⟩
          · exact ⟨fits, .inr ⟨by omega, later⟩⟩
      · have full : room limit weight loads = 0 :=
          (room_eq_zero_iff positive).mpr fun load listed => by
            linarith [below load listed, not_le.mp fits]
        rw [full]
        constructor
        · exact fun both => absurd both.1 fits
        · rintro (less | ⟨equal, -⟩)
          · omega
          · omega

end Room

end Loads

/-! ## Carriers -/

section Carriers

variable {ι α K : Type*} [LinearOrder K]

/-- The first of the carriers with the least load. -/
def leastLoaded (loads : List (ι × K)) : Option (ι × K) :=
  (loads.insertionSort fun left right => left.2 ≤ right.2).head?

theorem leastLoaded_isSome {loads : List (ι × K)} (some : loads ≠ []) :
    ∃ target least, leastLoaded loads = .some (target, least) ∧ (target, least) ∈ loads ∧
      ∀ load ∈ loads.map Prod.snd, least ≤ load := by
  unfold leastLoaded
  have same := List.perm_insertionSort (fun left right : ι × K => left.2 ≤ right.2) loads
  have sorted := List.pairwise_insertionSort (fun left right : ι × K => left.2 ≤ right.2) loads
  cases ordered : loads.insertionSort fun left right => left.2 ≤ right.2 with
  | nil =>
      rw [ordered] at same
      exact absurd same.nil_eq.symm some
  | cons head rest =>
      rw [ordered] at same sorted
      refine ⟨head.1, head.2, rfl, same.subset List.mem_cons_self, ?_⟩
      intro load listed
      rcases List.mem_map.mp listed with ⟨entry, member, rfl⟩
      rcases List.mem_cons.mp (same.symm.subset member) with rfl | behind
      · exact le_rfl
      · exact List.rel_of_pairwise_cons sorted behind

theorem map_snd_set [DecidableEq ι] {loads : List (ι × K)} (distinct : (loads.map Prod.fst).Nodup)
    {target : ι} {least : K} (member : (target, least) ∈ loads) (load : K) :
    ((Table.set loads target load).map Prod.snd : Multiset K) =
      load ::ₘ (loads.map Prod.snd : Multiset K).erase least := by
  induction loads with
  | nil => cases member
  | cons head rest induction =>
      rw [List.map_cons, List.nodup_cons] at distinct
      unfold Table.set
      by_cases here : head.1 = target
      · rcases List.mem_cons.mp member with rfl | later
        · rw [if_pos rfl, List.map_cons, List.map_cons, ← Multiset.cons_coe, ← Multiset.cons_coe,
            Multiset.erase_cons_head]
        · exact absurd (here ▸ List.mem_map_of_mem later) distinct.1
      · have later : (target, least) ∈ rest := by
          rcases List.mem_cons.mp member with rfl | later
          · exact absurd rfl here
          · exact later
        have value : least ∈ (rest.map Prod.snd : Multiset K) :=
          Multiset.mem_coe.mpr (List.mem_map_of_mem later)
        rw [if_neg here, List.map_cons, List.map_cons, ← Multiset.cons_coe, ← Multiset.cons_coe,
          induction distinct.2 later, Multiset.erase_cons_tail_of_mem value, Multiset.cons_swap]

variable [Field K]

/-- Puts one item after the other on the carrier with the least load. -/
def assign [DecidableEq ι] (weigh : α → K) : List (ι × K) → List α → List (α × ι)
  | _, [] => []
  | loads, item :: rest =>
      match leastLoaded loads with
      | none => []
      | some (target, load) =>
          (item, target) :: assign weigh (Table.set loads target (load + weigh item)) rest

def carried [DecidableEq ι] (weigh : α → K) (assigned : List (α × ι)) (carrier : ι) : K :=
  ((assigned.filter fun entry => entry.2 = carrier).map fun entry => weigh entry.1).sum

theorem map_fst_assign [DecidableEq ι] (weigh : α → K) {loads : List (ι × K)} (some : loads ≠ [])
    (items : List α) : (assign weigh loads items).map Prod.fst = items := by
  induction items generalizing loads with
  | nil => rfl
  | cons item rest induction =>
      rcases leastLoaded_isSome some with ⟨target, least, found, -, -⟩
      unfold assign
      rw [found]
      dsimp only
      rw [List.map_cons, induction (Table.set_ne_nil _ _ _)]

omit [LinearOrder K] in
theorem carried_cons [DecidableEq ι] (weigh : α → K) (item : α) (target carrier : ι) (rest : List (α × ι)) :
    carried weigh ((item, target) :: rest) carrier =
      (if target = carrier then weigh item else 0) + carried weigh rest carrier := by
  unfold carried
  rw [List.filter_cons]
  split
  · rename_i same
    rw [if_pos (of_decide_eq_true same), List.map_cons, List.sum_cons]
  · rename_i different
    rw [if_neg fun same => different (decide_eq_true same), zero_add]

omit [LinearOrder K] in
theorem carried_eq_sum [DecidableEq ι] (weigh : α → K) {assigned : List (α × ι)} (target : α → ι)
    (known : ∀ entry ∈ assigned, target entry.1 = entry.2) (carrier : ι) :
    carried weigh assigned carrier =
      (((assigned.map Prod.fst).filter fun item => target item = carrier).map weigh).sum := by
  unfold carried
  rw [List.filter_map, List.map_map]
  have same : assigned.filter (fun entry => entry.2 = carrier) =
      assigned.filter ((fun item => decide (target item = carrier)) ∘ Prod.fst) := by
    apply List.filter_congr
    intro entry listed
    rw [Function.comp_apply, known entry listed]
  rw [same]
  rfl

theorem assign_within_iff [DecidableEq ι] [IsStrictOrderedRing K] (weigh : α → K) {limit : K}
    {loads : List (ι × K)} {items : List α} (distinct : (loads.map Prod.fst).Nodup)
    (some : loads ≠ []) (nonneg : ∀ item ∈ items, 0 ≤ weigh item) :
    (∀ entry ∈ loads, entry.2 + carried weigh (assign weigh loads items) entry.1 ≤ limit) ↔
      (∀ entry ∈ loads, entry.2 ≤ limit) ∧
        Fits limit (loads.map Prod.snd : Multiset K) (items.map weigh) := by
  induction items generalizing loads with
  | nil =>
      simp only [assign, carried, List.filter_nil, List.map_nil, List.sum_nil, add_zero]
      exact (and_iff_left .nil).symm
  | cons item rest induction =>
      rw [List.forall_mem_cons] at nonneg
      rcases leastLoaded_isSome some with ⟨target, least, found, member, below⟩
      have taken : assign weigh loads (item :: rest) =
          (item, target) :: assign weigh (Table.set loads target (least + weigh item)) rest := by
        rw [assign, found]
      have after := induction (Table.nodup_set distinct target (least + weigh item))
        (Table.set_ne_nil _ _ _) nonneg.2
      have value : least ∈ (loads.map Prod.snd : Multiset K) :=
        Multiset.mem_coe.mpr (List.mem_map_of_mem member)
      have only : ∀ entry ∈ loads, entry.1 = target → entry.2 = least := by
        rintro ⟨_, load⟩ listed rfl
        have current := Table.lookup_of_mem distinct listed
        rw [Table.lookup_of_mem distinct member] at current
        exact (Option.some.inj current).symm
      rw [map_snd_set distinct member] at after
      rw [List.map_cons, fits_cons_iff value fun load listed => below load (Multiset.mem_coe.mp listed)]
      constructor
      · intro within
        have later := after.mp fun entry listed => by
          rcases (Table.mem_set_iff distinct _ _ _).mp listed with rfl | ⟨other, before⟩
          · have bound := within (target, least) member
            rw [taken, carried_cons, if_pos rfl, ← add_assoc] at bound
            exact bound
          · have bound := within entry before
            rw [taken, carried_cons, if_neg (Ne.symm other), zero_add] at bound
            exact bound
        have room : least + weigh item ≤ limit :=
          later.1 (target, least + weigh item) ((Table.mem_set_iff distinct _ _ _).mpr (.inl rfl))
        refine ⟨fun entry listed => ?_, room, later.2⟩
        by_cases same : entry.1 = target
        · rw [only entry listed same]
          linarith [nonneg.1]
        · exact later.1 entry ((Table.mem_set_iff distinct _ _ _).mpr (.inr ⟨same, listed⟩))
      · rintro ⟨before, room, fits⟩
        have within := after.mpr ⟨fun entry listed => by
          rcases (Table.mem_set_iff distinct _ _ _).mp listed with rfl | ⟨-, old⟩
          · exact room
          · exact before entry old, fits⟩
        intro entry listed
        rw [taken, carried_cons]
        by_cases same : target = entry.1
        · have bound := within (target, least + weigh item)
            ((Table.mem_set_iff distinct _ _ _).mpr (.inl rfl))
          rw [if_pos same, only entry listed same.symm, ← same, ← add_assoc]
          exact bound
        · rw [if_neg same, zero_add]
          exact within entry ((Table.mem_set_iff distinct _ _ _).mpr (.inr ⟨Ne.symm same, listed⟩))

end Carriers

end HomelabBuilder.LeastLoaded
