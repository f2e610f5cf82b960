import Mathlib.Algebra.Order.Monoid.WithTop
import Mathlib.Data.Rat.Floor
import HomelabBuilder.Foundation.Extremes
import HomelabBuilder.Foundation.Table

/-! # The packing step

`clearance`, `clearanceLeft` and `append` of `place.ts`. The drawing is put together
from parts that are pushed against each other until the margins of their items touch.
Numbers are exact here; an infinite one is the bottom or the top.
-/

namespace HomelabBuilder.Layout

/-- Something other things have to keep away from, with a margin to each side and one
above and below. -/
structure Item where
  x : Rat
  y : Rat
  width : Rat
  height : Rat
  mx : Rat
  my : Rat

namespace Item

def top (item : Item) : Rat := item.y - item.my

def bottom (item : Item) : Rat := item.y + item.height + item.my

def left (item : Item) : Rat := item.x - item.mx

def right (item : Item) : Rat := item.x + item.width + item.mx

def moved (item : Item) (dx dy : Rat) : Item := { item with x := item.x + dx, y := item.y + dy }

def mirrored (item : Item) : Item := { item with x := -(item.x + item.width) }

/-- A point inside the item or inside its margin. -/
def Covers (item : Item) (x y : Rat) : Prop :=
  item.left < x ∧ x < item.right ∧ item.top < y ∧ y < item.bottom

/-- The two do not even meet in their margins. -/
def Apart (a b : Item) : Prop := ∀ x y, ¬(a.Covers x y ∧ b.Covers x y)

def SharesHeight (a b : Item) : Prop := b.top < a.bottom ∧ a.top < b.bottom

instance (a b : Item) : Decidable (SharesHeight a b) := inferInstanceAs (Decidable (_ ∧ _))

end Item

/-! ## The scans -/

/-- How far the incoming items have to move right to stay clear of a placed one. -/
def clearanceOf (a : Item) (incoming : List Item) (need : WithBot Rat) : WithBot Rat :=
  incoming.foldl (fun need b =>
    if b.top ≥ a.bottom ∨ b.bottom ≤ a.top then need
    else max need ((a.right + b.mx - b.x : Rat) : WithBot Rat)) need

def clearance (placed incoming : List Item) : WithBot Rat :=
  let spanTop : WithTop Rat := incoming.foldl (fun span b => min span ↑b.top) ⊤
  let spanBottom : WithBot Rat := incoming.foldl (fun span b => max span ↑b.bottom) ⊥
  let reach : WithBot Rat := incoming.foldl (fun reach b => max reach ((b.mx - b.x : Rat) : WithBot Rat)) ⊥
  placed.reverse.foldl (fun need a =>
    if (spanBottom ≤ ↑a.top) ∨ (↑a.bottom ≤ spanTop) then need
    else if ↑a.right + reach + ↑(1 / 1000000 : Rat) ≤ need then need
    else clearanceOf a incoming need) ⊥

def clearanceLeft (placed incoming : List Item) : WithTop Rat :=
  placed.foldl (fun most a =>
    incoming.foldl (fun most b =>
      if b.top ≥ a.bottom ∨ b.bottom ≤ a.top then most
      else min most ((a.left - b.mx - (b.x + b.width) : Rat) : WithTop Rat)) most) ⊤

/-! ## The row -/

structure Point where
  x : Rat
  y : Rat

/-- A part of the drawing that is moved as one piece. -/
structure Shape where
  places : List (String × Point)
  items : List Item

def moveShape (shape : Shape) (dx dy : Rat) : Shape :=
  { places := shape.places.map fun entry => (entry.1, ⟨entry.2.x + dx, entry.2.y + dy⟩)
    items := shape.items.map (·.moved dx dy) }

def merge (into part : Shape) : Shape :=
  { places := part.places.foldl (fun places entry => Table.set places entry.1 entry.2) into.places
    items := into.items ++ part.items }

def snapUp (value : Rat) : Rat := ⌈value / 20⌉ * 20

/-- The left and the right edge of all items, without their margins. -/
def bounds : List Item → Rat × Rat
  | [] => (0, 0)
  | first :: rest =>
      (rest.foldl (fun left item => min left item.x) first.x,
        rest.foldl (fun right item => max right (item.x + item.width)) (first.x + first.width))

/-- Adds a part to the right of what is in the row already. -/
def append (gapX : Rat) (row part : Shape) : Shape :=
  if row.items.length > 0 then
    let need := clearance row.items part.items
    let fallback := (bounds row.items).2 + gapX - (bounds part.items).1
    merge row (moveShape part (snapUp (need.unbotD fallback)) 0)
  else merge row part

/-! ## All pairs -/

/-- What each pair of items that share a height asks for. -/
def gaps (placed incoming : List Item) : List Rat :=
  placed.flatMap fun a => (incoming.filter (a.SharesHeight ·)).map fun b => a.right - b.left

def gapsLeft (placed incoming : List Item) : List Rat :=
  placed.flatMap fun a => (incoming.filter (a.SharesHeight ·)).map fun b => a.left - b.right

theorem mem_gaps {placed incoming : List Item} {gap : Rat} :
    gap ∈ gaps placed incoming ↔
      ∃ a ∈ placed, ∃ b ∈ incoming, a.SharesHeight b ∧ a.right - b.left = gap := by
  simp only [gaps, List.mem_flatMap, List.mem_map, List.mem_filter, decide_eq_true_eq, and_assoc]

theorem mem_gapsLeft {placed incoming : List Item} {gap : Rat} :
    gap ∈ gapsLeft placed incoming ↔
      ∃ a ∈ placed, ∃ b ∈ incoming, a.SharesHeight b ∧ a.left - b.right = gap := by
  simp only [gapsLeft, List.mem_flatMap, List.mem_map, List.mem_filter, decide_eq_true_eq,
    and_assoc]

theorem not_sharesHeight_iff (a b : Item) :
    ¬a.SharesHeight b ↔ b.top ≥ a.bottom ∨ b.bottom ≤ a.top := by
  rw [Item.SharesHeight, not_and_or, not_lt, not_lt]

section Filtered

variable (a : Item) (value : Item → Rat) (incoming : List Item)

theorem flatMap_sharesHeight :
    (incoming.flatMap fun b => if a.SharesHeight b then [value b] else []) =
      (incoming.filter (a.SharesHeight ·)).map value := by
  induction incoming with
  | nil => rfl
  | cons b rest induction =>
      rw [List.flatMap_cons, induction]
      by_cases shared : a.SharesHeight b
      · rw [if_pos shared, List.filter_cons, if_pos (decide_eq_true shared), List.map_cons,
          List.singleton_append]
      · rw [if_neg shared, List.filter_cons, if_neg (mt of_decide_eq_true shared),
          List.nil_append]

end Filtered

theorem clearanceOf_eq (a : Item) (incoming : List Item) (need : WithBot Rat) :
    clearanceOf a incoming need =
      max need ((incoming.filter (a.SharesHeight ·)).map fun b => a.right - b.left).maximum := by
  rw [← flatMap_sharesHeight, clearanceOf]
  refine Extremes.foldl_eq_maximum _ (fun need b => ?_) need incoming
  by_cases shared : a.SharesHeight b
  · rw [if_pos shared, if_neg (mt (not_sharesHeight_iff a b).mpr (not_not.mpr shared)),
      List.maximum_singleton, Item.left, sub_sub_eq_add_sub]
  · rw [if_neg shared, if_pos ((not_sharesHeight_iff a b).mp shared), List.maximum_nil, sup_bot_eq]

theorem clearance_eq_maximum (placed incoming : List Item) :
    clearance placed incoming = (gaps placed incoming).maximum := by
  have scan : clearance placed incoming = max ⊥ (gaps placed.reverse incoming).maximum := by
    refine Extremes.foldl_eq_maximum _ (fun need a => ?_) ⊥ placed.reverse
    split
    · -- no height in common with any of them
      rename_i beside
      have none : incoming.filter (a.SharesHeight ·) = [] := by
        rw [List.filter_eq_nil_iff]
        intro b member shared
        have heights := of_decide_eq_true shared
        rcases beside with below | above
        · have low := (Extremes.le_foldl_max Item.bottom member).trans below
          exact absurd heights.2 (not_lt.mpr (WithBot.coe_le_coe.mp low))
        · have high := above.trans (Extremes.foldl_min_le Item.top member)
          exact absurd heights.1 (not_lt.mpr (WithTop.coe_le_coe.mp high))
      rw [none, List.map_nil, List.maximum_nil, sup_bot_eq]
    · split
      · rename_i settled
        refine Extremes.eq_max_of_forall_le fun gap candidate => ?_
        rcases List.mem_map.mp candidate with ⟨b, member, rfl⟩
        have within := Extremes.le_foldl_max (fun b : Item => b.mx - b.x)
          (List.mem_of_mem_filter member)
        have slack : a.right - b.left ≤ a.right + (b.mx - b.x) + 1 / 1000000 := by
          rw [Item.left]
          linarith
        refine (WithBot.coe_le_coe.mpr slack).trans (le_trans ?_ settled)
        rw [WithBot.coe_add, WithBot.coe_add]
        exact add_le_add_left (add_le_add_right within _) _
      · exact clearanceOf_eq a incoming need
  have reversed : (gaps placed.reverse incoming).Perm (gaps placed incoming) :=
    placed.reverse_perm.flatMap_right _
  rw [scan, bot_sup_eq, reversed.maximum_eq]

theorem clearance_eq_bot_iff (placed incoming : List Item) :
    clearance placed incoming = ⊥ ↔ ∀ a ∈ placed, ∀ b ∈ incoming, ¬a.SharesHeight b := by
  rw [clearance_eq_maximum, List.maximum_eq_bot, List.eq_nil_iff_forall_not_mem]
  constructor
  · intro none a placed b incoming shared
    exact none _ (mem_gaps.mpr ⟨a, placed, b, incoming, shared, rfl⟩)
  · rintro apart gap member
    rcases mem_gaps.mp member with ⟨a, placed, b, incoming, shared, _⟩
    exact apart a placed b incoming shared

theorem clearance_le_iff (placed incoming : List Item) (distance : Rat) :
    clearance placed incoming ≤ distance ↔
      ∀ a ∈ placed, ∀ b ∈ incoming, a.SharesHeight b → a.right ≤ (b.moved distance 0).left := by
  have moved : ∀ a b : Item, a.right ≤ (b.moved distance 0).left ↔
      a.right - b.left ≤ distance := by
    intro a b
    rw [Item.moved, Item.left, Item.left, sub_le_iff_le_add]
    dsimp only
    rw [add_sub_right_comm, add_comm]
  rw [clearance_eq_maximum]
  constructor
  · intro enough a placed b incoming shared
    have listed := mem_gaps.mpr ⟨a, placed, b, incoming, shared, rfl⟩
    exact (moved a b).mpr
      (WithBot.coe_le_coe.mp ((List.le_maximum_of_mem' listed).trans enough))
  · intro clear
    refine List.maximum_le_of_forall_le fun gap member => ?_
    rcases mem_gaps.mp member with ⟨a, placed, b, incoming, shared, rfl⟩
    exact WithBot.coe_le_coe.mpr ((moved a b).mp (clear a placed b incoming shared))

/-! ## The mirror image -/

theorem clearanceLeft_eq_minimum (placed incoming : List Item) :
    clearanceLeft placed incoming = (gapsLeft placed incoming).minimum := by
  have scan : clearanceLeft placed incoming = min ⊤ (gapsLeft placed incoming).minimum := by
    refine Extremes.foldl_eq_minimum _ (fun most a => ?_) ⊤ placed
    rw [← flatMap_sharesHeight]
    refine Extremes.foldl_eq_minimum _ (fun most b => ?_) most incoming
    by_cases shared : a.SharesHeight b
    · rw [if_pos shared, if_neg (mt (not_sharesHeight_iff a b).mpr (not_not.mpr shared)),
        List.minimum_singleton, Item.right, sub_sub, add_comm b.mx]
    · rw [if_neg shared, if_pos ((not_sharesHeight_iff a b).mp shared), List.minimum_nil,
        inf_top_eq]
  rw [scan, top_inf_eq]

theorem le_clearanceLeft_iff (placed incoming : List Item) (distance : Rat) :
    distance ≤ clearanceLeft placed incoming ↔
      ∀ a ∈ placed, ∀ b ∈ incoming, a.SharesHeight b → (b.moved distance 0).right ≤ a.left := by
  have moved : ∀ a b : Item, (b.moved distance 0).right ≤ a.left ↔
      distance ≤ a.left - b.right := by
    intro a b
    have edge : (b.moved distance 0).right = distance + b.right := by
      simp only [Item.moved, Item.right]
      ring
    rw [edge, le_sub_iff_add_le]
  rw [clearanceLeft_eq_minimum]
  constructor
  · intro enough a placed b incoming shared
    have listed := mem_gapsLeft.mpr ⟨a, placed, b, incoming, shared, rfl⟩
    exact (moved a b).mpr
      (WithTop.coe_le_coe.mp (enough.trans (List.minimum_le_of_mem' listed)))
  · intro clear
    refine List.le_minimum_of_forall_le fun gap member => ?_
    rcases mem_gapsLeft.mp member with ⟨a, placed, b, incoming, shared, rfl⟩
    exact WithTop.coe_le_coe.mpr ((moved a b).mp (clear a placed b incoming shared))

theorem le_clearanceLeft_iff_mirrored (placed incoming : List Item) (distance : Rat) :
    distance ≤ clearanceLeft placed incoming ↔
      clearance (placed.map Item.mirrored) (incoming.map Item.mirrored) ≤ (-distance : Rat) := by
  have edges : ∀ a b : Item, (b.moved distance 0).right ≤ a.left ↔
      a.mirrored.right ≤ (b.mirrored.moved (-distance) 0).left := by
    intro a b
    simp only [Item.moved, Item.mirrored, Item.right, Item.left]
    constructor <;> intro clear <;> linarith
  have heights : ∀ a b : Item, a.mirrored.SharesHeight b.mirrored ↔ a.SharesHeight b :=
    fun a b => Iff.rfl
  rw [le_clearanceLeft_iff, clearance_le_iff]
  simp only [List.forall_mem_map, edges, heights]

/-! ## The row stays clear -/

theorem apart_of_right_le_left {a b : Item} (clear : a.right ≤ b.left) : a.Apart b := by
  rintro x y ⟨inA, inB⟩
  exact absurd (inA.2.1.trans_le (clear.trans inB.1.le)) (lt_irrefl x)

theorem apart_of_not_sharesHeight {a b : Item} (beside : ¬a.SharesHeight b) : a.Apart b := by
  rintro x y ⟨inA, inB⟩
  exact beside ⟨inB.2.2.1.trans inA.2.2.2, inA.2.2.1.trans inB.2.2.2⟩

theorem le_snapUp (value : Rat) : value ≤ snapUp value := by
  have above := Int.le_ceil (value / 20)
  rw [div_le_iff₀ (by norm_num)] at above
  exact above

theorem le_unbotD (need : WithBot Rat) (fallback : Rat) : need ≤ need.unbotD fallback := by
  cases need with
  | bot => exact bot_le
  | coe need => exact le_rfl

theorem append_eq (gapX : Rat) {row : Shape} (part : Shape) (some : row.items ≠ []) :
    ∃ distance : Rat, clearance row.items part.items ≤ distance ∧
      append gapX row part = merge row (moveShape part distance 0) := by
  have need := le_unbotD (clearance row.items part.items)
    ((bounds row.items).2 + gapX - (bounds part.items).1)
  refine ⟨_, need.trans (WithBot.coe_le_coe.mpr (le_snapUp _)), ?_⟩
  rw [append, if_pos (List.length_pos_iff.mpr some)]

theorem apart_of_clearance_le {placed incoming : List Item} {distance : Rat}
    (enough : clearance placed incoming ≤ distance) :
    ∀ a ∈ placed, ∀ b ∈ incoming, a.Apart (b.moved distance 0) := by
  intro a placedA b incomingB
  by_cases shared : a.SharesHeight b
  · exact apart_of_right_le_left
      ((clearance_le_iff _ _ _).mp enough a placedA b incomingB shared)
  · apply apart_of_not_sharesHeight
    rw [Item.SharesHeight, Item.top, Item.bottom, Item.moved]
    dsimp only
    rw [add_zero]
    exact shared

theorem apart_of_le_clearanceLeft {placed incoming : List Item} {distance : Rat}
    (enough : distance ≤ clearanceLeft placed incoming) :
    ∀ a ∈ placed, ∀ b ∈ incoming, (b.moved distance 0).Apart a := by
  intro a placedA b incomingB
  by_cases shared : a.SharesHeight b
  · exact apart_of_right_le_left
      ((le_clearanceLeft_iff _ _ _).mp enough a placedA b incomingB shared)
  · apply apart_of_not_sharesHeight
    rw [Item.SharesHeight, Item.top, Item.bottom, Item.moved]
    dsimp only
    rw [add_zero]
    exact fun both => shared both.symm

/-- The scans find the largest gap of all pairs, and a part pushed that far stands clear
of the row with all its items. -/
theorem packing_isExact (placed incoming : List Item) :
    clearance placed incoming = (gaps placed incoming).maximum ∧
    (clearance placed incoming = ⊥ ↔ ∀ a ∈ placed, ∀ b ∈ incoming, ¬a.SharesHeight b) ∧
    (∀ distance : Rat, clearance placed incoming ≤ distance →
      ∀ a ∈ placed, ∀ b ∈ incoming, a.Apart (b.moved distance 0)) ∧
    (∀ (gapX : Rat) (row part : Shape), row.items ≠ [] → row.items = placed →
      part.items = incoming → ∃ distance : Rat, clearance placed incoming ≤ distance ∧
        append gapX row part = merge row (moveShape part distance 0) ∧
        ∀ a ∈ placed, ∀ b ∈ incoming, a.Apart (b.moved distance 0)) ∧
    clearanceLeft placed incoming = (gapsLeft placed incoming).minimum ∧
    (∀ distance : Rat, distance ≤ clearanceLeft placed incoming →
      ∀ a ∈ placed, ∀ b ∈ incoming, (b.moved distance 0).Apart a) ∧
    ∀ distance : Rat, distance ≤ clearanceLeft placed incoming ↔
      clearance (placed.map Item.mirrored) (incoming.map Item.mirrored) ≤ (-distance : Rat) := by
  refine ⟨clearance_eq_maximum placed incoming, clearance_eq_bot_iff placed incoming,
    fun distance => apart_of_clearance_le, ?_, clearanceLeft_eq_minimum placed incoming,
    fun distance => apart_of_le_clearanceLeft, le_clearanceLeft_iff_mirrored placed incoming⟩
  rintro gapX row part some rfl rfl
  rcases append_eq gapX part some with ⟨distance, enough, moved⟩
  exact ⟨distance, enough, moved, apart_of_clearance_le enough⟩

/-- Of two cards only the one at the same height counts. -/
theorem packing_isExact_of_two :
    clearance [⟨0, 0, 100, 40, 20, 20⟩, ⟨0, 200, 300, 40, 20, 20⟩] [⟨0, 10, 80, 40, 20, 20⟩] = 140 ∧
      clearance [⟨0, 0, 100, 40, 20, 20⟩, ⟨0, 200, 300, 40, 20, 20⟩] [⟨0, 10, 80, 40, 20, 20⟩] =
        (gaps [⟨0, 0, 100, 40, 20, 20⟩, ⟨0, 200, 300, 40, 20, 20⟩]
          [⟨0, 10, 80, 40, 20, 20⟩]).maximum :=
  ⟨by decide +kernel, (packing_isExact _ _).1⟩

end HomelabBuilder.Layout
