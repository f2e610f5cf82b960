import Mathlib.Algebra.GroupWithZero.Nat
import Mathlib.Data.List.Induction
import Mathlib.Data.List.Perm.Basic
import Mathlib.Data.List.Perm.Subperm
import HomelabBuilder.Foundation.Keyed
import HomelabBuilder.Foundation.Table

/-! # JSON documents

JSON documents as trees. The strings of a tree are what they are spelled with or what
they mean, and an object keeps its members in order, those with equal keys too.
-/

namespace HomelabBuilder.JsonText

inductive JsonTree (σ : Type)
  | null
  | bool (value : Bool)
  | num (literal : String)
  | str (text : σ)
  | arr (items : List (JsonTree σ))
  | obj (members : List (σ × JsonTree σ))

namespace JsonTree

variable {σ τ υ : Type}

@[elab_as_elim]
theorem induct {P : JsonTree σ → Prop} (null : P .null) (bool : ∀ value, P (.bool value))
    (num : ∀ literal, P (.num literal)) (str : ∀ text, P (.str text))
    (arr : ∀ items : List (JsonTree σ), (∀ item ∈ items, P item) → P (.arr items))
    (obj : ∀ members : List (σ × JsonTree σ), (∀ member ∈ members, P member.2) → P (.obj members))
    (tree : JsonTree σ) : P tree := by
  refine @JsonTree.rec σ P (fun items => ∀ item ∈ items, P item)
    (fun members => ∀ member ∈ members, P member.2) (fun member => P member.2) null bool num str arr obj nofun ?_ nofun ?_ ?_ tree
  · intro head tail first rest item member
    rcases List.mem_cons.mp member with rfl | later
    · exact first
    · exact rest item later
  · intro head tail first rest item member
    rcases List.mem_cons.mp member with rfl | later
    · exact first
    · exact rest item later
  · exact fun _ _ value => value

/-! ## Changing the strings -/

mutual
def map (f : σ → τ) : JsonTree σ → JsonTree τ
  | .null => .null
  | .bool value => .bool value
  | .num literal => .num literal
  | .str text => .str (f text)
  | .arr items => .arr (mapItems f items)
  | .obj members => .obj (mapMembers f members)

def mapItems (f : σ → τ) : List (JsonTree σ) → List (JsonTree τ)
  | [] => []
  | item :: rest => map f item :: mapItems f rest

def mapMembers (f : σ → τ) : List (σ × JsonTree σ) → List (τ × JsonTree τ)
  | [] => []
  | (key, value) :: rest => (f key, map f value) :: mapMembers f rest
end

@[simp]
theorem map_arr (f : σ → τ) (items : List (JsonTree σ)) :
    map f (.arr items) = .arr (items.map (map f)) := by
  rw [map]
  congr 1
  induction items with
  | nil => rfl
  | cons item rest induction => rw [mapItems, induction, List.map_cons]

@[simp]
theorem map_obj (f : σ → τ) (members : List (σ × JsonTree σ)) :
    map f (.obj members) = .obj (members.map fun member => (f member.1, map f member.2)) := by
  rw [map]
  congr 1
  induction members with
  | nil => rfl
  | cons member rest induction => rw [mapMembers, induction, List.map_cons]

theorem map_map (g : τ → υ) (f : σ → τ) (tree : JsonTree σ) :
    map g (map f tree) = map (fun text => g (f text)) tree := by
  induction tree using JsonTree.induct with
  | null => rfl
  | bool value => rfl
  | num literal => rfl
  | str text => rfl
  | arr items induction =>
      rw [map_arr, map_arr, map_arr, List.map_map]
      exact congrArg JsonTree.arr (List.map_congr_left induction)
  | obj members induction =>
      rw [map_obj, map_obj, map_obj, List.map_map]
      refine congrArg JsonTree.obj (List.map_congr_left fun member listed => ?_)
      rw [Function.comp_apply, induction member listed]

@[simp]
theorem map_id (tree : JsonTree σ) : map (fun text => text) tree = tree := by
  induction tree using JsonTree.induct with
  | null => rfl
  | bool value => rfl
  | num literal => rfl
  | str text => rfl
  | arr items induction =>
      rw [map_arr]
      exact congrArg JsonTree.arr ((List.map_congr_left induction).trans items.map_id)
  | obj members induction =>
      rw [map_obj]
      refine congrArg JsonTree.obj ((List.map_congr_left fun member listed => ?_).trans members.map_id)
      rw [induction member listed]
      rfl

/-! ## Every string -/

mutual
def All (P : σ → Prop) : JsonTree σ → Prop
  | .str text => P text
  | .arr items => AllItems P items
  | .obj members => AllMembers P members
  | _ => True

def AllItems (P : σ → Prop) : List (JsonTree σ) → Prop
  | [] => True
  | item :: rest => All P item ∧ AllItems P rest

def AllMembers (P : σ → Prop) : List (σ × JsonTree σ) → Prop
  | [] => True
  | (key, value) :: rest => (P key ∧ All P value) ∧ AllMembers P rest
end

theorem all_arr {P : σ → Prop} {items : List (JsonTree σ)} :
    All P (.arr items) ↔ ∀ item ∈ items, All P item := by
  rw [All]
  induction items with
  | nil => exact ⟨fun _ => nofun, fun _ => trivial⟩
  | cons item rest induction => rw [AllItems, induction, List.forall_mem_cons]

theorem all_obj {P : σ → Prop} {members : List (σ × JsonTree σ)} :
    All P (.obj members) ↔ ∀ member ∈ members, P member.1 ∧ All P member.2 := by
  rw [All]
  induction members with
  | nil => exact ⟨fun _ => nofun, fun _ => trivial⟩
  | cons member rest induction => rw [AllMembers, induction, List.forall_mem_cons]

@[simp]
theorem all_map {P : τ → Prop} {f : σ → τ} {tree : JsonTree σ} :
    All P (map f tree) ↔ All (fun text => P (f text)) tree := by
  induction tree using JsonTree.induct with
  | null => exact Iff.rfl
  | bool value => exact Iff.rfl
  | num literal => exact Iff.rfl
  | str text => exact Iff.rfl
  | arr items induction =>
      rw [map_arr, all_arr, all_arr, List.forall_mem_map]
      exact forall₂_congr induction
  | obj members induction =>
      rw [map_obj, all_obj, all_obj, List.forall_mem_map]
      exact forall₂_congr fun member listed => and_congr Iff.rfl (induction member listed)

theorem All.imp {P Q : σ → Prop} (implies : ∀ text, P text → Q text) {tree : JsonTree σ}
    (all : All P tree) : All Q tree := by
  induction tree using JsonTree.induct with
  | null => trivial
  | bool value => trivial
  | num literal => trivial
  | str text => exact implies text all
  | arr items induction =>
      rw [all_arr] at all ⊢
      exact fun item listed => induction item listed (all item listed)
  | obj members induction =>
      rw [all_obj] at all ⊢
      exact fun member listed =>
        ⟨implies _ (all member listed).1, induction member listed (all member listed).2⟩

theorem all_and {P Q : σ → Prop} {tree : JsonTree σ} :
    All (fun text => P text ∧ Q text) tree ↔ All P tree ∧ All Q tree := by
  induction tree using JsonTree.induct with
  | null => exact iff_of_true trivial ⟨trivial, trivial⟩
  | bool value => exact iff_of_true trivial ⟨trivial, trivial⟩
  | num literal => exact iff_of_true trivial ⟨trivial, trivial⟩
  | str text => exact Iff.rfl
  | arr items induction =>
      rw [all_arr, all_arr, all_arr, ← forall₂_and]
      exact forall₂_congr induction
  | obj members induction =>
      rw [all_obj, all_obj, all_obj, ← forall₂_and]
      exact forall₂_congr fun member listed => by
        rw [induction member listed, and_and_and_comm]

theorem all_of_forall {P : σ → Prop} (holds : ∀ text, P text) (tree : JsonTree σ) : All P tree := by
  induction tree using JsonTree.induct with
  | null => trivial
  | bool value => trivial
  | num literal => trivial
  | str text => exact holds text
  | arr items induction => exact all_arr.mpr induction
  | obj members induction =>
      exact all_obj.mpr fun member listed => ⟨holds _, induction member listed⟩

theorem map_congr_of_all {f g : σ → τ} {tree : JsonTree σ} (all : All (fun text => f text = g text) tree) :
    map f tree = map g tree := by
  induction tree using JsonTree.induct with
  | null => rfl
  | bool value => rfl
  | num literal => rfl
  | str text => exact congrArg JsonTree.str all
  | arr items induction =>
      rw [all_arr] at all
      rw [map_arr, map_arr]
      exact congrArg JsonTree.arr
        (List.map_congr_left fun item listed => induction item listed (all item listed))
  | obj members induction =>
      rw [all_obj] at all
      rw [map_obj, map_obj]
      refine congrArg JsonTree.obj (List.map_congr_left fun member listed => ?_)
      rw [(all member listed).1, induction member listed (all member listed).2]

/-! ## Members and nesting -/

mutual
def members : JsonTree σ → Nat
  | .arr items => membersOfItems items
  | .obj entries => membersOfMembers entries
  | _ => 0

def membersOfItems : List (JsonTree σ) → Nat
  | [] => 0
  | item :: rest => members item + membersOfItems rest

def membersOfMembers : List (σ × JsonTree σ) → Nat
  | [] => 0
  | (_, value) :: rest => (1 + members value) + membersOfMembers rest
end

theorem members_arr (items : List (JsonTree σ)) : members (.arr items) = (items.map members).sum := by
  rw [members]
  induction items with
  | nil => rfl
  | cons item rest induction => rw [membersOfItems, induction, List.map_cons, List.sum_cons]

theorem members_obj (entries : List (σ × JsonTree σ)) :
    members (.obj entries) = (entries.map fun entry => 1 + members entry.2).sum := by
  rw [members]
  induction entries with
  | nil => rfl
  | cons entry rest induction => rw [membersOfMembers, induction, List.map_cons, List.sum_cons]

@[simp]
theorem members_map (f : σ → τ) (tree : JsonTree σ) : (map f tree).members = tree.members := by
  induction tree using JsonTree.induct with
  | null => rfl
  | bool value => rfl
  | num literal => rfl
  | str text => rfl
  | arr items induction =>
      rw [map_arr, members_arr, members_arr, List.map_map]
      exact congrArg List.sum (List.map_congr_left induction)
  | obj entries induction =>
      rw [map_obj, members_obj, members_obj, List.map_map]
      refine congrArg List.sum (List.map_congr_left fun entry listed => ?_)
      rw [Function.comp_apply, induction entry listed]

mutual
/-- How many arrays and objects lie in each other. -/
def depth : JsonTree σ → Nat
  | .arr items => 1 + depthOfItems items
  | .obj entries => 1 + depthOfMembers entries
  | _ => 0

def depthOfItems : List (JsonTree σ) → Nat
  | [] => 0
  | item :: rest => max (depth item) (depthOfItems rest)

def depthOfMembers : List (σ × JsonTree σ) → Nat
  | [] => 0
  | (_, value) :: rest => max (depth value) (depthOfMembers rest)
end

theorem depth_arr_le {items : List (JsonTree σ)} {limit : Nat} :
    depth (.arr items) ≤ limit + 1 ↔ ∀ item ∈ items, depth item ≤ limit := by
  rw [depth, Nat.add_comm, Nat.add_le_add_iff_right]
  induction items with
  | nil => exact ⟨fun _ => nofun, fun _ => Nat.zero_le _⟩
  | cons item rest induction => rw [depthOfItems, Nat.max_le, induction, List.forall_mem_cons]

theorem depth_obj_le {entries : List (σ × JsonTree σ)} {limit : Nat} :
    depth (.obj entries) ≤ limit + 1 ↔ ∀ entry ∈ entries, depth entry.2 ≤ limit := by
  rw [depth, Nat.add_comm, Nat.add_le_add_iff_right]
  induction entries with
  | nil => exact ⟨fun _ => nofun, fun _ => Nat.zero_le _⟩
  | cons entry rest induction => rw [depthOfMembers, Nat.max_le, induction, List.forall_mem_cons]

@[simp]
theorem depth_map (f : σ → τ) (tree : JsonTree σ) : depth (map f tree) = depth tree := by
  have bounds : ∀ limit, depth (map f tree) ≤ limit ↔ depth tree ≤ limit := by
    induction tree using JsonTree.induct with
    | null => exact fun _ => Iff.rfl
    | bool value => exact fun _ => Iff.rfl
    | num literal => exact fun _ => Iff.rfl
    | str text => exact fun _ => Iff.rfl
    | arr items induction =>
        intro limit
        cases limit with
        | zero => rw [map_arr, depth, depth]; omega
        | succ limit =>
            rw [map_arr, depth_arr_le, depth_arr_le, List.forall_mem_map]
            exact forall₂_congr fun item listed => induction item listed limit
    | obj entries induction =>
        intro limit
        cases limit with
        | zero => rw [map_obj, depth, depth]; omega
        | succ limit =>
            rw [map_obj, depth_obj_le, depth_obj_le, List.forall_mem_map]
            exact forall₂_congr fun entry listed => induction entry listed limit
  exact Nat.le_antisymm ((bounds _).mpr (Nat.le_refl _)) ((bounds _).mp (Nat.le_refl _))

/-! ## The same but for the order of members -/

mutual
inductive Same : JsonTree σ → JsonTree σ → Prop
  | null : Same .null .null
  | bool (value : Bool) : Same (.bool value) (.bool value)
  | num (literal : String) : Same (.num literal) (.num literal)
  | str (text : σ) : Same (.str text) (.str text)
  | arr {left right : List (JsonTree σ)} (items : SameItems left right) : Same (.arr left) (.arr right)
  | obj {left middle right : List (σ × JsonTree σ)} (members : SameMembers left middle)
      (order : middle.Perm right) : Same (.obj left) (.obj right)

inductive SameItems : List (JsonTree σ) → List (JsonTree σ) → Prop
  | nil : SameItems [] []
  | cons {left right : JsonTree σ} {lefts rights : List (JsonTree σ)} (item : Same left right)
      (rest : SameItems lefts rights) : SameItems (left :: lefts) (right :: rights)

inductive SameMembers : List (σ × JsonTree σ) → List (σ × JsonTree σ) → Prop
  | nil : SameMembers [] []
  | cons (key : σ) {left right : JsonTree σ} {lefts rights : List (σ × JsonTree σ)}
      (value : Same left right) (rest : SameMembers lefts rights) :
      SameMembers ((key, left) :: lefts) ((key, right) :: rights)
end

theorem sameItems_iff {left right : List (JsonTree σ)} :
    SameItems left right ↔ List.Forall₂ Same left right := by
  constructor
  · intro same
    induction left generalizing right with
    | nil => cases same; exact .nil
    | cons item rest induction => cases same with | cons first later => exact .cons first (induction later)
  · intro same
    induction same with
    | nil => exact .nil
    | cons first _ induction => exact .cons first induction

theorem sameMembers_iff {left right : List (σ × JsonTree σ)} :
    SameMembers left right ↔
      List.Forall₂ (fun a b => a.1 = b.1 ∧ Same a.2 b.2) left right := by
  constructor
  · intro same
    induction left generalizing right with
    | nil => cases same; exact .nil
    | cons member rest induction =>
        cases same with
        | cons key first later => exact .cons ⟨rfl, first⟩ (induction later)
  · intro same
    induction same with
    | nil => exact .nil
    | @cons left right lefts rights both _ induction =>
        rcases left with ⟨key, left⟩
        rcases right with ⟨other, right⟩
        rcases both with ⟨rfl, first⟩
        exact .cons key first induction

theorem same_obj_iff {left right : List (σ × JsonTree σ)} :
    Same (.obj left) (.obj right) ↔
      ∃ middle, List.Forall₂ (fun a b => a.1 = b.1 ∧ Same a.2 b.2) left middle ∧
        middle.Perm right := by
  constructor
  · intro same
    cases same with
    | obj members order => exact ⟨_, sameMembers_iff.mp members, order⟩
  · rintro ⟨middle, members, order⟩
    exact .obj (sameMembers_iff.mpr members) order

theorem same_arr_iff {left right : List (JsonTree σ)} :
    Same (.arr left) (.arr right) ↔ List.Forall₂ Same left right := by
  constructor
  · intro same
    cases same with
    | arr items => exact sameItems_iff.mp items
  · exact fun items => .arr (sameItems_iff.mpr items)

theorem Same.refl (tree : JsonTree σ) : Same tree tree := by
  induction tree using JsonTree.induct with
  | null => exact .null
  | bool value => exact .bool value
  | num literal => exact .num literal
  | str text => exact .str text
  | arr items induction => exact same_arr_iff.mpr (List.forall₂_same.mpr induction)
  | obj members induction =>
      exact same_obj_iff.mpr
        ⟨members, List.forall₂_same.mpr fun member listed => ⟨rfl, induction member listed⟩, .refl _⟩

theorem forall₂_trans_of_mem {α β γ : Type*} {R : α → β → Prop} {S : β → γ → Prop}
    {T : α → γ → Prop} {items : List α} {middle : List β} {results : List γ}
    (first : List.Forall₂ R items middle) (second : List.Forall₂ S middle results)
    (both : ∀ item ∈ items, ∀ mid result, R item mid → S mid result → T item result) :
    List.Forall₂ T items results := by
  induction first generalizing results with
  | nil => cases second; exact .nil
  | cons here _ induction =>
      cases second with
      | cons there rest =>
          exact .cons (both _ List.mem_cons_self _ _ here there)
            (induction rest fun item listed => both item (List.mem_cons_of_mem _ listed))

theorem forall_mem_iff_of_forall₂ {α β : Type*} {P : α → Prop} {Q : β → Prop} {items : List α}
    {results : List β} (each : List.Forall₂ (fun item result => P item ↔ Q result) items results) :
    (∀ item ∈ items, P item) ↔ ∀ result ∈ results, Q result := by
  induction each with
  | nil => exact ⟨fun _ => nofun, fun _ => nofun⟩
  | cons first _ induction => rw [List.forall_mem_cons, List.forall_mem_cons, first, induction]

theorem Same.trans {first second third : JsonTree σ} (left : Same first second)
    (right : Same second third) : Same first third := by
  induction first using JsonTree.induct generalizing second third with
  | null => cases left; exact right
  | bool value => cases left; exact right
  | num literal => cases left; exact right
  | str text => cases left; exact right
  | arr items induction =>
      cases left with
      | arr firsts =>
          cases right with
          | arr seconds =>
              exact same_arr_iff.mpr (forall₂_trans_of_mem (sameItems_iff.mp firsts)
                (sameItems_iff.mp seconds) fun item listed _ _ here there =>
                  induction item listed here there)
  | obj members induction =>
      cases left with
      | obj firsts firstOrder =>
          cases right with
          | obj seconds secondOrder =>
              rcases List.perm_comp_forall₂ firstOrder (sameMembers_iff.mp seconds) with
                ⟨moved, related, order⟩
              refine same_obj_iff.mpr ⟨moved, ?_, order.trans secondOrder⟩
              exact forall₂_trans_of_mem (sameMembers_iff.mp firsts) related
                fun member listed _ _ here there =>
                  ⟨here.1.trans there.1, induction member listed here.2 there.2⟩

theorem Same.map (f : σ → τ) {left right : JsonTree σ} (same : Same left right) :
    Same (left.map f) (right.map f) := by
  induction left using JsonTree.induct generalizing right with
  | null => cases same; exact .null
  | bool value => cases same; exact .bool value
  | num literal => cases same; exact .num literal
  | str text => cases same; exact .str (f text)
  | arr items induction =>
      cases same with
      | arr related =>
          rw [map_arr, map_arr, same_arr_iff, List.forall₂_map_left_iff, List.forall₂_map_right_iff]
          exact Keyed.forall₂_imp_of_mem (sameItems_iff.mp related)
            fun item listed _ => induction item listed
  | obj members induction =>
      cases same with
      | obj related order =>
          rw [map_obj, map_obj, same_obj_iff]
          refine ⟨_, ?_, order.map fun member => (f member.1, JsonTree.map f member.2)⟩
          rw [List.forall₂_map_left_iff, List.forall₂_map_right_iff]
          exact Keyed.forall₂_imp_of_mem (sameMembers_iff.mp related)
            fun member listed _ both => ⟨congrArg f both.1, induction member listed both.2⟩

theorem Same.members_eq {left right : JsonTree σ} (same : Same left right) :
    left.members = right.members := by
  induction left using JsonTree.induct generalizing right with
  | null => cases same; rfl
  | bool value => cases same; rfl
  | num literal => cases same; rfl
  | str text => cases same; rfl
  | arr items induction =>
      cases same with
      | arr related =>
          rw [members_arr, members_arr]
          have counts := Keyed.forall₂_imp_of_mem (sameItems_iff.mp related)
            fun item listed _ same => (induction item listed same).symm
          exact congrArg List.sum (Keyed.map_eq_of_forall₂ counts).symm
  | obj members induction =>
      cases same with
      | obj related order =>
          rw [members_obj, members_obj,
            ← (order.map fun member => 1 + member.2.members).sum_nat]
          have counts := Keyed.forall₂_imp_of_mem (sameMembers_iff.mp related)
            fun member listed _ both => congrArg (1 + ·) (induction member listed both.2).symm
          exact congrArg List.sum (Keyed.map_eq_of_forall₂ counts).symm

/-! ## Keys told apart -/

/-- No two members have the same key after the change. -/
def KeysApart (f : σ → τ) (members : List (σ × JsonTree σ)) : Prop :=
  (members.map fun member => f member.1).Nodup

mutual
def Apart (f : σ → τ) : JsonTree σ → Prop
  | .arr items => ApartItems f items
  | .obj members => KeysApart f members ∧ ApartMembers f members
  | _ => True

def ApartItems (f : σ → τ) : List (JsonTree σ) → Prop
  | [] => True
  | item :: rest => Apart f item ∧ ApartItems f rest

def ApartMembers (f : σ → τ) : List (σ × JsonTree σ) → Prop
  | [] => True
  | (_, value) :: rest => Apart f value ∧ ApartMembers f rest
end

theorem apart_arr {f : σ → τ} {items : List (JsonTree σ)} :
    Apart f (.arr items) ↔ ∀ item ∈ items, Apart f item := by
  rw [Apart]
  induction items with
  | nil => exact ⟨fun _ => nofun, fun _ => trivial⟩
  | cons item rest induction => rw [ApartItems, induction, List.forall_mem_cons]

theorem apart_obj {f : σ → τ} {members : List (σ × JsonTree σ)} :
    Apart f (.obj members) ↔ KeysApart f members ∧ ∀ member ∈ members, Apart f member.2 := by
  have values : ApartMembers f members ↔ ∀ member ∈ members, Apart f member.2 := by
    induction members with
    | nil => exact ⟨fun _ => nofun, fun _ => trivial⟩
    | cons member rest induction => rw [ApartMembers, induction, List.forall_mem_cons]
  rw [Apart, values]

/-- A sum is no more than another one item by item, and the same only if each item is. -/
theorem sum_le_of_forall_le {α : Type} (left right : α → Nat) {P : α → Prop} (items : List α)
    (each : ∀ item ∈ items, left item ≤ right item ∧ (left item = right item → P item)) :
    (items.map left).sum ≤ (items.map right).sum ∧
      ((items.map left).sum = (items.map right).sum → ∀ item ∈ items, P item) := by
  induction items with
  | nil => exact ⟨Nat.le_refl _, fun _ => nofun⟩
  | cons item rest induction =>
      have later := induction fun other listed => each other (List.mem_cons_of_mem _ listed)
      have here := each item List.mem_cons_self
      simp only [List.map_cons, List.sum_cons]
      refine ⟨by omega, fun same => ?_⟩
      exact List.forall_mem_cons.mpr ⟨here.2 (by omega), later.2 (by omega)⟩

theorem apart_map {f : τ → υ} {g : σ → τ} {tree : JsonTree σ} :
    Apart f (map g tree) ↔ Apart (fun text => f (g text)) tree := by
  induction tree using JsonTree.induct with
  | null => exact Iff.rfl
  | bool value => exact Iff.rfl
  | num literal => exact Iff.rfl
  | str text => exact Iff.rfl
  | arr items induction =>
      rw [map_arr, apart_arr, apart_arr, List.forall_mem_map]
      exact forall₂_congr induction
  | obj members induction =>
      rw [map_obj, apart_obj, apart_obj, KeysApart, KeysApart, List.map_map, List.forall_mem_map]
      exact and_congr Iff.rfl (forall₂_congr induction)

theorem Apart.of_comp {f : σ → τ} {g : τ → υ} {tree : JsonTree σ}
    (apart : Apart (fun text => g (f text)) tree) : Apart f tree := by
  induction tree using JsonTree.induct with
  | null => trivial
  | bool value => trivial
  | num literal => trivial
  | str text => trivial
  | arr items induction =>
      rw [apart_arr] at apart ⊢
      exact fun item listed => induction item listed (apart item listed)
  | obj members induction =>
      rw [apart_obj] at apart ⊢
      refine ⟨?_, fun member listed => induction member listed (apart.2 member listed)⟩
      have keys : ((members.map fun member => f member.1).map g).Nodup := by
        rw [List.map_map]
        exact apart.1
      exact keys.of_map

/-! ## Objects as maps -/

section Entries

variable [DecidableEq σ]

def ofEntries (entries : List (σ × JsonTree σ)) : List (σ × JsonTree σ) :=
  entries.foldl (fun table entry => Table.set table entry.1 entry.2) []

theorem mem_set {table : List (σ × JsonTree σ)} {key : σ} {value : JsonTree σ} {entry : σ × JsonTree σ}
    (listed : entry ∈ Table.set table key value) : entry = (key, value) ∨ entry ∈ table := by
  induction table with
  | nil => exact .inl (List.mem_singleton.mp listed)
  | cons head rest induction =>
      rw [Table.set] at listed
      split at listed
      · exact (List.mem_cons.mp listed).imp id (List.mem_cons_of_mem head)
      · rcases List.mem_cons.mp listed with rfl | later
        · exact .inr List.mem_cons_self
        · exact (induction later).imp id (List.mem_cons_of_mem head)

theorem keys_set (table : List (σ × JsonTree σ)) (key : σ) (value : JsonTree σ) :
    (Table.set table key value).map Prod.fst =
      if key ∈ table.map Prod.fst then table.map Prod.fst else table.map Prod.fst ++ [key] := by
  induction table with
  | nil => rfl
  | cons head rest induction =>
      rw [Table.set, List.map_cons]
      by_cases same : head.1 = key
      · rw [if_pos same, if_pos (List.mem_cons.mpr (.inl same.symm)), List.map_cons, same]
      · rw [if_neg same, List.map_cons, induction]
        by_cases later : key ∈ rest.map Prod.fst
        · rw [if_pos later, if_pos (List.mem_cons_of_mem _ later)]
        · rw [if_neg later, List.cons_append, if_neg]
          exact fun either =>
            (List.mem_cons.mp either).elim (fun here => same here.symm) later

theorem set_of_not_mem {table : List (σ × JsonTree σ)} {key : σ} (value : JsonTree σ)
    (new : key ∉ table.map Prod.fst) : Table.set table key value = table ++ [(key, value)] := by
  induction table with
  | nil => rfl
  | cons head rest induction =>
      rw [List.map_cons, List.mem_cons, not_or] at new
      rw [Table.set, if_neg (Ne.symm new.1), induction new.2, List.cons_append]

theorem nodup_keys_ofEntries (entries : List (σ × JsonTree σ)) :
    ((ofEntries entries).map Prod.fst).Nodup := by
  induction entries using List.reverseRecOn with
  | nil => exact List.nodup_nil
  | append_singleton entries entry induction =>
      rw [ofEntries, List.foldl_append, List.foldl_cons, List.foldl_nil, keys_set]
      split
      · exact induction
      · rename_i new
        rw [← List.concat_eq_append]
        exact induction.concat new

theorem ofEntries_subset {entries : List (σ × JsonTree σ)} {entry : σ × JsonTree σ}
    (listed : entry ∈ ofEntries entries) : entry ∈ entries := by
  induction entries using List.reverseRecOn with
  | nil => exact listed
  | append_singleton entries last induction =>
      rw [ofEntries, List.foldl_append, List.foldl_cons, List.foldl_nil] at listed
      rcases mem_set listed with rfl | old
      · exact List.mem_append_right _ (List.mem_singleton_self _)
      · exact List.mem_append_left _ (induction old)

theorem ofEntries_of_nodup {entries : List (σ × JsonTree σ)}
    (distinct : (entries.map Prod.fst).Nodup) : ofEntries entries = entries := by
  induction entries using List.reverseRecOn with
  | nil => rfl
  | append_singleton entries entry induction =>
      rw [List.map_append, List.map_singleton, List.nodup_append] at distinct
      have earlier := induction distinct.1
      rw [ofEntries, List.foldl_append, List.foldl_cons, List.foldl_nil]
      change Table.set (ofEntries entries) entry.1 entry.2 = _
      rw [earlier]
      exact set_of_not_mem _ fun old =>
        distinct.2.2 entry.1 old entry.1 (List.mem_singleton_self _) rfl

theorem sum_ofEntries (entries : List (σ × JsonTree σ)) (weight : σ × JsonTree σ → Nat)
    (positive : ∀ entry, 0 < weight entry) :
    ((ofEntries entries).map weight).sum ≤ (entries.map weight).sum ∧
      (((ofEntries entries).map weight).sum = (entries.map weight).sum →
        (entries.map Prod.fst).Nodup) := by
  have distinct : (ofEntries entries).Nodup := (nodup_keys_ofEntries entries).of_map
  rcases List.subperm_of_subset distinct fun _ listed => ofEntries_subset listed with
    ⟨kept, order, within⟩
  rcases within.exists_perm_append with ⟨rest, all⟩
  have total : (entries.map weight).sum =
      ((ofEntries entries).map weight).sum + (rest.map weight).sum := by
    rw [(all.map weight).sum_nat, List.map_append, List.sum_append_nat, (order.map weight).sum_nat]
  refine ⟨by omega, fun equal => ?_⟩
  have none : rest = [] := by
    cases rest with
    | nil => rfl
    | cons entry more =>
        have counts := positive entry
        rw [List.map_cons, List.sum_cons] at total
        omega
  rw [none, List.append_nil] at all
  exact ((all.trans order).map Prod.fst).nodup_iff.mpr (nodup_keys_ofEntries entries)

end Entries

/-! ## Writing a tree anew -/

section Rebuild

variable [DecidableEq σ] (arrange : List (σ × JsonTree σ) → List (σ × JsonTree σ)) (f : σ → σ)

mutual
/-- Every object is written into a map, its members in some order and under changed keys. -/
def rebuild : JsonTree σ → JsonTree σ
  | .null => .null
  | .bool value => .bool value
  | .num literal => .num literal
  | .str text => .str (f text)
  | .arr items => .arr (rebuildItems items)
  | .obj members =>
      .obj (ofEntries ((arrange (rebuildMembers members)).map fun member => (f member.1, member.2)))

def rebuildItems : List (JsonTree σ) → List (JsonTree σ)
  | [] => []
  | item :: rest => rebuild item :: rebuildItems rest

def rebuildMembers : List (σ × JsonTree σ) → List (σ × JsonTree σ)
  | [] => []
  | (key, value) :: rest => (key, rebuild value) :: rebuildMembers rest
end

theorem rebuild_arr (items : List (JsonTree σ)) :
    rebuild arrange f (.arr items) = .arr (items.map (rebuild arrange f)) := by
  rw [rebuild]
  congr 1
  induction items with
  | nil => rfl
  | cons item rest induction => rw [rebuildItems, induction, List.map_cons]

theorem rebuild_obj (members : List (σ × JsonTree σ)) :
    rebuild arrange f (.obj members) =
      .obj (ofEntries ((arrange (members.map fun member =>
        (member.1, rebuild arrange f member.2))).map fun member => (f member.1, member.2))) := by
  have same : rebuildMembers arrange f members =
      members.map fun member => (member.1, rebuild arrange f member.2) := by
    induction members with
    | nil => rfl
    | cons member rest induction => rw [rebuildMembers, induction, List.map_cons]
  rw [rebuild, same]

variable {arrange f} (rearranges : ∀ members, (arrange members).Perm members)

include rearranges

theorem rebuild_obj_perm {members : List (σ × JsonTree σ)} (apart : KeysApart f members) :
    ∃ built, rebuild arrange f (.obj members) = .obj built ∧
      (members.map fun member => (f member.1, rebuild arrange f member.2)).Perm built := by
  have order := (rearranges (members.map fun member => (member.1, rebuild arrange f member.2))).map
    fun member => (f member.1, member.2)
  rw [List.map_map] at order
  refine ⟨_, rebuild_obj arrange f members, ?_⟩
  rw [ofEntries_of_nodup]
  · exact order.symm
  · rw [(order.map Prod.fst).nodup_iff, List.map_map]
    exact apart

theorem members_rebuild (tree : JsonTree σ) :
    (rebuild arrange f tree).members ≤ tree.members ∧
      ((rebuild arrange f tree).members = tree.members → Apart f tree) := by
  induction tree using JsonTree.induct with
  | null => exact ⟨Nat.le_refl _, fun _ => trivial⟩
  | bool value => exact ⟨Nat.le_refl _, fun _ => trivial⟩
  | num literal => exact ⟨Nat.le_refl _, fun _ => trivial⟩
  | str text => exact ⟨Nat.le_refl _, fun _ => trivial⟩
  | arr items induction =>
      rw [rebuild_arr, members_arr, members_arr, List.map_map, apart_arr]
      exact sum_le_of_forall_le _ _ items induction
  | obj members induction =>
      rw [rebuild_obj, members_obj, members_obj, apart_obj]
      have order := (rearranges (members.map fun member => (member.1, rebuild arrange f member.2))).map
        fun member => (f member.1, member.2)
      generalize (arrange (members.map fun member => (member.1, rebuild arrange f member.2))).map
        (fun member => (f member.1, member.2)) = written at *
      have kept := sum_ofEntries written (fun entry => 1 + entry.2.members) fun entry => by omega
      have count : (written.map fun entry => 1 + entry.2.members).sum =
          (members.map fun member => 1 + (rebuild arrange f member.2).members).sum := by
        rw [(order.map fun entry => 1 + entry.2.members).sum_nat, List.map_map, List.map_map]
        rfl
      have keys : (written.map Prod.fst).Nodup → KeysApart f members := by
        rw [(order.map Prod.fst).nodup_iff, List.map_map, List.map_map]
        exact id
      have values := sum_le_of_forall_le
        (fun member : σ × JsonTree σ => 1 + (rebuild arrange f member.2).members)
        (fun member => 1 + member.2.members) members
        fun member listed => ⟨Nat.add_le_add_left (induction member listed).1 1,
          fun same => (induction member listed).2 (Nat.add_left_cancel same)⟩
      rw [count] at kept
      exact ⟨by omega, fun same => ⟨keys (kept.2 (by omega)), values.2 (by omega)⟩⟩

theorem same_rebuild {tree : JsonTree σ} (apart : Apart f tree) :
    Same (tree.map f) (rebuild arrange f tree) := by
  induction tree using JsonTree.induct with
  | null => exact .null
  | bool value => exact .bool value
  | num literal => exact .num literal
  | str text => exact .str (f text)
  | arr items induction =>
      rw [apart_arr] at apart
      rw [map_arr, rebuild_arr, same_arr_iff, List.forall₂_map_left_iff,
        List.forall₂_map_right_iff, List.forall₂_same]
      exact fun item listed => induction item listed (apart item listed)
  | obj members induction =>
      rw [apart_obj] at apart
      rcases rebuild_obj_perm rearranges apart.1 with ⟨built, isBuilt, order⟩
      rw [map_obj, isBuilt, same_obj_iff]
      refine ⟨_, ?_, order⟩
      rw [List.forall₂_map_left_iff, List.forall₂_map_right_iff, List.forall₂_same]
      exact fun member listed => ⟨rfl, induction member listed (apart.2 member listed)⟩

theorem all_rebuild {P : σ → Prop} {tree : JsonTree σ} (all : All (fun text => P (f text)) tree) :
    All P (rebuild arrange f tree) := by
  induction tree using JsonTree.induct with
  | null => trivial
  | bool value => trivial
  | num literal => trivial
  | str text => exact all
  | arr items induction =>
      rw [all_arr] at all
      rw [rebuild_arr, all_arr, List.forall_mem_map]
      exact fun item listed => induction item listed (all item listed)
  | obj members induction =>
      rw [all_obj] at all
      rw [rebuild_obj, all_obj]
      intro entry listed
      rcases List.mem_map.mp (ofEntries_subset listed) with ⟨arranged, moved, rfl⟩
      rcases List.mem_map.mp ((rearranges _).mem_iff.mp moved) with ⟨member, old, rfl⟩
      exact ⟨(all member old).1, induction member old (all member old).2⟩

theorem depth_rebuild_le {tree : JsonTree σ} {limit : Nat} (shallow : tree.depth ≤ limit) :
    (rebuild arrange f tree).depth ≤ limit := by
  induction tree using JsonTree.induct generalizing limit with
  | null => exact shallow
  | bool value => exact shallow
  | num literal => exact shallow
  | str text => exact shallow
  | arr items induction =>
      cases limit with
      | zero => rw [depth] at shallow; omega
      | succ limit =>
          rw [depth_arr_le] at shallow
          rw [rebuild_arr, depth_arr_le, List.forall_mem_map]
          exact fun item listed => induction item listed (shallow item listed)
  | obj members induction =>
      cases limit with
      | zero => rw [depth] at shallow; omega
      | succ limit =>
          rw [depth_obj_le] at shallow
          rw [rebuild_obj, depth_obj_le]
          intro entry listed
          rcases List.mem_map.mp (ofEntries_subset listed) with ⟨arranged, moved, rfl⟩
          rcases List.mem_map.mp ((rearranges _).mem_iff.mp moved) with ⟨member, old, rfl⟩
          exact induction member old (shallow member old)

end Rebuild

theorem Same.apart_iff {f : σ → τ} {left right : JsonTree σ} (same : Same left right) :
    Apart f left ↔ Apart f right := by
  induction left using JsonTree.induct generalizing right with
  | null => cases same; exact Iff.rfl
  | bool value => cases same; exact Iff.rfl
  | num literal => cases same; exact Iff.rfl
  | str text => cases same; exact Iff.rfl
  | arr items induction =>
      cases same with
      | arr related =>
          rw [apart_arr, apart_arr]
          exact forall_mem_iff_of_forall₂ (Keyed.forall₂_imp_of_mem (sameItems_iff.mp related)
            fun item listed _ => induction item listed)
  | obj members induction =>
      cases same with
      | @obj _ middle other related order =>
          have pairs := sameMembers_iff.mp related
          have keys : middle.map (fun member => f member.1) =
              members.map fun member => f member.1 :=
            Keyed.map_eq_of_forall₂ (pairs.imp fun _ _ both => congrArg f both.1.symm)
          have values : (∀ member ∈ members, Apart f member.2) ↔
              ∀ member ∈ middle, Apart f member.2 :=
            forall_mem_iff_of_forall₂ (Keyed.forall₂_imp_of_mem pairs
              fun member listed _ both => induction member listed both.2)
          rw [apart_obj, apart_obj, KeysApart, KeysApart,
            ← (order.map fun member => f member.1).nodup_iff, keys, values]
          exact and_congr_right' (forall_congr' fun member => imp_congr_left order.mem_iff)

end JsonTree

end HomelabBuilder.JsonText
