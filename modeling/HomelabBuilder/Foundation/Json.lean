import Mathlib.Data.Rat.Defs
import HomelabBuilder.Foundation.Table

/-! # JSON values

What a stored document decodes to. Numbers are the doubles they denote, and
the members of an object are kept in stored order.
-/

namespace HomelabBuilder

inductive Json
  | null
  | bool (value : Bool)
  | num (value : Rat)
  | str (value : String)
  | arr (items : List Json)
  | obj (members : List (String × Json))

namespace Json

/-! ## Type assertions -/

def asBool : Json → Option Bool
  | .bool value => some value
  | _ => none

def asNumber : Json → Option Rat
  | .num value => some value
  | _ => none

def asString : Json → Option String
  | .str value => some value
  | _ => none

def asArray : Json → Option (List Json)
  | .arr items => some items
  | _ => none

def asObject : Json → Option (List (String × Json))
  | .obj members => some members
  | _ => none

/-- The members of an object, none for any other value. -/
def members (json : Json) : List (String × Json) := json.asObject.getD []

theorem obj_ne_null (members : List (String × Json)) : Json.obj members ≠ .null := nofun

/-! ## Fields of a struct -/

def foldCase (key : String) : List Char := key.toList.map Char.toLower

/-- What decoding an object into a struct leaves in one field: the member of
that name, or else the last one whose name differs in case only. Members of
another type are passed over. -/
def field {α : Type} (decode : Json → Option α) (members : List (String × Json))
    (name : String) : Option α :=
  match (members.lookup name).bind decode with
  | some value => some value
  | none =>
      (members.filter fun member => foldCase member.1 = foldCase name).reverse.findSome?
        fun member => decode member.2

section Field

variable {α : Type} {decode : Json → Option α} (members : List (String × Json))
  {key name : String}

theorem field_of_lookup {value : Json} {result : α} (found : members.lookup name = some value)
    (decoded : decode value = some result) : field decode members name = some result := by
  rw [field, found, Option.bind_some, decoded]

end Field

/-- One field of a struct: zero when it is missing or null, an error when it
has another type. -/
def decodeField {α : Type} (decode : Json → Option α) (members : List (String × Json))
    (name : String) (zero : α) : Option α :=
  match field some members name with
  | none => some zero
  | some .null => some zero
  | some value => decode value

/-- A struct; null leaves it at its zero value. -/
def decodeStruct {α : Type} (decode : List (String × Json) → Option α) : Json → Option α
  | .null => decode []
  | .obj members => decode members
  | _ => none

@[simp]
theorem decodeStruct_obj {α : Type} (decode : List (String × Json) → Option α)
    (members : List (String × Json)) : decodeStruct decode (.obj members) = decode members := rfl

def decodeSlice {α : Type} (decode : List (String × Json) → Option α) (json : Json) :
    Option (Option (List α)) :=
  json.asArray.bind fun items => (items.mapM (decodeStruct decode)).map some

theorem decodeField_of_lookup {α : Type} {decode : Json → Option α}
    {members : List (String × Json)} {name : String} {value : Json} {zero : α}
    (found : members.lookup name = some value) (given : value ≠ .null) :
    decodeField decode members name zero = decode value := by
  rw [decodeField, field_of_lookup members found rfl]
  split
  · contradiction
  · rename_i isNull
    exact absurd (Option.some.inj isNull) given
  · rename_i isValue
    cases isValue
    rfl

end Json

end HomelabBuilder

/-! # Equality of JSON values

Two values can be told apart, member by member and in stored order.
-/

namespace HomelabBuilder.Json

mutual
def same : Json → Json → Bool
  | .null, .null => true
  | .bool left, .bool right => left = right
  | .num left, .num right => left = right
  | .str left, .str right => left = right
  | .arr left, .arr right => sameItems left right
  | .obj left, .obj right => sameMembers left right
  | _, _ => false

def sameItems : List Json → List Json → Bool
  | [], [] => true
  | left :: lefts, right :: rights => same left right && sameItems lefts rights
  | _, _ => false

def sameMembers : List (String × Json) → List (String × Json) → Bool
  | [], [] => true
  | (key, left) :: lefts, (other, right) :: rights =>
      key = other && same left right && sameMembers lefts rights
  | _, _ => false
end

mutual
theorem eq_of_same : ∀ {left right : Json}, same left right = true → left = right
  | .null, .null, _ => rfl
  | .bool _, .bool _, equal => congrArg Json.bool (of_decide_eq_true equal)
  | .num _, .num _, equal => congrArg Json.num (of_decide_eq_true equal)
  | .str _, .str _, equal => congrArg Json.str (of_decide_eq_true equal)
  | .arr _, .arr _, equal => congrArg Json.arr (eq_of_sameItems equal)
  | .obj _, .obj _, equal => congrArg Json.obj (eq_of_sameMembers equal)

theorem eq_of_sameItems : ∀ {left right : List Json}, sameItems left right = true → left = right
  | [], [], _ => rfl
  | _ :: _, _ :: _, equal => by
      rw [sameItems, Bool.and_eq_true] at equal
      rw [eq_of_same equal.1, eq_of_sameItems equal.2]

theorem eq_of_sameMembers : ∀ {left right : List (String × Json)},
    sameMembers left right = true → left = right
  | [], [], _ => rfl
  | (_, _) :: _, (_, _) :: _, equal => by
      rw [sameMembers, Bool.and_eq_true, Bool.and_eq_true] at equal
      rw [of_decide_eq_true equal.1.1, eq_of_same equal.1.2, eq_of_sameMembers equal.2]
end

mutual
theorem same_self : ∀ json : Json, same json json = true
  | .null => rfl
  | .bool _ | .num _ | .str _ => decide_eq_true rfl
  | .arr items => sameItems_self items
  | .obj members => sameMembers_self members

theorem sameItems_self : ∀ items : List Json, sameItems items items = true
  | [] => rfl
  | item :: rest => by rw [sameItems, same_self item, sameItems_self rest, Bool.and_true]

theorem sameMembers_self : ∀ members : List (String × Json), sameMembers members members = true
  | [] => rfl
  | (key, value) :: rest => by
      rw [sameMembers, same_self value, sameMembers_self rest, decide_eq_true rfl]
      rfl
end

instance : DecidableEq Json := fun left right =>
  decidable_of_iff (same left right = true)
    ⟨eq_of_same, fun equal => equal ▸ same_self left⟩

mutual
/-- Equality of decoded values, whose objects are maps. -/
def deepEqual : Json → Json → Bool
  | .null, .null => true
  | .bool left, .bool right => left = right
  | .num left, .num right => left = right
  | .str left, .str right => left = right
  | .arr left, .arr right => deepEqualItems left right
  | .obj left, .obj right => left.length = right.length && deepEqualMembers left right
  | _, _ => false

def deepEqualItems : List Json → List Json → Bool
  | [], [] => true
  | left :: lefts, right :: rights => deepEqual left right && deepEqualItems lefts rights
  | _, _ => false

def deepEqualMembers : List (String × Json) → List (String × Json) → Bool
  | [], _ => true
  | (key, value) :: rest, others =>
      (match others.lookup key with
        | some other => deepEqual value other
        | none => false) && deepEqualMembers rest others
end

/-- Objects are told apart by their members. -/
example : Json.obj [("seats", .num 8)] ≠ Json.obj [("seats", .num 9)] := by decide

end HomelabBuilder.Json
