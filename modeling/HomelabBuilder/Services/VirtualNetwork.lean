import Mathlib.Data.List.Sort
import HomelabBuilder.Foundation.Worklist
import HomelabBuilder.Ipam.Subnet
import HomelabBuilder.Services.GraphInput

/-! # Virtual networks

`virtual_network.go`: the switches and cables inside one host, and the guests
that are sent to the allocator. Switches forward traffic, guests are endpoints.
-/

namespace HomelabBuilder.Services

/-! ## Decoding -/

open Json (decodeField decodeStruct decodeSlice)

structure Position where
  x : Rat
  y : Rat
  deriving DecidableEq

structure VirtualSwitch where
  id : String
  name : String
  position : Position
  deriving DecidableEq

structure VirtualEdge where
  id : String
  source : String
  target : String
  deriving DecidableEq

/-- The lists are `none` where the document has none. -/
structure VirtualNetwork where
  switches : Option (List VirtualSwitch)
  positions : Option (List (String × Position))
  edges : Option (List VirtualEdge)
  deriving DecidableEq

def decodePosition (members : List (String × Json)) : Option Position := do
  let x ← decodeField Json.asNumber members "x" 0
  let y ← decodeField Json.asNumber members "y" 0
  some ⟨x, y⟩

def decodeSwitch (members : List (String × Json)) : Option VirtualSwitch := do
  let id ← decodeField Json.asString members "id" ""
  let name ← decodeField Json.asString members "name" ""
  let position ← decodePosition members
  some ⟨id, name, position⟩

def decodeEdge (members : List (String × Json)) : Option VirtualEdge := do
  let id ← decodeField Json.asString members "id" ""
  let source ← decodeField Json.asString members "source" ""
  let target ← decodeField Json.asString members "target" ""
  some ⟨id, source, target⟩

def decodePositions (json : Json) : Option (Option (List (String × Position))) :=
  json.asObject.bind fun members =>
    (members.mapM fun member =>
      (decodeStruct decodePosition member.2).map fun position => (member.1, position)).map some

def decodeVirtualNetwork (members : List (String × Json)) : Option VirtualNetwork := do
  let switches ← decodeField (decodeSlice decodeSwitch) members "switches" none
  let positions ← decodeField decodePositions members "positions" none
  let edges ← decodeField (decodeSlice decodeEdge) members "edges" none
  some ⟨switches, positions, edges⟩

/-- `readVirtualNetwork` where the error is ignored: `none` for nil. -/
def readVirtualNetwork (details : Json) : Option VirtualNetwork :=
  (Json.field some details.members "virtual_network").bind fun network =>
    network.asObject.bind decodeVirtualNetwork

/-! ## Reachable guests -/

def uplink : String := "uplink"

namespace VirtualNetwork

variable (network : VirtualNetwork)

def switchIDs : List String := uplink :: (network.switches.getD []).map (·.id)

def neighbors (id : String) : List String :=
  (network.edges.getD []).flatMap fun edge =>
    (if edge.source = id then [edge.target] else []) ++
      (if edge.target = id then [edge.source] else [])

/-- `virtualReachable`: only switches are searched through, each of them once. -/
def reachable : List String :=
  (Worklist.drain network.neighbors (· ∈ network.switchIDs) (network.switchIDs.length + 1)
    (Worklist.initial uplink)).seen

end VirtualNetwork

/-! ## Guests of a host -/

def requestedVMIP (vm : VirtualMachine) : String :=
  (Json.field Json.asString vm.details.members "static_ip").getD ""

/-- `sort.Slice`, of which the language promises no more than a permutation
when the order leaves elements tied. -/
structure SliceSort where
  sort : {α : Type} → (α → α → Bool) → List α → List α
  perm : ∀ {α : Type} (less : α → α → Bool) (items : List α), (sort less items).Perm items

/-- What `sort.Slice` does to short slices. -/
def SliceSort.insertion : SliceSort where
  sort less items := items.insertionSort fun left right => less right left = false
  perm _ items := items.perm_insertionSort _

/-- The guests the allocator is told about. Behind a virtual network these are
the connected ones, with the address their owner asks for. -/
def virtualIPAMGuests (sorting : SliceSort) (node : Node) : List Ipam.VMDTO :=
  match readVirtualNetwork node.details with
  | none => node.virtualMachines.map fun vm => { id := vm.id.text, existingIP := vm.ip }
  | some network =>
      sorting.sort (fun left right => left.id < right.id)
        ((node.virtualMachines.filter fun vm => vm.id.text ∈ network.reachable).map fun vm =>
          { id := vm.id.text, existingIP := requestedVMIP vm })

end HomelabBuilder.Services
