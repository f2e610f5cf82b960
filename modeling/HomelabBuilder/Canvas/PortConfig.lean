import HomelabBuilder.Wiring.CableVLANs

/-! # Port settings on the canvas

`port-config.ts`: the canvas reads port settings, VLAN tables and cables on its
own. The server refuses what it would read differently, power cables apart.
-/

namespace HomelabBuilder.Canvas

open Wiring (appendNew powerInPrefix powerOutPrefix)

structure PortNode where
  type : String
  details : Json

/-- What an object literal has besides its own keys. -/
def inheritedKeys : List String :=
  ["constructor", "__defineGetter__", "__defineSetter__", "hasOwnProperty", "__lookupGetter__",
    "__lookupSetter__", "isPrototypeOf", "propertyIsEnumerable", "toString", "valueOf",
    "__proto__", "toLocaleString"]

/-- Whether `record[key]` is set for a record that is true at some keys. -/
def recordHas (keys : List String) (key : String) : Bool := key ∈ keys || key ∈ inheritedKeys

def portRoles : List String := ["wan", "lan", "dmz", "vpn", "unused"]

def vlanTypes : List String := ["router", "firewall", "switch"]

/-- `isVlanId`, with the id it accepts. -/
def vlanId : Json → Option Int
  | .num value => if value.den = 1 ∧ 1 ≤ value.num ∧ value.num ≤ 4094 then some value.num else none
  | _ => none

def nonEmpty (text : String) : Option String := if text = "" then none else some text

structure PortSettings where
  role : Option String
  address : Option String
  dhcp : Bool
  untaggedVlan : Option Int
  taggedVlans : Option (List Int)
  comment : Option String
  deriving DecidableEq

def readPortSettings (entry : List (String × Json)) : PortSettings where
  role := ((entry.lookup "role").bind Json.asString).filter (recordHas portRoles)
  address := ((entry.lookup "address").bind Json.asString).bind nonEmpty
  dhcp := (entry.lookup "dhcp").bind Json.asBool = some true
  untaggedVlan := (entry.lookup "untagged_vlan").bind vlanId
  taggedVlans := ((entry.lookup "tagged_vlans").bind Json.asArray).bind fun items =>
    let tagged := items.filterMap vlanId
    if tagged = [] then none else some tagged
  comment := ((entry.lookup "comment").bind Json.asString).bind nonEmpty

/-- The settings of every port of a device; malformed values are dropped. -/
def readPortConfig (details : Json) : List (String × PortSettings) :=
  ((((details.asObject.bind (List.lookup "port_config")).bind Json.asObject)).getD []).filterMap
    fun entry => entry.2.asObject.map fun settings => (entry.1, readPortSettings settings)

structure VlanDef where
  id : Int
  name : String
  color : Option String
  subnet : Option String
  deriving DecidableEq

def readVlan (entry : List (String × Json)) : Option VlanDef :=
  ((entry.lookup "id").bind vlanId).map fun id =>
    { id
      name := ((entry.lookup "name").bind Json.asString).getD ""
      color := ((entry.lookup "color").bind Json.asString).bind nonEmpty
      subnet := ((entry.lookup "subnet").bind Json.asString).bind nonEmpty }

/-- The VLANs defined on a switch; malformed entries are dropped. -/
def readVlans (details : Json) : List VlanDef :=
  (((details.asObject.bind (List.lookup "vlans")).bind Json.asArray).getD []).filterMap
    fun entry => entry.asObject.bind readVlan

/-- The VLANs of a port, tagged and untagged. -/
def portVlans (settings : PortSettings) : List Int :=
  (settings.taggedVlans.getD [] ++ settings.untaggedVlan.toList).foldl
    (appendNew fun _ => true) []

/-- The VLANs a port carries in ascending order, none when it carries none. -/
def vlanSet (node : PortNode) (handle : String) : Option (List Int) :=
  if !recordHas vlanTypes node.type then none
  else
    match (readPortConfig node.details).lookup handle with
    | none => none
    | some settings =>
        let unique := (portVlans settings).insertionSort (· ≤ ·)
        if unique = [] then none else some unique

def isPowerHandle (handle : String) : Bool :=
  (cutPrefix powerInPrefix handle).isSome || (cutPrefix powerOutPrefix handle).isSome

/-- What `cableVlan` returns. -/
structure CableVlan where
  vlans : List Int
  color : Option String := none
  mismatch : Bool
  deriving DecidableEq

def colorOf (node : PortNode) (id : Int) : Option String :=
  ((readVlans node.details).find? (·.id = id)).bind (·.color)

/-- The colour of the untagged VLAN of a switch end when it is shown. -/
def untaggedColor (vlans : List Int) (cableEnd : PortNode × String) : Option String :=
  if cableEnd.1.type ≠ "switch" then none
  else
    match ((readPortConfig cableEnd.1.details).lookup cableEnd.2).bind (·.untaggedVlan) with
    | none => none
    | some untagged => if untagged ∈ vlans then colorOf cableEnd.1 untagged else none

def cableColor (ends : List (PortNode × String)) (vlans : List Int) : Option String :=
  (ends.findSome? (untaggedColor vlans)).or
    (vlans.findSome? fun id => ends.findSome? fun cableEnd => colorOf cableEnd.1 id)

/-- The VLANs a cable carries; power cables carry none. -/
def cableVlan (sourceNode : PortNode) (sourceHandle : String) (targetNode : PortNode)
    (targetHandle : String) : CableVlan :=
  if isPowerHandle sourceHandle || isPowerHandle targetHandle then
    { vlans := [], mismatch := false }
  else
    let sourcePort := if sourceHandle = "" then "eth0" else sourceHandle
    let targetPort := if targetHandle = "" then "target-0" else targetHandle
    let ends := [(sourceNode, sourcePort), (targetNode, targetPort)]
    let shown (vlans : List Int) : CableVlan :=
      if vlans = [] then { vlans, mismatch := false }
      else { vlans, color := cableColor ends vlans, mismatch := false }
    match vlanSet sourceNode sourcePort, vlanSet targetNode targetPort with
    | some sourceSet, some targetSet =>
        let vlans := sourceSet.filter (· ∈ targetSet)
        if vlans = [] then { vlans, mismatch := true } else shown vlans
    | some sourceSet, none => shown sourceSet
    | none, some targetSet => shown targetSet
    | none, none => shown []

end HomelabBuilder.Canvas
