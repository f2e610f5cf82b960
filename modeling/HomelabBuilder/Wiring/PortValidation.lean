import Mathlib.Data.List.Sort
import HomelabBuilder.Foundation.Text
import HomelabBuilder.Wiring.Power

/-! # Checks of port settings

The rules of `ports.go` for `details.port_config` and `details.vlans`, and what
becomes of the settings of ports that are gone.
-/

namespace HomelabBuilder.Wiring

open Net (isHexDigit)

def maxVLANs : Nat := 64
def maxTaggedVLANs : Nat := 64
def maxCommentRunes : Nat := 80
def maxVLANName : Nat := 32

def validRoles : List String := ["wan", "lan", "dmz", "vpn", "unused"]

def hasPortSettings (nodeType : String) : Bool := nodeType ∈ ["router", "firewall", "switch"]

def isGateway (nodeType : String) : Bool := nodeType ∈ ["router", "firewall"]

/-- N for "ethN", -1 for any other handle. -/
def portIndex (handle : String) : Int :=
  match cutPrefix "eth" handle with
  | some rest => plainIndex rest
  | none => -1

def isVLANID (id : Int) : Bool := 1 ≤ id && id ≤ 4094

/-- The ids `ReadVLANs` finds in `details.vlans`. -/
def definedVLANs (details : List (String × Json)) : List Int :=
  (((details.lookup "vlans").bind Json.asArray).getD []).filterMap fun entry =>
    (entry.asObject.bind (List.lookup "id")).bind integer

/-- `colorPattern`. -/
def isColor (text : String) : Bool :=
  match text.toList with
  | '#' :: digits => digits.length = 6 && digits.all isHexDigit
  | _ => false

def isIPv4Subnet (text : String) : Bool := (parseIPv4Prefix text).isSome

/-- A failed check; `none` is the absence of an error. -/
abbrev Complaint := Option String

def complain (wrong : Bool) (message : String) : Complaint := if wrong then some message else none

/-! ## Ports -/

/-- The tagged VLANs of a port behind the ones that have been seen. -/
def taggedComplaint (defined : List Int) : List Int → List Json → Complaint
  | _, [] => none
  | seen, item :: rest =>
      match (integer item).filter isVLANID with
      | none => some "a tagged VLAN must be an id from 1 to 4094"
      | some id =>
          if id ∈ seen then some ("tagged VLAN " ++ toString id ++ " is listed twice")
          else if id ∉ defined then
            some ("VLAN " ++ toString id ++ " is not defined on this switch")
          else taggedComplaint defined (id :: seen) rest

def validateTagged (defined : List Int) : Json → Complaint
  | .arr items =>
      if maxTaggedVLANs < items.length then some "a port carries at most 64 tagged VLANs"
      else taggedComplaint defined [] items
  | _ => some "tagged_vlans must be a list of VLAN ids"

/-- What is wrong with one setting of a port. -/
def settingComplaint (nodeType : String) (defined : List Int) (key : String) (value : Json) :
    Complaint :=
  match key with
  | "role" =>
      if !isGateway nodeType then some "only router and firewall ports have a role"
      else complain ((value.asString.getD "") ∉ validRoles)
        "role must be wan, lan, dmz, vpn or unused"
  | "address" =>
      if !isGateway nodeType then some "only router and firewall ports have an address"
      else complain (!isIPv4CIDR (value.asString.getD ""))
        "address must be an IPv4 address with a prefix of 8 to 30, such as 192.168.10.1/24, and not the network or broadcast address"
  | "dhcp" =>
      if !isGateway nodeType then some "only router and firewall ports run DHCP"
      else complain value.asBool.isNone "dhcp must be true or false"
  | "untagged_vlan" =>
      match (integer value).filter isVLANID with
      | none => some "untagged_vlan must be a VLAN id from 1 to 4094"
      | some id =>
          complain (nodeType = "switch" && id ∉ defined)
            ("VLAN " ++ toString id ++ " is not defined on this switch")
  | "tagged_vlans" =>
      if nodeType ≠ "switch" then some "only switch ports carry tagged VLANs"
      else validateTagged defined value
  | "comment" =>
      match value.asString with
      | none => some "comment must be text"
      | some comment =>
          complain (maxCommentRunes < comment.length) "comment is longer than 80 characters"
  | _ => some ("unknown port setting " ++ key)

/-- Members by name, as the checks go through them. -/
def byKey (members : List (String × Json)) : List (String × Json) :=
  members.insertionSort fun left right => left.1 ≤ right.1

def portComplaint (nodeType : String) (defined : List Int) (ports : Int)
    (port : String × Json) : Complaint :=
  if port.1 ≠ "target-0" && (portIndex port.1 < 0 || ports ≤ portIndex port.1) then
    some ("port " ++ port.1 ++ " does not exist (" ++ toString ports ++ " ports)")
  else
    match port.2.asObject with
    | none => some ("the settings of port " ++ port.1 ++ " must be an object")
    | some entry =>
        ((byKey entry).findSome? fun setting =>
          settingComplaint nodeType defined setting.1 setting.2).map fun message =>
            "port " ++ port.1 ++ ": " ++ message

/-- Checks `details.port_config` against the rules for the type and its ports. -/
def validatePortConfig (nodeType : String) (details : List (String × Json)) (ports : Int) :
    Complaint :=
  match details.lookup "port_config" with
  | none => none
  | some .null => none
  | some value =>
      if !hasPortSettings nodeType then
        some "only routers, firewalls and switches have port settings"
      else
        match value.asObject with
        | none => some "port_config must be an object keyed by port"
        | some config =>
            (byKey config).findSome? (portComplaint nodeType (definedVLANs details) ports)

/-! ## VLANs -/

def vlanFieldComplaint (id : Int) (key : String) (value : Json) : Complaint :=
  let text := value.asString.getD ""
  match key with
  | "id" => none
  | "name" =>
      complain (trimSpace text = "" || maxVLANName < text.length)
        ("VLAN " ++ toString id ++ " needs a name of 1 to 32 characters")
  | "color" =>
      complain (!isColor text) ("VLAN " ++ toString id ++ " colour must look like #3b82f6")
  | "subnet" =>
      complain (!isIPv4Subnet text)
        ("VLAN " ++ toString id ++
          " subnet must be an IPv4 subnet with a prefix of 8 to 30, such as 192.168.10.0/24")
  | _ => some ("VLAN " ++ toString id ++ " has an unknown setting " ++ key)

def vlanComplaint : List Int → List Json → Complaint
  | _, [] => none
  | seen, item :: rest =>
      match item.asObject with
      | none => some "each VLAN must be an object"
      | some entry =>
          match ((entry.lookup "id").bind integer).filter isVLANID with
          | none => some "a VLAN id must be a number from 1 to 4094"
          | some id =>
              if id ∈ seen then some ("VLAN " ++ toString id ++ " is defined twice")
              else
                match entry.findSome? fun field => vlanFieldComplaint id field.1 field.2 with
                | some message => some message
                | none =>
                    if (entry.lookup "name").isNone then
                      some ("VLAN " ++ toString id ++ " needs a name of 1 to 32 characters")
                    else vlanComplaint (id :: seen) rest

/-- Checks `details.vlans`: switches only, few enough, each id once. -/
def validateVLANs (nodeType : String) (details : List (String × Json)) : Complaint :=
  match details.lookup "vlans" with
  | none => none
  | some .null => none
  | some value =>
      if nodeType ≠ "switch" then some "only switches define VLANs"
      else
        match value.asArray with
        | none => some "vlans must be a list"
        | some list =>
            if maxVLANs < list.length then some "a switch defines at most 64 VLANs"
            else vlanComplaint [] list

/-- Drops the settings of ports that no longer exist, and `port_config` once
nothing is left in it. -/
def prunePortConfig (details : List (String × Json)) (ports : Int) : List (String × Json) :=
  match (details.lookup "port_config").bind Json.asObject with
  | none => details
  | some config =>
      let kept := config.filter fun port => portIndex port.1 < 0 || portIndex port.1 < ports
      if kept = [] then Table.erase details "port_config"
      else Table.set details "port_config" (.obj kept)

end HomelabBuilder.Wiring
