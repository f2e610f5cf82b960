import HomelabBuilder.Foundation.Json
import HomelabBuilder.Foundation.Rows
import HomelabBuilder.Services.GraphInput

/-! # Requests on inventory items and their hosts

The SQL statements by which the requests of one account change its inventory
(`inventory_service.go`) and the links of items to the hosts an integration reports
(`integration_service.go`). PostgreSQL runs them READ COMMITTED. An `UPDATE` looks for
its rows among the committed ones when it starts; it waits until no other transaction
has locked them, and changes those that still fit.
-/

namespace HomelabBuilder.Inventory

open Services (UUID)

inductive Kind
  | device
  | component
  | accessory
  deriving DecidableEq

/-- The columns an owner enters, as `Normalize` leaves them. -/
structure Entry where
  kind : Kind
  name : String
  /-- Type, manufacturer, quantity, specs and all else. -/
  details : Json := .obj []

structure Host where
  integrationID : UUID
  /-- The Proxmox node name. -/
  node : String
  deriving DecidableEq

/-- A row of `inventory_items` under its id. The columns of the link are written
together. -/
structure InventoryItem where
  entry : Entry
  link : Option Host := none

def maxInventoryItems : Nat := 500

inductive Call
  | create (entry : Entry)
  /-- The inventory form. -/
  | update (itemID : UUID) (entry : Entry)
  | delete (itemID : UUID)
  | linkItem (host : Host) (itemID : Option UUID)
  | createItemFromHost (host : Host) (entry : Entry)
  | deleteIntegration (id : UUID)

/-- How far an `UPDATE` has come. -/
inductive Unlinking
  /-- It has found its rows and waits for them. -/
  | found (ids : List UUID)
  /-- It has changed these. -/
  | changed (ids : List UUID)

/-- The rows that are unlinked, or may still be. -/
def Unlinking.ids : Unlinking → List UUID
  | .found ids | .changed ids => ids

inductive Request
  | starting (call : Call)
  | counted (entry : Entry) (host : Option Host)
  | saving (itemID : UUID) (loaded : InventoryItem) (entry : Entry)
  /-- `LinkItem` in its transaction. `seen` is for the record: the links to the host
  committed when its `UPDATE` started. -/
  | linkBegun (host : Host) (itemID : Option UUID)
  | unlinking (host : Host) (itemID : Option UUID) (unlinking : Unlinking) (seen : Nat)
  /-- The item is there and a device. -/
  | checked (host : Host) (itemID : UUID) (unlinked : List UUID) (seen : Nat)
  /-- It is done; the item is linked if there is one. -/
  | linked (host : Host) (itemID : Option UUID) (unlinked : List UUID) (seen : Nat)
  /-- `Delete` of an integration that has deleted the row. -/
  | deleteBegun (id : UUID)
  | clearing (id : UUID) (unlinking : Unlinking) (seen : Nat)

def Request.locked : Request → List UUID
  | .unlinking _ _ (.changed ids) _ | .clearing _ (.changed ids) _ | .checked _ _ ids _ => ids
  | .linked _ itemID ids _ => itemID.toList ++ ids
  | _ => []

/-- The integration whose row a request has deleted. -/
def Request.deletes : Request → Option UUID
  | .deleteBegun id | .clearing id _ _ => some id
  | _ => none

structure World where
  items : List (UUID × InventoryItem) := []
  /-- The node names each integration has last reported. -/
  integrations : List (UUID × List String) := []
  requests : List (Nat × Request) := []
  -- For the record: the hosts that were linked, the integrations deleted, and the items
  -- whose link an inventory update changed.
  links : List Host := []
  deleted : List UUID := []
  relinked : List UUID := []

inductive Event
  | receive (call : Call)
  /-- The next statement of a request; an `INSERT` is made under the id. -/
  | run (newID : UUID)
  /-- A statement fails, or the request is cancelled. Its transaction is rolled back. -/
  | fail
  /-- An integration is created or read again. -/
  | report (id : UUID) (nodes : List String)

namespace World

variable (world : World)

def continueWith (client : Nat) (request : Request) : World :=
  { world with requests := Table.set world.requests client request }

def finish (client : Nat) : World :=
  { world with requests := Table.erase world.requests client }

/-- No other transaction has locked the item. -/
def itemFree (client : Nat) (id : UUID) : Bool :=
  world.requests.all fun entry => entry.1 = client || id ∉ entry.2.locked

/-- No other transaction has deleted the integration. -/
def integrationFree (client : Nat) (id : UUID) : Bool :=
  world.requests.all fun entry => entry.1 = client || entry.2.deletes ≠ some id

/-- `Snapshot` finds the integration and its host. -/
def reports (host : Host) : Bool :=
  (world.integrations.lookup host.integrationID).any fun nodes => host.node ∈ nodes

def linkOf (id : UUID) : Option Host := (world.items.lookup id).bind (·.link)

def itemsWith (fits : Host → Bool) : List UUID :=
  (world.items.filter fun entry => entry.2.link.any fits).map Prod.fst

def unlink (items : List (UUID × InventoryItem)) (ids : List UUID) : List (UUID × InventoryItem) :=
  items.map fun entry =>
    (entry.1, if entry.1 ∈ ids then { entry.2 with link := none } else entry.2)

/-! ## Statements -/

def count (client : Nat) (entry : Entry) (host : Option Host) : World :=
  if maxInventoryItems ≤ world.items.length then world.finish client
  else world.continueWith client (.counted entry host)

/-- The `INSERT` of `Create`. `CreateItemFromHost` goes on with `LinkItem`. -/
def insert (client : Nat) (entry : Entry) (host : Option Host) (newID : UUID) : Option World :=
  if (world.items.lookup newID).isSome then none
  else
    let inserted := { world with items := Table.set world.items newID { entry := entry } }
    match host with
    | none => some (inserted.finish client)
    | some host => some (inserted.continueWith client (.starting (.linkItem host (some newID))))

/-- `Save` of an inventory form. -/
def save (client : Nat) (itemID : UUID) (loaded : InventoryItem) (entry : Entry) : Option World :=
  if world.itemFree client itemID then
    some (World.finish { world with
      items := Table.set world.items itemID { loaded with entry := entry }
      relinked := if world.linkOf itemID = loaded.link then world.relinked
        else itemID :: world.relinked } client)
  else none

def delete (client : Nat) (itemID : UUID) : Option World :=
  if world.itemFree client itemID then
    some (World.finish { world with items := Table.erase world.items itemID } client)
  else none

def findLinked (client : Nat) (host : Host) (itemID : Option UUID) : World :=
  world.continueWith client
    (.unlinking host itemID (.found (world.itemsWith (· = host))) (world.links.count host))

/-- The first `UPDATE` of `LinkItem` gets its rows. -/
def unlinkHost (client : Nat) (host : Host) (itemID : Option UUID) (ids : List UUID) (seen : Nat) :
    Option World :=
  if ids.all (world.itemFree client ·) then
    let changed := ids.filter fun id => world.linkOf id = some host
    some (world.continueWith client (.unlinking host itemID (.changed changed) seen))
  else none

def check (client : Nat) (host : Host) (itemID : Option UUID) (unlinked : List UUID) (seen : Nat) :
    World :=
  match itemID with
  | none => world.continueWith client (.linked host none unlinked seen)
  | some itemID =>
      if (world.items.lookup itemID).any (·.entry.kind = .device) then
        world.continueWith client (.checked host itemID unlinked seen)
      else world.finish client

/-- The second `UPDATE` of `LinkItem`. The item may be gone by now. -/
def linkHost (client : Nat) (host : Host) (itemID : UUID) (unlinked : List UUID) (seen : Nat) :
    Option World :=
  if world.itemFree client itemID then
    let present := (world.items.lookup itemID).map fun _ => itemID
    some (world.continueWith client (.linked host present unlinked seen))
  else none

def commitLink (client : Nat) (host : Host) (itemID : Option UUID) (unlinked : List UUID) : World :=
  let cleared := unlink world.items unlinked
  match itemID with
  | none => World.finish { world with items := cleared } client
  | some itemID =>
      World.finish { world with
        items := Table.modify cleared itemID fun item => { item with link := some host }
        links := host :: world.links } client

def deleteIntegration (client : Nat) (id : UUID) : Option World :=
  if world.integrationFree client id then
    if (world.integrations.lookup id).isSome then some (world.continueWith client (.deleteBegun id))
    else some (world.finish client)
  else none

/-- The links to any host of an integration that were committed. -/
def linksTo (id : UUID) : Nat := world.links.countP fun host => host.integrationID = id

def findCleared (client : Nat) (id : UUID) : World :=
  world.continueWith client
    (.clearing id (.found (world.itemsWith fun host => host.integrationID = id)) (world.linksTo id))

/-- The `UPDATE` of an integration's `Delete` gets its rows. -/
def clearLinks (client : Nat) (id : UUID) (ids : List UUID) (seen : Nat) : Option World :=
  if ids.all (world.itemFree client ·) then
    let changed := ids.filter fun item =>
      (world.linkOf item).any fun host => host.integrationID = id
    some (world.continueWith client (.clearing id (.changed changed) seen))
  else none

def commitDelete (client : Nat) (id : UUID) (unlinked : List UUID) : World :=
  World.finish { world with
    items := unlink world.items unlinked
    integrations := Table.erase world.integrations id
    deleted := id :: world.deleted } client

/-! ## Steps -/

def start (client : Nat) : Call → Option World
  | .create entry => some (world.count client entry none)
  | .update itemID entry =>
      match world.items.lookup itemID with
      | none => some (world.finish client)
      | some loaded => some (world.continueWith client (.saving itemID loaded entry))
  | .delete itemID => world.delete client itemID
  | .linkItem host itemID =>
      if world.reports host then some (world.continueWith client (.linkBegun host itemID))
      else some (world.finish client)
  | .createItemFromHost host entry =>
      if world.reports host then some (world.count client { entry with kind := .device } (some host))
      else some (world.finish client)
  | .deleteIntegration id => world.deleteIntegration client id

/-- The next statement of a request, or its commit. -/
def run (client : Nat) (newID : UUID) : Request → Option World
  | .starting call => world.start client call
  | .counted entry host => world.insert client entry host newID
  | .saving itemID loaded entry => world.save client itemID loaded entry
  | .linkBegun host itemID => some (world.findLinked client host itemID)
  | .unlinking host itemID (.found ids) seen => world.unlinkHost client host itemID ids seen
  | .unlinking host itemID (.changed ids) seen => some (world.check client host itemID ids seen)
  | .checked host itemID unlinked seen => world.linkHost client host itemID unlinked seen
  | .linked host itemID unlinked _ => some (world.commitLink client host itemID unlinked)
  | .deleteBegun id => some (world.findCleared client id)
  | .clearing id (.found ids) seen => world.clearLinks client id ids seen
  | .clearing id (.changed ids) _ => some (world.commitDelete client id ids)

def report (id : UUID) (nodes : List String) : Option World :=
  if id ∈ world.deleted ∨ world.requests.any fun entry => entry.2.deletes = some id then none
  else some { world with integrations := Table.set world.integrations id nodes }

def next (client : Nat) : Event → Option World
  | .receive call =>
      if (world.requests.lookup client).isSome then none
      else some (world.continueWith client (.starting call))
  | .run newID => (world.requests.lookup client).bind (world.run client newID)
  | .fail => (world.requests.lookup client).map fun _ => world.finish client
  | .report id nodes => world.report id nodes

end World

end HomelabBuilder.Inventory
