import HomelabBuilder.Foundation.Runs
import HomelabBuilder.Inventory.Requests

/-! # A host has one item and an item one host

When the transactions on items and integrations keep the links apart.
-/

namespace HomelabBuilder.Inventory

open Runs (Reaches follow)
open Services (UUID)

namespace World

variable (world : World)

/-- No two items are linked to one host, none to a deleted integration, and no inventory
update has changed a link. -/
structure Paired : Prop where
  single : ∀ left right host, world.linkOf left = some host → world.linkOf right = some host →
    left = right
  present : ∀ id host, world.linkOf id = some host → host.integrationID ∉ world.deleted
  kept : world.relinked = []

/-- Nothing that a transaction is about to rely on has changed: when `LinkItem` commits,
its host was not linked since its first `UPDATE` and the integration is still there;
when `Delete` commits, no host of the integration was linked since its `UPDATE`; an
inventory update finds the link that it has read. -/
def findsLinks (client : Nat) (event : Event) : Bool :=
  match event, world.requests.lookup client with
  | .run _, some (.linked host (some _) _ seen) =>
      world.links.count host = seen && (world.integrations.lookup host.integrationID).isSome
  | .run _, some (.clearing id (.changed _) seen) => world.linksTo id = seen
  | .run _, some (.saving itemID loaded _) => world.linkOf itemID = loaded.link
  | _, _ => true

end World

/-- The worlds that requests reach from empty tables, in any order of statements. -/
abbrev Run (meets : World → Nat → Event → Prop) : World → Prop :=
  Reaches (fun world (step : Nat × Event) => world.next step.1 step.2)
    (fun world step => meets world step.1 step.2) {}

/-! ## The invariant -/

/-- Every item linked to the host is among these, unless the host was linked since. -/
def Covers (world : World) (host : Host) (ids : List UUID) (seen : Nat) : Prop :=
  seen ≤ world.links.count host ∧
    (world.links.count host = seen → ∀ id, world.linkOf id = some host → id ∈ ids)

/-- Every item linked to the integration is among these, unless it was linked since. -/
def Clears (world : World) (integrationID : UUID) (ids : List UUID) (seen : Nat) : Prop :=
  seen ≤ world.linksTo integrationID ∧
    (world.linksTo integrationID = seen → ∀ id host, world.linkOf id = some host →
      host.integrationID = integrationID → id ∈ ids)

def Request.Sound (world : World) : Request → Prop
  | .unlinking host _ progress seen => Covers world host progress.ids seen
  | .checked host _ unlinked seen | .linked host _ unlinked seen => Covers world host unlinked seen
  | .clearing id progress seen => Clears world id progress.ids seen
  | _ => True

structure Sound (world : World) : Prop where
  single : ∀ left right host, world.linkOf left = some host → world.linkOf right = some host →
    left = right
  present : ∀ id host, world.linkOf id = some host →
    (world.integrations.lookup host.integrationID).isSome
  gone : ∀ id ∈ world.deleted, world.integrations.lookup id = none
  kept : world.relinked = []
  requests : ∀ client request, world.requests.lookup client = some request → request.Sound world

theorem Sound.empty : Sound {} where
  single _ _ _ linked := by cases linked
  present _ _ linked := by cases linked
  gone _ member := by cases member
  kept := rfl
  requests _ _ found := by cases found

theorem Sound.paired {world : World} (sound : Sound world) : world.Paired where
  single := sound.single
  present := by
    intro id host linked deleted
    have present := sound.present id host linked
    rw [sound.gone _ deleted] at present
    cases present
  kept := sound.kept

/-- A step after which only the given hosts are linked anew. -/
structure Later (new : List Host) (world after : World) : Prop where
  links : after.links = new ++ world.links
  linked : ∀ id host, after.linkOf id = some host → world.linkOf id = some host ∨ host ∈ new

section

variable {world after : World} {new : List Host}

theorem Covers.mono {host : Host} {ids : List UUID} {seen : Nat} (covers : Covers world host ids seen)
    (later : Later new world after) : Covers after host ids seen := by
  rcases covers with ⟨past, covered⟩
  have count : after.links.count host = new.count host + world.links.count host := by
    rw [later.links, List.count_append]
  refine ⟨by omega, fun same id linked => ?_⟩
  have unlinked : new.count host = 0 := by omega
  rcases later.linked id host linked with before | here
  · exact covered (by omega) id before
  · exact absurd here (List.count_eq_zero.mp unlinked)

theorem Clears.mono {integrationID : UUID} {ids : List UUID} {seen : Nat}
    (clears : Clears world integrationID ids seen) (later : Later new world after) :
    Clears after integrationID ids seen := by
  rcases clears with ⟨past, cleared⟩
  have count : after.linksTo integrationID =
      (new.countP fun host => host.integrationID = integrationID) + world.linksTo integrationID := by
    rw [World.linksTo, later.links, List.countP_append]
    rfl
  refine ⟨by omega, fun same id host linked here => ?_⟩
  have unlinked : (new.countP fun host => host.integrationID = integrationID) = 0 := by omega
  rcases later.linked id host linked with before | anew
  · exact cleared (by omega) id host before here
  · exact absurd (decide_eq_true here) (List.countP_eq_zero.mp unlinked host anew)

theorem Request.Sound.mono {request : Request} (sound : request.Sound world)
    (later : Later new world after) : request.Sound after := by
  cases request with
  | unlinking _ _ _ _ | checked _ _ _ _ | linked _ _ _ _ => exact Covers.mono sound later
  | clearing _ _ _ => exact Clears.mono sound later
  | starting _ | counted _ _ | saving _ _ _ | linkBegun _ _ | deleteBegun _ => trivial

theorem World.mem_itemsWith {fits : Host → Bool} {id : UUID} {host : Host}
    (linked : world.linkOf id = some host) (kind : fits host = true) :
    id ∈ world.itemsWith fits := by
  rcases Option.bind_eq_some_iff.mp linked with ⟨item, found, link⟩
  refine List.mem_map.mpr ⟨(id, item), List.mem_filter.mpr ⟨Table.mem_of_lookup found, ?_⟩, rfl⟩
  dsimp only
  rw [link]
  exact kind

theorem World.lookup_unlink (items : List (UUID × InventoryItem)) (ids : List UUID) (id : UUID) :
    ((World.unlink items ids).lookup id).bind (·.link) =
      if id ∈ ids then none else (items.lookup id).bind (·.link) := by
  unfold World.unlink
  rw [Table.lookup_mapRows items fun key item =>
    if key ∈ ids then { item with link := none } else item]
  cases items.lookup id with
  | none => split <;> rfl
  | some item =>
      change (if id ∈ ids then { item with link := none } else item).link = _
      split <;> rfl

end

section Steps

variable {world : World} (sound : Sound world) (client : Nat)

include sound

theorem Sound.continueWith {request : Request} (fits : request.Sound world) :
    Sound (world.continueWith client request) where
  single := sound.single
  present := sound.present
  gone := sound.gone
  kept := sound.kept
  requests := by
    intro other running found
    have later : Later [] world (world.continueWith client request) := ⟨rfl, fun _ _ => .inl⟩
    rw [World.continueWith, Table.lookup_set] at found
    split at found
    · cases found
      exact fits.mono later
    · exact (sound.requests other running found).mono later

theorem Sound.finish_of {after : World} {new : List Host} (later : Later new world after)
    (same : after.requests = world.requests)
    (single : ∀ left right host, after.linkOf left = some host → after.linkOf right = some host →
      left = right)
    (present : ∀ id host, after.linkOf id = some host →
      (after.integrations.lookup host.integrationID).isSome)
    (gone : ∀ id ∈ after.deleted, after.integrations.lookup id = none)
    (kept : after.relinked = []) : Sound (after.finish client) where
  single := single
  present := present
  gone := gone
  kept := kept
  requests := by
    intro other request found
    rw [World.finish, Table.lookup_erase, same] at found
    split at found
    · cases found
    · exact (sound.requests other request found).mono ⟨later.links, later.linked⟩

theorem Sound.finish : Sound (world.finish client) :=
  have later : Later [] world world := ⟨rfl, fun _ _ => .inl⟩
  sound.finish_of client later rfl sound.single sound.present sound.gone sound.kept

theorem Sound.finish_of_unlinking {after : World} (links : after.links = world.links)
    (linked : ∀ id host, after.linkOf id = some host → world.linkOf id = some host)
    (same : after.requests = world.requests) (integrations : after.integrations = world.integrations)
    (deleted : after.deleted = world.deleted) (kept : after.relinked = []) :
    Sound (after.finish client) := by
  have later : Later [] world after := ⟨links, fun id host here => .inl (linked id host here)⟩
  apply sound.finish_of client later same
  · intro left right host leftLinked rightLinked
    exact sound.single left right host (linked left host leftLinked) (linked right host rightLinked)
  · intro id host here
    rw [integrations]
    exact sound.present id host (linked id host here)
  · rw [deleted, integrations]
    exact sound.gone
  · exact kept

theorem Sound.count (entry : Entry) (host : Option Host) : Sound (world.count client entry host) := by
  unfold World.count
  split
  · exact sound.finish client
  · exact sound.continueWith client trivial

theorem Sound.insert {entry : Entry} {host : Option Host} {newID : UUID} {after : World}
    (done : world.insert client entry host newID = some after) : Sound after := by
  unfold World.insert at done
  split at done
  · cases done
  · have linked : ∀ id host, World.linkOf { world with
        items := Table.set world.items newID { entry := entry } } id = some host →
          world.linkOf id = some host := by
      intro id host here
      rw [World.linkOf, Table.lookup_set] at here
      split at here
      · cases here
      · exact here
    cases host with
    | none =>
        cases done
        exact sound.finish_of_unlinking client rfl linked rfl rfl rfl sound.kept
    | some host =>
        cases done
        have later : Later [] world { world with
            items := Table.set world.items newID { entry := entry } } :=
          ⟨rfl, fun id host here => .inl (linked id host here)⟩
        have inserted : Sound { world with
            items := Table.set world.items newID { entry := entry } } := by
          refine ⟨?_, ?_, sound.gone, sound.kept,
            fun other request found => (sound.requests other request found).mono later⟩
          · intro left right host leftLinked rightLinked
            exact sound.single left right host (linked left host leftLinked)
              (linked right host rightLinked)
          · exact fun id host here => sound.present id host (linked id host here)
        exact inserted.continueWith client trivial

theorem Sound.save {itemID : UUID} {loaded : InventoryItem} {entry : Entry} {after : World}
    (finds : world.linkOf itemID = loaded.link)
    (done : world.save client itemID loaded entry = some after) : Sound after := by
  unfold World.save at done
  split at done
  · cases done
    apply sound.finish_of_unlinking client
    · rfl
    · intro id host here
      rw [World.linkOf, Table.lookup_set] at here
      split at here
      · rename_i same
        rw [same, finds]
        exact here
      · exact here
    · rfl
    · rfl
    · rfl
    · exact sound.kept
  · cases done

theorem Sound.delete {itemID : UUID} {after : World}
    (done : world.delete client itemID = some after) : Sound after := by
  unfold World.delete at done
  split at done
  · cases done
    apply sound.finish_of_unlinking client
    · rfl
    · intro id host here
      rw [World.linkOf, Table.lookup_erase] at here
      split at here
      · cases here
      · exact here
    · rfl
    · rfl
    · rfl
    · exact sound.kept
  · cases done

/-! ### Linking -/

theorem Sound.findLinked (host : Host) (itemID : Option UUID) :
    Sound (world.findLinked client host itemID) := by
  apply sound.continueWith
  exact ⟨Nat.le_refl _, fun _ id linked => World.mem_itemsWith linked (decide_eq_true rfl)⟩

theorem Sound.unlinkHost {host : Host} {itemID : Option UUID} {ids : List UUID} {seen : Nat}
    {after : World}
    (running : world.requests.lookup client = some (.unlinking host itemID (.found ids) seen))
    (done : world.unlinkHost client host itemID ids seen = some after) : Sound after := by
  rcases sound.requests client _ running with ⟨past, covered⟩
  unfold World.unlinkHost at done
  split at done
  · cases done
    apply sound.continueWith
    refine ⟨past, fun same id linked => ?_⟩
    exact List.mem_filter.mpr ⟨covered same id linked, decide_eq_true linked⟩
  · cases done

theorem Sound.check {host : Host} {itemID : Option UUID} {ids : List UUID} {seen : Nat}
    (running : world.requests.lookup client = some (.unlinking host itemID (.changed ids) seen)) :
    Sound (world.check client host itemID ids seen) := by
  have covers : Covers world host ids seen := sound.requests client _ running
  unfold World.check
  split
  · exact sound.continueWith client covers
  · split
    · exact sound.continueWith client covers
    · exact sound.finish client

theorem Sound.linkHost {host : Host} {itemID : UUID} {unlinked : List UUID} {seen : Nat}
    {after : World}
    (running : world.requests.lookup client = some (.checked host itemID unlinked seen))
    (done : world.linkHost client host itemID unlinked seen = some after) : Sound after := by
  have covers : Covers world host unlinked seen := sound.requests client _ running
  unfold World.linkHost at done
  split at done
  · cases done
    exact sound.continueWith client covers
  · cases done

theorem Sound.commitLink {host : Host} {itemID : Option UUID} {unlinked : List UUID} {seen : Nat}
    (running : world.requests.lookup client = some (.linked host itemID unlinked seen))
    (finds : itemID.isSome → world.links.count host = seen ∧
      (world.integrations.lookup host.integrationID).isSome) :
    Sound (world.commitLink client host itemID unlinked) := by
  have covers : Covers world host unlinked seen := sound.requests client _ running
  cases itemID with
  | none =>
      apply sound.finish_of_unlinking client
      · rfl
      · intro id other here
        rw [World.linkOf, World.lookup_unlink] at here
        split at here
        · cases here
        · exact here
      · rfl
      · rfl
      · rfl
      · exact sound.kept
  | some itemID =>
      rcases finds rfl with ⟨same, present⟩
      have linkOf : ∀ id other, ((Table.modify (World.unlink world.items unlinked) itemID
          fun item => { item with link := some host }).lookup id).bind (·.link) = some other →
            id = itemID ∧ other = host ∨ id ∉ unlinked ∧ world.linkOf id = some other := by
        intro id other here
        rw [Table.lookup_modify] at here
        split at here
        · rename_i target
          rcases Option.bind_eq_some_iff.mp here with ⟨item, found, link⟩
          rcases Option.map_eq_some_iff.mp found with ⟨before, _, rfl⟩
          cases link
          exact .inl ⟨target, rfl⟩
        · rw [World.lookup_unlink] at here
          split at here
          · cases here
          · rename_i kept
            exact .inr ⟨kept, here⟩
      -- Whatever else is linked to the host is among the unlinked.
      have alone : ∀ id, id ∉ unlinked → world.linkOf id ≠ some host :=
        fun id kept linked => kept (covers.2 same id linked)
      have later : Later [host] world { world with
          items := Table.modify (World.unlink world.items unlinked) itemID
            fun item => { item with link := some host }
          links := host :: world.links } := by
        refine ⟨rfl, fun id other here => ?_⟩
        rcases linkOf id other here with ⟨_, rfl⟩ | ⟨_, before⟩
        · exact .inr List.mem_cons_self
        · exact .inl before
      apply sound.finish_of client later rfl _ _ sound.gone sound.kept
      · intro left right other leftLinked rightLinked
        rcases linkOf left other leftLinked with ⟨rfl, rfl⟩ | ⟨leftKept, leftBefore⟩
        · rcases linkOf right other rightLinked with ⟨rfl, _⟩ | ⟨rightKept, rightBefore⟩
          · rfl
          · exact absurd rightBefore (alone right rightKept)
        · rcases linkOf right other rightLinked with ⟨rfl, rfl⟩ | ⟨_, rightBefore⟩
          · exact absurd leftBefore (alone left leftKept)
          · exact sound.single left right other leftBefore rightBefore
      · intro id other here
        rcases linkOf id other here with ⟨_, rfl⟩ | ⟨_, before⟩
        · exact present
        · exact sound.present id other before

/-! ### Deleting an integration -/

theorem Sound.deleteIntegration {id : UUID} {after : World}
    (done : world.deleteIntegration client id = some after) : Sound after := by
  unfold World.deleteIntegration at done
  split at done
  · split at done
    · cases done
      exact sound.continueWith client trivial
    · cases done
      exact sound.finish client
  · cases done

theorem Sound.findCleared (id : UUID) : Sound (world.findCleared client id) := by
  apply sound.continueWith
  exact ⟨Nat.le_refl _, fun _ _ _ linked here => World.mem_itemsWith linked (decide_eq_true here)⟩

theorem Sound.clearLinks {id : UUID} {ids : List UUID} {seen : Nat} {after : World}
    (running : world.requests.lookup client = some (.clearing id (.found ids) seen))
    (done : world.clearLinks client id ids seen = some after) : Sound after := by
  rcases sound.requests client _ running with ⟨past, cleared⟩
  unfold World.clearLinks at done
  split at done
  · cases done
    apply sound.continueWith
    refine ⟨past, fun same item host linked here => ?_⟩
    refine List.mem_filter.mpr ⟨cleared same item host linked here, ?_⟩
    rw [linked]
    exact decide_eq_true here
  · cases done

theorem Sound.commitDelete {id : UUID} {ids : List UUID} {seen : Nat}
    (running : world.requests.lookup client = some (.clearing id (.changed ids) seen))
    (finds : world.linksTo id = seen) : Sound (world.commitDelete client id ids) := by
  have clears : Clears world id ids seen := sound.requests client _ running
  have linkOf : ∀ item host, ((World.unlink world.items ids).lookup item).bind (·.link) =
      some host → item ∉ ids ∧ world.linkOf item = some host := by
    intro item host here
    rw [World.lookup_unlink] at here
    split at here
    · cases here
    · rename_i kept
      exact ⟨kept, here⟩
  have later : Later [] world { world with
      items := World.unlink world.items ids
      integrations := Table.erase world.integrations id
      deleted := id :: world.deleted } := ⟨rfl, fun item host here => .inl (linkOf item host here).2⟩
  apply sound.finish_of client later rfl _ _ _ sound.kept
  · intro left right host leftLinked rightLinked
    exact sound.single left right host (linkOf left host leftLinked).2
      (linkOf right host rightLinked).2
  · intro item host here
    rcases linkOf item host here with ⟨kept, before⟩
    dsimp only
    rw [Table.lookup_erase, if_neg]
    · exact sound.present item host before
    · exact fun same => kept (clears.2 finds item host before same)
  · intro other member
    dsimp only
    rw [Table.lookup_erase]
    split
    · rfl
    · rename_i different
      exact sound.gone other ((List.mem_cons.mp member).resolve_left different)

/-! ### All steps -/

theorem Sound.start {call : Call} {after : World} (done : world.start client call = some after) :
    Sound after := by
  cases call with
  | create entry =>
      cases done
      exact sound.count client entry none
  | update itemID entry =>
      unfold World.start at done
      dsimp only at done
      split at done
      · cases done
        exact sound.finish client
      · cases done
        exact sound.continueWith client trivial
  | delete itemID => exact sound.delete client done
  | linkItem host itemID =>
      unfold World.start at done
      dsimp only at done
      split at done
      · cases done
        exact sound.continueWith client trivial
      · cases done
        exact sound.finish client
  | createItemFromHost host entry =>
      unfold World.start at done
      dsimp only at done
      split at done
      · cases done
        exact sound.count client _ _
      · cases done
        exact sound.finish client
  | deleteIntegration id => exact sound.deleteIntegration client done

theorem Sound.run {newID : UUID} {request : Request} {after : World}
    (running : world.requests.lookup client = some request)
    (finds : world.findsLinks client (.run newID) = true)
    (done : world.run client newID request = some after) : Sound after := by
  unfold World.findsLinks at finds
  rw [running] at finds
  unfold World.run at done
  split at done
  · exact sound.start client done
  · exact sound.insert client done
  · exact sound.save client (of_decide_eq_true finds) done
  · cases done
    exact sound.findLinked client _ _
  · exact sound.unlinkHost client running done
  · cases done
    exact sound.check client running
  · exact sound.linkHost client running done
  · rename_i host itemID unlinked seen
    cases done
    apply sound.commitLink client running
    intro linking
    rcases Option.isSome_iff_exists.mp linking with ⟨target, rfl⟩
    dsimp only at finds
    rw [Bool.and_eq_true] at finds
    exact ⟨of_decide_eq_true finds.1, finds.2⟩
  · cases done
    exact sound.findCleared client _
  · exact sound.clearLinks client running done
  · cases done
    exact sound.commitDelete client running (of_decide_eq_true finds)

theorem Sound.report {id : UUID} {nodes : List String} {after : World}
    (done : world.report id nodes = some after) : Sound after := by
  unfold World.report at done
  split at done
  · cases done
  · rename_i available
    cases done
    refine ⟨sound.single, ?_, ?_, sound.kept, fun client request found =>
      (sound.requests client request found).mono
        (show Later [] world _ from ⟨rfl, fun _ _ => .inl⟩)⟩
    · intro item host linked
      dsimp only
      rw [Table.lookup_set]
      split
      · rfl
      · exact sound.present item host linked
    · intro other member
      dsimp only
      rw [Table.lookup_set, if_neg]
      · exact sound.gone other member
      · rintro rfl
        exact available (.inl member)

theorem Sound.next {event : Event} {after : World} (finds : world.findsLinks client event = true)
    (done : world.next client event = some after) : Sound after := by
  cases event with
  | receive call =>
      unfold World.next at done
      dsimp only at done
      split at done
      · cases done
      · cases done
        exact sound.continueWith client trivial
  | run newID =>
      rcases Option.bind_eq_some_iff.mp done with ⟨request, running, ran⟩
      exact sound.run client running finds ran
  | fail =>
      rcases Option.map_eq_some_iff.mp done with ⟨request, _, rfl⟩
      exact sound.finish client
  | report id nodes => exact sound.report done

end Steps

/-! ## Runs -/

/-- Items and hosts stay paired as long as no transaction relies on links that have
changed. -/
theorem one_item_per_host {world : World}
    (run : Run (fun world client event => world.findsLinks client event = true) world) :
    world.Paired :=
  have sound : Sound world := run.invariant .empty fun _ step _ sound finds done =>
    sound.next step.1 finds done
  sound.paired

/-- Two devices are linked to one host, by transactions one after the other or both at
the same time. -/
def twoLinks (atOnce : Bool) : List (Nat × Event) :=
  let id : UUID := .numbered 1
  let host : Host := ⟨id, "pve"⟩
  let run : Event := .run id
  let insertion (item : UUID) : List (Nat × Event) :=
    [(0, .receive (.create { kind := .device, name := "Mini PC" })), (0, run), (0, .run item)]
  let before (client : Nat) (item : UUID) : List (Nat × Event) :=
    [(client, .receive (.linkItem host (some item))), (client, run), (client, run), (client, run),
      (client, run), (client, run)]
  [(0, .report id ["pve"])] ++ insertion (.numbered 2) ++ insertion (.numbered 3) ++
    before 1 (.numbered 2) ++ (if atOnce then [] else [(1, run)]) ++ before 2 (.numbered 3) ++
    (if atOnce then [(1, run)] else []) ++ [(2, run)]

theorem one_item_per_host_relinked : ∃ world : World,
    world.linkOf (.numbered 2) = none ∧
      world.linkOf (.numbered 3) = some ⟨.numbered 1, "pve"⟩ ∧ world.Paired := by
  have facts : ((follow (fun (world : World) (step : Nat × Event) => world.next step.1 step.2)
      (fun world step => world.findsLinks step.1 step.2) {} (twoLinks false)).any fun world =>
        world.linkOf (.numbered 2) = none &&
          world.linkOf (.numbered 3) = some ⟨.numbered 1, "pve"⟩) = true := by
    decide
  rcases (Option.any_eq_true _ _).mp facts with ⟨world, done, facts⟩
  rw [Bool.and_eq_true] at facts
  exact ⟨world, of_decide_eq_true facts.1, of_decide_eq_true facts.2,
    one_item_per_host (Runs.reaches_of_follow .nil done)⟩

/-- Neither of two transactions sees the link that the other one makes. -/
theorem host_linked_twice : ∃ world, Run (fun _ _ _ => True) world ∧ ¬world.Paired := by
  have facts : ((follow (fun (world : World) (step : Nat × Event) => world.next step.1 step.2)
      (fun _ _ => true) {} (twoLinks true)).any fun world =>
        world.linkOf (.numbered 2) = some ⟨.numbered 1, "pve"⟩ &&
          world.linkOf (.numbered 3) = some ⟨.numbered 1, "pve"⟩) = true := by
    decide
  rcases (Option.any_eq_true _ _).mp facts with ⟨world, done, facts⟩
  rw [Bool.and_eq_true] at facts
  refine ⟨world, (Runs.reaches_of_follow .nil done).mono fun _ _ _ => trivial, fun paired => ?_⟩
  have same := paired.single _ _ _ (of_decide_eq_true facts.1) (of_decide_eq_true facts.2)
  exact absurd same (by decide)

end HomelabBuilder.Inventory
