import HomelabBuilder.Foundation.Turns
import HomelabBuilder.Planner.GameServerPlan
import HomelabBuilder.Planner.LanPartyPlan

/-! # Ports of planned servers

A further server of a game gets its ports moved by one. Which servers of a plan clash is read
off the ports of the games and how often each was chosen.
-/

namespace HomelabBuilder.Planner

open Gaming (Proto Profile ResolvedPort ReportNode ReportGuest computeReport hostEntries
  forwardEntries hostPortsOf forwardedPortsOf portKey)
open Booking (Agree)
open Turns (turns turnsFrom Spaced)

variable {services : List CatalogService}

/-! ## What servers publish -/

section

variable (services)

def gamePorts (slug : String) : List (Proto × Int) :=
  match profileBySlug services slug with
  | none => []
  | some profile => profile.ports.map fun spec => (spec.proto, spec.port)

def portsAt (server : String × Int) : List (Proto × Int) :=
  match profileBySlug services server.1 with
  | none => []
  | some profile => (profile.resolvePorts server.2).map fun port => (port.proto, port.port)

def PlannedVM.key (vm : PlannedVM) : String × Int := (vm.game.profile, vm.game.portOffset)

/-- The protocols and ports a server takes on its host. -/
def PlannedVM.publishes (vm : PlannedVM) : List (Proto × Int) := portsAt services vm.key

def PublishApart (vms : List PlannedVM) : Prop :=
  vms.Pairwise fun left right => ∀ port ∈ left.publishes services, port ∉ right.publishes services

instance (vms : List PlannedVM) : Decidable (PublishApart services vms) :=
  inferInstanceAs (Decidable (vms.Pairwise _))

def PlannedVM.withOffset (vm : PlannedVM) (offset : Int) : PlannedVM :=
  { vm with game := { vm.game with portOffset := offset } }

/-- An offset that pushes no port of the game past the last one. -/
def PlannedVM.WithinLimit (vm : PlannedVM) (offset : Int) : Prop :=
  0 ≤ offset ∧ ∀ profile ∈ profileBySlug services vm.game.profile, offset ≤ profile.maxOffset

instance (vm : PlannedVM) (offset : Int) : Decidable (vm.WithinLimit services offset) :=
  inferInstanceAs (Decidable (_ ∧ _))

/-- Some choice of offsets keeps the servers apart. -/
def CanPublishApart (vms : List PlannedVM) : Prop :=
  ∃ offsets : List Int, offsets.length = vms.length ∧
    (∀ entry ∈ vms.zip offsets, entry.1.WithinLimit services entry.2) ∧
    PublishApart services (List.zipWith PlannedVM.withOffset vms offsets)

def Plan.servers (plan : Plan) : List PlannedVM := plan.nodes.flatMap PlannedNode.vms

/-- Where the servers of a plan can be kept apart, they are, and the report of the new build
finds no port with two owners. -/
def Plan.PortsDoNotClash (plan : Plan) : Prop :=
  CanPublishApart services plan.servers →
    PublishApart services plan.servers ∧
      ¬(computeReport (profileBySlug services) plan.reportInput).lists "host_port_conflict" ∧
      ¬(computeReport (profileBySlug services) plan.reportInput).lists "port_conflict"

end

theorem portsAt_eq (server : String × Int) :
    portsAt services server =
      (gamePorts services server.1).map fun port => (port.1, port.2 + server.2) := by
  unfold portsAt gamePorts Profile.resolvePorts
  split
  · rfl
  · rw [List.map_map, List.map_map]
    rfl

/-- Two games at their offsets that share no port. -/
def ApartAt (services : List CatalogService) (left right : String × Int) : Prop :=
  ∀ point ∈ gamePorts services left.1, ∀ other ∈ gamePorts services right.1, point.1 = other.1 →
    point.2 + left.2 ≠ other.2 + right.2

theorem publishApart_iff (vms : List PlannedVM) :
    PublishApart services vms ↔ (vms.map PlannedVM.key).Pairwise (ApartAt services) := by
  rw [List.pairwise_map, PublishApart]
  refine List.Pairwise.iff fun left right => ?_
  unfold PlannedVM.publishes ApartAt
  rw [portsAt_eq, portsAt_eq]
  simp only [List.mem_map, forall_exists_index, and_imp, not_exists, not_and, Prod.forall,
    Prod.mk.injEq]
  constructor
  · intro apart proto port listed proto' port' listed' same meet
    exact apart _ _ proto port listed rfl rfl proto' port' listed' same.symm meet.symm
  · rintro apart _ _ proto port listed rfl rfl proto' port' listed' same meet
    exact apart proto port listed proto' port' listed' same.symm meet.symm

/-! ## The report -/

theorem normalize_profile {profileBySlug : String → Option Profile}
    {server game : Gaming.Instance} {profile : Profile}
    (done : server.normalize profileBySlug = .ok (game, profile)) :
    profileBySlug server.profile = some profile ∧ game.portOffset = server.portOffset := by
  unfold Gaming.Instance.normalize at done
  split at done
  · cases done
  · rename_i found
    dsimp only at done
    generalize (if server.exposure = "" then Gaming.exposureLAN else server.exposure) = exposure at done
    split at done
    · cases done
    split at done
    · cases done
    split at done
    · cases done
    cases done
    exact ⟨found, rfl⟩

theorem mem_publishes_of_runs {vm : PlannedVM} {game : Gaming.Instance} {profile : Profile}
    (runs : vm.reportGuest.runs (profileBySlug services) = some (game, profile))
    {port : ResolvedPort} (listed : port ∈ profile.resolvePorts game.portOffset) :
    (port.proto, port.port) ∈ vm.publishes services := by
  have normal : vm.game.normalize (profileBySlug services) = .ok (game, profile) := by
    unfold ReportGuest.runs PlannedVM.reportGuest at runs
    rw [Option.bind_some] at runs
    cases result : vm.game.normalize (profileBySlug services) with
    | error message =>
        rw [result] at runs
        cases runs
    | ok both =>
        rw [result] at runs
        cases runs
        rfl
  rcases normalize_profile normal with ⟨found, offset⟩
  unfold PlannedVM.publishes portsAt PlannedVM.key
  dsimp only
  rw [found]
  exact List.mem_map.mpr ⟨port, offset ▸ listed, rfl⟩

theorem mem_publishes_of_hostPortsOf {vm : PlannedVM} {port : ResolvedPort}
    (listed : port ∈ hostPortsOf (profileBySlug services) vm.reportGuest) :
    (port.proto, port.port) ∈ vm.publishes services := by
  unfold hostPortsOf at listed
  split at listed
  · cases listed
  · rename_i game profile runs
    split at listed
    · exact mem_publishes_of_runs runs listed
    · cases listed

theorem mem_publishes_of_forwardedPortsOf {vm : PlannedVM} {port : ResolvedPort}
    (listed : port ∈ forwardedPortsOf (profileBySlug services) vm.reportGuest) :
    (port.proto, port.port) ∈ vm.publishes services := by
  unfold forwardedPortsOf at listed
  split at listed
  · cases listed
  · rename_i game profile runs
    split at listed
    · exact mem_publishes_of_runs runs (List.mem_filter.mp listed).1
    · cases listed

theorem placed_reportInput {plan : Plan} {placed : ReportNode × ReportGuest}
    (listed : placed ∈ plan.reportInput.placed) :
    ∃ vm ∈ plan.servers, placed.2 = vm.reportGuest := by
  rcases List.mem_flatMap.mp listed with ⟨host, member, guests⟩
  rcases List.mem_map.mp member with ⟨node, planned, rfl⟩
  rcases List.mem_map.mp guests with ⟨guest, here, rfl⟩
  rcases List.mem_map.mp here with ⟨vm, own, rfl⟩
  exact ⟨vm, List.mem_flatMap.mpr ⟨node, planned, own⟩, rfl⟩

/-- Keys of published ports have one owner each where no two servers publish the same port. -/
theorem agree_of_publishApart {plan : Plan} (apart : PublishApart services plan.servers)
    {entries : ReportNode × ReportGuest → List (Gaming.PortKey × String)}
    (published : ∀ placed ∈ plan.reportInput.placed, ∀ vm : PlannedVM, placed.2 = vm.reportGuest →
      ∀ entry ∈ entries placed, entry.2 = vm.name ∧
        (entry.1.proto, entry.1.port) ∈ vm.publishes services) :
    Agree (plan.reportInput.placed.flatMap entries) := by
  by_contra disagree
  rcases Booking.not_agree_flatMap_iff.mp disagree with
    ⟨left, leftListed, right, rightListed, entry, entryOf, other, otherOf, same, different⟩
  rcases placed_reportInput leftListed with ⟨vm, planned, guest⟩
  rcases placed_reportInput rightListed with ⟨vm', planned', guest'⟩
  rcases published left leftListed vm guest entry entryOf with ⟨owner, port⟩
  rcases published right rightListed vm' guest' other otherOf with ⟨owner', port'⟩
  have names : vm ≠ vm' := by
    rintro rfl
    exact different (owner.trans owner'.symm)
  have symmetric : Std.Symm fun left right : PlannedVM =>
      ∀ port ∈ left.publishes services, port ∉ right.publishes services :=
    ⟨fun _ _ apart port here there => apart port there here⟩
  rw [← same] at port'
  exact apart.forall planned planned' names _ port port'

theorem no_conflict_of_publishApart {plan : Plan} (apart : PublishApart services plan.servers) :
    ¬(computeReport (profileBySlug services) plan.reportInput).lists "host_port_conflict" ∧
      ¬(computeReport (profileBySlug services) plan.reportInput).lists "port_conflict" := by
  have checked := Gaming.checked_checkServers (profileBySlug services) plan.reportInput
  constructor
  · intro conflict
    refine checked.hosts.clashed_iff.mp conflict (agree_of_publishApart apart ?_)
    intro placed _ vm guest entry listed
    unfold hostEntries at listed
    rw [guest] at listed
    rcases List.mem_map.mp listed with ⟨port, member, rfl⟩
    exact ⟨rfl, mem_publishes_of_hostPortsOf member⟩
  · intro conflict
    refine checked.routers.clashed_iff.mp conflict (agree_of_publishApart apart ?_)
    intro placed _ vm guest entry listed
    unfold forwardEntries at listed
    split at listed
    · rw [guest] at listed
      rcases List.mem_map.mp listed with ⟨port, member, rfl⟩
      exact ⟨rfl, mem_publishes_of_forwardedPortsOf member⟩
    · cases listed

/-! ## Turns -/

theorem gameService_game {slug : String} {service : CatalogService}
    (found : gameService services slug = some service) :
    ∃ profile, service.game = some profile ∧ profile.slug = slug := by
  have named := List.find?_some found
  rw [Option.any_eq_true] at named
  rcases named with ⟨profile, game, same⟩
  exact ⟨profile, game, of_decide_eq_true same⟩

theorem gamePorts_eq_nil {slug : String} (missing : gameService services slug = none) :
    gamePorts services slug = [] := by
  unfold gamePorts profileBySlug
  rw [missing]
  rfl

/-- The table of the next offsets after some games. -/
def Deals (used : List (String × Int)) (before : List String) : Prop :=
  ∀ slug, (used.lookup slug).getD 0 = before.count slug

theorem deals_nil : Deals [] [] := fun _ => rfl

theorem Deals.next {used : List (String × Int)} {before : List String} (deals : Deals used before)
    (slug : String) :
    (nextPortOffset used slug).1 = before.count slug ∧
      Deals (nextPortOffset used slug).2 (slug :: before) := by
  refine ⟨deals slug, fun other => ?_⟩
  unfold nextPortOffset
  dsimp only
  rw [Table.lookup_set, deals slug, List.count_cons]
  by_cases same : other = slug
  · subst same
    simp
  · rw [if_neg same, deals other]
    simp [Ne.symm same]

/-- The games of the catalog among the chosen ones. -/
def inCatalog (services : List CatalogService) (slugs : List String) : List String :=
  slugs.filter fun slug => (gameService services slug).isSome

theorem inCatalog_cons_none {slug : String} (missing : gameService services slug = none)
    (rest : List String) : inCatalog services (slug :: rest) = inCatalog services rest := by
  unfold inCatalog
  rw [List.filter_cons_of_neg]
  rw [missing]
  exact Bool.false_ne_true

theorem inCatalog_cons_some {slug : String} {service : CatalogService}
    (found : gameService services slug = some service) (rest : List String) :
    inCatalog services (slug :: rest) = slug :: inCatalog services rest := by
  unfold inCatalog
  rw [List.filter_cons_of_pos]
  rw [found]
  rfl

@[simp]
theorem key_gameServerVM (id : String) (service : CatalogService) (profile : GameProfile)
    (players : Option Int) (exposure : String) (offset : Int) :
    (gameServerVM id service profile players exposure offset).key = (profile.slug, offset) :=
  rfl

def atTurn (entry : String × Nat) : String × Int := (entry.1, entry.2)

theorem chosenServers_keys (ids : Ids) (exposure : String) (games : List ChosenGame)
    {used : List (String × Int)} {before : List String} (deals : Deals used before) (count : Nat) :
    (chosenServers ids services exposure used count games).map PlannedVM.key =
      (turnsFrom before (inCatalog services (games.map ChosenGame.slug))).map atTurn := by
  induction games generalizing used before count with
  | nil => rfl
  | cons game rest induction =>
      unfold chosenServers
      rw [List.map_cons]
      cases found : gameService services game.slug with
      | none =>
          rw [inCatalog_cons_none found]
          exact induction deals count
      | some service =>
          rcases gameService_game found with ⟨profile, isGame, named⟩
          rcases deals.next game.slug with ⟨offset, next⟩
          rw [inCatalog_cons_some found]
          dsimp only
          rw [isGame, List.map_cons, turnsFrom, List.map_cons, induction next (count + 1),
            key_gameServerVM, named, offset]
          rfl

theorem localServers_keys (ids : Ids) (answers : LanPartyAnswers) (slugs : List String)
    {used : List (String × Int)} {before : List String} (deals : Deals used before) (count : Nat) :
    (localServers ids answers services used count slugs).map PlannedVM.key =
      (turnsFrom before (inCatalog services slugs)).map atTurn := by
  induction slugs generalizing used before count with
  | nil => rfl
  | cons slug rest induction =>
      unfold localServers
      cases found : gameService services slug with
      | none =>
          rw [inCatalog_cons_none found]
          exact induction deals count
      | some service =>
          rcases gameService_game found with ⟨profile, isGame, named⟩
          rcases deals.next slug with ⟨offset, next⟩
          rw [inCatalog_cons_some found]
          dsimp only
          rw [isGame, List.map_cons, turnsFrom, List.map_cons, induction next (count + 1),
            key_gameServerVM, named, offset]
          rfl

/-- The server beside the chosen games, with the ports it always has. -/
def aloneKeys (services : List CatalogService) (alone : Option String) : List (String × Int) :=
  (inCatalog services alone.toList).map fun slug => (slug, 0)

theorem aloneKeys_of_missing {slug : String} (missing : gameService services slug = none) :
    aloneKeys services (some slug) = [] := by
  unfold aloneKeys
  rw [Option.toList_some, inCatalog_cons_none missing]
  rfl

theorem aloneKeys_of_found {slug : String} {service : CatalogService}
    (found : gameService services slug = some service) :
    aloneKeys services (some slug) = [(slug, 0)] := by
  unfold aloneKeys
  rw [Option.toList_some, inCatalog_cons_some found]
  rfl

theorem voiceServer_keys (ids : Ids) (exposure : String) (answers : GameServerAnswers) :
    (voiceServer ids services exposure answers).map PlannedVM.key =
      aloneKeys services (if answers.voice then some "mumble" else none) := by
  unfold voiceServer
  split
  · cases found : gameService services "mumble" with
    | none => exact (aloneKeys_of_missing found).symm
    | some service =>
        rcases gameService_game found with ⟨profile, isGame, named⟩
        rw [aloneKeys_of_found found]
        dsimp only
        rw [isGame, List.map_cons, key_gameServerVM, named]
        rfl
  · rfl

theorem downloadCache_keys (ids : Ids) (answers : LanPartyAnswers) :
    (downloadCache ids answers services).map PlannedVM.key =
      aloneKeys services (if answers.lancache then some "lancache" else none) := by
  unfold downloadCache
  split
  · cases found : gameService services "lancache" with
    | none => exact (aloneKeys_of_missing found).symm
    | some service =>
        rcases gameService_game found with ⟨profile, isGame, named⟩
        rw [aloneKeys_of_found found]
        dsimp only
        rw [isGame, List.map_cons, key_gameServerVM, named]
        rfl
  · rfl

/-! ## Which plans clash -/

/-- Of two ports of one protocol the lower one lies so far below the upper one that its game,
which moves up by one each time it is chosen again, does not reach it. -/
def FarEnough (services : List CatalogService) (slugs : List String) (alone : Option String) :
    Prop :=
  Spaced (gamePorts services) slugs ∧
    ∀ other ∈ alone, ∀ slug ∈ slugs, ∀ port ∈ gamePorts services slug,
      ∀ fixed ∈ gamePorts services other, port.1 = fixed.1 → port.2 ≤ fixed.2 →
        (slugs.count slug : Int) ≤ fixed.2 - port.2

theorem gamePorts_of_dropped (slug : String)
    (dropped : (gameService services slug).isSome = false) : gamePorts services slug = [] :=
  gamePorts_eq_nil (Option.not_isSome_iff_eq_none.mp (Bool.eq_false_iff.mp dropped))

theorem apartAt_atTurn_iff (slugs : List String) (other : String) :
    (∀ entry ∈ turns (inCatalog services slugs), ApartAt services (atTurn entry) (other, 0)) ↔
      ∀ slug ∈ slugs, ∀ port ∈ gamePorts services slug, ∀ fixed ∈ gamePorts services other,
        port.1 = fixed.1 → port.2 ≤ fixed.2 → (slugs.count slug : Int) ≤ fixed.2 - port.2 := by
  unfold inCatalog
  rw [← Turns.forall_apart_filter_iff gamePorts_of_dropped slugs (gamePorts services other)]
  refine forall₂_congr fun entry _ => ?_
  unfold ApartAt atTurn
  simp only [add_zero]

theorem pairwise_keys_iff (slugs : List String) (alone : Option String) :
    ((turns (inCatalog services slugs)).map atTurn ++ aloneKeys services alone).Pairwise
        (ApartAt services) ↔
      FarEnough services slugs alone := by
  have spaced : (turns (inCatalog services slugs)).Pairwise
      (fun left right => ApartAt services (atTurn left) (atTurn right)) ↔
        Spaced (gamePorts services) slugs :=
    (Turns.pairwise_apart_iff (gamePorts services) _).trans
      (Turns.spaced_filter_iff gamePorts_of_dropped slugs)
  rw [List.pairwise_append, List.pairwise_map, spaced, FarEnough]
  refine and_congr_right fun _ => ?_
  rw [List.forall_mem_map]
  cases alone with
  | none => simp [aloneKeys, inCatalog]
  | some other =>
      simp only [Option.mem_def, Option.some.injEq, forall_eq']
      rw [← apartAt_atTurn_iff slugs other]
      cases found : gameService services other with
      | none =>
          have silent := gamePorts_eq_nil found
          simp [aloneKeys_of_missing found, ApartAt, silent]
      | some service => simp [aloneKeys_of_found found]

theorem PublishApart.prop_iff {plan : Plan} {condition : Prop}
    (apart : PublishApart services plan.servers ↔ condition) :
    plan.PortsDoNotClash services ↔ (CanPublishApart services plan.servers → condition) := by
  refine imp_congr_right fun _ => ?_
  rw [← apart]
  exact ⟨And.left, fun published => ⟨published, no_conflict_of_publishApart published⟩⟩

theorem servers_buildGameServerPlan (ids : Ids) (answers : GameServerAnswers)
    (services : List CatalogService) :
    (buildGameServerPlan ids answers services).servers = plannedServers ids answers services := by
  have host : (plannedHost ids answers services).vms = plannedServers ids answers services := by
    unfold plannedHost
    dsimp only
    split <;> rfl
  unfold Plan.servers buildGameServerPlan
  simp [homeModem, homeRouter, host]

@[simp]
theorem vms_withCircuit (assigned : List ((PlannedNode × Nat) × String))
    (entry : PlannedNode × Nat) : (withCircuit assigned entry).vms = entry.1.vms := by
  unfold withCircuit
  split <;> rfl

theorem vms_withCircuits (circuits : List Gaming.Circuit) (nodes : List PlannedNode) :
    (withCircuits circuits nodes).map PlannedNode.vms = nodes.map PlannedNode.vms := by
  have same : PlannedNode.vms ∘ withCircuit (assignCircuits circuits nodes) =
      PlannedNode.vms ∘ Prod.fst := funext (vms_withCircuit _)
  unfold withCircuits
  rw [List.map_map, same, ← List.map_map, List.zipIdx_map_fst]

theorem servers_buildLanPartyPlan (ids : Ids) (answers : LanPartyAnswers)
    (services : List CatalogService) :
    (buildLanPartyPlan ids answers services).servers = partyServers ids answers services := by
  have host : ((if (partyServers ids answers services).isEmpty then []
      else [(gameHost ids.host "Party Server" (partyServers ids answers services), true)]).flatMap
        fun entry : PlannedNode × Bool => entry.1.vms) = partyServers ids answers services := by
    split
    · rename_i nothing
      exact (List.isEmpty_iff.mp nothing).symm
    · exact List.append_nil _
  have alone : ((if answers.wifi then [(partyAccessPoint ids answers, false)] else []).flatMap
      fun entry : PlannedNode × Bool => entry.1.vms) = [] := by
    split <;> rfl
  have idle : ∀ {Entry : Type} (entries : List Entry),
      entries.flatMap (fun _ => ([] : List PlannedVM)) = [] := by simp
  unfold Plan.servers buildLanPartyPlan
  rw [List.flatMap_def, vms_withCircuits, ← List.flatMap_def]
  unfold partyNodes pluggedIntoCore
  rw [List.flatMap_cons, List.flatMap_cons, List.flatMap_map, List.flatMap_append,
    List.flatMap_append, List.flatMap_append, alone, host]
  simp [partyRouter, coreSwitch, lanTable, partyConsole, List.flatMap_map, idle]

/-- Where the servers can be kept apart, they are exactly where the ports of the chosen games
lie far enough apart for the turns they take. -/
theorem planned_portsDoNotClash_iff (ids : Ids) (services : List CatalogService) :
    (∀ answers : GameServerAnswers,
      (buildGameServerPlan ids answers services).PortsDoNotClash services ↔
        (CanPublishApart services (plannedServers ids answers services) →
          FarEnough services ((answers.games.take maxPlannedGames).map ChosenGame.slug)
            (if answers.voice then some "mumble" else none))) ∧
    ∀ answers : LanPartyAnswers,
      (buildLanPartyPlan ids answers services).PortsDoNotClash services ↔
        (CanPublishApart services (partyServers ids answers services) →
          FarEnough services answers.games (if answers.lancache then some "lancache" else none)) := by
  constructor
  · intro answers
    have keys : (plannedServers ids answers services).map PlannedVM.key =
        (turns (inCatalog services ((answers.games.take maxPlannedGames).map ChosenGame.slug))).map
            atTurn ++
          aloneKeys services (if answers.voice then some "mumble" else none) := by
      unfold plannedServers
      rw [List.map_append, chosenServers_keys ids _ _ deals_nil, voiceServer_keys]
      rfl
    rw [← servers_buildGameServerPlan]
    refine PublishApart.prop_iff ?_
    rw [servers_buildGameServerPlan, publishApart_iff, keys, pairwise_keys_iff]
  · intro answers
    have keys : (partyServers ids answers services).map PlannedVM.key =
        (turns (inCatalog services answers.games)).map atTurn ++
          aloneKeys services (if answers.lancache then some "lancache" else none) := by
      unfold partyServers
      rw [List.map_append, localServers_keys ids answers _ deals_nil, downloadCache_keys]
      rfl
    rw [← servers_buildLanPartyPlan]
    refine PublishApart.prop_iff ?_
    rw [servers_buildLanPartyPlan, publishApart_iff, keys, pairwise_keys_iff]

/-! ## A game that listens on two ports in a row -/

def sourceServer : GameProfile where
  slug := "source"
  name := "Source"
  defaultPlayers := 8
  baseRAMMB := 1024
  ramMBPerPlayer := 64
  baseCPUCores := 1
  cpuCoresPerPlayer := 0
  ports :=
    [{ name := "Game", port := 27015, proto := .udp, forward := true },
      { name := "Query", port := 27016, proto := .udp, forward := true }]

def sourceCatalog : List CatalogService :=
  [{ id := "source", name := "Source Server", game := some sourceServer }]

def plainIds : Ids where
  server index := "server-" ++ toString index
  modem := "modem"
  router := "router"
  core := "core"
  table index := "table-" ++ toString index
  accessPoint := "ap"
  console index := "console-" ++ toString index
  host := "host"

def twoSourceServers : GameServerAnswers where
  name := "Friends"
  games := [⟨"source", 8⟩, ⟨"source", 8⟩]
  location := .home
  exposure := "port_forward"
  voice := false

/-- The second server takes the query port of the first, where an offset of two would do. -/
theorem second_server_takes_the_query_port :
    ¬∀ (ids : Ids) (answers : GameServerAnswers) (services : List CatalogService),
      (buildGameServerPlan ids answers services).PortsDoNotClash services := by
  intro claimed
  have possible : CanPublishApart sourceCatalog
      (buildGameServerPlan plainIds twoSourceServers sourceCatalog).servers := by
    rw [servers_buildGameServerPlan]
    exact ⟨[0, 2], by decide, by decide, by decide⟩
  have apart := (claimed plainIds twoSourceServers sourceCatalog possible).1
  rw [servers_buildGameServerPlan] at apart
  revert apart
  decide

end HomelabBuilder.Planner
