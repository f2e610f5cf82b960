import HomelabBuilder.Services.ExportedServices

/-! # Ports and addresses of the exported file

Which services publish one port of the host, and which addresses lie in the network
the file declares.
-/

namespace HomelabBuilder.Services

open Net (cut decimal parseAddr parseIPv4Fields formatIPv4 netParseCIDR to4 mapped)

/-! ## Addresses -/

/-- The range of an IPv4 network holds the address. -/
def InSubnet (subnet address : String) : Prop :=
  ∃ network mask base bits ip, netParseCIDR subnet = some (network, mask) ∧
    to4 network = some base ∧ to4 mask = some bits ∧ parseIPv4Fields address.toList = some ip ∧
      base ≤ ip ∧ ip ≤ base + (2 ^ 32 - 1 - bits)

theorem not_mem_splitOn {separator : Char} : ∀ {text : List Char},
    ∀ part ∈ text.splitOn separator, separator ∉ part
  | [], part, listed => by
      rw [List.splitOn_nil, List.mem_singleton] at listed
      rw [listed]
      exact List.not_mem_nil
  | char :: rest, part, listed => by
      rw [List.splitOn_cons_eq_if_modifyHead] at listed
      split at listed
      · rcases List.mem_cons.mp listed with rfl | later
        · exact List.not_mem_nil
        · exact not_mem_splitOn part later
      · rename_i different
        cases split : rest.splitOn separator with
        | nil => exact absurd split (List.splitOn_ne_nil _ _)
        | cons first more =>
            rw [split, List.modifyHead_cons] at listed
            rcases List.mem_cons.mp listed with rfl | later
            · have clean := not_mem_splitOn first (split ▸ List.mem_cons_self)
              rw [List.mem_cons, not_or]
              exact ⟨fun same => different (by rw [same]; exact beq_self_eq_true char), clean⟩
            · exact not_mem_splitOn part (split ▸ List.mem_cons_of_mem _ later)

def dotted (first second third fourth : List Char) : List Char :=
  first ++ '.' :: (second ++ '.' :: (third ++ '.' :: fourth))

theorem splitOn_dotted {first second third fourth : List Char} (firstClean : '.' ∉ first)
    (secondClean : '.' ∉ second) (thirdClean : '.' ∉ third) (fourthClean : '.' ∉ fourth) :
    (dotted first second third fourth).splitOn '.' = [first, second, third, fourth] := by
  rw [dotted, List.splitOn_append_cons_self_of_not_mem firstClean,
    List.splitOn_append_cons_self_of_not_mem secondClean,
    List.splitOn_append_cons_self_of_not_mem thirdClean, List.splitOn_eq_singleton fourthClean]

def byteText (address place : Nat) : List Char := (toString (address / place % 256)).toList

theorem toList_formatIPv4 (address : Nat) :
    (formatIPv4 address).toList =
      dotted (byteText address (2 ^ 24)) (byteText address (2 ^ 16)) (byteText address (2 ^ 8))
        (byteText address 1) := by
  have dot : (toString ".").toList = ['.'] := rfl
  simp [formatIPv4, String.toList_append, dot, dotted, byteText]

theorem dot_not_mem_byteText (address place : Nat) : '.' ∉ byteText address place :=
  fun listed => absurd (isDigit_toString listed) (by decide)

theorem splitOn_formatIPv4 (address : Nat) :
    (formatIPv4 address).toList.splitOn '.' =
      [byteText address (2 ^ 24), byteText address (2 ^ 16), byteText address (2 ^ 8),
        byteText address 1] := by
  rw [toList_formatIPv4]
  exact splitOn_dotted (dot_not_mem_byteText _ _) (dot_not_mem_byteText _ _)
    (dot_not_mem_byteText _ _) (dot_not_mem_byteText _ _)

theorem networkAround_of_parse {ip : String} {address : Nat}
    (read : parseIPv4Fields ip.toList = some address) :
    networkAround ip = some (String.ofList (dotted (byteText address (2 ^ 24))
      (byteText address (2 ^ 16)) (byteText address (2 ^ 8)) "0/24".toList)) := by
  have spelled := (Net.formatIPv4_of_parseIPv4Fields read).2
  have joined : ∀ first second third : List Char,
      first ++ '.' :: second ++ '.' :: third ++ ".0/24".toList =
        dotted first second third "0/24".toList := by
    intro first second third
    simp [dotted]
  rw [networkAround, ← spelled, splitOn_formatIPv4]
  dsimp only
  rw [joined]

theorem netParseCIDR_of_parse {text : String} {body : List Char} {address : Nat}
    (written : text.toList = body ++ '/' :: ['2', '4'])
    (read : parseAddr body = some (.v4 address)) :
    netParseCIDR text = some (mapped (address / 2 ^ 8 * 2 ^ 8), mapped (2 ^ 32 - 2 ^ 8)) := by
  have parts := Net.cut_append ['2', '4'] (Net.slash_not_mem_of_parseAddr read)
  have length : decimal ['2', '4'] = some 24 := by decide
  rw [netParseCIDR, written, parts]
  simp only [Option.bind_eq_bind, Option.bind_some, read, length, Net.Addr.bitLen, Net.cidrMask]
  norm_num

theorem parse_of_netParseCIDR {text : String} {body : List Char} {network mask base : Nat}
    (written : text.toList = body ++ '/' :: ['2', '4'])
    (read : netParseCIDR text = some (network, mask)) (low : to4 network = some base) :
    ∃ address, parseIPv4Fields body = some address ∧ network = mapped (address / 2 ^ 8 * 2 ^ 8) ∧
      mask = mapped (2 ^ 32 - 2 ^ 8) := by
  have length : decimal ['2', '4'] = some 24 := by decide
  by_cases slash : '/' ∈ body
  · -- What follows the first slash is no length then.
    rcases List.eq_append_cons_of_mem slash with ⟨before, after, split, fresh⟩
    have parts : cut '/' text.toList = some (before, after ++ '/' :: ['2', '4']) := by
      rw [written, split, List.append_assoc, List.cons_append]
      exact Net.cut_append _ fresh
    have noLength : decimal (after ++ '/' :: ['2', '4']) = none := by
      rw [decimal, if_neg]
      rintro ⟨_, digits⟩
      have digit := List.all_eq_true.mp digits '/' (by simp)
      exact absurd digit (by decide)
    rw [netParseCIDR, parts] at read
    simp only [Option.bind_eq_bind, Option.bind_some, noLength, Option.bind_none,
      Option.bind_fun_none, reduceCtorEq] at read
  · have parts : cut '/' text.toList = some (body, ['2', '4']) := by
      rw [written]
      exact Net.cut_append _ slash
    cases parsed : parseAddr body with
    | none =>
        rw [netParseCIDR, parts] at read
        simp [parsed] at read
    | some addr =>
        cases addr with
        | v4 address =>
            rw [netParseCIDR_of_parse written parsed] at read
            have fields : parseIPv4Fields body = some address := by
              unfold parseAddr at parsed
              split at parsed
              · rcases Option.map_eq_some_iff.mp parsed with ⟨value, fields, same⟩
                cases same
                exact fields
              · rcases Option.map_eq_some_iff.mp parsed with ⟨_, _, same⟩
                cases same
              · cases parsed
            cases read
            exact ⟨address, fields, rfl, rfl⟩
        | v6 address =>
            rw [netParseCIDR, parts] at read
            simp only [Option.bind_eq_bind, Option.bind_some, parsed, length, Net.Addr.bitLen]
              at read
            norm_num at read
            rw [← read.1, to4] at low
            split at low
            · omega
            · cases low

/-- An address lies in a network that was taken from another one where both have the
same first three parts. -/
theorem inSubnet_iff {source subnet ip : String} (around : networkAround source = some subnet) :
    InSubnet subnet ip ↔
      (parseIPv4Fields ip.toList).isSome ∧ networkAround ip = some subnet := by
  have shape : ∃ first second third, subnet.toList = dotted first second third "0/24".toList ∧
      '.' ∉ first ∧ '.' ∉ second ∧ '.' ∉ third := by
    rw [networkAround] at around
    split at around
    · rename_i first second third last split
      cases around
      have clean := fun part (listed : part ∈ source.toList.splitOn '.') =>
        not_mem_splitOn part listed
      rw [split] at clean
      refine ⟨first, second, third, ?_, clean first (by simp), clean second (by simp),
        clean third (by simp)⟩
      rw [String.toList_ofList]
      simp [dotted]
    · cases around
  rcases shape with ⟨first, second, third, text, firstClean, secondClean, thirdClean⟩
  have written : subnet.toList = dotted first second third ['0'] ++ '/' :: ['2', '4'] := by
    rw [text]
    simp [dotted]
  have mask4 : to4 (mapped (2 ^ 32 - 2 ^ 8)) = some (2 ^ 32 - 2 ^ 8) := by decide
  constructor
  · rintro ⟨network, mask, base, bits, address, read, low, maskLow, parsed, least, most⟩
    rcases parse_of_netParseCIDR written read low with ⟨value, fields, rfl, rfl⟩
    rcases Net.formatIPv4_of_parseIPv4Fields fields with ⟨bound, spelled⟩
    have networkBound : value / 2 ^ 8 * 2 ^ 8 < 2 ^ 32 := by omega
    rw [Net.to4_mapped _ networkBound] at low
    rw [mask4] at maskLow
    cases low
    cases maskLow
    have parts := congrArg (fun text : List Char => text.splitOn '.') spelled
    simp only [splitOn_formatIPv4,
      splitOn_dotted firstClean secondClean thirdClean (show '.' ∉ ['0'] by decide),
      List.cons.injEq] at parts
    refine ⟨by rw [parsed]; rfl, ?_⟩
    have same : ∀ place ∈ [2 ^ 24, 2 ^ 16, 2 ^ 8], byteText address place = byteText value place := by
      intro place listed
      have bytes : address / place % 256 = value / place % 256 := by
        simp only [List.mem_cons, List.not_mem_nil, or_false] at listed
        rcases listed with rfl | rfl | rfl <;> omega
      rw [byteText, byteText, bytes]
    rw [networkAround_of_parse parsed, same _ (by simp), same _ (by simp), same _ (by simp),
      parts.1, parts.2.1, parts.2.2.1, ← text, String.ofList_toList]
  · rintro ⟨readable, around⟩
    rcases Option.isSome_iff_exists.mp readable with ⟨address, parsed⟩
    have bound := (Net.formatIPv4_of_parseIPv4Fields parsed).1
    rw [networkAround_of_parse parsed, Option.some.injEq] at around
    have own : subnet.toList =
        (formatIPv4 (address / 2 ^ 8 * 2 ^ 8)).toList ++ '/' :: ['2', '4'] := by
      have bytes : ∀ place ∈ [2 ^ 24, 2 ^ 16, 2 ^ 8],
          byteText (address / 2 ^ 8 * 2 ^ 8) place = byteText address place := by
        intro place listed
        have same : address / 2 ^ 8 * 2 ^ 8 / place % 256 = address / place % 256 := by
          simp only [List.mem_cons, List.not_mem_nil, or_false] at listed
          rcases listed with rfl | rfl | rfl <;> omega
        rw [byteText, byteText, same]
      have last : byteText (address / 2 ^ 8 * 2 ^ 8) 1 = ['0'] := by
        have zero : address / 2 ^ 8 * 2 ^ 8 / 1 % 256 = 0 := by omega
        rw [byteText, zero]
        rfl
      rw [← around, String.toList_ofList, toList_formatIPv4, bytes _ (by simp), bytes _ (by simp),
        bytes _ (by simp), last]
      simp [dotted]
    have small : address / 2 ^ 8 * 2 ^ 8 < 2 ^ 32 := by omega
    have network := netParseCIDR_of_parse own (Net.parseAddr_formatIPv4 _ small)
    have whole : address / 2 ^ 8 * 2 ^ 8 / 2 ^ 8 * 2 ^ 8 = address / 2 ^ 8 * 2 ^ 8 := by omega
    rw [whole] at network
    exact ⟨_, _, _, _, address, network, Net.to4_mapped _ small, mask4, parsed, by omega, by omega⟩

/-! ## What is exported -/

/-- The known names of the containers that become services, in their order. -/
def exportedName (vm : VirtualMachineRow) : Option String :=
  if isGameGuest vm then none
  else if vm.type ≠ "container" ∧ vm.type ≠ "lxc" then none
  else knownName vm.name

def exportedNames (nodes : List LoadedNode) : List String :=
  nodes.flatMap fun node => node.virtualMachines.filterMap exportedName

/-- The addresses the services of some guests have. -/
def pinnedBy (vms : List VirtualMachineRow) : List String :=
  (vms.filter fun vm => (exportedName vm).isSome).filterMap fun vm => nonempty vm.ip

def pinnedAddresses (nodes : List LoadedNode) : List String :=
  nodes.flatMap fun node => pinnedBy node.virtualMachines

/-- The addresses the network is taken from: those of routers, and those pinned. -/
def networkSources (nodes : List LoadedNode) : List String :=
  nodes.flatMap fun node =>
    (if node.type = "router" then (nonempty node.ip).toList else []) ++
      pinnedBy node.virtualMachines

/-- The network of the first address that has one. -/
def declaredSubnet (nodes : List LoadedNode) : String :=
  ((networkSources nodes).findSome? networkAround).getD defaultSubnet

theorem exportConfig_eq (vm : VirtualMachineRow) :
    exportConfig vm = (exportedName vm).bind fun known => serviceImages.lookup known := by
  rw [exportConfig, exportedName]
  split
  · rfl
  · split <;> rfl

theorem lookup_of_knownName {name known : String} (found : knownName name = some known) :
    ∃ config, (known, config) ∈ serviceImages ∧ serviceImages.lookup known = some config := by
  have names : (serviceImages.map Prod.fst).Nodup := by decide
  rw [knownName] at found
  split at found
  · cases found
  · rcases List.mem_map.mp (List.mem_of_find?_eq_some found) with ⟨⟨_, config⟩, listed, rfl⟩
    exact ⟨config, listed, Table.lookup_of_mem names listed⟩

theorem lookup_of_exportedName {vm : VirtualMachineRow} {known : String}
    (found : exportedName vm = some known) :
    ∃ config, (known, config) ∈ serviceImages ∧ serviceImages.lookup known = some config := by
  rw [exportedName] at found
  split at found
  · cases found
  split at found
  · cases found
  · exact lookup_of_knownName found

theorem exportGuest_eq (state : ExportState) (vm : VirtualMachineRow) :
    match exportedName vm with
    | none => exportGuest state vm = state
    | some known =>
        ∃ service config, (known, config) ∈ serviceImages ∧
          (exportGuest state vm).services = state.services ++ [service] ∧
          service.ports = config.ports ∧ service.address = nonempty vm.ip ∧
          (exportGuest state vm).subnet =
            state.subnet.or ((nonempty vm.ip).bind networkAround) := by
  rw [exportGuest, exportConfig_eq]
  cases found : exportedName vm with
  | none => rfl
  | some known =>
      rcases lookup_of_exportedName found with ⟨config, listed, known⟩
      dsimp only [Option.bind_some]
      rw [known]
      exact ⟨_, config, listed, rfl, rfl, rfl, rfl⟩

/-- The host's side of a port mapping and its protocol. -/
def publishedPort (mapping : String) : List Char × List Char :=
  (mapping.toList.takeWhile (· ≠ ':'),
    match (mapping.toList.dropWhile (· ≠ '/')).drop 1 with
    | [] => ['t', 'c', 'p']
    | protocol => protocol)

def ExportedService.published (service : ExportedService) : List (List Char × List Char) :=
  service.ports.map publishedPort

def portsOfKnown (known : String) : List (List Char × List Char) :=
  ((serviceImages.lookup known).map fun config => config.ports.map publishedPort).getD []

structure Exported (before after : ExportState) (names addresses sources : List String) :
    Prop where
  ports : after.services.map ExportedService.published =
    before.services.map ExportedService.published ++ names.map portsOfKnown
  addresses : after.services.filterMap ExportedService.address =
    before.services.filterMap ExportedService.address ++ addresses
  subnet : after.subnet = before.subnet.or (sources.findSome? networkAround)

theorem Exported.trans {first second third : ExportState}
    {names addresses sources laterNames laterAddresses laterSources : List String}
    (one : Exported first second names addresses sources)
    (two : Exported second third laterNames laterAddresses laterSources) :
    Exported first third (names ++ laterNames) (addresses ++ laterAddresses)
      (sources ++ laterSources) where
  ports := by rw [two.ports, one.ports, List.map_append, List.append_assoc]
  addresses := by rw [two.addresses, one.addresses, List.append_assoc]
  subnet := by rw [two.subnet, one.subnet, List.findSome?_append, Option.or_assoc]

theorem exported_nothing (state : ExportState) : Exported state state [] [] [] where
  ports := (List.append_nil _).symm
  addresses := (List.append_nil _).symm
  subnet := by rw [List.findSome?_nil, Option.or_none]

theorem exported_exportGuest (state : ExportState) (vm : VirtualMachineRow) :
    Exported state (exportGuest state vm) (exportedName vm).toList (pinnedBy [vm])
      (pinnedBy [vm]) := by
  have added := exportGuest_eq state vm
  cases found : exportedName vm with
  | none =>
      rw [found] at added
      dsimp only at added
      have nothing : pinnedBy [vm] = [] := by
        rw [pinnedBy, List.filter_cons_of_neg (by rw [found]; nofun)]
        rfl
      rw [added, nothing]
      exact exported_nothing state
  | some known =>
      rw [found] at added
      rcases added with ⟨service, config, listed, services, ports, address, subnet⟩
      have pinned : pinnedBy [vm] = (nonempty vm.ip).toList := by
        rw [pinnedBy, List.filter_cons_of_pos (by rw [found]; rfl), List.filter_nil,
          List.filterMap_cons]
        cases nonempty vm.ip <;> rfl
      have names : (serviceImages.map Prod.fst).Nodup := by decide
      have published : service.published = portsOfKnown known := by
        rw [ExportedService.published, portsOfKnown, Table.lookup_of_mem names listed, ports]
        rfl
      constructor
      · rw [services, List.map_append, List.map_singleton, published]
        rfl
      · rw [services, List.filterMap_append, pinned, List.filterMap_cons, address]
        cases nonempty vm.ip <;> rfl
      · rw [subnet, pinned]
        cases nonempty vm.ip with
        | none => rfl
        | some ip =>
            rw [Option.bind_some, Option.toList_some, List.findSome?_cons]
            cases networkAround ip <;> rfl

theorem exported_foldl (vms : List VirtualMachineRow) : ∀ state : ExportState,
    Exported state (vms.foldl exportGuest state) (vms.filterMap exportedName) (pinnedBy vms)
      (pinnedBy vms) := by
  induction vms with
  | nil => exact exported_nothing
  | cons vm rest induction =>
      intro state
      have both := (exported_exportGuest state vm).trans (induction (exportGuest state vm))
      have names : (vm :: rest).filterMap exportedName =
          (exportedName vm).toList ++ rest.filterMap exportedName := by
        rw [List.filterMap_cons]
        cases exportedName vm <;> rfl
      have pinned : pinnedBy (vm :: rest) = pinnedBy [vm] ++ pinnedBy rest := by
        have split : vm :: rest = [vm] ++ rest := rfl
        rw [split, pinnedBy, List.filter_append, List.filterMap_append]
        rfl
      rw [names, pinned]
      exact both

theorem exported_exportNode (state : ExportState) (node : LoadedNode) :
    Exported state (exportNode state node) (node.virtualMachines.filterMap exportedName)
      (pinnedBy node.virtualMachines)
      ((if node.type = "router" then (nonempty node.ip).toList else []) ++
        pinnedBy node.virtualMachines) := by
  rw [exportNode]
  split
  · have routed : Exported state
        { state with subnet := state.subnet.or ((nonempty node.ip).bind networkAround) } [] []
        (nonempty node.ip).toList := by
      refine ⟨(List.append_nil _).symm, (List.append_nil _).symm, ?_⟩
      cases nonempty node.ip with
      | none => rfl
      | some ip =>
          rw [Option.bind_some, Option.toList_some, List.findSome?_cons]
          cases networkAround ip <;> rfl
    exact routed.trans (exported_foldl node.virtualMachines _)
  · exact exported_foldl node.virtualMachines state

theorem exported_nodes (nodes : List LoadedNode) : ∀ state : ExportState,
    Exported state (nodes.foldl exportNode state) (exportedNames nodes) (pinnedAddresses nodes)
      (networkSources nodes) := by
  induction nodes with
  | nil => exact exported_nothing
  | cons node rest induction =>
      intro state
      exact (exported_exportNode state node).trans (induction (exportNode state node))

/-! ## Deployable files -/

/-- Keys and published ports are used once, and pinned addresses lie in the network. -/
structure ExportedCompose.IsDeployable (file : ExportedCompose) : Prop where
  keys : (file.services.map ExportedService.key).Nodup
  ports : file.services.Pairwise fun left right =>
    ∀ port ∈ left.published, port ∉ right.published
  addresses : ∀ service ∈ file.services, ∀ address ∈ service.address,
    ∃ subnet ∈ file.subnet, InSubnet subnet address

/-- Known services that publish one port of the host. -/
def portGroups : List (List String) :=
  [["qBittorrent", "Traefik", "Nextcloud", "Vaultwarden"],
   ["Nginx Proxy Manager", "Traefik", "Pi-hole", "AdGuard Home"],
   ["Grafana", "Gitea", "AdGuard Home"]]

def PortsApart (left right : String) : Prop :=
  left ≠ right ∧ ∀ group ∈ portGroups, ¬(left ∈ group ∧ right ∈ group)

instance (left right : String) : Decidable (PortsApart left right) :=
  inferInstanceAs (Decidable (_ ∧ _))

theorem portsApart_serviceImages : ∀ left ∈ serviceImages, ∀ right ∈ serviceImages,
    (∀ port ∈ left.2.ports.map publishedPort, port ∉ right.2.ports.map publishedPort) ↔
      PortsApart left.1 right.1 := by
  decide

theorem known_of_exportedNames {nodes : List LoadedNode} {known : String}
    (listed : known ∈ exportedNames nodes) :
    ∃ config, (known, config) ∈ serviceImages ∧
      portsOfKnown known = config.ports.map publishedPort := by
  rcases List.mem_flatMap.mp listed with ⟨node, _, named⟩
  rcases List.mem_filterMap.mp named with ⟨vm, _, found⟩
  rcases lookup_of_exportedName found with ⟨config, inTable, read⟩
  exact ⟨config, inTable, by rw [portsOfKnown, read]; rfl⟩

theorem pairwise_published_iff (nodes : List LoadedNode) :
    ((dockerCompose nodes).services.Pairwise fun left right =>
      ∀ port ∈ left.published, port ∉ right.published) ↔
        (exportedNames nodes).Pairwise PortsApart := by
  have ports : (dockerCompose nodes).services.map ExportedService.published =
      (exportedNames nodes).map portsOfKnown := (exported_nodes nodes {}).ports
  have lists : ((dockerCompose nodes).services.map ExportedService.published).Pairwise
      (fun left right => ∀ port ∈ left, port ∉ right) ↔
        ((exportedNames nodes).map portsOfKnown).Pairwise
          (fun left right => ∀ port ∈ left, port ∉ right) := by
    rw [ports]
  rw [List.pairwise_map, List.pairwise_map] at lists
  rw [lists]
  apply List.Pairwise.iff_of_mem
  intro left right inLeft inRight
  rcases known_of_exportedNames inLeft with ⟨leftConfig, leftListed, leftPorts⟩
  rcases known_of_exportedNames inRight with ⟨rightConfig, rightListed, rightPorts⟩
  rw [leftPorts, rightPorts]
  exact portsApart_serviceImages _ leftListed _ rightListed

theorem exists_declaredSubnet (nodes : List LoadedNode) :
    ∃ source, networkAround source = some (declaredSubnet nodes) := by
  rw [declaredSubnet]
  cases found : (networkSources nodes).findSome? networkAround with
  | none => exact ⟨"192.168.1.0", by decide⟩
  | some subnet =>
      rcases List.exists_of_findSome?_eq_some found with ⟨source, _, around⟩
      exact ⟨source, around⟩

/-- The file is deployable where its containers are of services that publish different
ports and have addresses of the declared network. Its keys are always distinct. -/
theorem dockerCompose_isDeployable_iff (nodes : List LoadedNode) :
    ((dockerCompose nodes).services.map ExportedService.key).Nodup ∧
      ((dockerCompose nodes).IsDeployable ↔
        (exportedNames nodes).Pairwise PortsApart ∧
          ∀ address ∈ pinnedAddresses nodes,
            (parseIPv4Fields address.toList).isSome ∧
              networkAround address = some (declaredSubnet nodes)) := by
  have exported := exported_nodes nodes {}
  have apart := pairwise_published_iff nodes
  have addresses : (dockerCompose nodes).services.filterMap ExportedService.address =
      pinnedAddresses nodes := exported.addresses
  have subnet : ∀ service ∈ (dockerCompose nodes).services,
      (dockerCompose nodes).subnet = some (declaredSubnet nodes) := by
    intro service listed
    have filled : (nodes.foldl exportNode {}).services.isEmpty = false := by
      rw [List.isEmpty_eq_false_iff]
      exact List.ne_nil_of_mem listed
    rw [dockerCompose]
    dsimp only
    rw [filled, if_neg Bool.false_ne_true, exported.subnet, declaredSubnet]
    rfl
  rcases exists_declaredSubnet nodes with ⟨source, around⟩
  have distinct := nodup_dockerCompose nodes
  refine ⟨distinct, ?_⟩
  constructor
  · rintro ⟨_, separate, inside⟩
    refine ⟨apart.mp separate, ?_⟩
    intro address pinned
    rw [← addresses] at pinned
    rcases List.mem_filterMap.mp pinned with ⟨service, listed, given⟩
    rcases inside service listed address given with ⟨network, declared, member⟩
    rw [subnet service listed, Option.mem_some_iff] at declared
    rw [← declared] at member
    exact (inSubnet_iff around).mp member
  · rintro ⟨separate, fitting⟩
    refine ⟨distinct, apart.mpr separate, ?_⟩
    intro service listed address given
    have pinned : address ∈ pinnedAddresses nodes := by
      rw [← addresses]
      exact List.mem_filterMap.mpr ⟨service, listed, given⟩
    exact ⟨declaredSubnet nodes, subnet service listed, (inSubnet_iff around).mpr
      (fitting address pinned)⟩

/-- Two containers of one service have one port, whatever their addresses. -/
theorem two_resolvers_clash :
    ¬(dockerCompose
      [{ id := UUID.numbered 1, buildID := UUID.numbered 0, type := "server", name := "Server"
         virtualMachines :=
          [{ id := UUID.numbered 2, nodeID := UUID.numbered 1, type := "container"
             name := "Pi-hole", ip := "192.168.1.151" },
           { id := UUID.numbered 3, nodeID := UUID.numbered 1, type := "container"
             name := "Pi-hole", ip := "192.168.1.152" }] }]).IsDeployable := by
  intro deployable
  have names := (pairwise_published_iff _).mp deployable.ports
  have same : PortsApart "Pi-hole" "Pi-hole" :=
    List.rel_of_pairwise_cons names (List.mem_singleton.mpr rfl)
  exact same.1 rfl

end HomelabBuilder.Services
