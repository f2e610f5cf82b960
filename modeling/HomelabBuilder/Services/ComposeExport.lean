import Mathlib.Data.List.Infix
import HomelabBuilder.Foundation.Rows
import HomelabBuilder.Services.GamingReport

/-! # The exported compose file

`config_service.go`: one compose file for the containers of all hosts of a build.
Comments of the file are left out.
-/

namespace HomelabBuilder.Services

/-! ## Known services -/

structure ServiceConfig where
  image : String
  ports : List String
  volumes : List String
  env : List String := []

/-- What is known about containers of these names. -/
def serviceImages : List (String × ServiceConfig) :=
  [
    ("Plex",
      { image := "plexinc/pms-docker:latest"
        ports := ["32400:32400"]
        volumes := ["plex_config:/config", "plex_media:/media"]
        env := ["PLEX_CLAIM="] }),
    ("Jellyfin",
      { image := "jellyfin/jellyfin:latest"
        ports := ["8096:8096"]
        volumes := ["jellyfin_config:/config", "jellyfin_media:/media"] }),
    ("Sonarr",
      { image := "linuxserver/sonarr:latest"
        ports := ["8989:8989"]
        volumes := ["sonarr_config:/config", "media:/tv"]
        env := ["PUID=1000", "PGID=1000"] }),
    ("Radarr",
      { image := "linuxserver/radarr:latest"
        ports := ["7878:7878"]
        volumes := ["radarr_config:/config", "media:/movies"]
        env := ["PUID=1000", "PGID=1000"] }),
    ("Prowlarr",
      { image := "linuxserver/prowlarr:latest"
        ports := ["9696:9696"]
        volumes := ["prowlarr_config:/config"]
        env := ["PUID=1000", "PGID=1000"] }),
    ("qBittorrent",
      { image := "linuxserver/qbittorrent:latest"
        ports := ["8080:8080", "6881:6881"]
        volumes := ["qbt_config:/config", "downloads:/downloads"]
        env := ["PUID=1000", "PGID=1000"] }),
    ("Portainer",
      { image := "portainer/portainer-ce:latest"
        ports := ["9000:9000", "9443:9443"]
        volumes := ["/var/run/docker.sock:/var/run/docker.sock", "portainer_data:/data"] }),
    ("Nginx Proxy Manager",
      { image := "jc21/nginx-proxy-manager:latest"
        ports := ["80:80", "443:443", "81:81"]
        volumes := ["npm_data:/data", "npm_letsencrypt:/etc/letsencrypt"] }),
    ("Traefik",
      { image := "traefik:v3.0"
        ports := ["80:80", "443:443", "8080:8080"]
        volumes := ["/var/run/docker.sock:/var/run/docker.sock", "traefik_certs:/certs"] }),
    ("Grafana",
      { image := "grafana/grafana:latest"
        ports := ["3000:3000"]
        volumes := ["grafana_data:/var/lib/grafana"]
        env := ["GF_SECURITY_ADMIN_PASSWORD=changeme"] }),
    ("Prometheus",
      { image := "prom/prometheus:latest"
        ports := ["9090:9090"]
        volumes :=
          ["prometheus_data:/prometheus", "./prometheus.yml:/etc/prometheus/prometheus.yml:ro"] }),
    ("Home Assistant",
      { image := "ghcr.io/home-assistant/home-assistant:stable"
        ports := ["8123:8123"]
        volumes := ["ha_config:/config"] }),
    ("Nextcloud",
      { image := "nextcloud:latest"
        ports := ["8080:80"]
        volumes := ["nextcloud_data:/var/www/html"]
        env :=
          ["MYSQL_HOST=db", "MYSQL_DATABASE=nextcloud", "MYSQL_USER=nextcloud",
           "MYSQL_PASSWORD=changeme"] }),
    ("Vaultwarden",
      { image := "vaultwarden/server:latest"
        ports := ["8080:80"]
        volumes := ["vaultwarden_data:/data"]
        env := ["ADMIN_TOKEN=changeme"] }),
    ("Gitea",
      { image := "gitea/gitea:latest"
        ports := ["3000:3000", "2222:22"]
        volumes := ["gitea_data:/data"] }),
    ("Pi-hole",
      { image := "pihole/pihole:latest"
        ports := ["53:53/tcp", "53:53/udp", "80:80"]
        volumes := ["pihole_etc:/etc/pihole", "pihole_dnsmasq:/etc/dnsmasq.d"]
        env := ["WEBPASSWORD=changeme"] }),
    ("AdGuard Home",
      { image := "adguard/adguardhome:latest"
        ports := ["53:53/tcp", "53:53/udp", "3000:3000", "80:80"]
        volumes := ["adguard_work:/opt/adguardhome/work", "adguard_conf:/opt/adguardhome/conf"] }),
    ("Uptime Kuma",
      { image := "louislam/uptime-kuma:latest"
        ports := ["3001:3001"]
        volumes := ["uptime_kuma_data:/app/data"] }),
    ("Immich",
      { image := "ghcr.io/immich-app/immich-server:release"
        ports := ["2283:3001"]
        volumes := ["immich_upload:/usr/src/app/upload"]
        env := ["DB_PASSWORD=changeme", "REDIS_HOSTNAME=redis"] }),
    ("Paperless-ngx",
      { image := "ghcr.io/paperless-ngx/paperless-ngx:latest"
        ports := ["8000:8000"]
        volumes := ["paperless_data:/usr/src/paperless/data",
          "paperless_media:/usr/src/paperless/media"]
        env := ["PAPERLESS_SECRET_KEY=changeme"] })
  ]

/-- `unicode.SimpleFold` as far as it leads to ASCII: the Kelvin sign is a k and the long
s an s. -/
def foldChar (char : Char) : Char :=
  if char.toNat = 0x212A then 'k' else if char.toNat = 0x17F then 's' else char.toLower

/-- `strings.EqualFold` with a text in ASCII. -/
def equalFold (text known : String) : Bool :=
  text.toList.map foldChar = known.toList.map foldChar

/-- The known name of a container, if there is one. -/
def knownName (name : String) : Option String :=
  let name := trimSpace name
  if name = "" then none else (serviceImages.map Prod.fst).find? (equalFold name)

def getServiceConfig (name : String) : Option ServiceConfig :=
  (knownName name).bind fun known => serviceImages.lookup known

/-! ## Environments -/

def envEntryKey (entry : String) : String :=
  trimSpace (String.ofList (entry.toList.takeWhile (· ≠ '=')))

def secretMarkers : List String := ["PASSWORD", "SECRET", "TOKEN", "KEY", "CLAIM"]

def isSecretEnvKey (key : String) : Bool :=
  secretMarkers.any fun marker =>
    (key.toList.map Char.toUpper).tails.any marker.toList.isPrefixOf

def renderComposeEnvEntry (entry : String) : String :=
  let key := envEntryKey entry
  if isSecretEnvKey key then key ++ "=$\x7b" ++ key ++ "\x7d" else entry

/-! ## The file -/

structure ExportedService where
  key : String
  image : String
  ports : List String
  volumes : List String
  environment : List String
  address : Option String
  macAddress : Option String

structure ExportedCompose where
  services : List ExportedService
  volumes : List String
  /-- There is a network where there are services. -/
  subnet : Option String

/-- A node with its guests, as a build is loaded for an export. -/
structure LoadedNode extends NodeRow where
  virtualMachines : List VirtualMachineRow

def isGameGuest (vm : VirtualMachineRow) : Bool :=
  match detailsMap vm.details with
  | none => false
  | some details => (guestGame details).isSome

def networkAround (ip : String) : Option String :=
  match ip.toList.splitOn '.' with
  | [first, second, third, _] =>
      some (String.ofList (first ++ '.' :: second ++ '.' :: third ++ ".0/24".toList))
  | _ => none

/-- `strings.ToLower`, with blanks as underscores. Names that are written are in ASCII but
for the Kelvin sign, which comes down to k, and characters that have one case only. -/
def serviceSlug (name : String) : String :=
  String.ofList (name.toList.map fun char =>
    if char = ' ' then '_' else if char.toNat = 0x212A then 'k' else char.toLower)

/-- Nothing is an empty text. -/
def nonempty (text : String) : Option String := if text = "" then none else some text

structure ExportState where
  services : List ExportedService := []
  usedServices : List (String × Nat) := []
  subnet : Option String := none

/-- The guests that become services, with what is known about them. -/
def exportConfig (vm : VirtualMachineRow) : Option ServiceConfig :=
  if isGameGuest vm then none
  else if vm.type ≠ "container" ∧ vm.type ≠ "lxc" then none
  else getServiceConfig vm.name

/-- The key of one more service of this slug, and how many there are then. -/
def nextKey (used : List (String × Nat)) (slug : String) : String × Nat :=
  match used.lookup slug with
  | some count => (slug ++ "_" ++ toString (count + 1), count + 1)
  | none => (slug, 1)

def exportGuest (state : ExportState) (vm : VirtualMachineRow) : ExportState :=
  match exportConfig vm with
  | none => state
  | some config =>
      let slug := serviceSlug vm.name
      let (key, count) := nextKey state.usedServices slug
      let service : ExportedService :=
        { key := key
          image := config.image
          ports := config.ports
          volumes := config.volumes
          environment := config.env.map renderComposeEnvEntry
          address := nonempty vm.ip
          macAddress := if vm.ip = "" then none else nonempty vm.macAddress }
      { services := state.services ++ [service]
        usedServices := Table.set state.usedServices slug count
        subnet := state.subnet.or ((nonempty vm.ip).bind networkAround) }

def exportNode (state : ExportState) (node : LoadedNode) : ExportState :=
  let routed :=
    if node.type = "router" then
      { state with subnet := state.subnet.or ((nonempty node.ip).bind networkAround) }
    else state
  node.virtualMachines.foldl exportGuest routed

/-- A volume with a name of its own, of a mapping. -/
def namedVolume (volume : String) : Option String :=
  let name := volume.toList.takeWhile (· ≠ ':')
  if name.head? = some '/' ∨ name.head? = some '.' then none else some (String.ofList name)

def defaultSubnet : String := "192.168.1.0/24"

def dockerCompose (nodes : List LoadedNode) : ExportedCompose :=
  let state := nodes.foldl exportNode {}
  { services := state.services
    volumes := ((state.services.flatMap ExportedService.volumes).filterMap namedVolume).dedup
    subnet := if state.services.isEmpty then none else some (state.subnet.getD defaultSubnet) }

end HomelabBuilder.Services
