import HomelabBuilder.Gaming.Instance

/-! # The registry of games

`profiles_data.go`: what the planner knows about each game server and tool, as far
as sizes, ports and the generated files depend on it.
-/

namespace HomelabBuilder.Gaming

/-- A profile with the lines and volumes of its container. `${NAME}` is a value
the owner fills in. -/
structure RegistryEntry extends Profile where
  env : List String := []
  volumes : List String := []

def port (name : String) (number : Int) (proto : Proto) (forward : Bool) (env : String) :
    PortSpec where
  name := name
  port := number
  proto := proto
  forward := forward
  env := env

/-- Games first, then tools. -/
def registry : List RegistryEntry :=
  [
    { slug := "minecraft_java"
      name := "Minecraft Java Server"
      defaultPlayers := 10
      baseRAMMB := 2048
      ramMBPerPlayer := 100
      baseCPUCores := 1
      cpuCoresPerPlayer := 1 / 20
      ports := [port "game" 25565 .tcp true ""]
      image := "itzg/minecraft-server:latest"
      env := ["EULA=TRUE", "TYPE=PAPER", "MEMORY=\x7bram_mb\x7dM", "MAX_PLAYERS=\x7bplayers\x7d"]
      volumes := ["./data:/data"]
      notes := "The world tick runs on one core, so a fast core beats many slow ones. " ++
        "Memory grows with view distance and world size." },
    { slug := "minecraft_bedrock"
      name := "Minecraft Bedrock Server"
      defaultPlayers := 10
      baseRAMMB := 1024
      ramMBPerPlayer := 60
      baseCPUCores := 1
      cpuCoresPerPlayer := 1 / 20
      ports := [port "game" 19132 .udp true "", port "game-ipv6" 19133 .udp false ""]
      image := "itzg/minecraft-bedrock-server:latest"
      env := ["EULA=TRUE", "MAX_PLAYERS=\x7bplayers\x7d"]
      volumes := ["./data:/data"]
      notes := "Consoles find LAN servers by broadcast on UDP 19132, so keep the default " ++
        "port for a LAN party. Port 19133 is only for IPv6 clients." },
    { slug := "valheim"
      name := "Valheim Server"
      defaultPlayers := 5
      baseRAMMB := 3072
      ramMBPerPlayer := 150
      baseCPUCores := 3 / 2
      cpuCoresPerPlayer := 1 / 10
      ports := [port "game" 2456 .udp true "SERVER_PORT", port "query" 2457 .udp true ""]
      image := "ghcr.io/community-valheim-tools/valheim-server:latest"
      env :=
        ["SERVER_NAME=$\x7bSERVER_NAME\x7d",
         "WORLD_NAME=$\x7bWORLD_NAME\x7d",
         "SERVER_PASS=$\x7bSERVER_PASS\x7d"]
      volumes := ["./config:/config", "./server:/opt/valheim"]
      notes := "The server uses its port and the one above it. The password needs at " ++
        "least 5 characters. Crossplay goes through a relay and needs no port " ++
        "forward." },
    { slug := "palworld"
      name := "Palworld Server"
      defaultPlayers := 8
      baseRAMMB := 14336
      ramMBPerPlayer := 128
      baseCPUCores := 2
      cpuCoresPerPlayer := 3 / 20
      ports := [port "game" 8211 .udp true "PORT", port "query" 27015 .udp false "QUERY_PORT"]
      image := "thijsvanloef/palworld-server-docker:latest"
      env :=
        ["PLAYERS=\x7bplayers\x7d",
         "SERVER_PASSWORD=$\x7bSERVER_PASSWORD\x7d",
         "ADMIN_PASSWORD=$\x7bADMIN_PASSWORD\x7d"]
      volumes := ["./palworld:/palworld"]
      notes := "With 8 GB the server starts but is likely to crash. The query port is " ++
        "only needed to appear in the community server list." },
    { slug := "cs2"
      name := "Counter-Strike 2 Server"
      defaultPlayers := 10
      baseRAMMB := 2048
      ramMBPerPlayer := 64
      baseCPUCores := 2
      cpuCoresPerPlayer := 1 / 20
      ports :=
        [port "game" 27015 .udp true "CS2_PORT",
         port "rcon" 27015 .tcp false "CS2_PORT",
         port "tv" 27020 .udp false "TV_PORT"]
      image := "joedwards32/cs2:latest"
      env :=
        ["SRCDS_TOKEN=$\x7bSRCDS_TOKEN\x7d",
         "CS2_SERVERNAME=$\x7bCS2_SERVERNAME\x7d",
         "CS2_RCONPW=$\x7bCS2_RCONPW\x7d",
         "CS2_PW=$\x7bCS2_PW\x7d",
         "CS2_MAXPLAYERS=\x7bplayers\x7d"]
      volumes := ["./cs2:/home/steam/cs2-dedicated"]
      notes := "Players outside the LAN can only join when SRCDS_TOKEN holds a Steam game " ++
        "server login token. The game files take about 65 GB." },
    { slug := "terraria"
      name := "Terraria Server"
      defaultPlayers := 8
      baseRAMMB := 768
      ramMBPerPlayer := 64
      baseCPUCores := 1 / 2
      cpuCoresPerPlayer := 1 / 20
      ports := [port "game" 7777 .tcp true ""]
      image := "ryshe/terraria:latest"
      volumes := ["./worlds:/root/.local/share/Terraria/Worlds"]
      notes := "The game allows up to 255 players. Light enough for a Raspberry Pi with a " ++
        "small world." },
    { slug := "factorio"
      name := "Factorio Server"
      defaultPlayers := 8
      baseRAMMB := 1024
      ramMBPerPlayer := 32
      baseCPUCores := 1
      cpuCoresPerPlayer := 1 / 50
      ports := [port "game" 34197 .udp true "PORT", port "rcon" 27015 .tcp false "RCON_PORT"]
      image := "factoriotools/factorio:stable"
      volumes := ["./factorio:/factorio"]
      notes := "Factorio uses UDP only. Large late-game factories need far more memory " ++
        "than the base figure." },
    { slug := "satisfactory"
      name := "Satisfactory Server"
      defaultPlayers := 4
      baseRAMMB := 8192
      ramMBPerPlayer := 512
      baseCPUCores := 2
      cpuCoresPerPlayer := 1 / 4
      ports :=
        [port "game" 7777 .udp true "SERVERGAMEPORT",
         port "api" 7777 .tcp true "SERVERGAMEPORT",
         port "messaging" 8888 .tcp true "SERVERMESSAGINGPORT"]
      image := "wolveix/satisfactory-server:latest"
      env := ["MAXPLAYERS=\x7bplayers\x7d"]
      volumes := ["./config:/config"]
      notes := "The server is set up for 4 players; the publisher suggests 16 GB for " ++
        "more. The same port number carries UDP game traffic and the TCP server API: " ++
        "forward both." },
    { slug := "rust"
      name := "Rust Server"
      defaultPlayers := 20
      baseRAMMB := 11264
      ramMBPerPlayer := 48
      baseCPUCores := 2
      cpuCoresPerPlayer := 1 / 25
      ports :=
        [port "game" 28015 .udp true "RUST_SERVER_PORT",
         port "query" 28017 .udp true "RUST_SERVER_QUERYPORT",
         port "rcon" 28016 .tcp false "RUST_RCON_PORT",
         port "rust-plus" 28082 .tcp false "RUST_APP_PORT"]
      image := "didstopia/rust-server:latest"
      env :=
        ["RUST_SERVER_NAME=$\x7bRUST_SERVER_NAME\x7d",
         "RUST_SERVER_MAXPLAYERS=\x7bplayers\x7d",
         "RUST_RCON_PASSWORD=$\x7bRUST_RCON_PASSWORD\x7d"]
      volumes := ["./rust:/steamcmd/rust"]
      notes := "The publisher asks for 12 GB of free memory, more for a 6000-size map. " ++
        "Forward the Rust+ port only if players use the companion app." },
    { slug := "ark_se"
      name := "ARK: Survival Evolved Server"
      defaultPlayers := 10
      baseRAMMB := 8192
      ramMBPerPlayer := 128
      baseCPUCores := 2
      cpuCoresPerPlayer := 2 / 25
      ports :=
        [port "game" 7777 .udp true "GAME_CLIENT_PORT",
         port "peer" 7778 .udp true "UDP_SOCKET_PORT",
         port "query" 27015 .udp true "SERVER_LIST_PORT",
         port "rcon" 27020 .tcp false "RCON_PORT"]
      image := "hermsi/ark-server:latest"
      env :=
        ["SESSION_NAME=$\x7bSESSION_NAME\x7d",
         "SERVER_MAP=$\x7bSERVER_MAP\x7d",
         "SERVER_PASSWORD=$\x7bSERVER_PASSWORD\x7d",
         "ADMIN_PASSWORD=$\x7bADMIN_PASSWORD\x7d",
         "MAX_PLAYERS=\x7bplayers\x7d"]
      volumes := ["./ark:/app"]
      notes := "An empty server uses 3 to 12 GB depending on the map. Each extra map is " ++
        "another server of this size. ARK: Survival Ascended has no native Linux " ++
        "server and needs about 16 GB per map." },
    { slug := "project_zomboid"
      name := "Project Zomboid Server"
      defaultPlayers := 8
      baseRAMMB := 2048
      ramMBPerPlayer := 512
      baseCPUCores := 3 / 2
      cpuCoresPerPlayer := 1 / 10
      ports := [port "game" 16261 .udp true "PORT", port "direct" 16262 .udp true "UDPPORT"]
      image := "danixu86/project-zomboid-dedicated-server:latest"
      env :=
        ["SERVERNAME=$\x7bSERVERNAME\x7d",
         "ADMINPASSWORD=$\x7bADMINPASSWORD\x7d",
         "PASSWORD=$\x7bPASSWORD\x7d"]
      volumes := ["./zomboid:/home/steam/Zomboid"]
      notes := "The admin password is required on the first start. Mods add to the memory " ++
        "figure quickly." },
    { slug := "seven_days_to_die"
      name := "7 Days to Die Server"
      defaultPlayers := 8
      baseRAMMB := 6144
      ramMBPerPlayer := 256
      baseCPUCores := 2
      cpuCoresPerPlayer := 3 / 20
      ports :=
        [port "game" 26900 .tcp true "",
         port "game" 26900 .udp true "",
         port "net1" 26901 .udp true "",
         port "net2" 26902 .udp true "",
         port "net3" 26903 .udp true ""]
      notes := "No container image is suggested: the ports are set in the server's own " ++
        "config file, not by a variable. Install with SteamCMD (app 294420) or " ++
        "LinuxGSM on a VM." },
    { slug := "enshrouded"
      name := "Enshrouded Server"
      defaultPlayers := 6
      baseRAMMB := 14336
      ramMBPerPlayer := 128
      baseCPUCores := 2
      cpuCoresPerPlayer := 1 / 4
      ports := [port "query" 15637 .udp true "SERVER_QUERYPORT"]
      image := "mornedhels/enshrouded-server:latest"
      env := ["SERVER_NAME=$\x7bSERVER_NAME\x7d", "SERVER_SLOT_COUNT=\x7bplayers\x7d"]
      volumes := ["./enshrouded:/opt/enshrouded"]
      notes := "16 players is the game's limit. The server is a Windows program that the " ++
        "image runs through Proton. Passwords are set through server roles in the " ++
        "config file." },
    { slug := "v_rising"
      name := "V Rising Server"
      defaultPlayers := 10
      baseRAMMB := 6144
      ramMBPerPlayer := 160
      baseCPUCores := 2
      cpuCoresPerPlayer := 2 / 25
      ports := [port "game" 9876 .udp true "", port "query" 9877 .udp false ""]
      notes := "No container image is suggested: the server is a Windows program and the " ++
        "community images need manual fixes. The ports shown are the usual choice; " ++
        "the query port is only needed to appear in the server list." },
    { slug := "lancache"
      name := "LANCache"
      defaultPlayers := 0
      baseRAMMB := 2048
      ramMBPerPlayer := 0
      baseCPUCores := 1
      cpuCoresPerPlayer := 0
      ports := [port "http" 80 .tcp false "", port "https" 443 .tcp false ""]
      image := "lancachenet/monolithic:latest"
      env := ["CACHE_DISK_SIZE=$\x7bCACHE_DISK_SIZE\x7d", "UPSTREAM_DNS=$\x7bUPSTREAM_DNS\x7d"]
      volumes := ["./cache:/data/cache", "./logs:/data/logs"]
      notes := "Clients must use a DNS server that points game CDNs at the cache: run " ++
        "lancachenet/lancache-dns next to it, or add overrides on your own DNS. " ++
        "Nothing is forwarded from the internet. Give it the fastest link you have." },
    { slug := "pelican_panel"
      name := "Pelican Panel"
      defaultPlayers := 0
      baseRAMMB := 1024
      ramMBPerPlayer := 0
      baseCPUCores := 1
      cpuCoresPerPlayer := 0
      ports := [port "http" 80 .tcp false "", port "https" 443 .tcp false ""]
      image := "ghcr.io/pelican/panel:latest"
      env := ["APP_URL=$\x7bAPP_URL\x7d", "XDG_DATA_HOME=/pelican-data"]
      volumes := ["./pelican-data:/pelican-data", "./pelican-logs:/var/www/html/storage/logs"]
      notes := "The panel only manages servers. The Wings agent on each host runs them; " ++
        "it listens on 8080 and 2022 and needs the game ports." },
    { slug := "crafty_controller"
      name := "Crafty Controller"
      defaultPlayers := 0
      baseRAMMB := 1024
      ramMBPerPlayer := 0
      baseCPUCores := 1
      cpuCoresPerPlayer := 0
      ports := [port "https" 8443 .tcp false ""]
      image := "registry.gitlab.com/crafty-controller/crafty-4:latest"
      volumes :=
        ["./backups:/crafty/backups",
         "./logs:/crafty/logs",
         "./servers:/crafty/servers",
         "./config:/crafty/app/config",
         "./import:/crafty/import"]
      notes := "Size the host for the Minecraft servers it will run, not for the panel. " ++
        "The servers it starts use ports 25500 to 25600." },
    { slug := "mumble"
      name := "Mumble Server"
      defaultPlayers := 10
      baseRAMMB := 128
      ramMBPerPlayer := 4
      baseCPUCores := 1 / 2
      cpuCoresPerPlayer := 1 / 100
      ports := [port "voice" 64738 .udp true "", port "control" 64738 .tcp true ""]
      image := "mumblevoip/mumble-server:latest"
      env := ["MUMBLE_SUPERUSER_PASSWORD=$\x7bMUMBLE_SUPERUSER_PASSWORD\x7d"]
      volumes := ["./data:/data"] },
    { slug := "teamspeak"
      name := "TeamSpeak 3 Server"
      defaultPlayers := 10
      baseRAMMB := 256
      ramMBPerPlayer := 4
      baseCPUCores := 1 / 2
      cpuCoresPerPlayer := 1 / 100
      ports :=
        [port "voice" 9987 .udp true "",
         port "files" 30033 .tcp true "",
         port "query" 10011 .tcp false ""]
      image := "teamspeak:latest"
      env := ["TS3SERVER_LICENSE=accept"]
      volumes := ["./data:/var/ts3server"]
      notes := "Keep the query port private." }
  ]

def profileBySlug (slug : String) : Option RegistryEntry :=
  registry.find? fun entry => entry.slug = slug

end HomelabBuilder.Gaming
