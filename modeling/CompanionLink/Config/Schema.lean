import CompanionLink.Identity
import CompanionLink.Lifecycle.Stage

/-! What can be configured, what holds where nothing is, and the settings that follow from it. -/

namespace CompanionLink

/-- How the daemon runs. -/
structure DaemonConfig where
  logLevel : String := "info"
  /-- The time between two ticks, in milliseconds. -/
  tickIntervalMs : Nat := 100
  /-- Whether the radio is powered on at the start. -/
  autoPowerOn : Bool := true
  /-- Whether a search begins as soon as the radio is ready. -/
  autoScan : Bool := true
deriving DecidableEq, Repr, Inhabited

/-- The ports, addresses and times of the link; times are in seconds. -/
structure NetworkConfig where
  beaconPort : UInt16 := CompanionLink.beaconPort
  pairingPort : UInt16 := CompanionLink.pairingPort
  beaconIntervalSecs : Nat := 5
  broadcastFallback : Ipv4Address := .limitedBroadcast
  initTimeoutSecs : Nat := 10
  searchSettleSecs : Nat := 20
  udpGraceSecs : Nat := 2
  connectTimeoutSecs : Nat := 30
  /-- The capacity of the buffer that frames are read into. -/
  readBufferSize : Nat := 1024
deriving DecidableEq, Repr, Inhabited

/-- Where the device's identity is kept. -/
structure DeviceConfig where
  nameFile : String := "/etc/hostname"
  nameFallback : String := "EV3"
  serialFile : String := "/sys/class/bluetooth/hci0/address"
  serialFallback : String := "000000000000"
deriving DecidableEq, Repr, Inhabited

/-- The whole configuration. -/
structure Config where
  daemon : DaemonConfig := {}
  network : NetworkConfig := {}
  device : DeviceConfig := {}
deriving DecidableEq, Repr, Inhabited

namespace Config

/-- The time between two ticks in milliseconds, never none. -/
def tickInterval (config : Config) : Nat :=
  -- A daemon that ticks without a pause would never sleep.
  max config.daemon.tickIntervalMs 1

/-- The settings of the link. -/
def linkSettings (config : Config) : LinkSettings where
  pairingPort := config.network.pairingPort
  fallbackTarget := config.network.broadcastFallback
  powerTimeout := config.network.initTimeoutSecs * 1000
  searchSettle := config.network.searchSettleSecs * 1000
  announceGrace := config.network.udpGraceSecs * 1000
  joinTimeout := config.network.connectTimeoutSecs * 1000
  autoScan := config.daemon.autoScan

/-- The settings of the beacon. -/
def beaconSettings (config : Config) : BeaconSettings where
  port := config.network.beaconPort
  pairingPort := config.network.pairingPort
  interval := config.network.beaconIntervalSecs * 1000

/-- The files of the device's identity. -/
def identityFiles (config : Config) : IdentityFiles where
  serialPath := config.device.serialFile
  namePath := config.device.nameFile
  serialFallback := config.device.serialFallback
  nameFallback := config.device.nameFallback

end Config

end CompanionLink
