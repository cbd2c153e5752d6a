import CompanionLink.Config.Schema
import CompanionLink.Toml.Document

/-!
The configuration that a TOML document gives. Unknown keys do not count, and a known key has to
have a value of its field's kind. A section may also be an array of its values in order.
-/

namespace CompanionLink

/-- The values that a section gives to its fields, which are named in their order. -/
structure SectionValues where
  value? : String → Option Toml.Value

namespace SectionValues

/-- A section that gives no value. -/
def none : SectionValues := ⟨fun _ => .none⟩

/-- The values of a section with the given fields; a date as a section gives no value. -/
def ofValue? (fields : List String) : Toml.Value → Option SectionValues
  | .table entries => some ⟨fun field => entries.lookup field⟩
  -- Items go to the fields in their order; fields behind the last item have no value.
  | .array items => some ⟨fun field => (fields.idxOf? field).bind fun index => items[index]?⟩
  | .moment => some none
  | _ => .none

/-- The value of a field, or a default where it is missing. -/
def read {α : Type} (values : SectionValues) (field : String)
    (decode : Toml.Value → Option α) (default : α) : Option α :=
  match values.value? field with
  -- A value of the wrong kind is an error and not a missing one.
  | .none => some default
  | some value => decode value

end SectionValues

namespace Toml.Value

/-- The text of a string value. -/
def asString? : Value → Option String
  | .string text => some text
  | _ => none

/-- A truth value. -/
def asBoolean? : Value → Option Bool
  | .boolean value => some value
  | _ => none

/-- An integer value that is not negative. -/
def asNat? : Value → Option Nat
  -- The times and sizes are unsigned.
  | .integer value => if 0 ≤ value then some value.toNat else none
  | _ => none

/-- An integer value that is a port number. -/
def asPort? (value : Value) : Option UInt16 :=
  value.asNat?.bind fun port => if port < UInt16.size then some port.toUInt16 else none

/-- A string value that is a dotted address. -/
def asAddress? (value : Value) : Option Ipv4Address := value.asString?.bind Ipv4Address.ofText?

end Toml.Value

open Toml.Value

/-- Reads how the daemon runs. -/
def DaemonConfig.ofValue? (value : Toml.Value) : Option DaemonConfig := do
  let values ← SectionValues.ofValue?
    ["log_level", "tick_interval_ms", "auto_power_on", "auto_scan"] value
  let default : DaemonConfig := {}
  return {
    logLevel := ← values.read "log_level" asString? default.logLevel
    tickIntervalMs := ← values.read "tick_interval_ms" asNat? default.tickIntervalMs
    autoPowerOn := ← values.read "auto_power_on" asBoolean? default.autoPowerOn
    autoScan := ← values.read "auto_scan" asBoolean? default.autoScan }

/-- Reads the ports, addresses and times of the link. -/
def NetworkConfig.ofValue? (value : Toml.Value) : Option NetworkConfig := do
  let values ← SectionValues.ofValue?
    ["beacon_port", "tcp_port", "beacon_interval_secs", "broadcast_fallback", "init_timeout_secs",
      "search_settle_secs", "udp_grace_secs", "connect_timeout_secs", "read_buffer_size"] value
  let default : NetworkConfig := {}
  return {
    beaconPort := ← values.read "beacon_port" asPort? default.beaconPort
    pairingPort := ← values.read "tcp_port" asPort? default.pairingPort
    beaconIntervalSecs := ← values.read "beacon_interval_secs" asNat? default.beaconIntervalSecs
    broadcastFallback := ← values.read "broadcast_fallback" asAddress? default.broadcastFallback
    initTimeoutSecs := ← values.read "init_timeout_secs" asNat? default.initTimeoutSecs
    searchSettleSecs := ← values.read "search_settle_secs" asNat? default.searchSettleSecs
    udpGraceSecs := ← values.read "udp_grace_secs" asNat? default.udpGraceSecs
    connectTimeoutSecs := ← values.read "connect_timeout_secs" asNat? default.connectTimeoutSecs
    readBufferSize := ← values.read "read_buffer_size" asNat? default.readBufferSize }

/-- Reads where the device's identity is kept. -/
def DeviceConfig.ofValue? (value : Toml.Value) : Option DeviceConfig := do
  let values ← SectionValues.ofValue?
    ["name_file", "name_fallback", "serial_file", "serial_fallback"] value
  let default : DeviceConfig := {}
  return {
    nameFile := ← values.read "name_file" asString? default.nameFile
    nameFallback := ← values.read "name_fallback" asString? default.nameFallback
    serialFile := ← values.read "serial_file" asString? default.serialFile
    serialFallback := ← values.read "serial_fallback" asString? default.serialFallback }

namespace Config

/-- Reads the whole configuration; a missing section has its default. -/
def ofValue? (value : Toml.Value) : Option Config := do
  let values ← SectionValues.ofValue? ["daemon", "network", "device"] value
  return {
    daemon := ← values.read "daemon" DaemonConfig.ofValue? {}
    network := ← values.read "network" NetworkConfig.ofValue? {}
    device := ← values.read "device" DeviceConfig.ofValue? {} }

/-- Reads the configuration that a document gives. -/
def ofText? (document : String) : Option Config := (Toml.parse? document).bind ofValue?

end Config

end CompanionLink
