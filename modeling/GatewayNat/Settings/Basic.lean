import GatewayNat.IdRange
import GatewayNat.Json.Basic
import GatewayNat.Text.Case

/-!
# Settings

The service has settings under names in capitals.  Every setting is a text, a
number, a truth value or a list of origins, and some may be absent.

The ids of firewall rules and of NAT rules come from two ranges.
-/

namespace GatewayNat

/-- The settings of the service. -/
structure Settings where
  appName : Text
  appEnv : Text
  debug : Bool
  firewallIds : IdRange
  natIds : IdRange
  /-- The name of the directory file, if there is one. -/
  directoryFile : Option Text
  /-- The origins that may read answers. -/
  corsOrigins : Json
  logLevel : Text
  /-- The name of the log file, if there is one. -/
  logFile : Option Text
  deriving DecidableEq, Repr

namespace Settings

/-- The name of the record. -/
def recordName : String := "Settings"

/-- The name of the setting of origins. -/
def originsName : String := "CORS_ORIGINS"

/-- The names of all settings. -/
def names : List String :=
  ["APP_NAME", "APP_ENV", "DEBUG", "FIREWALL_RULE_ID_MIN", "FIREWALL_RULE_ID_MAX",
    "NAT_RULE_ID_MIN", "NAT_RULE_ID_MAX", "GATEWAY_DIRECTORY_FILE", originsName, "LOG_LEVEL",
    "LOG_FILE"]

/-- The settings as a value. -/
def toJson (settings : Settings) : Json :=
  .obj [("APP_NAME", .str settings.appName), ("APP_ENV", .str settings.appEnv),
    ("DEBUG", .bool settings.debug),
    ("FIREWALL_RULE_ID_MIN", .int settings.firewallIds.minimum),
    ("FIREWALL_RULE_ID_MAX", .int settings.firewallIds.maximum),
    ("NAT_RULE_ID_MIN", .int settings.natIds.minimum),
    ("NAT_RULE_ID_MAX", .int settings.natIds.maximum),
    ("GATEWAY_DIRECTORY_FILE", Json.ofText? settings.directoryFile),
    (originsName, settings.corsOrigins), ("LOG_LEVEL", .str settings.logLevel),
    ("LOG_FILE", Json.ofText? settings.logFile)]

/-- The id range of a service, which is named in capitals or not. -/
def idRange? (settings : Settings) (service : String) : Option IdRange :=
  let word := Text.lowerAscii service
  if word = "nat" then some settings.natIds
  else if word = "firewall" then some settings.firewallIds
  else none

/-- The wording for a service that has no id range. -/
def unknownServiceMessage (service : String) : String :=
  "Unknown service for id range: " ++ service

end Settings

end GatewayNat
