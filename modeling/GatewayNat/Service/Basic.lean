import GatewayNat.Directory.Configured
import GatewayNat.Journal.Log
import GatewayNat.Settings.Load

/-!
# The service

A running service has settings, the files around it and the configured
directory.  A directory of the operator's own may stand in for the configured
one.  It is told every call that was made to it since it was put in.

The journal keeps the records from the rank on that the settings choose.  They
go to the console and to the log file, if there is one.  The log file is one of
the files around the service.  Writing it anew leaves the journal attached to
it.  Removing it does not, and then the records go to the console only.

The time and fresh ids come from outside.
-/

namespace GatewayNat

/-- What a step of the service is given from outside. -/
structure Surroundings where
  /-- The id for a request that has none. -/
  freshId : String
  /-- The number of milliseconds that an exchange takes. -/
  elapsed : String
  /-- When and where records are written. -/
  occasion : Journal.Occasion

/-- A directory that stands in for the configured one. -/
structure StandIn where
  directory : Directory
  /-- The calls made so far, oldest first. -/
  past : List Call

/-- A running service. -/
structure Service where
  settings : Settings
  /-- The least rank of a record that the journal keeps. -/
  threshold : Nat
  files : Files
  configured : ConfiguredDirectory
  standIn : Option StandIn
  /-- The name of the log file's entry, if records go there. -/
  logFile : Option String

namespace Service

/-- The records that the journal keeps. -/
def kept (s : Service) (records : List Journal.Record) : List Journal.Record :=
  records.filter (Journal.Record.keptAt s.threshold)

/-- The octets that records add to a log file.  A record with lone surrogates has none.  The traces
that are written after the records of errors are left out. -/
def logOctets (around : Surroundings) (records : List Journal.Record) : List UInt8 :=
  records.flatMap fun record =>
    ((record.written around.occasion).toString?.map fun line => line.toUTF8.toList).getD []

/-- The service after it wrote records.  The log file grows without bound: that it is rolled over at
its greatest size is left out. -/
def write (around : Surroundings) (s : Service) (records : List Journal.Record) : Service :=
  match s.logFile with
  | none => s
  | some name => { s with files := s.files.append name (logOctets around (s.kept records)) }

/-- The entries of a file that is read as a log. -/
def logEntries (s : Service) (name : String) : List Text :=
  match s.files.octets name with
  | .ok octets =>
    match Files.textOf octets with
    | .ok text => Journal.entries text
    | .error _ => []
  | .error _ => []

/-! ## What an operator may change -/

/-- The service with an entry of its files written. -/
def writeFile (name : String) (node : Node) (s : Service) : Service :=
  { s with files := s.files.put name node }

/-- The service with an entry of its files removed, and everything below it. -/
def removeFile (name : String) (s : Service) : Service :=
  { s with
    files := s.files.remove name
    logFile := s.logFile.filter fun file => !Files.isWithin (Files.entryName name) file }

/-- The service with a directory put in for the configured one, or with that one again. -/
def putIn (directory : Option Directory) (s : Service) : Service :=
  { s with standIn := directory.map fun d => ⟨d, []⟩ }

/-- The service without memory of the directory file. -/
def forgetDirectory (s : Service) : Service := { s with configured := s.configured.forget }

/-! ## The start and the end of a run -/

/-- A record of the application itself. -/
def applicationRecord (level : Journal.Level) (message : Text) : Journal.Record :=
  ⟨.application, level, message⟩

/-- The record that tells what a use of the configured directory at the start found. -/
def readinessRecord : Provision → Journal.Record
  | .unset =>
    applicationRecord .warning
      "GATEWAY_DIRECTORY_FILE not set; NAT compilation requests will return 503"
  | .ready directory =>
    applicationRecord .info
      ("Gateway directory ready (" ++ toString directory.gatewayIds.length ++ " gateways)")
  | .failed error =>
    applicationRecord .error (("Failed to load gateway directory: " : Text) ++ error.message)

/-- The records of a start before the directory file is loaded. -/
def openingRecords (s : Service) : List Journal.Record :=
  let range := s.settings.natIds
  [applicationRecord .info (("Starting up " : Text) ++ s.settings.appName ++ " API..."),
    applicationRecord .info ("NAT rule ids are allocated from " ++ toString range.minimum ++ ".." ++
      toString range.maximum)]

/-- The outage that a load error is, if it is one. -/
def loadOutage? (error : LoadError) : Option Outage :=
  match error with
  | .tooDeep container => some ⟨.recursion, Json.tooDeepMessage container⟩
  | _ => none

/-- The outage that a use of the configured directory ends with, if it does. -/
def provisionOutage? : Provision → Option Outage
  | .failed error => loadOutage? error
  | _ => none

/-- What a start did. -/
structure Started where
  /-- Why the start failed, if it did.  The service does not run then. -/
  outage : Option Outage
  records : List Journal.Record
  service : Service

/-- Starts the service.  The directory file is loaded right away, and if that is no outage, the
start tells what it found.  That a service whose origins cannot be asked does not start is left
out. -/
def start (around : Surroundings) (s : Service) : Started :=
  let opened := s.write around s.openingRecords
  let provided := s.configured.use opened.files
  let outage := provisionOutage? provided.provision
  let further := provided.records ++
    if outage.isSome then [] else [readinessRecord provided.provision]
  { outage
    records := s.kept (s.openingRecords ++ further)
    service := { opened with configured := provided.configured }.write around further }

/-- The records of an end, and the service after it. -/
def stop (around : Surroundings) (s : Service) : List Journal.Record × Service :=
  let records :=
    [applicationRecord .info (("Shutting down " : Text) ++ s.settings.appName ++ " API...")]
  (s.kept records, s.write around records)

end Service

end GatewayNat
