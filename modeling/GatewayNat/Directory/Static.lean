import GatewayNat.Directory.Basic
import GatewayNat.Files
import GatewayNat.Journal
import GatewayNat.Json.Reader

/-!
# Static directories

A static directory is a table of gateways, each a table of networks with their
interfaces.  It answers every call the same way each time.

A static directory is loaded from a file that holds an object of gateways, each
an object of networks, each with an object for its interface.  The faults of a
file are looked for in this order.

* The name of the file has lone surrogates, the file cannot be read, or its octets
  are not UTF-8.
* Its text is not JSON, or has a value that lies too deep in others.
* The value or one of its gateways is not an object.
* An interface is not an object.  The first such interface is named, gateway by
  gateway and network by network.
-/

namespace GatewayNat

/-- The gateways with their networks and interfaces. -/
structure StaticDirectory where
  gateways : Table Text (Table Text Descriptor)
  deriving DecidableEq, Repr

namespace StaticDirectory

/-- The networks of a gateway. -/
def networks? (d : StaticDirectory) (gateway : Text) : Option (Table Text Descriptor) :=
  d.gateways.find? gateway

/-- The ids of the gateways in increasing order of code points. -/
def gatewayIds (d : StaticDirectory) : List Text := d.gateways.names.mergeSort Text.le

/-- Finds a gateway. -/
def findGateway (d : StaticDirectory) (gateway : Text) : Except Failure (Table Text Descriptor) :=
  match d.networks? gateway with
  | some networks => .ok networks
  | none => .error (.rejected (.gatewayNotFound gateway))

/-- Finds the interface of a gateway on a network. -/
def findInterface (d : StaticDirectory) (gateway network : Text) :
    Except Failure (Option Descriptor) :=
  (d.findGateway gateway).map fun networks => networks.find? network

/-- The static directory as a directory that forgets. -/
def toDirectory (d : StaticDirectory) : Directory where
  gateway _ gateway := (d.findGateway gateway).map fun _ => ()
  interface _ gateway network := d.findInterface gateway network

end StaticDirectory

/-! ## Loading -/

/-- Why a directory file cannot be loaded. -/
inductive LoadError where
  /-- The name has lone surrogates, so there is no such file. -/
  | unnamed (name : Text)
  | unreadable (path : String) (fault : Files.Fault)
  | undecodable (fault : Text.Utf8.Fault)
  | malformed (path : String) (reason : Json.Reason) (place : Json.Place)
  | tooManyDigits (count : Nat)
  | tooDeep (container : Json.Container)
  /-- The value or one of its gateways is not an object. -/
  | notMapping (path : String)
  | notInterface (path : String) (gateway network : Text)
  deriving DecidableEq, Repr

/-- The wording of a load error. -/
def LoadError.message : LoadError → Text
  | .unnamed name => "[Errno 2] No such file or directory: " ++ Text.quoted name
  | .unreadable path fault => fault.message path
  | .undecodable fault => fault.message
  | .malformed path reason place =>
    "Gateway directory file " ++ path ++ " is not valid JSON: " ++ reason.message ++ ": " ++
      place.message
  | .tooManyDigits count => Decimal.tooManyDigitsMessage count
  | .tooDeep container => Json.tooDeepMessage container
  | .notMapping path =>
    "Gateway directory file " ++ path ++ " must map gateway ids to network objects"
  | .notInterface path gateway network =>
    "Gateway directory file " ++ path ++ ": interface for network " ++ network ++
      " on gateway " ++ gateway ++ " must be a JSON object"

namespace StaticDirectory

/-- The entries of a table whose values are all objects. -/
def objects? : Members → Option (Table Text Members)
  | [] => some []
  | (name, .obj members) :: rest => (objects? rest).map ((name, members) :: ·)
  | _ :: _ => none

/-- The networks of a gateway with their interfaces, or the first network without an object. -/
def interfaces : Members → Except Text (Table Text Descriptor)
  | [] => .ok []
  | (network, .obj members) :: rest =>
    (interfaces rest).map ((network, Descriptor.ofMembers members) :: ·)
  | (network, _) :: _ => .error network

/-- The gateways with their networks, or the first gateway and network without an object. -/
def gatewaysOf :
    Table Text Members → Except (Text × Text) (Table Text (Table Text Descriptor))
  | [] => .ok []
  | (gateway, networks) :: rest =>
    match interfaces networks with
    | .error network => .error (gateway, network)
    | .ok table => (gatewaysOf rest).map ((gateway, table) :: ·)

/-- The static directory of a value. -/
def ofJson (path : String) (value : Json) : Except LoadError StaticDirectory :=
  match value.members?.bind objects? with
  | none => .error (.notMapping path)
  | some gateways =>
    match gatewaysOf gateways with
    | .error (gateway, network) => .error (.notInterface path gateway network)
    | .ok table => .ok ⟨table⟩

/-- The static directory of a text. -/
def ofText (path text : String) : Except LoadError StaticDirectory :=
  match Json.read text with
  | .error (.malformed reason position) => .error (.malformed path reason (.of text position))
  | .error (.tooManyDigits count) => .error (.tooManyDigits count)
  | .error (.tooDeep container) => .error (.tooDeep container)
  | .ok value => ofJson path value

/-- Loads a static directory. -/
def load (files : Files) (path : String) : Except LoadError StaticDirectory :=
  let name := Files.normal path
  match files.octets name with
  | .error fault => .error (.unreadable name fault)
  | .ok octets =>
    match Files.textOf octets with
    | .error fault => .error (.undecodable fault)
    | .ok text => ofText name text

/-- Loads a static directory from the file of a name.  A lone surrogate in a name stands for an
octet outside UTF-8, and no entry of a tree has such a name. -/
def loadNamed (files : Files) (name : Text) : Except LoadError StaticDirectory :=
  match name.toString? with
  | some path => load files path
  | none => .error (.unnamed (Files.normalText name))

/-- The record of a load. -/
def loadedRecord (name : Text) (d : StaticDirectory) : Journal.Record where
  component := .directoryFile
  level := .info
  message := "Loaded gateway directory from " ++ Files.normalText name ++ " (" ++
    toString d.gateways.length ++ " gateways)"

end StaticDirectory

end GatewayNat
