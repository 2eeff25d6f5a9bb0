import GatewayNat.Http.Message
import GatewayNat.Json.Reader
import GatewayNat.Text.Encoding

/-!
# Payloads

The payload of a request is what its body stands for.

* An empty body stands for nothing.
* A body of the media type `application/json`, or of an application type that
  ends in `+json`, is JSON text in an encoding of its own.
* Any other body stands for itself.
-/

namespace GatewayNat.Http

/-- What the body of a request stands for. -/
inductive Payload where
  | absent
  | value (value : Json)
  | raw (octets : List UInt8)
  deriving DecidableEq, Repr

/-- Why a body stands for nothing although it is not empty. -/
inductive PayloadFault where
  | malformed (reason : Json.Reason) (position : Nat)
  /-- The octets are no text, a number is too long, or a value lies too deep in others. -/
  | unreadable
  deriving DecidableEq, Repr

/-- The type and the subtype of a content type, in small letters and without parameters. -/
def mediaType? (contentType : String) : Option (List Char × List Char) :=
  let name := Text.trimList Text.isBlank (contentType.toList.takeWhile (· ≠ ';'))
  match Text.splitOn '/' (name.map Char.toLower) with
  | [type, subtype] => some (type, subtype)
  | _ => none

/-- Whether a content type says that a body is JSON text. -/
def isJsonType (contentType : String) : Bool :=
  match mediaType? contentType with
  | some (type, subtype) =>
    type = "application".toList &&
      (subtype = "json".toList || "+json".toList.isSuffixOf subtype)
  | none => false

/-- The value of the octets of JSON text. -/
def readBody (octets : List UInt8) : Except PayloadFault Json :=
  match (Text.Encoding.detect octets).decode octets with
  | none => .error .unreadable
  | some text =>
    match Json.readUnmarked text with
    | .ok value => .ok value
    | .error (.malformed reason position) => .error (.malformed reason position)
    | .error (.tooManyDigits _) | .error (.tooDeep _) => .error .unreadable

/-- The payload of a request. -/
def Request.payload (request : Request) : Except PayloadFault Payload :=
  if request.body.isEmpty then .ok .absent
  else if isJsonType ((request.header? "content-type").getD "") then
    (readBody request.body).map Payload.value
  else .ok (.raw request.body)

end GatewayNat.Http
