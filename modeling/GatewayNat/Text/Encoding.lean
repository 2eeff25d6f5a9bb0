import GatewayNat.Text.Wide

/-!
# Encodings of a message body

A body of JSON text names its encoding by its first octets.  A byte order mark
decides if there is one.  Otherwise the places of the zero octets among the
first four decide, since JSON text starts with an ASCII character.  The default
is UTF-8.

A mark that decided the encoding is not part of the text.  Lone surrogates are
parts of a body like all other code points.
-/

namespace GatewayNat.Text

/-- An encoding, with whether the octets start with its byte order mark. -/
inductive Encoding where
  | utf8 (marked : Bool)
  | utf16 (little marked : Bool)
  | utf32 (little marked : Bool)
  deriving DecidableEq, Repr

namespace Encoding

/-- The encoding that a byte order mark names. -/
def ofMark? : List UInt8 → Option Encoding
  | 0x00 :: 0x00 :: 0xfe :: 0xff :: _ => some (.utf32 false true)
  | 0xff :: 0xfe :: 0x00 :: 0x00 :: _ => some (.utf32 true true)
  | 0xfe :: 0xff :: _ => some (.utf16 false true)
  | 0xff :: 0xfe :: _ => some (.utf16 true true)
  | 0xef :: 0xbb :: 0xbf :: _ => some (.utf8 true)
  | _ => none

/-- The encoding that the zero octets of an unmarked text tell. -/
def ofZeros : List UInt8 → Encoding
  | [a, b] =>
    if a = 0 then .utf16 false false else if b = 0 then .utf16 true false else .utf8 false
  | a :: b :: c :: d :: _ =>
    if a = 0 then (if b = 0 then .utf32 false false else .utf16 false false)
    else if b = 0 then (if c = 0 && d = 0 then .utf32 true false else .utf16 true false)
    else .utf8 false
  | _ => .utf8 false

/-- The encoding of a body. -/
def detect (octets : List UInt8) : Encoding := (ofMark? octets).getD (ofZeros octets)

/-- The text of octets in an encoding. -/
def decode (octets : List UInt8) : Encoding → Option Text
  | .utf8 marked => (Utf8.decodePoints (if marked then octets.drop 3 else octets)).toOption
  | .utf16 little marked =>
    (Wide.decodePoints16 little (if marked then octets.drop 2 else octets)).toOption
  | .utf32 little marked =>
    (Wide.decodePoints32 little (if marked then octets.drop 4 else octets)).toOption

end Encoding

end GatewayNat.Text
