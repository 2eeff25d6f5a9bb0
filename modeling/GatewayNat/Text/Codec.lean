import GatewayNat.Text.CodePage.Dos
import GatewayNat.Text.CodePage.Ebcdic
import GatewayNat.Text.CodePage.Macintosh
import GatewayNat.Text.CodePage.Regional
import GatewayNat.Text.CodePage.Windows
import GatewayNat.Text.EastAsian
import GatewayNat.Text.Escaped
import GatewayNat.Text.Idna
import GatewayNat.Text.Utf7
import GatewayNat.Text.Wide

/-!
# Codecs

A codec says how the octets of a file are text.

* UTF-8 may drop a byte order mark at the start.
* UTF-16 and UTF-32 have the order of their octets in their name, or else from a
  byte order mark, which is then no part of the text.  Text without the mark is a
  fault, which comes after the faults that it has in the little order.
* In ASCII, in Latin-1 and in a code page an octet is a character or nothing.
* The codecs for East Asian scripts, UTF-7, escapes, Punycode and domain names
  have rules of their own.
* One codec refuses all octets.
-/

namespace GatewayNat.Text

/-- A way to have text in octets. -/
inductive Codec where
  | utf8
  /-- UTF-8 without a byte order mark at the start. -/
  | unmarkedUtf8
  | utf7
  /-- UTF-16 in the given order, or in the one of its byte order mark. -/
  | utf16 (little : Option Bool)
  /-- UTF-32 in the given order, or in the one of its byte order mark. -/
  | utf32 (little : Option Bool)
  | ascii
  | latin1
  | page (table : CodePage)
  | eastAsian (codec : EastAsian)
  /-- Latin-1 with escapes. -/
  | escaped (repertoire : Escaped.Repertoire)
  | punycode
  | idna
  | undefined
  deriving DecidableEq, Repr

namespace Codec

/-- Why octets are no text. -/
inductive Fault where
  | utf8 (fault : Utf8.Fault)
  | utf7 (fault : Utf7.Fault)
  /-- A unit of a number of bits is at fault. -/
  | wide (bits : Nat) (little : Bool) (fault : Wide.Fault)
  /-- There is no byte order mark before units of a number of bits. -/
  | noMark (bits : Nat)
  | notAscii (octet : UInt8) (position : Nat)
  | notInPage (octet : UInt8) (position : Nat)
  | eastAsian (codec : EastAsian) (fault : Stepwise.Fault)
  | escaped (fault : Escaped.Fault)
  | punycode (fault : Punycode.Fault)
  | idna (fault : Idna.Fault)
  | undefined
  deriving DecidableEq, Repr

/-- The wording of a fault. -/
def Fault.message : Fault → String
  | .utf8 fault => fault.message
  | .utf7 fault => fault.message
  | .wide bits little fault => fault.message bits little
  | .noMark bits => "UTF-" ++ toString bits ++ " stream does not start with BOM"
  | .notAscii octet position =>
    undecodableMessage "ascii" octet position 1 "ordinal not in range(128)"
  | .notInPage octet position =>
    undecodableMessage "charmap" octet position 1 "character maps to <undefined>"
  | .eastAsian codec fault => fault.message codec.name
  | .escaped fault => fault.message
  | .punycode fault => fault.message
  | .idna fault => fault.message
  | .undefined => "undefined encoding"

/-- The character of an octet in ASCII. -/
def asciiChar? (octet : UInt8) : Option Char :=
  if octet < 0x80 then some (Stepwise.charOf octet) else none

/-- The characters of octets that are read one by one from a position on. -/
def decodeEach (char? : UInt8 → Option Char) (fault : UInt8 → Nat → Fault) (position : Nat) :
    List UInt8 → Except Fault (List Char)
  | [] => .ok []
  | octet :: rest =>
    match char? octet with
    | none => .error (fault octet position)
    | some c => (decodeEach char? fault (position + 1) rest).map (c :: ·)

/-- The octets without the byte order mark of UTF-8, or without a part of it that is all there
is. -/
def dropMark : List UInt8 → List UInt8
  | 0xef :: 0xbb :: 0xbf :: rest => rest
  | [0xef, 0xbb] | [0xef] => []
  | octets => octets

/-- The text of units of 16 bits from a position on. -/
def decode16 (little : Bool) (start : Nat) (octets : List UInt8) : Except Fault Text :=
  ((Wide.decode16 little start octets).map Text.ofString).mapError (.wide 16 little)

/-- The text of units of 32 bits from a position on. -/
def decode32 (little : Bool) (start : Nat) (octets : List UInt8) : Except Fault Text :=
  ((Wide.decode32 little start octets).map Text.ofString).mapError (.wide 32 little)

/-- The text of octets that should have a byte order mark.  Without octets there is no text. -/
def withoutMark (bits : Nat) (octets : List UInt8) (text : Except Fault Text) :
    Except Fault Text :=
  match text with
  | .error fault => .error fault
  | .ok text => if octets.isEmpty then .ok text else .error (.noMark bits)

/-- The text of characters. -/
def textOf (chars : List Char) : Text := String.ofList chars

/-- The text of octets in a codec. -/
def decode (codec : Codec) (octets : List UInt8) : Except Fault Text :=
  match codec with
  | .utf8 => ((Utf8.decode octets).map Text.ofString).mapError .utf8
  | .unmarkedUtf8 => ((Utf8.decode (dropMark octets)).map Text.ofString).mapError .utf8
  | .utf7 => (Utf7.decode octets).mapError .utf7
  | .utf16 (some little) => decode16 little 0 octets
  | .utf16 none =>
    match octets with
    | 0xff :: 0xfe :: rest => decode16 true 2 rest
    | 0xfe :: 0xff :: rest => decode16 false 2 rest
    | _ => withoutMark 16 octets (decode16 true 0 octets)
  | .utf32 (some little) => decode32 little 0 octets
  | .utf32 none =>
    match octets with
    | 0xff :: 0xfe :: 0x00 :: 0x00 :: rest => decode32 true 4 rest
    | 0x00 :: 0x00 :: 0xfe :: 0xff :: rest => decode32 false 4 rest
    | _ => withoutMark 32 octets (decode32 true 0 octets)
  | .ascii => (decodeEach asciiChar? .notAscii 0 octets).map textOf
  | .latin1 => .ok (textOf (octets.map Stepwise.charOf))
  | .page table => (decodeEach table.char? .notInPage 0 octets).map textOf
  | .eastAsian codec => ((codec.decode octets).map textOf).mapError (.eastAsian codec)
  | .escaped repertoire => (Escaped.decode repertoire octets).mapError .escaped
  | .punycode => (Punycode.decode octets).mapError .punycode
  | .idna => (Idna.decode octets).mapError .idna
  | .undefined => .error .undefined

end Codec

end GatewayNat.Text
