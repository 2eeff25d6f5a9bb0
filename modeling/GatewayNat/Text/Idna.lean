import GatewayNat.Text.Case
import GatewayNat.Text.Punycode
import GatewayNat.Text.Quoted

/-!
# International domain names

The octets are ASCII, and points separate them into labels.  A label that starts
with a mark has its text in Punycode behind the mark.  All other labels stay as
they are.

The text of a label has to lead back to the label, in which capitals do not
matter.  On the way back the text is folded: letters become small, and characters
that only guide the display are left out.  Some characters may not be in it.
-/

namespace GatewayNat.Text.Idna

/-- The characters before the Punycode of a label. -/
def mark : List Char := ['x', 'n', '-', '-']

/-- Why octets are no text. -/
inductive Fault where
  | notAscii (octet : UInt8) (position : Nat)
  | punycode (fault : Punycode.Fault)
  /-- A label has no characters or too many of them. -/
  | badLength
  /-- The text of a label starts with the mark. -/
  | marked
  /-- The text of a label has a code point that no label may have. -/
  | forbidden (point : CodePoint)
  /-- The text of a label leads back to another label. -/
  | changed (label back : List Char)
  deriving DecidableEq, Repr

/-- The wording of a fault. -/
def Fault.message : Fault → String
  | .notAscii octet position => (Punycode.Fault.notAscii octet position).message
  | .punycode fault =>
    "decoding with 'punycode' codec failed (UnicodeError: " ++ fault.message ++ ")"
  | .badLength => "label empty or too long"
  | .marked => "Label starts with ACE prefix"
  | .forbidden point => "Invalid character " ++ Text.quoted (.ofPoints [point])
  | .changed label back =>
    "('IDNA does not round-trip', b" ++ Text.quoted (String.ofList label) ++ ", b" ++
      Text.quoted (String.ofList back) ++ ")"

/-- The characters that only guide the display, as inclusive ranges. -/
def guides : List (Nat × Nat) :=
  [(0xad, 0xad), (0x34f, 0x34f), (0x1806, 0x1806), (0x180b, 0x180d), (0x200b, 0x200d),
    (0x2060, 0x2060), (0xfe00, 0xfe0f), (0xfeff, 0xfeff)]

/-- The code points that no label may have: controls, spaces, those for private use, surrogates, and
those that are no characters. -/
def forbidden : List (Nat × Nat) :=
  [(0x80, 0x9f), (0x6dd, 0x6dd), (0x70f, 0x70f), (0x1680, 0x1680), (0x180e, 0x180e),
    (0x200e, 0x200f), (0x2028, 0x202e), (0x2061, 0x2063), (0x206a, 0x206f), (0x2ff0, 0x2ffb),
    (0xd800, 0xf8ff), (0xfdd0, 0xfdef), (0xfff9, 0xffff), (0x1d173, 0x1d17a), (0x1fffe, 0x1ffff),
    (0x2fffe, 0x2ffff), (0x3fffe, 0x3ffff), (0x4fffe, 0x4ffff), (0x5fffe, 0x5ffff),
    (0x6fffe, 0x6ffff), (0x7fffe, 0x7ffff), (0x8fffe, 0x8ffff), (0x9fffe, 0x9ffff),
    (0xafffe, 0xaffff), (0xbfffe, 0xbffff), (0xcfffe, 0xcffff), (0xdfffe, 0xdffff),
    (0xe0001, 0xe0001), (0xe0020, 0xe007f), (0xefffe, 0x10ffff)]

/-- Whether no label may have a code point. -/
def isForbidden (point : CodePoint) : Bool :=
  forbidden.any fun range => range.1 ≤ point.value && point.value ≤ range.2

/-- A character as it is folded. -/
def foldChar (c : Char) : List Char :=
  if isWithin guides c then []
  else if c = '\u00df' || c = '\u1e9e' then ['s', 's']
  else if c = '\u03c2' then ['\u03c3']
  else smallLetters c

/-- A code point as it is folded. -/
def foldPoint : CodePoint → List CodePoint
  | .char c => (foldChar c).map .char
  | .lone s => [.lone s]

/-- The characters of code points that are all ASCII. -/
def ascii? (points : List CodePoint) : Option (List Char) :=
  points.mapM fun point => point.char?.filter (·.toNat < 0x80)

/-- A label of a length that labels may have. -/
def checkLength (label : List Char) : Except Fault (List Char) :=
  if label.isEmpty || 63 < label.length then .error .badLength else .ok label

/-- The label of a text. -/
def labelOf (points : List CodePoint) : Except Fault (List Char) :=
  match ascii? points with
  | some label => checkLength label
  | none =>
    let folded := points.flatMap foldPoint
    match folded.find? isForbidden, ascii? folded with
    | some point, _ => .error (.forbidden point)
    | none, some label => checkLength label
    | none, none =>
      if (mark.map CodePoint.char).isPrefixOf folded then .error .marked
      else checkLength (mark ++ Punycode.encode folded)

/-- The octet of an ASCII character. -/
def octetOf (c : Char) : UInt8 := UInt8.ofNat c.toNat

/-- The text of a label. -/
def readLabel (label : List Char) : Except Fault (List CodePoint) :=
  if !mark.isPrefixOf label then .ok (label.map .char)
  else
    match Punycode.decode ((label.drop mark.length).map octetOf) with
    | .error fault => .error (.punycode fault)
    | .ok text =>
      match labelOf text.points with
      | .error fault => .error fault
      | .ok back =>
        if label.map Char.toLower = back then .ok text.points else .error (.changed label back)

/-- The characters up to the first point, and those after it if there is one. -/
def splitPoint : List Char → List Char × Option (List Char)
  | [] => ([], none)
  | c :: rest =>
    if c = '.' then ([], some rest)
    else
      let (label, after) := splitPoint rest
      (c :: label, after)

theorem length_splitPoint_lt {cs label after : List Char}
    (h : splitPoint cs = (label, some after)) : after.length < cs.length := by
  induction cs generalizing label with
  | nil => simp [splitPoint] at h
  | cons c rest ih =>
    simp only [splitPoint] at h
    split at h
    · simp only [Prod.mk.injEq, Option.some.injEq] at h
      simp [← h.2]
    · simp only [Prod.mk.injEq] at h
      exact Nat.lt_succ_of_lt (ih (Prod.ext rfl h.2))

/-- The text of labels with points between them. -/
def readLabels (cs : List Char) : Except Fault (List CodePoint) :=
  match _h : splitPoint cs with
  | (label, none) => readLabel label
  | (label, some after) =>
    match readLabel label with
    | .error fault => .error fault
    | .ok points => (readLabels after).map (points ++ .char '.' :: ·)
termination_by cs.length
decreasing_by exact length_splitPoint_lt _h

/-- The text that the octets encode. -/
def decode (octets : List UInt8) : Except Fault Text :=
  match Punycode.readAscii 0 octets with
  | .error (.notAscii octet position) => .error (.notAscii octet position)
  | .error fault => .error (.punycode fault)
  | .ok chars => (readLabels chars).map Text.ofPoints

end GatewayNat.Text.Idna
