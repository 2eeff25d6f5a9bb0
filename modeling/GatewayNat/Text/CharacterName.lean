import GatewayNat.Text.CharacterName.Tables
import GatewayNat.Text.Hangul

/-!
# Names of characters

A character has a name, and some characters have further ones.  Case does not
matter in the names of the tables.

* The name of an ideograph ends in its number in hexadecimal digits.
* The name of a syllable of Hangul ends in the sounds of its letters.  Of several
  letters whose sounds come next the longest counts.
-/

namespace GatewayNat.Text.CharacterName

/-- The names of items from a code point on, in words, after the words of another name. -/
def namesFrom (n : Nat) (before : List String) : List String → List (Nat × List String)
  | [] => []
  | item :: rest =>
    match item.toList with
    | [] => namesFrom (n + 1) before rest
    | shared :: words =>
      let further := if words.isEmpty then [] else (String.ofList words).splitOn " "
      let name := before.take (shared.toNat - '0'.toNat) ++ further
      (n, name) :: namesFrom (n + 1) name rest

/-- The names of a row. -/
def rowNames (row : Nat × List String) : List (Nat × List String) :=
  namesFrom row.1 [] ((String.join row.2).splitOn ";")

/-- The number of the character that has a name in the tables. -/
def inTables? (name : String) : Option Nat :=
  let words := name.splitOn " "
  (rows.findSome? fun row => ((rowNames row).find? fun entry => entry.2 = words).map (·.1)).or
    ((aliases.find? fun entry => entry.2 = name).map (·.1))

/-! ## Ideographs -/

/-- The numbers of ideographs, as inclusive ranges. -/
def ideographs : List (Nat × Nat) :=
  [(0x3400, 0x4dbf), (0x4e00, 0x9fff), (0x20000, 0x2a6df), (0x2a700, 0x2b738), (0x2b740, 0x2b81d),
    (0x2b820, 0x2cea1), (0x2ceb0, 0x2ebe0), (0x30000, 0x3134a)]

/-- The value of a digit of a number. -/
def digit? (c : Char) : Option Nat :=
  if c.isDigit then some (c.toNat - '0'.toNat)
  else if 'A' ≤ c && c ≤ 'F' then some (c.toNat - 'A'.toNat + 10)
  else none

/-- The ideograph of a number in digits. -/
def ideograph? (digits : List Char) : Option Nat := do
  if digits.length ≠ 4 && digits.length ≠ 5 then none
  else
    let n := (← digits.mapM digit?).foldl (fun n d => n * 16 + d) 0
    if ideographs.any fun range => range.1 ≤ n && n ≤ range.2 then some n else none

/-! ## Hangul -/

/-- The sounds of the first letters of syllables. -/
def initialSounds : List String :=
  ["G", "GG", "N", "D", "DD", "R", "M", "B", "BB", "S", "SS", "", "J", "JJ", "C", "K", "T", "P",
    "H"]

/-- The sounds of the second letters. -/
def medialSounds : List String :=
  ["A", "AE", "YA", "YAE", "EO", "E", "YEO", "YE", "O", "WA", "WAE", "OE", "YO", "U", "WEO", "WE",
    "WI", "YU", "EU", "YI", "I"]

/-- The sounds of the last letters.  The first of them is that of no letter. -/
def finalSounds : List String :=
  ["", "G", "GG", "GS", "N", "NJ", "NH", "D", "L", "LG", "LM", "LB", "LS", "LT", "LP", "LH", "M",
    "B", "BS", "S", "SS", "NG", "J", "C", "K", "T", "P", "H"]

/-- The index and the length of the longest sound that comes next, of sounds from an index on. -/
def longest? (cs : List Char) (index : Nat) : List String → Option (Nat × Nat)
  | [] => none
  | sound :: rest =>
    let later := longest? cs (index + 1) rest
    if sound.toList.isPrefixOf cs && later.all (·.2 < sound.length) then
      some (index, sound.length)
    else later

/-- The syllable of sounds. -/
def syllable? (cs : List Char) : Option Nat := do
  let (initial, length) ← longest? cs 0 initialSounds
  let cs := cs.drop length
  let (medial, length) ← longest? cs 0 medialSounds
  let cs := cs.drop length
  let (final, length) ← longest? cs 0 finalSounds
  if (cs.drop length).isEmpty then some (Hangul.syllable initial medial final).toNat else none

/-! ## Looking up -/

/-- The rest of characters after others at their start. -/
def after? (start : String) (cs : List Char) : Option (List Char) :=
  if start.toList.isPrefixOf cs then some (cs.drop start.length) else none

/-- The number of the character of a name. -/
def find? (name : List Char) : Option Nat :=
  match after? "HANGUL SYLLABLE " name, after? "CJK UNIFIED IDEOGRAPH-" name with
  | some sounds, _ => syllable? sounds
  | _, some digits => ideograph? digits
  | none, none => inTables? (String.ofList (name.map Char.toUpper))

end GatewayNat.Text.CharacterName
