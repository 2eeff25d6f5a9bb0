import GatewayNat.Journal

/-!
# Logs

A log is a text that records are written to, each from the start of a line on.
Dashes between blanks stand between its parts.

* The time stamp.
* The component and the level.
* In a file, the place in the program.
* The message, which may go on in further lines.

Reading a log gives its entries: the lines that start with a time stamp and a
component of this program, without the stamp and without the place.  The further
lines of a message are no entries, unless one of them looks like an entry
itself.
-/

namespace GatewayNat.Journal

/-- When and where a record is written. -/
structure Occasion where
  /-- The time, down to the millisecond. -/
  stamp : String
  /-- The place in the program. -/
  place : String
  deriving DecidableEq, Repr

/-- The text of a record in a file. -/
def Record.written (occasion : Occasion) (record : Record) : Text :=
  occasion.stamp ++ " - " ++ record.component.name ++ " - " ++ record.level.name ++ " - " ++
    occasion.place ++ " - " ++ record.message ++ "\n"

/-! ## Reading -/

/-- The text after a pattern, where the digit zero stands for any digit. -/
def afterPattern : (pattern : List Char) → List CodePoint → Option (List CodePoint)
  | [], rest => some rest
  | _ :: _, [] => none
  | p :: pattern, point :: rest =>
    if point = .char p || (p = '0' && point.isIn Char.isDigit) then afterPattern pattern rest
    else none

/-- The pattern of a time stamp and the dash after it. -/
def stampPattern : List Char := "0000-00-00 00:00:00,000 - ".toList

/-- The text up to the first dash between blanks, and the text after it. -/
def splitPart : List CodePoint → Option (List CodePoint × List CodePoint)
  | [] => none
  | .char ' ' :: .char '-' :: .char ' ' :: rest => some ([], rest)
  | point :: rest => (splitPart rest).map fun split => (point :: split.1, split.2)

/-- Whether a name is that of a component of this program. -/
def isOwnName (name : List CodePoint) : Bool :=
  name = Text.pointsOf "edge_nat" || (Text.pointsOf "edge_nat.").isPrefixOf name

/-- The entry of a line. -/
def entry? (line : List CodePoint) : Option (List CodePoint) :=
  (afterPattern stampPattern line).filter fun entry =>
    (splitPart entry).any fun split => isOwnName split.1

/-- Whether a part of an entry is a place: no blank, and a number after a colon at the end. -/
def isPlace (part : List CodePoint) : Bool :=
  let isDigit : CodePoint → Bool := CodePoint.isIn Char.isDigit
  !part.contains (.char ' ') && (part.reverse.takeWhile isDigit) ≠ [] &&
    (part.reverse.dropWhile isDigit).head? = some (.char ':')

/-- An entry without the part at an index, if that is a place. -/
def withoutPlace : (index : Nat) → List CodePoint → List CodePoint
  | index, entry =>
    match splitPart entry with
    | none => entry
    | some (part, rest) =>
      match index with
      | 0 => if isPlace part then rest else entry
      | index + 1 => part ++ Text.pointsOf " - " ++ withoutPlace index rest

/-- The lines of a text. -/
def lines (t : Text) : List (List CodePoint) := Text.splitOn (.char '\n') t.points

/-- The entries of a log file. -/
def entries (log : Text) : List Text :=
  ((lines log).filterMap entry?).map fun entry => .ofPoints (withoutPlace 2 entry)

/-- The entries that a record makes on the console.  Its own entry is the first one. -/
def Record.entries (record : Record) : List Text :=
  match lines record.shown with
  | [] => []
  | first :: further => (first :: further.filterMap entry?).map Text.ofPoints

end GatewayNat.Journal
