import GatewayNat.Text.Surrogate

/-!
# Texts

A text is a sequence of code points.  A code point is a character or a lone
surrogate, which came without the partner that would make a character of it.
Texts with lone surrogates can be read, compared and shown, but they have no
octets.

A text has the characters up to its first surrogate, and the surrogates each
with the characters after it.  So a text without surrogates is a string, and
equal texts have equal parts.

* `points` gives the code points of a text and `ofPoints` gives the text of code
  points.
* `toString?` gives the string that a text is, if it has no surrogates.
* `le` orders texts by their code points.

An alphabet says what code points are taken for when octets are read.  Only some
alphabets have lone surrogates.
-/

namespace GatewayNat

/-- A character or a lone surrogate. -/
inductive CodePoint where
  | char (c : Char)
  | lone (s : Surrogate)
  deriving DecidableEq, Repr

namespace CodePoint

/-- The number of a code point. -/
def value : CodePoint → Nat
  | .char c => c.toNat
  | .lone s => s.unit

/-- The code point of a number, if it is one. -/
def ofValue? (n : Nat) : Option CodePoint :=
  match Surrogate.ofUnit? n with
  | some s => some (.lone s)
  | none => if n < 0x110000 then some (.char (Char.ofNat n)) else none

/-- The character that a code point is, if it is one. -/
def char? : CodePoint → Option Char
  | .char c => some c
  | .lone _ => none

/-- Whether a code point is a character of a set. -/
def isIn (set : Char → Bool) : CodePoint → Bool
  | .char c => set c
  | .lone _ => false

end CodePoint

/-- What code points are taken for. -/
structure Alphabet (α : Type) where
  char : Char → α
  /-- What a lone surrogate is taken for, if it may stand in the text. -/
  lone : Surrogate → Option α

namespace Alphabet

/-- The alphabet of characters only. -/
def chars : Alphabet Char := ⟨id, fun _ => none⟩

/-- The alphabet of all code points. -/
def points : Alphabet CodePoint := ⟨.char, fun s => some (.lone s)⟩

/-- What the lone surrogate of a unit is taken for. -/
def loneUnit {α : Type} (alphabet : Alphabet α) (unit : Nat) : Option α :=
  (Surrogate.ofUnit? unit).bind alphabet.lone

end Alphabet

/-- A sequence of characters and lone surrogates. -/
structure Text where
  /-- The characters before the first surrogate. -/
  start : String
  /-- The surrogates, each with the characters after it. -/
  rest : List (Surrogate × String)
  deriving DecidableEq, Repr, Inhabited

namespace Text

/-- A string as a text. -/
def ofString (s : String) : Text := ⟨s, []⟩

instance : Coe String Text := ⟨ofString⟩

/-- The string that a text is, if it has no surrogates. -/
def toString? (t : Text) : Option String := if t.rest.isEmpty then some t.start else none

/-! ## Code points -/

/-- The code points of a string. -/
def pointsOf (s : String) : List CodePoint := s.toList.map .char

/-- The code points of a surrogate with the characters after it. -/
def runPoints (run : Surrogate × String) : List CodePoint := .lone run.1 :: pointsOf run.2

/-- The code points of a text. -/
def points (t : Text) : List CodePoint := pointsOf t.start ++ t.rest.flatMap runPoints

/-- The text parts after one more code point in front. -/
def addPoint (point : CodePoint) (parts : List Char × List (Surrogate × List Char)) :
    List Char × List (Surrogate × List Char) :=
  match point with
  | .char c => (c :: parts.1, parts.2)
  | .lone s => ([], (s, parts.1) :: parts.2)

/-- The text of code points. -/
def ofPoints (points : List CodePoint) : Text :=
  let parts := points.foldr addPoint ([], [])
  ⟨String.ofList parts.1, parts.2.map fun run => (run.1, String.ofList run.2)⟩

/-- The number of code points. -/
def length (t : Text) : Nat :=
  t.rest.foldl (fun n run => n + 1 + run.2.length) t.start.length

/-- The text with a function applied to the strings between its surrogates. -/
def mapStrings (f : String → String) (t : Text) : Text :=
  ⟨f t.start, t.rest.map fun run => (run.1, f run.2)⟩

/-! ## Joining -/

/-- Surrogates with what follows them, and a text after that. -/
def appendRuns (t : Text) : Surrogate × String → List (Surrogate × String) →
    List (Surrogate × String)
  | (s, last), [] => (s, last ++ t.start) :: t.rest
  | run, next :: more => run :: appendRuns t next more

/-- A text after another one. -/
def append (s t : Text) : Text :=
  match s.rest with
  | [] => ⟨s.start ++ t.start, t.rest⟩
  | run :: more => ⟨s.start, appendRuns t run more⟩

instance : Append Text := ⟨append⟩

/-- Texts in a row with a text between each two of them. -/
def join (separator : Text) : List Text → Text
  | [] => ""
  | [t] => t
  | t :: more => t ++ separator ++ join separator more

/-- What is left of a text after another one at its start. -/
def dropStart? (start t : Text) : Option Text :=
  if start.points.isPrefixOf t.points then some (.ofPoints (t.points.drop start.length)) else none

/-! ## Order -/

/-- Whether a text does not come after another one in the order of code points. -/
def le (s t : Text) : Bool := !decide (t.points.map CodePoint.value < s.points.map CodePoint.value)

/-! ## Laws -/

@[simp] theorem toString?_ofString (s : String) : (ofString s).toString? = some s := rfl

theorem ofString_inj {s t : String} : ofString s = ofString t ↔ s = t := by
  simp [ofString]

@[simp] theorem points_ofString (s : String) : (ofString s).points = s.toList.map .char := by
  simp [ofString, points, pointsOf]

theorem ofString_append (s t : String) : ofString (s ++ t) = ofString s ++ ofString t := rfl

theorem foldr_addPoint_pointsOf (s : String)
    (parts : List Char × List (Surrogate × List Char)) :
    (pointsOf s).foldr addPoint parts = (s.toList ++ parts.1, parts.2) := by
  unfold pointsOf
  induction s.toList with
  | nil => rfl
  | cons c rest ih => simp [addPoint, ih]

theorem foldr_addPoint_runs (runs : List (Surrogate × String)) :
    (runs.flatMap runPoints).foldr addPoint ([], []) =
      ([], runs.map fun run => (run.1, run.2.toList)) := by
  induction runs with
  | nil => rfl
  | cons run more ih =>
    simp [runPoints, List.foldr_append, foldr_addPoint_pointsOf, ih, addPoint]

/-- Every text is the text of its code points. -/
@[simp] theorem ofPoints_points (t : Text) : ofPoints t.points = t := by
  simp [ofPoints, points, List.foldr_append, foldr_addPoint_runs, foldr_addPoint_pointsOf,
    Function.comp_def]

end Text

end GatewayNat
