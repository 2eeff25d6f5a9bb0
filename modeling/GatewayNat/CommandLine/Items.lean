import GatewayNat.Decimal.Numeral
import GatewayNat.Json.Basic

/-!
# Items in arguments

The arguments that are given to a list have its items, and an argument may have
several of them.  The list is written as JSON again.

* Brackets around an argument and blanks at its ends do not count.  Commas
  separate its items, and where one is absent there is an empty text.
* An item in braces or brackets ends where they are closed.  Double quotes hide
  braces, brackets and commas, unless a backslash is before them.
* A numeral, a word of JSON and a text in double quotes stay as they are.  A word
  that means null becomes that, and any other item becomes a text.
* An argument without an item adds an empty text, unless an item is the last
  thing before it.  An argument that is no text ends the list.
-/

namespace GatewayNat.CommandLine

/-- Why arguments have no items. -/
inductive ItemsFault where
  /-- The end of an item in braces or brackets is absent. -/
  | unclosed (closing : Char)
  | openQuotes
  deriving DecidableEq, Repr

/-- The wording of a fault of items. -/
def ItemsFault.message : ItemsFault → String
  | .unclosed closing => "Missing end delimiter \"" ++ String.singleton closing ++ "\""
  | .openQuotes => "Mismatched quotes"

/-- Whether a character is a double quote that counts after another character. -/
def isQuote (before c : CodePoint) : Bool := c = .char '"' && before ≠ .char '\\'

/-- The rest of an item in braces or brackets, and what follows it.  The arguments are the number
of open ones, whether quotes are open, and the character before. -/
def splitNested (closing : Char) (depth : Int) (quotes : Bool) (before : CodePoint) :
    List CodePoint → Option (List CodePoint × List CodePoint)
  | [] => none
  | c :: rest =>
    if isQuote before c then
      (splitNested closing depth (!quotes) c rest).map fun split => (c :: split.1, split.2)
    else if quotes then
      (splitNested closing depth quotes c rest).map fun split => (c :: split.1, split.2)
    else if c = .char closing && depth = 1 then some ([c], rest)
    else
      let depth := depth + (if c.isIn ['\x7b', '['].contains then 1 else 0) -
        (if c.isIn ['\x7d', ']'].contains then 1 else 0)
      (splitNested closing depth quotes c rest).map fun split => (c :: split.1, split.2)

/-- The rest of an item without braces and brackets, and what follows it. -/
def splitPlain (quotes : Bool) (before : CodePoint) :
    List CodePoint → Option (List CodePoint × List CodePoint)
  | [] => if quotes then none else some ([], [])
  | c :: rest =>
    let quotes := if isQuote before c then !quotes else quotes
    if !quotes && c = .char ',' then some ([], c :: rest)
    else (splitPlain quotes c rest).map fun split => (c :: split.1, split.2)

/-- An empty text as an item. -/
def emptyItem : Text := "\"\""

/-- An item without braces and brackets as JSON. -/
def itemOf (nullText : Option Text) (item : List CodePoint) : Text :=
  let text := Text.ofPoints (Text.trimList CodePoint.isBlank item)
  if text.toString?.any Decimal.isNumeral then text
  else if nullText = some text then "null"
  else if text = "true" || text = "false" || text = "null" then text
  else if text.points.head? = some (.char '"') then text
  else "\"" ++ text ++ "\""

/-! ## Reading moves on -/

theorem length_splitNested_le {closing : Char} {depth : Int} {quotes : Bool} {before : CodePoint}
    {cs item after : List CodePoint}
    (h : splitNested closing depth quotes before cs = some (item, after)) :
    after.length ≤ cs.length := by
  induction cs generalizing depth quotes before item with
  | nil => simp [splitNested] at h
  | cons c rest ih =>
    simp only [splitNested] at h
    split at h
    · simp only [Option.map_eq_some_iff, Prod.mk.injEq, Prod.exists] at h
      obtain ⟨_, _, h, -, rfl⟩ := h
      exact Nat.le_succ_of_le (ih h)
    · split at h
      · simp only [Option.map_eq_some_iff, Prod.mk.injEq, Prod.exists] at h
        obtain ⟨_, _, h, -, rfl⟩ := h
        exact Nat.le_succ_of_le (ih h)
      · split at h
        · simp only [Option.some.injEq, Prod.mk.injEq] at h
          simp [← h.2]
        · simp only [Option.map_eq_some_iff, Prod.mk.injEq, Prod.exists] at h
          obtain ⟨_, _, h, -, rfl⟩ := h
          exact Nat.le_succ_of_le (ih h)

theorem length_splitPlain_le {quotes : Bool} {before : CodePoint}
    {cs item after : List CodePoint} (h : splitPlain quotes before cs = some (item, after)) :
    after.length ≤ cs.length := by
  induction cs generalizing quotes before item with
  | nil =>
    cases quotes <;> simp [splitPlain] at h
    simp [h]
  | cons c rest ih =>
    simp only [splitPlain] at h
    generalize (if isQuote before c then !quotes else quotes) = next at h
    split at h
    · simp only [Option.some.injEq, Prod.mk.injEq] at h
      simp [← h.2]
    · simp only [Option.map_eq_some_iff, Prod.mk.injEq, Prod.exists] at h
      obtain ⟨_, _, h, -, rfl⟩ := h
      exact Nat.le_succ_of_le (ih h)

/-- The item after its first character, and what follows it. -/
def splitItem (first : CodePoint) (rest : List CodePoint) :
    Except ItemsFault (List CodePoint × List CodePoint) :=
  match first with
  | .char '\x7b' =>
    ((splitNested '\x7d' 1 false first rest).map .ok).getD (.error (.unclosed '\x7d'))
  | .char '[' => ((splitNested ']' 1 false first rest).map .ok).getD (.error (.unclosed ']'))
  | _ => ((splitPlain (first = .char '"') first rest).map .ok).getD (.error .openQuotes)

theorem length_splitItem_le {first : CodePoint} {rest item after : List CodePoint}
    (h : splitItem first rest = .ok (item, after)) : after.length ≤ rest.length := by
  have some_of_getD : ∀ {found : Option (List CodePoint × List CodePoint)} {fault : ItemsFault},
      (found.map Except.ok).getD (.error fault) = .ok (item, after) →
        found = some (item, after) := by
    intro found fault h
    cases found <;> simp_all
  unfold splitItem at h
  split at h
  · exact length_splitNested_le (some_of_getD h)
  · exact length_splitNested_le (some_of_getD h)
  · exact length_splitPlain_le (some_of_getD h)

/-- Whether an item is in braces or brackets. -/
def isNested (first : CodePoint) : Bool := first.isIn ['\x7b', '['].contains

/-! ## Reading -/

/-- The items so far, with whether the last thing read is an item. -/
structure Items where
  texts : List Text
  endsInItem : Bool
  deriving DecidableEq, Repr

/-- The items after a place where one may be absent. -/
def Items.fill (items : Items) : List Text :=
  if items.endsInItem then items.texts else items.texts ++ [emptyItem]

/-- Adds the items of an argument. -/
def Items.read (nullText : Option Text) (items : Items) (cs : List CodePoint) :
    Except ItemsFault Items :=
  match _h : cs.dropWhile CodePoint.isBlank with
  | [] => .ok items
  | c :: rest =>
    if c = .char ',' then Items.read nullText ⟨items.fill, false⟩ rest
    else
      match _hs : splitItem c rest with
      | .error fault => .error fault
      | .ok (item, after) =>
        let text := if isNested c then Text.ofPoints (c :: item) else itemOf nullText (c :: item)
        Items.read nullText ⟨items.texts ++ [text], true⟩ after
termination_by cs.length
decreasing_by
  · have h := (List.dropWhile_suffix CodePoint.isBlank (l := cs)).length_le
    rw [_h, List.length_cons] at h
    omega
  · have h := (List.dropWhile_suffix CodePoint.isBlank (l := cs)).length_le
    rw [_h, List.length_cons] at h
    have := length_splitItem_le _hs
    omega

/-- An argument without blanks at its ends and without brackets around it. -/
def withoutBrackets (text : Text) : List CodePoint :=
  let trimmed := Text.trimList CodePoint.isBlank text.points
  match trimmed with
  | .char '[' :: rest =>
    if rest.getLast? = some (.char ']') then Text.trimList CodePoint.isBlank rest.dropLast
    else trimmed
  | _ => trimmed

/-- Adds the items of arguments. -/
def Items.readAll (nullText : Option Text) (items : Items) : List Json → Except ItemsFault Items
  | .str text :: rest =>
    match items.read nullText (withoutBrackets text) with
    | .error fault => .error fault
    | .ok next => Items.readAll nullText ⟨next.fill, next.endsInItem⟩ rest
  | _ => .ok items

/-- The list of the items of arguments. -/
def listText (nullText : Option Text) (arguments : List Json) : Except ItemsFault Text :=
  (Items.readAll nullText ⟨[], false⟩ arguments).map fun items =>
    "[" ++ Text.join "," items.texts ++ "]"

end GatewayNat.CommandLine
