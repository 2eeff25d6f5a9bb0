import Mathlib.Data.List.TakeWhile
import GatewayNat.Settings.Origins
import GatewayNat.Proofs.Checking

/-!
# Comma lists

A list of origins may be written with commas between its items.  There may be
blanks around each item, and pieces that are blank may stand anywhere between
the commas (`Origins.Pieces`).  If no item has a comma or a blank at its ends,
the items are read back (`Origins.commaItems_of_pieces`).

A text is first tried as JSON.  No JSON text starts like a comma list whose
first item is a web address: what comes first that is no gap is a letter that
starts no word, a comma, or a blank that JSON does not know
(`Json.read_of_notStart`).  So a comma list is never taken for JSON
(`Origins.check_commaList`).
-/

namespace GatewayNat

/-! ## Splitting and trimming -/

namespace Text

variable {α : Type}

theorem splitOn_eq [DecidableEq α] (separator : α) (items : List α) :
    splitOn separator items = items.splitOn separator := by
  induction items with
  | nil => rfl
  | cons c rest ih =>
    rw [splitOn, List.splitOn, List.splitOnP_cons_eq_if_modifyHead, ih, ← List.splitOn]
    by_cases same : c = separator
    · rw [if_pos same, if_pos (beq_iff_eq.mpr same)]
    · rw [if_neg same, if_neg (by simpa using same)]
      cases parts : rest.splitOn separator with
      | nil => exact absurd parts (List.splitOn_ne_nil separator rest)
      | cons part more => rfl

theorem trimList_of_all {drop : α → Bool} {items : List α}
    (all : ∀ item ∈ items, drop item = true) : trimList drop items = [] := by
  rw [trimList, List.dropWhile_eq_nil_iff.mpr all]
  rfl

/-- What is dropped may stand around a list. -/
theorem trimList_append {drop : α → Bool} {before after : List α} (items : List α)
    (front : ∀ item ∈ before, drop item = true) (back : ∀ item ∈ after, drop item = true) :
    trimList drop (before ++ items ++ after) = trimList drop items := by
  have backwards : ∀ item ∈ after.reverse, drop item = true := fun item member =>
    back item (List.mem_reverse.mp member)
  simp only [trimList]
  rw [List.append_assoc, List.dropWhile_append_of_pos front, List.dropWhile_append]
  split
  · next nothing =>
    rw [List.isEmpty_iff.mp nothing, List.dropWhile_eq_nil_iff.mpr back]
  · rw [List.reverse_append, List.dropWhile_append_of_pos backwards]

end Text

/-! ## Texts that are not JSON -/

namespace Json

/-- Whether a value may start with a character. -/
def isStart (c : Char) : Bool :=
  c.isDigit || ['"', '[', '\x7b', '-', 'n', 't', 'f', 'N', 'I'].contains c

theorem isBlank_eq_false_of_isStart {c : Char} (start : isStart c = true) :
    Text.isBlank c = false := by
  rcases Bool.or_eq_true_iff.mp start with digit | listed
  · have bounds : 48 ≤ c.toNat ∧ c.toNat ≤ 57 := Char.isDigit_iff_toNat.mp digit
    simp only [Text.isBlank, Text.isSpace, Bool.or_eq_false_iff, Bool.and_eq_false_iff,
      decide_eq_false_iff_not, beq_eq_false_iff_ne]
    omega
  · simp only [List.contains_iff_mem, List.mem_cons, List.not_mem_nil, or_false] at listed
    rcases listed with rfl | rfl | rfl | rfl | rfl | rfl | rfl | rfl | rfl <;> decide

theorem isStart_eq_false_of_isBlank {p : CodePoint} (blank : p.isBlank = true) :
    p.isIn isStart = false := by
  cases p with
  | lone s => rfl
  | char c =>
    rw [Bool.eq_false_iff]
    intro start
    have visible : Text.isBlank c = false := isBlank_eq_false_of_isStart start
    rw [show Text.isBlank c = true from blank] at visible
    cases visible

variable {p : CodePoint} {rest : List CodePoint} {position : Nat}

/-- A word of JSON does not stand where no value can start. -/
theorem Cursor.word?_of_notStart (strange : ∀ p ∈ rest.head?, p.isIn isStart = false)
    {word : String} (starts : word.toList.head?.any isStart = true) :
    Cursor.word? ⟨rest, position⟩ word = none := by
  rw [Cursor.word?, if_neg]
  intro standing
  obtain ⟨after, split⟩ := List.isPrefixOf_iff_prefix.mp standing
  cases letters : word.toList with
  | nil =>
    rw [letters] at starts
    cases starts
  | cons c more =>
    have start : isStart c = true := by
      rwa [letters] at starts
    have head : rest.head? = some (.char c) := by
      rw [← show Text.pointsOf word ++ after = rest from split, Text.pointsOf, letters]
      rfl
    have other : isStart c = false := strange (.char c) head
    rw [other] at start
    cases start

theorem wholeDigits_of_notStart (strange : ∀ p ∈ rest.head?, p.isIn isStart = false) :
    wholeDigits rest = [] := by
  cases rest with
  | nil => rfl
  | cons p rest =>
    cases p with
    | lone s => rfl
    | char c =>
      have other : isStart c = false := strange _ rfl
      have noDigit : c.isDigit = false := (Bool.or_eq_false_iff.mp other).1
      unfold wholeDigits
      split
      · next same =>
        cases same
        cases noDigit
      · rw [leadingDigits, noDigit]
        rfl

theorem readScalar_of_notStart (strange : ∀ p ∈ rest.head?, p.isIn isStart = false) :
    readScalar ⟨rest, position⟩ = .error (.malformed .value position) := by
  have noWord : (words.findSome? fun entry =>
      (Cursor.word? ⟨rest, position⟩ entry.1).map fun next => (entry.2, next)) = none := by
    rw [List.findSome?_eq_none_iff]
    intro entry member
    have starts : (words.all fun entry => entry.1.toList.head?.any isStart) = true := by decide
    rw [Cursor.word?_of_notStart strange (List.all_eq_true.mp starts entry member),
      Option.map_none]
  rw [readScalar, noWord]
  simp only
  split
  · cases strange _ rfl
  · simp only [readMagnitude, wholeDigits_of_notStart strange]
    rfl

theorem readValue_of_notStart (strange : ∀ p ∈ rest.head?, p.isIn isStart = false)
    (fuel room : Nat) :
    readValue fuel room ⟨rest, position⟩ = .error (.malformed .value position) := by
  cases fuel with
  | zero => rfl
  | succ fuel =>
    unfold readValue
    simp only
    split
    · cases strange _ rfl
    · cases strange _ rfl
    · cases strange _ rfl
    · exact readScalar_of_notStart strange

/-- What comes first after the gaps at the front. -/
theorem head?_skipFrom {blanks : List CodePoint} (position : Nat)
    (blank : ∀ q ∈ blanks, q.isBlank = true) (notGap : p.isIn isGap = false) :
    ∃ first, (skipFrom position (blanks ++ p :: rest)).rest.head? = some first ∧
      (first = p ∨ first.isBlank = true) := by
  induction blanks generalizing position with
  | nil =>
    refine ⟨p, ?_, .inl rfl⟩
    rw [List.nil_append, skipFrom, notGap]
    rfl
  | cons q blanks ih =>
    obtain ⟨here, others⟩ := List.forall_mem_cons.mp blank
    rw [List.cons_append, skipFrom]
    split
    · exact ih (position + 1) others
    · exact ⟨q, rfl, .inr here⟩

/-- A text is no JSON if what comes after blanks at its front cannot start a value. -/
theorem read_of_notStart {text : Text} {blanks : List CodePoint}
    (split : text.points = blanks ++ p :: rest) (blank : ∀ q ∈ blanks, q.isBlank = true)
    (notGap : p.isIn isGap = false) (strange : p.isIn isStart = false) :
    ∃ reason position, read text = .error (.malformed reason position) := by
  obtain ⟨first, head, origin⟩ : ∃ first,
      (skipFrom 0 (blanks ++ p :: rest)).rest.head? = some first ∧
        (first = p ∨ first.isBlank = true) := head?_skipFrom 0 blank notGap
  have notStart : ∀ q ∈ (skipFrom 0 text.points).rest.head?, q.isIn isStart = false := by
    intro q member
    rw [split, head] at member
    cases member
    rcases origin with same | isBlank
    · rwa [same]
    · exact isStart_eq_false_of_isBlank isBlank
  unfold read
  split
  · exact ⟨_, _, rfl⟩
  · refine ⟨.value, (skipFrom 0 text.points).position, ?_⟩
    rw [readUnmarked, readValue_of_notStart notStart]

end Json

namespace Origins

/-! ## Items and pieces -/

/-- A text that can be an item of a comma list. -/
structure IsItem (item : Text) : Prop where
  filled : item ≠ ""
  noComma : .char ',' ∉ item.points
  trimmed : Text.ofPoints (Text.trimList CodePoint.isBlank item.points) = item

/-- Code points that are all blank. -/
def AllBlank (points : List CodePoint) : Prop := ∀ p ∈ points, p.isBlank = true

/-- What may stand between the commas for items: each item with blanks around it, and blank pieces
anywhere. -/
inductive Pieces : List Text → List (List CodePoint) → Prop where
  | nil : Pieces [] []
  | blank {items : List Text} {pieces : List (List CodePoint)} {piece : List CodePoint}
      (nothing : AllBlank piece) (others : Pieces items pieces) : Pieces items (piece :: pieces)
  | item {items : List Text} {pieces : List (List CodePoint)} {before after : List CodePoint}
      (item : Text) (front : AllBlank before) (back : AllBlank after)
      (others : Pieces items pieces) :
      Pieces (item :: items) ((before ++ item.points ++ after) :: pieces)

variable {items : List Text} {pieces : List (List CodePoint)}

theorem Pieces.ne_nil (spelled : Pieces items pieces) (nonempty : items ≠ []) : pieces ≠ [] := by
  cases spelled with
  | nil => exact absurd rfl nonempty
  | blank nothing others => exact List.cons_ne_nil _ _
  | item item front back others => exact List.cons_ne_nil _ _

theorem AllBlank.noComma {points : List CodePoint} (blank : AllBlank points) :
    .char ',' ∉ points := by
  intro member
  have visible : CodePoint.isBlank (.char ',') = false := by decide
  rw [blank _ member] at visible
  cases visible

theorem Pieces.noComma (spelled : Pieces items pieces) (proper : ∀ item ∈ items, IsItem item) :
    ∀ piece ∈ pieces, .char ',' ∉ piece := by
  induction spelled with
  | nil => exact fun piece member => absurd member List.not_mem_nil
  | blank nothing others ih => exact List.forall_mem_cons.mpr ⟨nothing.noComma, ih proper⟩
  | item item front back others ih =>
    obtain ⟨here, more⟩ := List.forall_mem_cons.mp proper
    refine List.forall_mem_cons.mpr ⟨?_, ih more⟩
    simp only [List.mem_append, not_or]
    exact ⟨⟨front.noComma, here.noComma⟩, back.noComma⟩

/-- The items that pieces stand for, as a comma list is read. -/
theorem Pieces.trimmed (spelled : Pieces items pieces) (proper : ∀ item ∈ items, IsItem item) :
    ((pieces.map fun piece => Text.ofPoints (Text.trimList CodePoint.isBlank piece)).filter
      (· ≠ ("" : Text))) = items := by
  induction spelled with
  | nil => rfl
  | blank nothing others ih =>
    rw [List.map_cons, Text.trimList_of_all nothing, List.filter_cons_of_neg (by decide)]
    exact ih proper
  | item item front back others ih =>
    obtain ⟨here, more⟩ := List.forall_mem_cons.mp proper
    have kept : decide (item ≠ ("" : Text)) = true := decide_eq_true here.filled
    rw [List.map_cons, Text.trimList_append item.points front back, here.trimmed,
      List.filter_cons, if_pos kept, ih more]

/-- A comma list is read as its items. -/
theorem commaItems_of_pieces {text : Text} (spelled : Pieces items pieces) (nonempty : items ≠ [])
    (proper : ∀ item ∈ items, IsItem item)
    (joined : text.points = [.char ','].intercalate pieces) : commaItems text = items := by
  rw [commaItems, joined, Text.splitOn_eq,
    List.splitOn_intercalate _ (spelled.noComma proper) (spelled.ne_nil nonempty)]
  exact spelled.trimmed proper

/-! ## Lists of origins -/

/-- Texts that can be the items of a comma list, the first of which is a web address. -/
structure IsOriginList (items : List Text) : Prop where
  proper : ∀ item ∈ items, IsItem item
  web : ∃ first ∈ items.head?, Text.pointsOf "http" <+: first.points

theorem IsOriginList.ne_nil (listed : IsOriginList items) : items ≠ [] := by
  obtain ⟨first, head, -⟩ := listed.web
  rintro rfl
  cases head

/-- What comes first in the pieces of origins, apart from blanks: a comma or a letter. -/
theorem Pieces.exists_first (spelled : Pieces items pieces) (listed : IsOriginList items) :
    ∃ blanks c rest, [CodePoint.char ','].intercalate pieces = blanks ++ .char c :: rest ∧
      AllBlank blanks ∧ (c = ',' ∨ c = 'h') := by
  cases spelled with
  | nil => exact absurd rfl listed.ne_nil
  | @blank _ pieces piece nothing others =>
    obtain ⟨next, more, rfl⟩ := List.exists_cons_of_ne_nil (others.ne_nil listed.ne_nil)
    refine ⟨piece, ',', [CodePoint.char ','].intercalate (next :: more), ?_, nothing, .inl rfl⟩
    rw [List.intercalate_cons_cons, List.append_assoc, List.singleton_append]
  | @item items pieces before after item front back others =>
    obtain ⟨first, ⟨⟩, rest, address⟩ := listed.web
    have joined : ∃ tail, [CodePoint.char ','].intercalate
        ((before ++ item.points ++ after) :: pieces) = before ++ item.points ++ tail := by
      cases pieces with
      | nil => exact ⟨after, List.intercalate_singleton⟩
      | cons next more =>
        refine ⟨after ++ [.char ','] ++ [CodePoint.char ','].intercalate (next :: more), ?_⟩
        rw [List.intercalate_cons_cons]
        simp only [List.append_assoc]
    obtain ⟨tail, joined⟩ := joined
    refine ⟨before, 'h', Text.pointsOf "ttp" ++ rest ++ tail, ?_, front, .inr rfl⟩
    rw [joined, ← address]
    simp [Text.pointsOf]

/-- A comma list of origins is no JSON. -/
theorem Pieces.not_json {text : Text} (spelled : Pieces items pieces)
    (listed : IsOriginList items) (joined : text.points = [.char ','].intercalate pieces) :
    ∃ reason position, Json.read text = .error (.malformed reason position) := by
  obtain ⟨blanks, c, rest, split, blank, first⟩ := spelled.exists_first listed
  have strange : Json.isGap c = false ∧ Json.isStart c = false := by
    rcases first with same | same <;> rw [same] <;> decide
  exact Json.read_of_notStart (joined.trans split) blank strange.1 strange.2

/-! ## Spellings -/

/-- The ways to write a list of origins as a text. -/
inductive Writes (items : List Text) (text : Text) : Prop where
  | json (read : Json.read text = .ok (.arr (items.map .str)))
  | commas {pieces : List (List CodePoint)} (spelled : Pieces items pieces)
      (joined : text.points = [.char ','].intercalate pieces)

/-- The values that stand for a list of origins. -/
inductive Spells (items : List Text) : Json → Prop where
  | list : Spells items (.arr (items.map .str))
  | text {text : Text} (written : Writes items text) : Spells items (.str text)

/-- Every value that stands for a list of origins is accepted as that list. -/
theorem check_of_spells {value : Json} (listed : IsOriginList items)
    (spelled : Spells items value) : check value = .valid (.arr (items.map .str)) := by
  cases spelled with
  | list =>
    have texts : Json.asList Json.asText (.arr (items.map .str)) = .valid items := by
      rw [Json.asList, Checked.items_eq_valid_iff, List.map_map]
      rfl
    rw [check, texts]
    exact nofun
  | text written =>
    rw [check, ofText]
    cases written with
    | json read => rw [read]
    | commas spelled joined =>
      obtain ⟨reason, position, refused⟩ := spelled.not_json listed joined
      rw [refused]
      simp only
      rw [commaItems_of_pieces spelled listed.ne_nil listed.proper joined]

/-- No value that stands for a list of origins has anything too deep in it. -/
theorem tooDeep?_of_spells {value : Json} (listed : IsOriginList items)
    (spelled : Spells items value) : tooDeep? (some value) = none := by
  cases spelled with
  | list => rfl
  | text written =>
    rw [tooDeep?]
    cases written with
    | json read => rw [read]
    | commas spelled joined =>
      obtain ⟨reason, position, refused⟩ := spelled.not_json listed joined
      rw [refused]

/-- A source of texts keeps what a text stands for. -/
theorem readEntry_of_writes {text : Text} (listed : IsOriginList items)
    (written : Writes items text) :
    ∃ value, readEntry text = .ok (some value) ∧ Spells items value ∧
      ∀ members, value ≠ .obj members := by
  cases written with
  | json read =>
    refine ⟨_, ?_, .list, ?_⟩
    · rw [readEntry, read]
    · rintro members ⟨⟩
  | commas spelled joined =>
    obtain ⟨reason, position, refused⟩ := spelled.not_json listed joined
    refine ⟨.str text, ?_, .text (.commas spelled joined), ?_⟩
    · rw [readEntry, refused]
    · rintro members ⟨⟩

end Origins

end GatewayNat
