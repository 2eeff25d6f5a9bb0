import GatewayNat.Proofs.DocumentShape

/-!
# The closing brace

What reading a value leaves of a text is an end of the text, since each step
only drops code points.  The reading of an object stops right after its closing
brace, and the object has every name once (`Json.closed_of_readValue`).  So a
text that is read as an object ends with a brace and blanks
(`Json.closed_of_read`).

A directory file is read as an object.  So a directory has every gateway once
(`StaticDirectory.nodup_names_of_loadNamed`), and the text of its file ends with a
brace and blanks (`StaticDirectory.closed_of_ofText`).
-/

namespace GatewayNat

namespace Json

variable {position : Nat} {c next : Cursor} {value : Json}

/-! ## What is left is an end -/

/-- The blanks that are skipped, with what comes after them. -/
theorem exists_gaps_skipFrom (position : Nat) (points : List CodePoint) :
    ∃ gaps, points = gaps ++ (skipFrom position points).rest ∧
      ∀ p ∈ gaps, p.isIn isGap = true := by
  induction points generalizing position with
  | nil => exact ⟨[], rfl, by simp⟩
  | cons p rest ih =>
    rw [skipFrom]
    split
    · next gap =>
      obtain ⟨gaps, split, blank⟩ := ih (position + 1)
      refine ⟨p :: gaps, by rw [List.cons_append, ← split], ?_⟩
      exact List.forall_mem_cons.mpr ⟨gap, blank⟩
    · exact ⟨[], rfl, by simp⟩

theorem Cursor.suffix_skip (c : Cursor) : c.skip.rest <:+ c.rest := by
  obtain ⟨gaps, split, -⟩ := exists_gaps_skipFrom c.position c.rest
  exact ⟨gaps, split.symm⟩

theorem Cursor.suffix_drop (c : Cursor) (n : Nat) : (c.drop n).rest <:+ c.rest :=
  List.drop_suffix n c.rest

theorem suffix_readText {start pending : Nat} {done points : List CodePoint} {s : Text}
    (read : readText start done position pending points = .ok (s, next)) :
    next.rest <:+ points := by
  induction points generalizing done position pending with
  | nil => cases read
  | cons p rest ih =>
    cases pending with
    | succ more => exact (ih read).trans (List.suffix_cons p rest)
    | zero =>
      simp only [readText] at read
      split at read
      · cases read
        exact List.suffix_cons p rest
      · split at read
        · split at read
          · cases read
          · exact (ih read).trans (List.suffix_cons p rest)
        · split at read
          · cases read
          · exact (ih read).trans (List.suffix_cons p rest)

theorem suffix_readMagnitude {negative : Bool} {start : Cursor}
    (read : readMagnitude negative start c = .ok (value, next)) : next.rest <:+ c.rest := by
  unfold readMagnitude at read
  simp only at read
  have whole := c.suffix_drop (wholeDigits c.rest).length
  generalize c.drop (wholeDigits c.rest).length = afterWhole at read whole
  have fraction : (if (fractionDigits afterWhole.rest).isEmpty then afterWhole
      else afterWhole.drop ((fractionDigits afterWhole.rest).length + 1)).rest <:+ c.rest := by
    split
    · exact whole
    · exact (afterWhole.suffix_drop _).trans whole
  generalize (if (fractionDigits afterWhole.rest).isEmpty then afterWhole
      else afterWhole.drop ((fractionDigits afterWhole.rest).length + 1)) = afterFraction
    at read fraction
  split at read
  · cases read
  · split at read
    · cases read
      exact (afterFraction.suffix_drop _).trans fraction
    · split at read
      · split at read
        · cases read
        · cases read
          exact whole
      · cases read
        exact fraction

/-- A number is no object. -/
theorem members?_of_readMagnitude {negative : Bool} {start : Cursor}
    (read : readMagnitude negative start c = .ok (value, next)) : value.members? = none := by
  unfold readMagnitude at read
  simp only at read
  split at read
  · cases read
  · split at read
    · cases read
      rfl
    · split at read
      · split at read
        · cases read
        · cases read
          rfl
      · cases read
        rfl

theorem word?_eq_some {word : String} (found : c.word? word = some next) :
    next = c.drop word.length := by
  unfold Cursor.word? at found
  split at found
  · exact (Option.some.inj found).symm
  · cases found

theorem members?_of_mem_words : ∀ entry ∈ words, entry.2.members? = none := by decide

/-- A word or a number is no object. -/
theorem readScalar_spec (read : readScalar c = .ok (value, next)) :
    value.members? = none ∧ next.rest <:+ c.rest := by
  unfold readScalar at read
  split at read
  · next found stands =>
    cases read
    obtain ⟨entry, member, stands⟩ := List.exists_of_findSome?_eq_some stands
    obtain ⟨after, word, same⟩ := Option.map_eq_some_iff.mp stands
    cases same
    rw [word?_eq_some word]
    exact ⟨members?_of_mem_words entry member, c.suffix_drop _⟩
  · split at read
    · exact ⟨members?_of_readMagnitude read, (suffix_readMagnitude read).trans (c.suffix_drop 1)⟩
    · exact ⟨members?_of_readMagnitude read, suffix_readMagnitude read⟩

/-- The code points after the first one and the blanks after it. -/
theorem Cursor.suffix_skip_drop (c : Cursor) : (c.drop 1).skip.rest <:+ c.rest :=
  (c.drop 1).suffix_skip.trans (c.suffix_drop 1)

/-- The first code point with what is left after it. -/
theorem Cursor.cons_drop {p : CodePoint} {rest : List CodePoint} (first : c.rest = p :: rest) :
    p :: (c.drop 1).rest = c.rest := by
  rw [first, Cursor.drop, first]
  rfl

/-- The closing brace of an object with what is left after it. -/
def closing (next : Cursor) : List CodePoint := .char '\x7d' :: next.rest

theorem suffix_closing (next : Cursor) : next.rest <:+ closing next := List.suffix_cons _ _

mutual

/-- A value leaves an end of the text. -/
theorem suffix_readValue : ∀ {fuel room : Nat} {c next : Cursor} {value : Json},
    readValue fuel room c = .ok (value, next) → next.rest <:+ c.rest
  | 0, _, _, _, _, read => by cases read
  | fuel + 1, room, c, next, value, read => by
    rw [readValue.eq_def] at read
    simp only at read
    split at read
    · next first =>
      split at read
      · next text =>
        cases read
        rw [first]
        exact (suffix_readText text).trans (List.suffix_cons _ _)
      · cases read
    · split at read
      · cases read
      · split at read
        · cases read
          exact (Cursor.suffix_drop _ 1).trans c.suffix_skip_drop
        · exact (suffix_readItems read).trans c.suffix_skip_drop
    · split at read
      · cases read
      · split at read
        · cases read
          exact (Cursor.suffix_drop _ 1).trans c.suffix_skip_drop
        · exact ((suffix_closing next).trans (closing_readMembers read)).trans c.suffix_skip_drop
    · exact (readScalar_spec read).2

/-- The items of a list leave an end of the text. -/
theorem suffix_readItems : ∀ {fuel room : Nat} {done : List Json} {c next : Cursor} {value : Json},
    readItems fuel room done c = .ok (value, next) → next.rest <:+ c.rest
  | 0, _, _, _, _, _, read => by cases read
  | fuel + 1, room, done, c, next, value, read => by
    rw [readItems] at read
    split at read
    · cases read
    · next item after here =>
      have item := suffix_readValue here
      simp only at read
      split at read
      · cases read
        exact ((Cursor.suffix_drop _ 1).trans after.suffix_skip).trans item
      · have rest := suffix_readItems read
        exact ((rest.trans (Cursor.suffix_skip_drop _)).trans after.suffix_skip).trans item
      · cases read

/-- The members of an object leave what comes after the closing brace. -/
theorem closing_readMembers :
    ∀ {fuel room : Nat} {done : List (Text × Json)} {c next : Cursor} {value : Json},
    readMembers fuel room done c = .ok (value, next) → closing next <:+ c.rest
  | 0, _, _, _, _, _, read => by cases read
  | fuel + 1, room, done, c, next, value, read => by
    rw [readMembers] at read
    split at read
    · next quoted first =>
      split at read
      · cases read
      · next name afterName text =>
        have named : afterName.skip.rest <:+ c.rest := by
          rw [first]
          exact (afterName.suffix_skip.trans (suffix_readText text)).trans (List.suffix_cons _ _)
        simp only at read
        split at read
        · split at read
          · cases read
          · next member after here =>
            have valued : after.skip.rest <:+ c.rest :=
              ((after.suffix_skip.trans (suffix_readValue here)).trans
                (Cursor.suffix_skip_drop _)).trans named
            split at read
            · next brace =>
              cases read
              rw [closing, Cursor.cons_drop brace]
              exact valued
            · exact ((closing_readMembers read).trans (Cursor.suffix_skip_drop _)).trans valued
            · cases read
        · cases read
    · cases read

end

/-! ## Objects -/

/-- Items are read to a list. -/
theorem members?_of_readItems {fuel room : Nat} {done : List Json}
    (read : readItems fuel room done c = .ok (value, next)) : value.members? = none := by
  induction fuel generalizing done c with
  | zero => cases read
  | succ fuel ih =>
    rw [readItems] at read
    split at read
    · cases read
    · simp only at read
      split at read
      · cases read
        rfl
      · exact ih read
      · cases read

/-- Members are read to an object that has every name once. -/
theorem nodup_of_readMembers {fuel room : Nat} {done : List (Text × Json)}
    (read : readMembers fuel room done c = .ok (value, next)) :
    ∃ members : Members, value = .obj members ∧ members.names.Nodup := by
  induction fuel generalizing done c with
  | zero => cases read
  | succ fuel ih =>
    rw [readMembers] at read
    split at read
    · split at read
      · cases read
      · simp only at read
        split at read
        · split at read
          · cases read
          · split at read
            · cases read
              exact ⟨_, rfl, Table.nodup_names_ofList _⟩
            · exact ih read
            · cases read
        · cases read
    · cases read

/-- An object has every name once, and what is left comes after its closing brace. -/
theorem closed_of_readValue {fuel room : Nat} {members : Members}
    (read : readValue fuel room c = .ok (.obj members, next)) :
    members.names.Nodup ∧ closing next <:+ c.rest := by
  cases fuel with
  | zero => cases read
  | succ fuel =>
    rw [readValue.eq_def] at read
    simp only at read
    split at read
    · split at read <;> cases read
    · split at read
      · cases read
      · split at read
        · cases read
        · cases members?_of_readItems read
    · split at read
      · cases read
      · split at read
        · next brace =>
          cases read
          refine ⟨.nil, ?_⟩
          rw [closing, Cursor.cons_drop brace]
          exact c.suffix_skip_drop
        · obtain ⟨_, same, nodup⟩ := nodup_of_readMembers read
          cases same
          exact ⟨nodup, (closing_readMembers read).trans c.suffix_skip_drop⟩
    · cases (readScalar_spec read).1

/-- A text that is read as an object ends with a brace and blanks, and the object has every name
once. -/
theorem closed_of_read {text : Text} {members : Members}
    (read : Json.read text = .ok (.obj members)) :
    members.names.Nodup ∧ ∃ before gaps, text.points = before ++ .char '\x7d' :: gaps ∧
      ∀ p ∈ gaps, p.isIn isGap = true := by
  unfold Json.read at read
  split at read
  · cases read
  · simp only [readUnmarked] at read
    split at read
    · cases read
    · next value next here =>
      split at read
      · next ended =>
        cases read
        obtain ⟨nodup, before, closed⟩ := closed_of_readValue here
        obtain ⟨gaps, split, blank⟩ := exists_gaps_skipFrom next.position next.rest
        obtain ⟨front, started, -⟩ := exists_gaps_skipFrom 0 text.points
        refine ⟨nodup, front ++ before, gaps, ?_, blank⟩
        have nothing : (skipFrom next.position next.rest).rest = [] := List.isEmpty_iff.mp ended
        rw [nothing, List.append_nil] at split
        rw [started, List.append_assoc, ← split]
        exact congrArg (front ++ ·) closed.symm
      · cases read

end Json

namespace StaticDirectory

variable {d : StaticDirectory} {path : String}

/-- A directory is made of an object, and has the names of its members. -/
theorem exists_obj_of_ofJson {value : Json} (made : ofJson path value = .ok d) :
    ∃ members : Members, value = .obj members ∧ d.gateways.names = members.names := by
  obtain ⟨objects, rfl, rfl⟩ := ofJson_eq_ok_iff.mp made
  exact ⟨_, rfl, Table.names_mapEntries.trans Table.names_mapEntries.symm⟩

/-- The text of a directory ends with a brace and blanks, and the directory has every gateway
once. -/
theorem closed_of_ofText {text : String} (made : ofText path text = .ok d) :
    d.gateways.names.Nodup ∧ ∃ before gaps,
      (text : Text).points = before ++ .char '\x7d' :: gaps ∧
        ∀ p ∈ gaps, p.isIn Json.isGap = true := by
  unfold ofText at made
  split at made
  · cases made
  · cases made
  · cases made
  · next value read =>
    obtain ⟨members, rfl, names⟩ := exists_obj_of_ofJson made
    rw [names]
    exact Json.closed_of_read read

/-- The name of a file that can be loaded has no lone surrogates. -/
theorem exists_load_of_loadNamed {files : Files} {name : Text}
    (loaded : loadNamed files name = .ok d) :
    ∃ path, name.toString? = some path ∧ load files path = .ok d := by
  unfold loadNamed at loaded
  cases named : name.toString? with
  | none =>
    rw [named] at loaded
    cases loaded
  | some path =>
    rw [named] at loaded
    exact ⟨path, rfl, loaded⟩

/-- A directory that is loaded has every gateway once. -/
theorem nodup_names_of_loadNamed {files : Files} {name : Text}
    (named : loadNamed files name = .ok d) : d.gateways.names.Nodup := by
  obtain ⟨path, -, loaded⟩ := exists_load_of_loadNamed named
  simp only [load] at loaded
  split at loaded
  · cases loaded
  · split at loaded
    · cases loaded
    · exact (closed_of_ofText loaded).1

end StaticDirectory

end GatewayNat
