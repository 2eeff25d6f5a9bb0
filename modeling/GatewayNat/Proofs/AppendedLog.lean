import GatewayNat.Proofs.ClosingBrace
import GatewayNat.Proofs.RejectionResponse

/-!
# A log at the end of the directory file

The log file may be the directory file.  Then each record prolongs what is loaded
the next time.

A record whose message ends with a plain character, which is in ASCII and neither a
blank nor a closing brace, is written as a line of this end.  A file that ends with such
a line is no object.  So it cannot be loaded, and a file that can be loaded after such
records could be loaded before them, with the same result (`Service.load_write`).  A file
that is not the log is loaded as before (`Service.load_write_of_ne`).
-/

namespace GatewayNat

/-! ## Plain ends -/

/-- Whether a line may end with a character, and no object. -/
def isPlainEnd (c : Char) : Bool := c.toNat < 0x80 && !Json.isGap c && c ≠ '\x7d'

theorem isPlainEnd_iff {c : Char} : isPlainEnd c = true ↔
    c.toNat < 0x80 ∧ Json.isGap c = false ∧ c ≠ '\x7d' := by
  simp [isPlainEnd, and_assoc]

namespace Text

theorem points_appendRuns (t : Text) (run : Surrogate × String)
    (more : List (Surrogate × String)) :
    (appendRuns t run more).flatMap runPoints =
      (run :: more).flatMap runPoints ++ t.points := by
  induction more generalizing run with
  | nil => simp [appendRuns, runPoints, pointsOf, points]
  | cons next more ih => simp [appendRuns, ih]

@[simp] theorem points_append (s t : Text) : (s ++ t).points = s.points ++ t.points := by
  obtain ⟨start, rest⟩ := s
  cases rest with
  | nil =>
    show pointsOf (start ++ t.start) ++ t.rest.flatMap runPoints = _
    simp [points, pointsOf]
  | cons run more =>
    have appended : ((⟨start, run :: more⟩ : Text) ++ t).points =
        pointsOf start ++ (appendRuns t run more).flatMap runPoints := rfl
    rw [appended, points_appendRuns]
    simp [points]

/-- The text ends with a plain character. -/
def EndsPlainly (t : Text) : Prop :=
  ∃ front c, t.points = front ++ [.char c] ∧ isPlainEnd c = true

theorem EndsPlainly.after {t : Text} (plain : t.EndsPlainly) (s : Text) :
    (s ++ t).EndsPlainly := by
  obtain ⟨front, c, points, plainEnd⟩ := plain
  exact ⟨s.points ++ front, c, by rw [points_append, points, List.append_assoc], plainEnd⟩

theorem EndsPlainly.afterString {t : String} (plain : (t : Text).EndsPlainly) (s : String) :
    ((s ++ t : String) : Text).EndsPlainly := by
  rw [ofString_append]
  exact plain.after s

theorem endsPlainly_of_getLast? {s : String} (plain : s.toList.getLast?.any isPlainEnd = true) :
    (s : Text).EndsPlainly := by
  cases last : s.toList.getLast? with
  | none =>
    rw [last] at plain
    cases plain
  | some c =>
    rw [last] at plain
    obtain ⟨front, split⟩ := List.getLast?_eq_some_iff.mp last
    exact ⟨front.map .char, c, by simp [split], plain⟩

theorem endsPlainly_quoted (t : Text) : ((quoted t : String) : Text).EndsPlainly := by
  refine endsPlainly_of_getLast? ?_
  rw [quoted, String.toList_ofList, ← List.cons_append, List.getLast?_concat, Option.any_some,
    quoteFor]
  split <;> decide

end Text

/-! ## Octets and line ends -/

namespace Text.Utf8

theorem toList_loop_eq (octets : ByteArray) (i : Nat) (done : List UInt8) :
    ByteArray.toList.loop octets i done = done.reverse ++ octets.data.toList.drop i := by
  fun_induction ByteArray.toList.loop octets i done with
  | case1 i done inside ih =>
    have bound : i < octets.data.toList.length := inside
    rw [ih, List.drop_eq_getElem_cons bound]
    simp [ByteArray.get!, inside]
  | case2 i done outside =>
    rw [List.drop_eq_nil_of_le (Nat.le_of_not_lt outside), List.append_nil]

theorem toList_append (a b : ByteArray) : (a ++ b).toList = a.toList ++ b.toList := by
  simp [ByteArray.toList, toList_loop_eq]

/-- The octets of a line that ends with a character in ASCII. -/
theorem toUTF8_append_line (s : String) {c : Char} (ascii : c.toNat < 0x80) :
    (s ++ String.ofList [c, '\n']).toUTF8.toList = s.toUTF8.toList ++ [c.toNat.toUInt8, 10] := by
  have feed : "\n".toByteArray.data.toList = [10] := rfl
  have ended : (String.ofList [c, '\n']).toByteArray.toList = [c.toNat.toUInt8, 10] := by
    simp [ByteArray.toList, toList_loop_eq, List.utf8Encode, String.utf8EncodeChar, feed,
      if_pos (Nat.le_of_lt_succ ascii)]
  rw [String.toUTF8, String.toByteArray_append, toList_append, ended]
  rfl

variable {x : UInt8} (ascii : x < 0x80)

include ascii

theorem not_follows {lead : UInt8} : follows lead x = false := by
  have low : x < (if lead = 0xe0 then 0xa0 else if lead = 0xf0 then 0x90 else 0x80) := by
    split
    · exact UInt8.lt_trans ascii (by decide)
    · split
      · exact UInt8.lt_trans ascii (by decide)
      · exact ascii
  rw [follows, decide_eq_false (UInt8.not_le.mpr low), Bool.false_and]

theorem not_continues : continues x = false := by
  rw [continues, decide_eq_false (UInt8.not_le.mpr ascii), Bool.false_and]

omit ascii in
theorem lone?_chars (a b c : UInt8) : lone? .chars a b c = none := by
  unfold lone?
  split
  · simp [Alphabet.loneUnit, Alphabet.chars]
  · rfl

/-- An octet in ASCII at the end is a character on its own. -/
theorem decodeFrom_concat (octets : List UInt8) : ∀ {done : List Char} {start : Nat}
    {chars : List Char}, decodeFrom .chars done start (octets ++ [x]) = .ok chars →
      ∃ front, decodeFrom .chars done start octets = .ok front ∧
        chars = front ++ [Char.ofNat x.toNat] := by
  intro done start
  fun_induction decodeFrom .chars done start octets with
  | case1 =>
    intro chars decoded
    simp only [List.nil_append, decodeFrom, if_pos ascii, Except.ok.injEq] at decoded
    exact ⟨_, rfl, by rw [← decoded, List.reverse_cons]; rfl⟩
  | _ =>
    intro chars decoded
    rw [decodeFrom.eq_def] at decoded
    -- a fault is one still, since the octet continues no character, and a step goes on as before
    simp only [List.cons_append, List.nil_append, *, if_true, if_false, not_follows ascii,
      not_continues ascii, lone?_chars, Bool.not_false, reduceCtorEq] at decoded <;>
      (apply_assumption; exact decoded)

end Text.Utf8

namespace Files

theorem lineFeeds_append_plain {c : Char} (noReturn : c ≠ '\r') (noFeed : c ≠ '\n')
    (front : List Char) : ∃ before, lineFeeds (front ++ [c, '\n']) = before ++ [c, '\n'] := by
  fun_induction lineFeeds front with
  | case1 => exact ⟨[], by simp [lineFeeds, noReturn]⟩
  | case2 rest ih =>
    obtain ⟨before, same⟩ := ih
    exact ⟨'\n' :: before, by simp [lineFeeds, same]⟩
  | case3 rest lonely ih =>
    obtain ⟨before, same⟩ := ih
    refine ⟨'\n' :: before, ?_⟩
    rw [List.cons_append, lineFeeds, same, List.cons_append]
    intro more fed
    cases rest with
    | nil => exact noFeed (List.cons.inj fed).1
    | cons d rest => exact lonely rest (congrArg (· :: rest) (List.cons.inj fed).1)
  | case4 d rest paired returned ih =>
    obtain ⟨before, same⟩ := ih
    refine ⟨d :: before, ?_⟩
    rw [List.cons_append, lineFeeds, same, List.cons_append]
    · exact fun _ back _ => returned back
    · exact returned

/-- The octets of a file that ends with a plain line stand for a text that does so too. -/
theorem textOf_append_line {octets : List UInt8} {c : Char} (plain : isPlainEnd c = true)
    {text : String} (decoded : textOf (octets ++ [c.toNat.toUInt8, 10]) = .ok text) :
    ∃ before, text.toList = before ++ [c, '\n'] := by
  obtain ⟨ascii, noGap, -⟩ := isPlainEnd_iff.mp plain
  have octet : c.toNat.toUInt8.toNat = c.toNat :=
    Nat.mod_eq_of_lt (ascii.trans (by decide))
  have low : c.toNat.toUInt8 < 0x80 := by
    rw [UInt8.lt_iff_toNat_lt, octet]
    exact ascii
  have split : octets ++ [c.toNat.toUInt8, 10] = octets ++ [c.toNat.toUInt8] ++ [10] := by simp
  rw [textOf, Text.Utf8.decode, split] at decoded
  cases all : Text.Utf8.decodeFrom .chars [] 0 (octets ++ [c.toNat.toUInt8] ++ [10]) with
  | error fault =>
    rw [all] at decoded
    cases decoded
  | ok chars =>
    rw [all] at decoded
    cases decoded
    obtain ⟨front, first, rfl⟩ := Text.Utf8.decodeFrom_concat (by decide) _ all
    obtain ⟨start, -, rfl⟩ := Text.Utf8.decodeFrom_concat low _ first
    rw [octet, Char.ofNat_toNat, List.append_assoc, withLineFeeds, String.toList_ofList,
      String.toList_ofList]
    have noReturn : c ≠ '\r' := by
      rintro rfl
      cases noGap
    have noFeed : c ≠ '\n' := by
      rintro rfl
      cases noGap
    exact lineFeeds_append_plain noReturn noFeed start

/-! ## Files with more at their end -/

variable (files : Files) (name : String) (more : List UInt8)

/-- A tree with octets added to a file has the same entries, but for the octets of that file. -/
theorem at?_append (place : Location) :
    (files.append name more).at? place = files.at? place ∨
      place.name = name ∧ ∃ octets, files.at? place = some (.file octets) ∧
        (files.append name more).at? place = some (.file (octets ++ more)) := by
  unfold at? append
  split
  · exact .inl rfl
  · split
    · next octets held =>
      rw [Table.find?_set]
      split
      · next same =>
        subst same
        exact .inr ⟨rfl, octets, held, rfl⟩
      · exact .inl rfl
    · exact .inl rfl

theorem lookFrom_append (steps : List String) (place : Location) :
    (files.append name more).lookFrom place steps = files.lookFrom place steps ∨
      (steps.foldl Location.walk place).name = name ∧
        ∃ octets, files.lookFrom place steps = .ok (.file octets) ∧
          (files.append name more).lookFrom place steps = .ok (.file (octets ++ more)) := by
  induction steps generalizing place with
  | nil =>
    rcases at?_append files name more place with same | ⟨named, octets, here, there⟩
    · exact .inl (by simp only [lookFrom, same])
    · exact .inr ⟨named, octets, by simp only [lookFrom, here], by simp only [lookFrom, there]⟩
  | cons step rest ih =>
    rcases at?_append files name more place with same | ⟨-, octets, here, there⟩
    · simp only [lookFrom, same]
      cases files.at? place with
      | none => exact .inl rfl
      | some node =>
        cases node with
        | file octets => exact .inl rfl
        | directory =>
          simp only
          split
          · exact .inl rfl
          · exact ih _
    · exact .inl (by simp only [lookFrom, here, there])

theorem look_append (path : String) :
    (files.append name more).look path = files.look path ∨
      entryName path = name ∧ ∃ octets, files.look path = .ok (.file octets) ∧
        (files.append name more).look path = .ok (.file (octets ++ more)) := by
  unfold look
  split
  · exact .inl rfl
  · split
    · exact .inl rfl
    · exact lookFrom_append files name more _ _

/-- A file has the octets that it had, or it is the one with more at its end. -/
theorem octets_append (path : String) :
    (files.append name more).octets path = files.octets path ∨
      entryName path = name ∧ ∃ octets, files.octets path = .ok octets ∧
        (files.append name more).octets path = .ok (octets ++ more) := by
  rcases look_append files name more path with same | ⟨named, octets, here, there⟩
  · exact .inl (by simp only [Files.octets, same])
  · refine .inr ⟨named, octets, ?_, ?_⟩
    · simp only [Files.octets, here]
    · simp only [Files.octets, there]

end Files

/-! ## Lines of a log -/

/-- Octets of lines with plain ends, one after another. -/
def EndsLine (octets : List UInt8) : Prop :=
  ∃ front c, octets = front ++ [c.toNat.toUInt8, 10] ∧ isPlainEnd c = true

/-- A file that ends with a plain line cannot be loaded. -/
theorem StaticDirectory.not_ofText_of_line {path text : String} {d : StaticDirectory}
    {before : List Char} {c : Char} (plain : isPlainEnd c = true)
    (line : text.toList = before ++ [c, '\n']) : ofText path text ≠ .ok d := by
  intro made
  obtain ⟨-, noGap, noBrace⟩ := isPlainEnd_iff.mp plain
  obtain ⟨-, front, gaps, points, blank⟩ := closed_of_ofText made
  rw [Text.points_ofString, line, List.map_append] at points
  -- the last code point that is no blank is the brace, and it is the one that the line ends with
  have lastOfBoth := congrArg
    (fun points => (points.reverse.dropWhile (·.isIn Json.isGap)).head?) points
  have feed : Json.isGap '\n' = true := rfl
  have brace : Json.isGap '\x7d' = false := rfl
  simp only [List.reverse_append, List.map_cons, List.map_nil, List.reverse_cons, List.reverse_nil,
    List.nil_append, List.cons_append, List.append_assoc] at lastOfBoth
  rw [List.dropWhile_append_of_pos (by simpa using blank)] at lastOfBoth
  simp [CodePoint.isIn, feed, noGap, brace] at lastOfBoth
  exact noBrace lastOfBoth

theorem StaticDirectory.load_append {files : Files} {name path : String} {more : List UInt8}
    {d : StaticDirectory} (lines : more = [] ∨ EndsLine more)
    (loaded : load (files.append name more) path = .ok d) : load files path = .ok d := by
  rcases Files.octets_append files name more (Files.normal path) with
    same | ⟨-, octets, here, there⟩
  · simpa only [load, same] using loaded
  · rcases lines with rfl | ⟨front, c, rfl, plain⟩
    · simp only [load, here, there, List.append_nil] at loaded ⊢
      exact loaded
    · simp only [load, there] at loaded
      split at loaded
      · cases loaded
      · next text decoded =>
        rw [← List.append_assoc] at decoded
        obtain ⟨before, line⟩ := Files.textOf_append_line plain decoded
        exact absurd loaded (not_ofText_of_line plain line)

/-- Only the file that has more at its end may be loaded with another result. -/
theorem StaticDirectory.load_append_of_ne {files : Files} {name path : String} {more : List UInt8}
    (other : Files.entryName (Files.normal path) ≠ name) :
    load (files.append name more) path = load files path := by
  rcases Files.octets_append files name more (Files.normal path) with same | ⟨named, -⟩
  · simp only [load, same]
  · exact absurd named other

/-- A record whose message ends plainly adds nothing or a line that does so. -/
theorem Journal.Record.endsLine_written {record : Record} {occasion : Occasion} {line : String}
    (plain : record.message.EndsPlainly)
    (written : (record.written occasion).toString? = some line) :
    EndsLine line.toUTF8.toList := by
  obtain ⟨front, c, points, plainEnd⟩ := plain
  obtain ⟨head, whole⟩ : ∃ head : Text, record.written occasion = head ++ record.message ++ "\n" :=
    ⟨_, rfl⟩
  have parts : line.toList.map CodePoint.char =
      (head.points ++ front) ++ [c, '\n'].map CodePoint.char := by
    rw [← Text.points_ofString, ← Text.toString?_eq_some_iff.mp written, whole]
    simp [points]
  obtain ⟨start, last, split, -, ended⟩ := List.map_eq_append_iff.mp parts
  have same : last = [c, '\n'] := List.map_injective_iff.mpr (fun _ _ => CodePoint.char.inj) ended
  have lined : line = String.ofList start ++ String.ofList [c, '\n'] := by
    rw [← String.ofList_append, ← same, ← split, String.ofList_toList]
  rw [lined, Text.Utf8.toUTF8_append_line _ (isPlainEnd_iff.mp plainEnd).1]
  exact ⟨_, c, rfl, plainEnd⟩

namespace Service

/-- The octets of records whose messages end plainly. -/
theorem endsLine_logOctets (around : Surroundings) {records : List Journal.Record}
    (plain : ∀ record ∈ records, record.message.EndsPlainly) :
    logOctets around records = [] ∨ EndsLine (logOctets around records) := by
  induction records with
  | nil => exact .inl rfl
  | cons record rest ih =>
    obtain ⟨here, later⟩ := List.forall_mem_cons.mp plain
    rw [logOctets, List.flatMap_cons, ← logOctets]
    rcases ih later with none | ⟨front, c, octets, plainEnd⟩
    · rw [none, List.append_nil]
      cases written : (record.written around.occasion).toString? with
      | none => exact .inl rfl
      | some line => exact .inr (Journal.Record.endsLine_written here written)
    · rw [octets, ← List.append_assoc]
      exact .inr ⟨_, c, rfl, plainEnd⟩

/-- What can be loaded after records whose messages end plainly could be loaded before them. -/
theorem load_write {s : Service} (around : Surroundings) {path : String} {d : StaticDirectory}
    {records : List Journal.Record} (plain : ∀ record ∈ records, record.message.EndsPlainly)
    (loaded : StaticDirectory.load (s.write around records).files path = .ok d) :
    StaticDirectory.load s.files path = .ok d := by
  unfold write at loaded
  split at loaded
  · exact loaded
  · refine StaticDirectory.load_append (endsLine_logOctets around ?_) loaded
    intro record member
    exact plain record (List.mem_of_mem_filter member)

/-- A file that is not the log is loaded as before. -/
theorem load_write_of_ne {s : Service} (around : Surroundings) {path : String}
    (elsewhere : s.logFile ≠ some (Files.entryName (Files.normal path)))
    (records : List Journal.Record) :
    StaticDirectory.load (s.write around records).files path =
      StaticDirectory.load s.files path := by
  unfold write
  split
  · rfl
  · next name logs =>
    refine StaticDirectory.load_append_of_ne ?_
    rintro rfl
    exact elsewhere logs

section Named

variable {s : Service} (around : Surroundings) {path : Text} {records : List Journal.Record}

theorem loadNamed_write {d : StaticDirectory}
    (plain : ∀ record ∈ records, record.message.EndsPlainly)
    (loaded : StaticDirectory.loadNamed (s.write around records).files path = .ok d) :
    StaticDirectory.loadNamed s.files path = .ok d := by
  obtain ⟨name, named, there⟩ := StaticDirectory.exists_load_of_loadNamed loaded
  simp only [StaticDirectory.loadNamed, named]
  exact load_write around plain there

theorem loadNamed_write_of_ne (elsewhere : ∀ name : String, path = name →
      s.logFile ≠ some (Files.entryName (Files.normal name))) :
    StaticDirectory.loadNamed (s.write around records).files path =
      StaticDirectory.loadNamed s.files path := by
  unfold StaticDirectory.loadNamed
  cases named : path.toString? with
  | none => rfl
  | some name =>
    exact load_write_of_ne around (elsewhere name (Text.toString?_eq_some_iff.mp named)) records

end Named

end Service

end GatewayNat
