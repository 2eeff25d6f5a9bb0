import GatewayNat.Files

/-!
# Env files

An env file gives texts to names, one entry a line.

* Blank lines are skipped.  A comment starts with `#` and ends with its line.
* An entry is a name, possibly after `export`, and possibly `=` and a text.  A
  name without `=` has no text.
* A name stands in single quotes, or ends before a blank, `=` or `#`.
* A text stands in single or double quotes and may then have many lines, or it
  is the rest of its line, without a comment that follows a blank and without
  blanks at its ends.
* After an entry its line may only have a comment.
* An entry that breaks a rule is dropped, and reading goes on with the next
  line.

Between quotes a backslash keeps the next character from closing them.  In
single quotes it escapes itself and the quote.  In double quotes it escapes both
quotes too and it writes the control characters.  Any other backslash stays.

A text may refer to names by `$` and braces, with a default after `:-`.  `values`
replaces the references.  A name may be known to earlier lines and to the
environment, and `Precedence` says which of them has the say.
-/

namespace GatewayNat

/-- The texts of the names that a process is started with. -/
abbrev Environment := Table Text Text

namespace EnvFile

/-- An entry: a name with its text, if it has one. -/
structure Entry where
  name : Text
  text : Option Text
  deriving DecidableEq, Repr

/-! ## Reading -/

/-- Whether a character is a blank that does not end its line. -/
def isGap (c : CodePoint) : Bool := c.isBlank && c ≠ .char '\n'

/-- The text after any blanks of the line. -/
def skipGap (cs : List CodePoint) : List CodePoint := cs.dropWhile isGap

/-- The text after the end of the line. -/
def nextLine (cs : List CodePoint) : List CodePoint := (cs.dropWhile (· ≠ .char '\n')).drop 1

/-- The text after the word `export` and blanks, if it starts so. -/
def skipExport (cs : List CodePoint) : List CodePoint :=
  match cs with
  | .char 'e' :: .char 'x' :: .char 'p' :: .char 'o' :: .char 'r' :: .char 't' :: c :: rest =>
    if isGap c then skipGap rest else cs
  | _ => cs

/-- Whether a character may stand in a name without quotes. -/
def isNameChar (c : CodePoint) : Bool := !(c.isBlank || c = .char '=' || c = .char '#')

/-- A name without quotes and the text after it. -/
def readPlainName (cs : List CodePoint) : Option (List CodePoint × List CodePoint) :=
  if (cs.takeWhile isNameChar).isEmpty then none
  else some (cs.takeWhile isNameChar, cs.dropWhile isNameChar)

/-- A name and the text after it. -/
def readName (cs : List CodePoint) : Option (List CodePoint × List CodePoint) :=
  match cs with
  | .char '\'' :: rest =>
    match rest.takeWhile (· ≠ .char '\''), rest.dropWhile (· ≠ .char '\'') with
    | c :: name, _ :: after => some (c :: name, after)
    | _, _ => none
  | _ => readPlainName cs

/-- The text up to the first quote that is not escaped, and the text after it. -/
def splitAtQuote (quote : CodePoint) : List CodePoint → Option (List CodePoint × List CodePoint)
  | [] => none
  | .char '\\' :: d :: rest =>
    (splitAtQuote quote rest).map fun split => (.char '\\' :: d :: split.1, split.2)
  | c :: rest =>
    if c = quote then some ([], rest)
    else (splitAtQuote quote rest).map fun split => (c :: split.1, split.2)

/-- The character that a letter stands for after a backslash in single quotes. -/
def singleEscape? : Char → Option Char
  | '\\' => some '\\'
  | '\'' => some '\''
  | _ => none

/-- The character that a letter stands for after a backslash in double quotes. -/
def doubleEscape? : Char → Option Char
  | '\\' => some '\\'
  | '\'' => some '\''
  | '"' => some '"'
  | 'a' => some '\x07'
  | 'b' => some '\x08'
  | 'f' => some '\x0c'
  | 'n' => some '\n'
  | 'r' => some '\r'
  | 't' => some '\t'
  | 'v' => some '\x0b'
  | _ => none

/-- The text with its escapes replaced.  A backslash that escapes nothing stays. -/
def unescape (escape? : Char → Option Char) : List CodePoint → List CodePoint
  | [] => []
  | [c] => [c]
  | c :: d :: rest =>
    if c = .char '\\' then
      match d.char?.bind escape? with
      | some e => .char e :: unescape escape? rest
      | none => c :: unescape escape? (d :: rest)
    else c :: unescape escape? (d :: rest)

/-- The text up to blanks with a `#` after them. -/
def cutComment : List CodePoint → List CodePoint
  | [] => []
  | c :: rest =>
    if c.isBlank && (rest.dropWhile CodePoint.isBlank).head? = some (.char '#') then []
    else c :: cutComment rest

/-- A text without quotes, which ends with its line. -/
def plainText (line : List CodePoint) : List CodePoint :=
  Text.trimList CodePoint.isBlank (cutComment line)

/-- A text and what follows it. -/
def readText (cs : List CodePoint) : Option (List CodePoint × List CodePoint) :=
  match skipGap cs with
  | .char '\'' :: rest =>
    (splitAtQuote (.char '\'') rest).map fun split => (unescape singleEscape? split.1, split.2)
  | .char '"' :: rest =>
    (splitAtQuote (.char '"') rest).map fun split => (unescape doubleEscape? split.1, split.2)
  | _ => some (plainText (cs.takeWhile (· ≠ .char '\n')), cs.dropWhile (· ≠ .char '\n'))

/-- The text after the end of a line that has at most a comment left. -/
def endLine (cs : List CodePoint) : Option (List CodePoint) :=
  match skipGap cs with
  | [] => some []
  | .char '\n' :: rest => some rest
  | .char '#' :: rest => some (nextLine rest)
  | _ => none

/-- An entry if its line ends in order, with the text after the line. -/
def finish (entry : Entry) (cs : List CodePoint) : Option Entry × List CodePoint :=
  match endLine cs with
  | some rest => (some entry, rest)
  | none => (none, nextLine cs)

/-- The entry of a name, with the text after its line. -/
def readEntry (name cs : List CodePoint) : Option Entry × List CodePoint :=
  match skipGap cs with
  | .char '=' :: rest =>
    match readText rest with
    | none => (none, nextLine rest)
    | some (text, after) => finish ⟨Text.ofPoints name, some (Text.ofPoints text)⟩ after
  | _ => finish ⟨Text.ofPoints name, none⟩ cs

/-- The entry at the start of a text, if there is one, with the text after its line. -/
def readLine (cs : List CodePoint) : Option Entry × List CodePoint :=
  match skipExport cs with
  | .char '#' :: rest => (none, nextLine rest)
  | start =>
    match readName start with
    | none => (none, nextLine start)
    | some (name, after) => readEntry name after

/-! ## Reading moves on -/

theorem length_dropWhile_le {α : Type} (p : α → Bool) (l : List α) :
    (l.dropWhile p).length ≤ l.length :=
  (List.dropWhile_suffix p).length_le

theorem length_skipGap_le (cs : List CodePoint) : (skipGap cs).length ≤ cs.length :=
  length_dropWhile_le _ cs

theorem length_nextLine_le (cs : List CodePoint) : (nextLine cs).length ≤ cs.length := by
  have h := length_dropWhile_le (· ≠ .char '\n') cs
  simp only [nextLine, List.length_drop]
  omega

/-- The next line starts after the first character. -/
theorem length_nextLine_cons_lt (c : CodePoint) (cs : List CodePoint) :
    (nextLine (c :: cs)).length < (c :: cs).length := by
  have h := length_dropWhile_le (· ≠ .char '\n') cs
  by_cases hc : c = .char '\n'
  · simp [nextLine, hc]
  · simp [nextLine, hc]
    simp only [ne_eq, decide_not] at h
    omega

theorem length_readPlainName_lt {cs name after : List CodePoint}
    (h : readPlainName cs = some (name, after)) : after.length < cs.length := by
  simp only [readPlainName] at h
  split at h
  · simp at h
  · simp only [Option.some.injEq, Prod.mk.injEq] at h
    obtain ⟨h1, h2⟩ := h
    have hlen := congrArg List.length (List.takeWhile_append_dropWhile (p := isNameChar) (l := cs))
    simp only [List.length_append, h1, h2] at hlen
    have : name ≠ [] := by
      rename_i he
      rw [h1] at he
      simpa using he
    have := List.length_pos_iff.mpr this
    omega

theorem length_readName_lt {cs name after : List CodePoint} (h : readName cs = some (name, after)) :
    after.length < cs.length := by
  unfold readName at h
  split at h
  · rename_i rest
    split at h
    · rename_i c n _ a h1 h2
      simp only [Option.some.injEq, Prod.mk.injEq] at h
      have h3 := length_dropWhile_le (· ≠ .char '\'') rest
      rw [h2] at h3
      simp only [List.length_cons] at h3 ⊢
      rw [← h.2]
      omega
    · simp at h
  · exact length_readPlainName_lt h

theorem length_splitAtQuote_le {quote : CodePoint} {cs before after : List CodePoint}
    (h : splitAtQuote quote cs = some (before, after)) : after.length ≤ cs.length := by
  fun_induction splitAtQuote quote cs generalizing before with
  | case1 => simp at h
  | case2 d rest ih =>
    simp only [Option.map_eq_some_iff, Prod.mk.injEq, Prod.exists] at h
    obtain ⟨b, a, h1, -, rfl⟩ := h
    have := ih h1
    simp only [List.length_cons]
    omega
  | case3 rest =>
    simp only [Option.some.injEq, Prod.mk.injEq] at h
    simp [← h.2]
  | case4 c rest _ _ ih =>
    simp only [Option.map_eq_some_iff, Prod.mk.injEq, Prod.exists] at h
    obtain ⟨b, a, h1, -, rfl⟩ := h
    have := ih h1
    simp only [List.length_cons]
    omega

theorem length_readText_le {cs text after : List CodePoint} (h : readText cs = some (text, after)) :
    after.length ≤ cs.length := by
  have hskip := length_skipGap_le cs
  unfold readText at h
  split at h
  · rename_i heq
    rw [heq, List.length_cons] at hskip
    simp only [Option.map_eq_some_iff, Prod.mk.injEq, Prod.exists] at h
    obtain ⟨b, a, h1, -, rfl⟩ := h
    have := length_splitAtQuote_le h1
    omega
  · rename_i heq
    rw [heq, List.length_cons] at hskip
    simp only [Option.map_eq_some_iff, Prod.mk.injEq, Prod.exists] at h
    obtain ⟨b, a, h1, -, rfl⟩ := h
    have := length_splitAtQuote_le h1
    omega
  · simp only [Option.some.injEq, Prod.mk.injEq] at h
    rw [← h.2]
    exact length_dropWhile_le _ cs

theorem length_endLine_le {cs rest : List CodePoint} (h : endLine cs = some rest) :
    rest.length ≤ cs.length := by
  have hskip := length_skipGap_le cs
  unfold endLine at h
  split at h
  · simp only [Option.some.injEq] at h
    simp [← h]
  · rename_i next heq
    simp only [Option.some.injEq] at h
    rw [heq, List.length_cons] at hskip
    rw [← h]
    omega
  · rename_i next heq
    simp only [Option.some.injEq] at h
    rw [heq, List.length_cons] at hskip
    have := length_nextLine_le next
    rw [← h]
    omega
  · simp at h

theorem length_finish_le (entry : Entry) (cs : List CodePoint) :
    (finish entry cs).2.length ≤ cs.length := by
  unfold finish
  split
  · rename_i rest h
    exact length_endLine_le h
  · exact length_nextLine_le cs

theorem length_readEntry_le (name cs : List CodePoint) :
    (readEntry name cs).2.length ≤ cs.length := by
  have hskip := length_skipGap_le cs
  unfold readEntry
  split
  · rename_i rest heq
    rw [heq, List.length_cons] at hskip
    split
    · have := length_nextLine_le rest
      simp only
      omega
    · rename_i text after h
      have h1 := length_readText_le h
      have h2 := length_finish_le ⟨Text.ofPoints name, some (Text.ofPoints text)⟩ after
      omega
  · exact length_finish_le _ cs

theorem skipExport_eq_or_length_lt (cs : List CodePoint) :
    skipExport cs = cs ∨ (skipExport cs).length < cs.length := by
  unfold skipExport
  split
  · rename_i c rest
    split
    · right
      have := length_skipGap_le rest
      simp only [List.length_cons]
      omega
    · exact .inl rfl
  · exact .inl rfl

/-- A line takes up at least one character. -/
theorem length_readLine_lt (c : CodePoint) (cs : List CodePoint) :
    (readLine (c :: cs)).2.length < (c :: cs).length := by
  have hlt : ∀ rest : List CodePoint, skipExport (c :: cs) = rest →
      (nextLine rest).length < (c :: cs).length := by
    intro rest h
    rcases skipExport_eq_or_length_lt (c :: cs) with he | he
    · rw [← h, he]
      exact length_nextLine_cons_lt c cs
    · rw [h] at he
      exact Nat.lt_of_le_of_lt (length_nextLine_le rest) he
  have hle : (skipExport (c :: cs)).length ≤ (c :: cs).length := by
    rcases skipExport_eq_or_length_lt (c :: cs) with he | he
    · exact Nat.le_of_eq (congrArg List.length he)
    · exact Nat.le_of_lt he
  unfold readLine
  split
  · rename_i rest heq
    rw [heq] at hle
    have := length_nextLine_le rest
    simp only [List.length_cons] at hle ⊢
    omega
  · split
    · exact hlt _ rfl
    · rename_i name after h
      have h1 := length_readName_lt h
      have h2 := length_readEntry_le name after
      omega

/-! ## Files -/

/-- The entries of a text. -/
def readLines (cs : List CodePoint) : List Entry :=
  match _h : cs.dropWhile CodePoint.isBlank with
  | [] => []
  | c :: rest =>
    match (readLine (c :: rest)).1 with
    | some entry => entry :: readLines (readLine (c :: rest)).2
    | none => readLines (readLine (c :: rest)).2
termination_by cs.length
decreasing_by
  all_goals
    have h1 := length_readLine_lt c rest
    have h2 := length_dropWhile_le CodePoint.isBlank cs
    rw [_h] at h2
    omega

/-- The entries of an env file in order.  A byte order mark at the start is no part of it. -/
def read (text : Text) : List Entry :=
  match text.points with
  | .char '\ufeff' :: rest => readLines rest
  | cs => readLines cs

/-- The entries of the env file of a tree.  Without such a file there are none. -/
def load (files : Files) (path : String) : Except Text.Utf8.Fault (List Entry) :=
  match files.octets path with
  | .ok octets => (Files.textOf octets).map read
  | .error _ => .ok []

/-! ## References -/

/-- A part of a text. -/
inductive Part where
  | plain (c : CodePoint)
  /-- A reference to a name with a default text. -/
  | reference (name : Text) (default : List CodePoint)
  deriving DecidableEq, Repr

/-- The reference after a dollar sign, and the text after it. -/
def readReference : List CodePoint → Option (Part × List CodePoint)
  | .char '\x7b' :: rest =>
    let name := Text.ofPoints (rest.takeWhile fun c => c ≠ .char '\x7d' && c ≠ .char ':')
    match rest.dropWhile fun c => c ≠ .char '\x7d' && c ≠ .char ':' with
    | .char '\x7d' :: after => some (.reference name [], after)
    | .char ':' :: .char '-' :: more =>
      match more.dropWhile (· ≠ .char '\x7d') with
      | _ :: after => some (.reference name (more.takeWhile (· ≠ .char '\x7d')), after)
      | [] => none
    | _ => none
  | _ => none

theorem length_readReference_lt {cs : List CodePoint} {part : Part} {after : List CodePoint}
    (h : readReference cs = some (part, after)) : after.length < cs.length := by
  unfold readReference at h
  split at h
  · rename_i rest
    have hd := length_dropWhile_le (fun c => c ≠ .char '\x7d' && c ≠ .char ':') rest
    simp only at h
    split at h
    · rename_i a heq
      simp only [Option.some.injEq, Prod.mk.injEq] at h
      rw [heq] at hd
      simp only [List.length_cons, ← h.2] at hd ⊢
      omega
    · rename_i more heq
      rw [heq] at hd
      have hm := length_dropWhile_le (· ≠ .char '\x7d') more
      split at h
      · rename_i a heq2
        simp only [Option.some.injEq, Prod.mk.injEq] at h
        rw [heq2] at hm
        simp only [List.length_cons, ← h.2] at hd hm ⊢
        omega
      · simp at h
    · simp at h
  · simp at h

/-- The parts of a text. -/
def parts : List CodePoint → List Part
  | [] => []
  | c :: rest =>
    if c = .char '$' then
      match _h : readReference rest with
      | some (part, after) => part :: parts after
      | none => .plain c :: parts rest
    else .plain c :: parts rest
termination_by cs => cs.length
decreasing_by
  · have := length_readReference_lt _h
    simp only [List.length_cons]
    omega
  · simp
  · simp

/-- Names with their texts.  A name may be known and have no text. -/
abbrev Values := Table Text (Option Text)

/-- The text of a part.  A known name without a text stands for nothing. -/
def Part.resolve (known : Text → Option (Option Text)) : Part → List CodePoint
  | .plain c => [c]
  | .reference name default =>
    match known name with
    | some (some text) => text.points
    | some none => []
    | none => default

/-- The text with its references replaced. -/
def expand (known : Text → Option (Option Text)) (text : Text) : Text :=
  .ofPoints ((parts text.points).flatMap (Part.resolve known))

/-- Which text a reference means if a name is known twice. -/
inductive Precedence where
  | earlierLines
  | environment
  deriving DecidableEq, Repr

/-- What is known of a name after some lines. -/
def known (environment : Environment) (given : Values) (name : Text) :
    Precedence → Option (Option Text)
  | .earlierLines => (given.find? name).or ((environment.find? name).map some)
  | .environment => ((environment.find? name).map some).or (given.find? name)

/-- The values after one more entry. -/
def Values.give (precedence : Precedence) (environment : Environment) (given : Values)
    (entry : Entry) : Values :=
  Table.set given entry.name
    (entry.text.map (expand fun name => known environment given name precedence))

/-- The values of all entries.  The last entry of a name wins. -/
def values (precedence : Precedence) (environment : Environment) (entries : List Entry) : Values :=
  entries.foldl (Values.give precedence environment) []

/-! ## Copying into an environment -/

/-- Why a value cannot be copied into an environment. -/
inductive CopyError where
  | zeroCharacter
  | equalsSign
  deriving DecidableEq, Repr

/-- The wording of a copy error. -/
def CopyError.message : CopyError → String
  | .zeroCharacter => "embedded null byte"
  | .equalsSign => "illegal environment variable name"

/-- Whether an environment can hold a text under a name. -/
def checkVariable (name text : Text) : Except CopyError Unit :=
  if name.points.contains (.char '\x00') || text.points.contains (.char '\x00') then
    .error .zeroCharacter
  else if name.points.contains (.char '=') then .error .equalsSign
  else .ok ()

/-- The environment with the values of the names that it lacks. -/
def copyValues (environment : Environment) : Values → Except CopyError Environment
  | [] => .ok environment
  | (_, none) :: rest => copyValues environment rest
  | (name, some text) :: rest =>
    if environment.has name then copyValues environment rest
    else
      match checkVariable name text with
      | .error e => .error e
      | .ok () => copyValues (environment.set name text) rest

/-- The environment after an env file is copied into it. -/
def copyInto (environment : Environment) (entries : List Entry) : Except CopyError Environment :=
  copyValues environment (values .environment environment entries)

end EnvFile

end GatewayNat
