import GatewayNat.EnvFile
import Mathlib.Data.List.Basic

/-!
# Readings of an env file

A reading of an env file has an environment and a precedence.  It takes a name
from the last entry of the name (`Gives`), and it expands the references in that
entry by what the names mean before it (`meaning`).

* `Uses` collects the entries that a name has its text from: its last entry, and
  through the references there earlier ones.
* Two readings have the same text for a name if every reference in these entries
  means the same to both, where it may be taken for granted that they agree on
  what earlier entries give (`find?_values_congr`).
* Whether a name has a text does not depend on the reading
  (`isSome_join_find?_values`).

A reference `Clashes` if the environment and the earlier entries have different
texts for its name.  Without a clash it does not matter which of them has the
say (`find?_values_of_neverClashes`).

The copy of a file gives the environment the texts of the names that it lacks
(`find?_copyInto`), as long as it can hold them (`exists_copyInto_iff`).  After
the copy a reference means something else only if it `LooksAhead`, to an entry
that comes later (`find?_values_of_neverLooksAhead`).
-/

namespace GatewayNat.EnvFile

variable {p q : Precedence} {environment full E F : Environment}
  {entries earlier later : List Entry} {entry : Entry} {name other : Text}

/-! ## Where texts come from -/

/-- The text of an entry refers to a name. -/
def Entry.RefersTo (entry : Entry) (name : Text) : Prop :=
  ∃ text ∈ entry.text, ∃ default, Part.reference name default ∈ parts text.points

/-- The last entry of a name, which comes after earlier ones. -/
def Gives (entries : List Entry) (name : Text) (earlier : List Entry) (entry : Entry) : Prop :=
  ∃ later, entries = earlier ++ entry :: later ∧ entry.name = name ∧
    ∀ line ∈ later, line.name ≠ name

/-- The entries that a name has its text from, each with the ones before it.  References lead to
earlier entries as far as they are followed. -/
inductive Uses (follows : Text → Prop) : List Entry → Text → List Entry → Entry → Prop where
  | own {entries earlier : List Entry} {entry : Entry} {name : Text}
      (gives : Gives entries name earlier entry) : Uses follows entries name earlier entry
  | through {entries between earlier : List Entry} {line entry : Entry} {name other : Text}
      (gives : Gives entries name between line) (refers : line.RefersTo other)
      (followed : follows other) (uses : Uses follows between other earlier entry) :
      Uses follows entries name earlier entry

theorem Gives.length_lt (gives : Gives entries name earlier entry) :
    earlier.length < entries.length := by
  obtain ⟨later, rfl, -, -⟩ := gives
  rw [List.length_append, List.length_cons]
  omega

theorem Gives.mem (gives : Gives entries name earlier entry) : entry ∈ entries := by
  obtain ⟨later, rfl, -, -⟩ := gives
  exact List.mem_append_right _ List.mem_cons_self

theorem Gives.named (gives : Gives entries name earlier entry) : entry.name = name := by
  obtain ⟨later, -, named, -⟩ := gives
  exact named

/-- Only a name of the file has its text from entries. -/
theorem Uses.exists_named {follows : Text → Prop} (uses : Uses follows entries name earlier entry) :
    ∃ line ∈ entries, line.name = name := by
  cases uses with
  | own gives => exact ⟨entry, gives.mem, gives.named⟩
  | through gives => exact ⟨_, gives.mem, gives.named⟩

theorem Uses.exists_split {follows : Text → Prop} (uses : Uses follows entries name earlier entry) :
    ∃ later, entries = earlier ++ entry :: later := by
  induction uses with
  | own gives =>
    obtain ⟨later, same, -, -⟩ := gives
    exact ⟨later, same⟩
  | @through entries between earlier line entry name other gives refers followed uses ih =>
    obtain ⟨after, rfl⟩ := ih
    obtain ⟨later, same, -, -⟩ := gives
    exact ⟨after ++ line :: later, by rw [same, List.append_assoc, List.cons_append]⟩

/-- A name has a last entry, or it has none at all. -/
theorem exists_gives (entries : List Entry) (name : Text) :
    (∃ earlier entry, Gives entries name earlier entry) ∨ ∀ entry ∈ entries, entry.name ≠ name := by
  induction entries with
  | nil => exact .inr nofun
  | cons first rest ih =>
    rcases ih with ⟨earlier, entry, later, rfl, named, others⟩ | others
    · exact .inl ⟨first :: earlier, entry, later, rfl, named, others⟩
    · by_cases named : first.name = name
      · exact .inl ⟨[], first, rest, rfl, named, others⟩
      · exact .inr (List.forall_mem_cons.mpr ⟨named, others⟩)

/-! ## What a reading gives -/

/-- What a reference to a name means to a reading after some entries. -/
def meaning (precedence : Precedence) (environment : Environment) (entries : List Entry)
    (name : Text) : Option (Option Text) :=
  known environment (values precedence environment entries) name precedence

theorem find?_foldl_give_of_ne {given : Values} (others : ∀ entry ∈ later, entry.name ≠ name) :
    (later.foldl (Values.give p E) given).find? name = given.find? name := by
  induction later generalizing given with
  | nil => rfl
  | cons entry rest ih =>
    obtain ⟨here, more⟩ := List.forall_mem_cons.mp others
    rw [List.foldl_cons, ih more, Values.give, Table.find?_set, if_neg here]

theorem find?_values_of_gives (gives : Gives entries name earlier entry) :
    (values p E entries).find? name = some (entry.text.map (expand (meaning p E earlier))) := by
  obtain ⟨later, rfl, rfl, others⟩ := gives
  rw [values, List.foldl_append, List.foldl_cons, find?_foldl_give_of_ne others, Values.give,
    Table.find?_set, if_pos rfl]
  rfl

theorem find?_values_eq_none_iff :
    (values p E entries).find? name = none ↔ ∀ entry ∈ entries, entry.name ≠ name := by
  constructor
  · intro absent
    rcases exists_gives entries name with ⟨earlier, entry, gives⟩ | others
    · rw [find?_values_of_gives gives] at absent
      cases absent
    · exact others
  · exact find?_foldl_give_of_ne

theorem nodup_names_values : (values p E entries).names.Nodup := by
  suffices kept : ∀ given : Values, given.names.Nodup →
      (entries.foldl (Values.give p E) given).names.Nodup from kept [] List.nodup_nil
  induction entries with
  | nil => exact fun _ nodup => nodup
  | cons entry rest ih => exact fun given nodup => ih _ (Table.nodup_names_set _ _ _ nodup)

/-- Whether a name has a text is the same for every reading. -/
theorem isSome_join_find?_values :
    ((values p E entries).find? name).join.isSome =
      ((values q F entries).find? name).join.isSome := by
  rcases exists_gives entries name with ⟨earlier, entry, gives⟩ | others
  · simp only [find?_values_of_gives gives, Option.join_some, Option.isSome_map]
  · rw [find?_values_eq_none_iff.mpr others, find?_values_eq_none_iff.mpr others]

theorem expand_congr {a b : Text → Option (Option Text)} {text : Text}
    (alike : ∀ name default, Part.reference name default ∈ parts text.points → a name = b name) :
    expand a text = expand b text := by
  have resolved : ∀ part ∈ parts text.points, part.resolve a = part.resolve b := by
    intro part member
    cases part with
    | plain c => rfl
    | reference name default => rw [Part.resolve, Part.resolve, alike name default member]
  rw [expand, expand, List.flatMap_congr resolved]

/-- Two readings have the same text for a name if the references in the entries that it comes from
mean the same to both. -/
theorem find?_values_congr (follows : Text → Prop)
    (alike : ∀ earlier entry, Uses follows entries name earlier entry →
      ∀ other, entry.RefersTo other →
        (follows other → (values p E earlier).find? other = (values q F earlier).find? other) →
          meaning p E earlier other = meaning q F earlier other) :
    (values p E entries).find? name = (values q F entries).find? name := by
  induction size : entries.length using Nat.strongRecOn generalizing entries name with
  | ind n ih =>
    subst size
    rcases exists_gives entries name with ⟨earlier, entry, gives⟩ | others
    · rw [find?_values_of_gives gives, find?_values_of_gives gives]
      cases given : entry.text with
      | none => rfl
      | some text =>
        have same : expand (meaning p E earlier) text = expand (meaning q F earlier) text := by
          refine expand_congr fun other default member => ?_
          have refers : entry.RefersTo other := ⟨text, given, default, member⟩
          -- What the earlier entries give agrees, since they use nothing else.
          refine alike earlier entry (.own gives) other refers fun followed => ?_
          exact ih earlier.length gives.length_lt
            (fun before line uses => alike before line (.through gives refers followed uses)) rfl
        simp only [Option.map_some, same]
    · rw [find?_values_eq_none_iff.mpr others, find?_values_eq_none_iff.mpr others]

/-! ## References that clash -/

/-- A reference to a name for which the environment and the earlier entries have different
texts. -/
def Clashes (environment : Environment) (earlier : List Entry) (entry : Entry) (name : Text) :
    Prop :=
  entry.RefersTo name ∧ ∃ text given, environment.find? name = some text ∧
    (values .earlierLines environment earlier).find? name = some given ∧ given ≠ some text

/-- A name that an environment lacks. -/
def Lacks (environment : Environment) (name : Text) : Prop := environment.find? name = none

/-- No reference clashes in the entries that a name has its text from.  A name that the environment
has is not looked for in earlier entries. -/
def NeverClashes (environment : Environment) (entries : List Entry) (name : Text) : Prop :=
  ∀ earlier entry, Uses (Lacks environment) entries name earlier entry →
    ∀ other, ¬Clashes environment earlier entry other

/-- If an environment has none of the names of a file, no reference clashes. -/
theorem neverClashes_of_apart
    (apart : ∀ entry ∈ entries, Lacks environment entry.name) :
    NeverClashes environment entries name := by
  rintro earlier entry uses other ⟨-, text, given, here, before, -⟩
  obtain ⟨later, rfl⟩ := uses.exists_split
  have absent : (values .earlierLines environment earlier).find? other = none := by
    refine find?_values_eq_none_iff.mpr fun line member => ?_
    rintro rfl
    have lacks := apart line (List.mem_append_left _ member)
    rw [Lacks, here] at lacks
    cases lacks
  rw [absent] at before
  cases before

/-- Without a clash it does not matter what has the say. -/
theorem find?_values_of_neverClashes (clear : NeverClashes environment entries name) :
    (values .environment environment entries).find? name =
      (values .earlierLines environment entries).find? name := by
  refine find?_values_congr (Lacks environment) fun earlier entry uses other refers same => ?_
  rw [meaning, meaning, known, known]
  cases here : environment.find? other with
  | none => rw [same here, Option.map_none, Option.none_or, Option.or_none]
  | some text =>
    cases given : (values .earlierLines environment earlier).find? other with
    | none => rfl
    | some earlierText =>
      have agree : earlierText = some text := by
        by_contra different
        exact clear earlier entry uses other ⟨refers, text, earlierText, here, given, different⟩
      rw [agree]
      rfl

/-! ## Copying into an environment -/

/-- An environment can take over a value: it has the name already, or it can hold the text if there
is one. -/
def TakesOver (environment : Environment) (value : Text × Option Text) : Prop :=
  ∀ text ∈ value.2, Lacks environment value.1 → checkVariable value.1 text = .ok ()

/-- An environment can take over all values of a file. -/
def Copyable (environment : Environment) (entries : List Entry) : Prop :=
  ∀ value ∈ values .environment environment entries, TakesOver environment value

/-- A step of the copy.  The environment takes over the value, which it has then if it did not have
the name already, or the copy ends. -/
theorem copyValues_cons (environment : Environment) (value : Text × Option Text) (rest : Values) :
    (TakesOver environment value ∧ ∃ next,
      copyValues environment (value :: rest) = copyValues next rest ∧ ∀ other, next.find? other =
        if value.1 = other then (environment.find? other).or value.2
        else environment.find? other) ∨
    (¬TakesOver environment value ∧
      ∃ fault, copyValues environment (value :: rest) = .error fault) := by
  obtain ⟨name, text⟩ := value
  cases text with
  | none =>
    refine .inl ⟨nofun, environment, rfl, fun other => ?_⟩
    rw [Option.or_none, ite_self]
  | some text =>
    cases here : environment.find? name with
    | some old =>
      refine .inl ⟨fun _ _ lacks => ?_, environment, ?_, fun other => ?_⟩
      · rw [Lacks, here] at lacks
        cases lacks
      · rw [copyValues, Table.has, here]
        rfl
      · split
        · next same => rw [← same, here, Option.some_or]
        · rfl
    | none =>
      cases checked : checkVariable name text with
      | error fault =>
        refine .inr ⟨fun takes => ?_, fault, ?_⟩
        · rw [takes text rfl here] at checked
          cases checked
        · rw [copyValues, Table.has, here, checked]
          rfl
      | ok done =>
        refine .inl ⟨?_, environment.set name text, ?_, fun other => ?_⟩
        · rintro _ ⟨⟩ -
          exact checked
        · rw [copyValues, Table.has, here, checked]
          rfl
        · rw [Table.find?_set]
          split
          · next same => rw [← same, here, Option.none_or]
          · rfl

theorem exists_copyValues_iff {given : Values} (nodup : given.names.Nodup) :
    (∃ full, copyValues environment given = .ok full) ↔
      ∀ value ∈ given, TakesOver environment value := by
  induction given generalizing environment with
  | nil => exact ⟨fun _ => nofun, fun _ => ⟨environment, rfl⟩⟩
  | cons value rest ih =>
    obtain ⟨fresh, restNodup⟩ := List.nodup_cons.mp nodup
    rw [List.forall_mem_cons]
    rcases copyValues_cons environment value rest with
      ⟨takes, next, step, found⟩ | ⟨refuses, fault, step⟩
    · rw [step, ih restNodup, and_iff_right takes]
      refine forall₂_congr fun later member => ?_
      have different : value.1 ≠ later.1 := by
        intro same
        exact fresh (List.mem_map.mpr ⟨later, member, same.symm⟩)
      rw [TakesOver, TakesOver, Lacks, Lacks, found, if_neg different]
    · rw [step]
      exact ⟨nofun, fun takes => absurd takes.1 refuses⟩

theorem find?_copyValues {given : Values} (nodup : given.names.Nodup)
    (copied : copyValues environment given = .ok full) (name : Text) :
    full.find? name = (environment.find? name).or (given.find? name).join := by
  induction given generalizing environment with
  | nil =>
    cases copied
    rw [Table.find?_nil, Option.join_none, Option.or_none]
  | cons value rest ih =>
    obtain ⟨fresh, restNodup⟩ := List.nodup_cons.mp nodup
    rcases copyValues_cons environment value rest with ⟨-, next, step, found⟩ | ⟨-, fault, step⟩
    · rw [step] at copied
      rw [ih restNodup copied, found, Table.find?]
      split
      · next same =>
        subst same
        have notLater : Table.find? rest value.1 = none := by
          by_contra later
          exact fresh
            ((Table.find?_isSome_iff rest value.1).mp (Option.isSome_iff_ne_none.mpr later))
        rw [notLater, Option.join_none, Option.or_none, Option.join_some]
      · rfl
    · rw [step] at copied
      cases copied

/-- A file can be copied exactly if the environment can take over its values. -/
theorem exists_copyInto_iff :
    (∃ full, copyInto environment entries = .ok full) ↔ Copyable environment entries :=
  exists_copyValues_iff nodup_names_values

/-- The copy of a file has the texts of the environment, and for names that it lacks those of the
file. -/
theorem find?_copyInto (copied : copyInto environment entries = .ok full) (name : Text) :
    full.find? name =
      (environment.find? name).or ((values .environment environment entries).find? name).join :=
  find?_copyValues nodup_names_values copied name

/-! ## References that look ahead -/

/-- A reference to a name that the environment and the earlier entries lack, while the file gives it
a text. -/
def LooksAhead (environment : Environment) (entries earlier : List Entry) (entry : Entry)
    (name : Text) : Prop :=
  entry.RefersTo name ∧ Lacks environment name ∧ (∀ line ∈ earlier, line.name ≠ name) ∧
    ∃ text, (values .environment environment entries).find? name = some (some text)

/-- No reference looks ahead in the entries that a name has its text from. -/
def NeverLooksAhead (environment : Environment) (entries : List Entry) (name : Text) : Prop :=
  ∀ earlier entry, Uses (fun _ => True) entries name earlier entry →
    ∀ other, ¬LooksAhead environment entries earlier entry other

theorem neverLooksAhead_of_absent (absent : ∀ entry ∈ entries, entry.name ≠ name) :
    NeverLooksAhead environment entries name := by
  intro earlier entry uses
  obtain ⟨line, member, named⟩ := uses.exists_named
  exact absurd named (absent line member)

/-- Without references that look ahead a name has the same text after the copy, if earlier entries
have the say. -/
theorem find?_values_of_neverLooksAhead (copied : copyInto environment entries = .ok full)
    (settled : NeverLooksAhead environment entries name) :
    (values .earlierLines full entries).find? name =
      (values .earlierLines environment entries).find? name := by
  refine find?_values_congr (fun _ => True) fun earlier entry uses other refers same => ?_
  rw [meaning, meaning, known, known, same trivial]
  cases given : (values .earlierLines environment earlier).find? other with
  | some text => rfl
  | none =>
    suffices unchanged : full.find? other = environment.find? other by rw [unchanged]
    rw [find?_copyInto copied]
    cases here : environment.find? other with
    | some text => rfl
    | none =>
      cases ahead : (values .environment environment entries).find? other with
      | none => rfl
      | some later =>
        cases later with
        | none => rfl
        | some text =>
          exact absurd ⟨refers, here, find?_values_eq_none_iff.mp given, text, ahead⟩
            (settled earlier entry uses other)

end GatewayNat.EnvFile
