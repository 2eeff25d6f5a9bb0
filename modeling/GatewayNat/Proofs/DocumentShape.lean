import GatewayNat.Proofs.Binding
import GatewayNat.Proofs.Verdict
import GatewayNat.Directory.Static

/-!
# The shape of a directory document

A static directory is made of a value exactly if the value is an object of
objects of objects (`Json.IsDirectory`).  Any other value has one fault
(`Json.DirectoryFault`).

* The value is no object of objects.  This comes before all interfaces.
* An interface is not an object.  The first one is named, gateway by gateway and
  network by network (`Json.interfaceEntries`).

A document and its directory come from one table of objects
(`StaticDirectory.ofJson_eq_ok_iff`).
-/

namespace GatewayNat

/-! ## Tables with a function applied -/

namespace Table

variable {κ α β : Type} {f : α → β}

theorem exists_eq_mapEntries_iff {table : Table κ β} :
    (∃ entries : Table κ α, table = entries.mapEntries f) ↔
      ∀ entry ∈ table, ∃ a, entry.2 = f a := by
  induction table with
  | nil => simp [mapEntries]
  | cons entry rest ih =>
    rw [List.forall_mem_cons, ← ih]
    constructor
    · rintro ⟨entries, same⟩
      cases entries with
      | nil => cases same
      | cons first more =>
        obtain ⟨here, others⟩ := List.cons.inj same
        exact ⟨⟨first.2, congrArg Prod.snd here⟩, more, others⟩
    · rintro ⟨⟨a, here⟩, more, rfl⟩
      refine ⟨(entry.1, a) :: more, ?_⟩
      exact congrArg (· :: mapEntries f more) (congrArg (Prod.mk entry.1) here)

theorem names_mapEntries {table : Table κ α} : (table.mapEntries f).names = table.names := by
  simp [mapEntries, names]

theorem mapEntries_mapEntries {γ : Type} {g : β → γ} {table : Table κ α} :
    (table.mapEntries f).mapEntries g = table.mapEntries fun a => g (f a) := by
  simp [mapEntries, Function.comp_def]

theorem find?_mapEntries [DecidableEq κ] {table : Table κ α} {name : κ} :
    (table.mapEntries f).find? name = (table.find? name).map f := by
  induction table with
  | nil => rfl
  | cons entry rest ih =>
    simp only [mapEntries] at ih
    simp only [mapEntries, List.map_cons, find?, ih]
    split <;> rfl

end Table

/-! ## What a document must be -/

namespace Json

/-- The value is an object. -/
def IsObject (value : Json) : Prop := ∃ members : Members, value = .obj members

/-- The value of an entry is not an object. -/
def HasNoObject {κ : Type} (entry : κ × Json) : Prop := ¬entry.2.IsObject

/-- The value is an object of objects. -/
def HoldsObjects (value : Json) : Prop :=
  ∃ members : Members, value = .obj members ∧ ∀ entry ∈ members, entry.2.IsObject

/-- The value is an object of objects of objects. -/
def IsDirectory (value : Json) : Prop :=
  ∃ gateways : Members, value = .obj gateways ∧ ∀ entry ∈ gateways, entry.2.HoldsObjects

/-- The interfaces of gateways in order, each under its gateway and its network. -/
def interfaceEntries (gateways : Members) : Table (Text × Text) Json :=
  gateways.flatMap fun gateway =>
    (gateway.2.members?.getD []).map fun network => ((gateway.1, network.1), network.2)

/-- Why no static directory is made of a value. -/
inductive DirectoryFault (path : String) (value : Json) : LoadError → Prop where
  | notMapping (other : ¬value.HoldsObjects) : DirectoryFault path value (.notMapping path)
  | notInterface {gateways : Members} {gateway network : Text} {interface : Json}
    (holds : value.HoldsObjects) (object : value = .obj gateways)
    (first : FirstWith HasNoObject (interfaceEntries gateways) ((gateway, network), interface)) :
    DirectoryFault path value (.notInterface path gateway network)

theorem holdsObjects_iff {value : Json} :
    value.HoldsObjects ↔
      ∃ objects : Table Text Members, value = .obj (objects.mapEntries .obj) := by
  constructor
  · rintro ⟨members, rfl, all⟩
    obtain ⟨objects, rfl⟩ := Table.exists_eq_mapEntries_iff.mpr all
    exact ⟨objects, rfl⟩
  · rintro ⟨objects, rfl⟩
    exact ⟨_, rfl, Table.exists_eq_mapEntries_iff.mp ⟨objects, rfl⟩⟩

end Json

namespace StaticDirectory

/-- The document of a table of gateways. -/
def documentOf (objects : Table Text (Table Text Members)) : Json :=
  .obj (objects.mapEntries fun networks => .obj (networks.mapEntries .obj))

/-- The static directory of a table of gateways. -/
def ofObjects (objects : Table Text (Table Text Members)) : StaticDirectory :=
  ⟨objects.mapEntries fun networks => networks.mapEntries .ofMembers⟩

theorem isDirectory_iff {value : Json} :
    value.IsDirectory ↔ ∃ objects, value = documentOf objects := by
  simp only [Json.IsDirectory, Json.holdsObjects_iff]
  constructor
  · rintro ⟨gateways, rfl, all⟩
    obtain ⟨objects, rfl⟩ := Table.exists_eq_mapEntries_iff.mpr all
    exact ⟨objects, rfl⟩
  · rintro ⟨objects, rfl⟩
    exact ⟨_, rfl, Table.exists_eq_mapEntries_iff.mp ⟨objects, rfl⟩⟩

/-! ## The checks of a document -/

section Checks

variable {members networks : Members} {gateway network : Text} {value : Json}

theorem objects?_eq_some_iff {table : Table Text Members} :
    objects? members = some table ↔ members = table.mapEntries .obj := by
  induction members generalizing table with
  | nil => cases table <;> simp [objects?, Table.mapEntries]
  | cons entry rest ih =>
    obtain ⟨name, value⟩ := entry
    cases value with
    | obj inner =>
      rw [objects?, Option.map_eq_some_iff]
      simp only [ih]
      constructor
      · rintro ⟨more, rfl, rfl⟩
        rfl
      · intro same
        cases table with
        | nil => cases same
        | cons first more =>
          cases same
          exact ⟨more, rfl, rfl⟩
    | _ => cases table <;> simp [objects?, Table.mapEntries]

theorem interfaces_cons_of_not {rest : Members} (other : ¬value.IsObject) :
    interfaces ((network, value) :: rest) = .error network := by
  cases value with
  | obj inner => exact absurd ⟨inner, rfl⟩ other
  | _ => rfl

theorem interfaces_eq_ok_iff {table : Table Text Descriptor} :
    interfaces networks = .ok table ↔
      ∃ objects : Table Text Members,
        networks = objects.mapEntries .obj ∧ table = objects.mapEntries .ofMembers := by
  induction networks generalizing table with
  | nil =>
    constructor
    · intro same
      cases same
      exact ⟨[], rfl, rfl⟩
    · rintro ⟨objects, none, rfl⟩
      cases objects with
      | nil => rfl
      | cons first more => cases none
  | cons entry rest ih =>
    obtain ⟨name, value⟩ := entry
    by_cases object : value.IsObject
    · obtain ⟨inner, rfl⟩ := object
      rw [interfaces, Except.map_eq_ok_iff]
      simp only [ih]
      constructor
      · rintro ⟨_, ⟨more, rfl, rfl⟩, rfl⟩
        exact ⟨(name, inner) :: more, rfl, rfl⟩
      · rintro ⟨objects, same, rfl⟩
        cases objects with
        | nil => cases same
        | cons first more =>
          cases same
          exact ⟨_, ⟨more, rfl, rfl⟩, rfl⟩
    · rw [interfaces_cons_of_not object]
      refine iff_of_false (by simp) ?_
      rintro ⟨objects, same, -⟩
      exact object (Table.exists_eq_mapEntries_iff.mp ⟨objects, same⟩ (name, value) (.head _))

/-- The network that is named is the first one without an object. -/
theorem interfaces_eq_error_iff :
    interfaces networks = .error network ↔
      ∃ value, FirstWith Json.HasNoObject networks (network, value) := by
  induction networks with
  | nil => exact iff_of_false (by simp [interfaces]) fun ⟨value, first⟩ => by cases first.mem
  | cons entry rest ih =>
    obtain ⟨name, value⟩ := entry
    by_cases object : value.IsObject
    · have passed : ¬Json.HasNoObject (name, value) := not_not_intro object
      simp only [firstWith_cons_of_not passed]
      obtain ⟨inner, rfl⟩ := object
      rw [interfaces, Except.map_eq_error_iff, ih]
    · have here : Json.HasNoObject (name, value) := object
      simp only [firstWith_cons_of_holds here, interfaces_cons_of_not object]
      simp [eq_comm]

theorem gatewaysOf_eq_ok_iff {table : Table Text Members}
    {gateways : Table Text (Table Text Descriptor)} :
    gatewaysOf table = .ok gateways ↔
      ∃ objects : Table Text (Table Text Members),
        table = objects.mapEntries (fun networks => networks.mapEntries .obj) ∧
          gateways = objects.mapEntries fun networks => networks.mapEntries .ofMembers := by
  induction table generalizing gateways with
  | nil =>
    constructor
    · intro same
      cases same
      exact ⟨[], rfl, rfl⟩
    · rintro ⟨objects, none, rfl⟩
      cases objects with
      | nil => rfl
      | cons first more => cases none
  | cons entry rest ih =>
    obtain ⟨gateway, networks⟩ := entry
    rw [gatewaysOf]
    cases read : interfaces networks with
    | error network =>
      refine iff_of_false (by simp) ?_
      rintro ⟨objects, same, -⟩
      cases objects with
      | nil => cases same
      | cons first more =>
        cases same
        rw [interfaces_eq_ok_iff.mpr ⟨first.2, rfl, rfl⟩] at read
        cases read
    | ok descriptors =>
      simp only [Except.map_eq_ok_iff, ih]
      constructor
      · rintro ⟨_, ⟨more, rfl, rfl⟩, rfl⟩
        obtain ⟨inner, rfl, rfl⟩ := interfaces_eq_ok_iff.mp read
        exact ⟨(gateway, inner) :: more, rfl, rfl⟩
      · rintro ⟨objects, same, rfl⟩
        cases objects with
        | nil => cases same
        | cons first more =>
          cases same
          rw [interfaces_eq_ok_iff.mpr ⟨first.2, rfl, rfl⟩] at read
          cases read
          exact ⟨_, ⟨more, rfl, rfl⟩, rfl⟩

/-- The gateway and the network that are named are those of the first interface that is no
object. -/
theorem gatewaysOf_eq_error_iff {table : Table Text Members} :
    gatewaysOf table = .error (gateway, network) ↔
      ∃ value, FirstWith Json.HasNoObject (Json.interfaceEntries (table.mapEntries .obj))
        ((gateway, network), value) := by
  induction table with
  | nil => exact iff_of_false (by simp [gatewaysOf]) fun ⟨value, first⟩ => by cases first.mem
  | cons entry rest ih =>
    obtain ⟨name, networks⟩ := entry
    have split : Json.interfaceEntries (Table.mapEntries .obj ((name, networks) :: rest)) =
        networks.map (fun entry => ((name, entry.1), entry.2)) ++
          Json.interfaceEntries (Table.mapEntries .obj rest) := List.flatMap_cons
    have front : ∀ {value}, FirstWith Json.HasNoObject
        (networks.map fun entry => ((name, entry.1), entry.2)) ((gateway, network), value) ↔
          name = gateway ∧ FirstWith Json.HasNoObject networks (network, value) := by
      intro value
      rw [firstWith_map_iff]
      constructor
      · rintro ⟨_, first, same⟩
        cases same
        exact ⟨rfl, first⟩
      · rintro ⟨rfl, first⟩
        exact ⟨_, first, rfl⟩
    simp only [split, firstWith_append_iff, front, List.forall_mem_map]
    rw [gatewaysOf]
    cases read : interfaces networks with
    | error blamed =>
      obtain ⟨value, first⟩ := interfaces_eq_error_iff.mp read
      constructor
      · intro same
        cases same
        exact ⟨value, .inl ⟨rfl, first⟩⟩
      · rintro ⟨other, ⟨rfl, firstToo⟩ | ⟨clean, -⟩⟩
        · cases first.unique firstToo
          rfl
        · exact absurd first.holds (clean _ first.mem)
    | ok descriptors =>
      have none : ∀ blamed value, ¬FirstWith Json.HasNoObject networks (blamed, value) := by
        intro blamed value first
        rw [interfaces_eq_error_iff.mpr ⟨value, first⟩] at read
        cases read
      have clean : ∀ entry ∈ networks, ¬Json.HasNoObject entry := by
        intro entry member fails
        obtain ⟨⟨blamed, value⟩, first⟩ := exists_firstWith_iff.mpr ⟨entry, member, fails⟩
        exact none blamed value first
      simp only [Except.map_eq_error_iff, ih]
      constructor
      · rintro ⟨value, first⟩
        exact ⟨value, .inr ⟨clean, first⟩⟩
      · rintro ⟨value, ⟨-, first⟩ | ⟨-, first⟩⟩
        · exact absurd first (none network value)
        · exact ⟨value, first⟩

end Checks

/-! ## Loading a document -/

section Loading

variable {path : String} {value : Json} {d : StaticDirectory} {error : LoadError}

theorem members?_bind_objects?_eq_some_iff {table : Table Text Members} :
    value.members?.bind objects? = some table ↔ value = .obj (table.mapEntries .obj) := by
  cases value with
  | obj members => simp [Json.members?, objects?_eq_some_iff]
  | _ => simp [Json.members?]

theorem members?_bind_objects?_eq_none_iff :
    value.members?.bind objects? = none ↔ ¬value.HoldsObjects := by
  simp only [Option.eq_none_iff_forall_ne_some, ne_eq, members?_bind_objects?_eq_some_iff,
    Json.holdsObjects_iff, not_exists]

/-- A directory is made of a value exactly if both come from one table of objects. -/
theorem ofJson_eq_ok_iff :
    ofJson path value = .ok d ↔ ∃ objects, value = documentOf objects ∧ d = ofObjects objects := by
  constructor
  · intro made
    unfold ofJson at made
    split at made
    · cases made
    · next table tabled =>
      split at made
      · cases made
      · next gateways held =>
        cases made
        obtain ⟨objects, rfl, rfl⟩ := gatewaysOf_eq_ok_iff.mp held
        refine ⟨objects, ?_, rfl⟩
        rw [members?_bind_objects?_eq_some_iff.mp tabled, Table.mapEntries_mapEntries]
        rfl
  · rintro ⟨objects, rfl, rfl⟩
    have tabled : (documentOf objects).members?.bind objects? =
        some (objects.mapEntries fun networks => networks.mapEntries .obj) := by
      rw [members?_bind_objects?_eq_some_iff, Table.mapEntries_mapEntries]
      rfl
    simp only [ofJson, tabled, gatewaysOf_eq_ok_iff.mpr ⟨objects, rfl, rfl⟩]
    rfl

/-- No directory is made of a value exactly if it has that fault. -/
theorem ofJson_eq_error_iff :
    ofJson path value = .error error ↔ Json.DirectoryFault path value error := by
  unfold ofJson
  cases tabled : value.members?.bind objects? with
  | none =>
    have other := members?_bind_objects?_eq_none_iff.mp tabled
    constructor
    · intro same
      cases same
      exact .notMapping other
    · intro fault
      cases fault with
      | notMapping => rfl
      | notInterface holds object first => exact absurd holds other
  | some table =>
    have document := members?_bind_objects?_eq_some_iff.mp tabled
    have holds : value.HoldsObjects := Json.holdsObjects_iff.mpr ⟨table, document⟩
    constructor
    · intro failed
      simp only at failed
      split at failed
      · next gateway network held =>
        cases failed
        obtain ⟨interface, first⟩ := gatewaysOf_eq_error_iff.mp held
        exact .notInterface holds document first
      · cases failed
    · intro fault
      cases fault with
      | notMapping other => exact absurd holds other
      | notInterface _ object first =>
        rw [document] at object
        cases object
        simp only [gatewaysOf_eq_error_iff.mpr ⟨_, first⟩]

end Loading

end StaticDirectory

end GatewayNat
