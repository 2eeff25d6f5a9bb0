import GatewayNat.Proofs.ClosingBrace

/-!
# The document of a static directory

A file holds a value if its text can be read as one.  A directory is loaded from
the file if the value has the shape of a directory, and else the fault of the
value is told (`load_mirrors_document`).

A directory that is loaded answers like its document, gateway for gateway and
network for network (`StaticDirectory.Mirrors`).  This holds since a look-up in
either is one in the table of objects that both come from.  It lists its
gateways in strictly increasing order of code points (`Text.Precedes`), each of
them once, since the document has every name once.
-/

namespace GatewayNat

/-! ## The order of texts -/

/-- No character has the number of a surrogate. -/
theorem Surrogate.unit_ne_toNat (s : Surrogate) (c : Char) : s.unit ≠ c.toNat := by
  have inside := s.isSurrogate
  have outside : c.toNat < 0xd800 ∨ 0xdfff < c.toNat ∧ c.toNat < 0x110000 := c.valid
  omega

theorem CodePoint.value_injective : Function.Injective value := by
  intro p q same
  cases p with
  | char c =>
    cases q with
    | char d => exact congrArg char (Char.toNat_inj.mp same)
    | lone s => exact absurd same.symm (s.unit_ne_toNat c)
  | lone s =>
    cases q with
    | char d => exact absurd same (s.unit_ne_toNat d)
    | lone t =>
      obtain ⟨unit, isSurrogate⟩ := s
      obtain rfl : unit = t.unit := same
      rfl

namespace Text

/-- The numbers of the code points of a text. -/
def values (t : Text) : List Nat := t.points.map CodePoint.value

/-- A text comes before another one in the order of code points. -/
def Precedes (s t : Text) : Prop := s.values < t.values

theorem values_injective : Function.Injective values := by
  intro s t same
  have points := CodePoint.value_injective.list_map same
  rw [← ofPoints_points s, points, ofPoints_points]

theorem le_iff {s t : Text} : s.le t = true ↔ ¬t.Precedes s := by
  rw [le, Bool.not_eq_true', decide_eq_false_iff_not]
  rfl

/-- Texts of which none is there twice are sorted strictly. -/
theorem pairwise_precedes_mergeSort {texts : List Text} (nodup : texts.Nodup) :
    (texts.mergeSort le).Pairwise Precedes := by
  have sorted : (texts.mergeSort le).Pairwise fun s t => s.le t = true := by
    refine List.pairwise_mergeSort ?_ ?_ texts
    · intro s t u first second
      have before := List.not_lt.mp (le_iff.mp first)
      have after := List.not_lt.mp (le_iff.mp second)
      exact le_iff.mpr (List.not_lt.mpr (List.le_trans before after))
    · intro s t
      rw [Bool.or_eq_true, le_iff, le_iff]
      exact (List.le_total _ _).imp List.not_lt.mpr List.not_lt.mpr
  have apart : (texts.mergeSort le).Nodup := (List.mergeSort_perm texts le).nodup_iff.mpr nodup
  refine sorted.imp₂ ?_ apart
  intro s t before different
  apply Classical.byContradiction
  intro after
  exact different (values_injective
    (List.le_antisymm (List.not_lt.mp (le_iff.mp before)) (List.not_lt.mp after)))

end Text

namespace StaticDirectory

/-! ## What a directory answers -/

/-- A directory answers like an object of gateways. -/
structure Mirrors (d : StaticDirectory) (gateways : Members) : Prop where
  /-- The gateways that are found are those of the object. -/
  found : ∀ gateway, (∃ networks, d.findGateway gateway = .ok networks) ↔ gateway ∈ gateways.names
  unknown : ∀ gateway, gateway ∉ gateways.names →
    d.findGateway gateway = .error (.rejected (.gatewayNotFound gateway))
  /-- An interface is found with the members that it has in the object, or not at all. -/
  interface : ∀ (gateway : Text) (networks : Members),
    gateways.find? gateway = some (.obj networks) →
      ∀ network, ∃ members : Option Members, networks.find? network = members.map .obj ∧
        d.findInterface gateway network = .ok (members.map .ofMembers)
  listed : ∀ gateway, gateway ∈ d.gatewayIds ↔ gateway ∈ gateways.names
  increasing : d.gatewayIds.Pairwise Text.Precedes

section Mirrors

variable {objects : Table Text (Table Text Members)} {gateway : Text}

theorem networks?_ofObjects :
    (ofObjects objects).networks? gateway =
      (objects.find? gateway).map fun networks => networks.mapEntries .ofMembers :=
  Table.find?_mapEntries

theorem names_ofObjects : (ofObjects objects).gateways.names = objects.names :=
  Table.names_mapEntries

theorem findGateway_of_mem {networks : Table Text Members}
    (held : objects.find? gateway = some networks) :
    (ofObjects objects).findGateway gateway = .ok (networks.mapEntries .ofMembers) := by
  rw [findGateway, networks?_ofObjects, held]
  rfl

theorem findGateway_of_not_mem (absent : gateway ∉ objects.names) :
    (ofObjects objects).findGateway gateway =
      .error (.rejected (.gatewayNotFound gateway)) := by
  rw [← Table.find?_isSome_iff, Option.not_isSome_iff_eq_none] at absent
  rw [findGateway, networks?_ofObjects, absent]
  rfl

/-- A directory and its document are looked up alike. -/
theorem mirrors_ofObjects {gateways : Members} (document : documentOf objects = .obj gateways)
    (nodup : gateways.names.Nodup) : (ofObjects objects).Mirrors gateways := by
  cases document
  rw [Table.names_mapEntries] at nodup
  constructor
  case found =>
    intro gateway
    rw [Table.names_mapEntries]
    constructor
    · rintro ⟨networks, known⟩
      apply Classical.byContradiction
      intro absent
      rw [findGateway_of_not_mem absent] at known
      cases known
    · intro member
      rw [← Table.find?_isSome_iff, Option.isSome_iff_exists] at member
      obtain ⟨networks, held⟩ := member
      exact ⟨_, findGateway_of_mem held⟩
  case unknown =>
    intro gateway absent
    rw [Table.names_mapEntries] at absent
    exact findGateway_of_not_mem absent
  case interface =>
    intro gateway networks held network
    rw [Table.find?_mapEntries, Option.map_eq_some_iff] at held
    obtain ⟨inner, held, same⟩ := held
    cases same
    refine ⟨inner.find? network, Table.find?_mapEntries, ?_⟩
    rw [findInterface, findGateway_of_mem held]
    exact congrArg Except.ok Table.find?_mapEntries
  case listed =>
    intro gateway
    rw [gatewayIds, List.mem_mergeSort, names_ofObjects, Table.names_mapEntries]
  case increasing =>
    rw [gatewayIds, names_ofObjects]
    exact Text.pairwise_precedes_mergeSort nodup

end Mirrors

end StaticDirectory

/-! ## Loading a file -/

/-- The value that the text of a file is read as. -/
def Files.HoldsValue (files : Files) (path : String) (value : Json) : Prop :=
  ∃ octets text, files.octets (normal path) = .ok octets ∧ textOf octets = .ok text ∧
    Json.read (text : String) = .ok value

theorem StaticDirectory.load_of_holdsValue {files : Files} {path : String} {value : Json}
    (holds : files.HoldsValue path value) :
    load files path = ofJson (Files.normal path) value := by
  obtain ⟨octets, text, stored, decoded, read⟩ := holds
  simp only [load, stored, decoded, ofText, read]

/-- A file that can be read as a value is a directory exactly if the value is an object of objects
of objects.  Any other value has one fault, which is told.  A directory that is loaded answers like
the value. -/
theorem load_mirrors_document (files : Files) (path : String) (value : Json)
    (holds : files.HoldsValue path value) :
    let outcome := StaticDirectory.load files path
    ((∃ d, outcome = .ok d) ↔ value.IsDirectory) ∧
      (∀ error, outcome = .error error ↔ Json.DirectoryFault (Files.normal path) value error) ∧
      ∀ d, outcome = .ok d → ∃ gateways : Members, value = .obj gateways ∧ d.Mirrors gateways := by
  intro outcome
  have loaded : outcome = StaticDirectory.ofJson (Files.normal path) value :=
    StaticDirectory.load_of_holdsValue holds
  rw [loaded]
  refine ⟨?accepted, ?refused, ?mirrors⟩
  case accepted =>
    simp only [StaticDirectory.ofJson_eq_ok_iff, StaticDirectory.isDirectory_iff]
    constructor
    · rintro ⟨d, objects, rfl, -⟩
      exact ⟨objects, rfl⟩
    · rintro ⟨objects, rfl⟩
      exact ⟨_, objects, rfl, rfl⟩
  case refused => exact fun error => StaticDirectory.ofJson_eq_error_iff
  case mirrors =>
    intro d made
    obtain ⟨objects, document, rfl⟩ := StaticDirectory.ofJson_eq_ok_iff.mp made
    obtain ⟨octets, text, -, -, read⟩ := holds
    subst document
    exact ⟨_, rfl, StaticDirectory.mirrors_ofObjects rfl (Json.closed_of_read read).1⟩

namespace MixedDocument

/-- A gateway with an interface that is a number, and a gateway that is a list. -/
def value : Json := .obj [("b", .obj [("n", .int 5)]), ("a", .arr [])]

/-- The text of the value. -/
def text : String := "\x7b\"b\": \x7b\"n\": 5\x7d, \"a\": []\x7d"

/-- A tree with the text in a file. -/
def files : Files := .put [] "gateways.json" (.file (text.toList.map fun c => .ofNat c.toNat))

theorem holdsValue : files.HoldsValue "gateways.json" value := by
  refine ⟨_, text, rfl, ?_, ?_⟩
  · decide +kernel
  · decide +kernel

end MixedDocument

/-- The second gateway is no object.  That comes before the interface of the first one. -/
theorem refused_for_second_gateway :
    MixedDocument.files.HoldsValue "gateways.json" MixedDocument.value ∧
      StaticDirectory.load MixedDocument.files "gateways.json" =
        .error (.notMapping "gateways.json") := by
  have holds := MixedDocument.holdsValue
  obtain ⟨-, refused, -⟩ := load_mirrors_document _ _ _ holds
  have other : ¬MixedDocument.value.HoldsObjects := by
    rintro ⟨members, same, all⟩
    cases same
    obtain ⟨inner, none⟩ := all ("a", .arr []) (by simp)
    cases none
  exact ⟨holds, (refused _).mpr (.notMapping other)⟩

end GatewayNat
