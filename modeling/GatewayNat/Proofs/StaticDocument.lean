import GatewayNat.Directory.Static
import GatewayNat.Proofs.ServiceReading
import GatewayNat.Proofs.Steady

/-!
# Documents from static directories

An intent fits a static directory and an id range if four things hold (`Fits`).

* The intent can be read as a list of rules.
* Every rule can be read.
* There are ids for the rules that ask for none.
* There is an interface for every rule, if there are rules.

It compiles exactly if, besides, every id that it gets is short enough to be
written (`Compilable`).  That says nothing new of a range whose bounds can be
written, but in general an intent that fits need not compile
(`not_forall_fitting_compiles`).

The document is then a plain function of the intent, the directory and the first
id (`documentOf`).  Each of its rules comes from the rule at the same index, and
needs nothing of the others but the number of those before it that ask for no id.
-/

namespace GatewayNat

namespace StaticDirectory

variable {d : StaticDirectory} {gatewayId network : Text}

/-- The interface that a directory has for a network of a gateway. -/
def interface? (d : StaticDirectory) (gatewayId network : Text) : Option Descriptor :=
  (d.networks? gatewayId).bind fun networks => networks.find? network

/-- Whether a directory has a gateway, as an answer. -/
def gatewayAnswer (d : StaticDirectory) (gatewayId : Text) : Except Failure Unit :=
  (d.findGateway gatewayId).map fun _ => ()

theorem toDirectory_eq : d.toDirectory = .steady d.gatewayAnswer d.findInterface := rfl

/-- A static directory says what it has. -/
theorem interface?_said :
    Answer.interface? (Directory.said d.gatewayAnswer d.findInterface gatewayId network) =
      d.interface? gatewayId network := by
  cases held : d.networks? gatewayId with
  | none => simp only [Directory.said, gatewayAnswer, findGateway, interface?, held]; rfl
  | some networks =>
    simp only [Directory.said, gatewayAnswer, findInterface, findGateway, interface?, held,
      Except.map, Option.bind_some]
    cases networks.find? network <;> rfl

end StaticDirectory

/-- What has to hold of an intent with some rules, however long the ids are. -/
structure Fits (d : StaticDirectory) (gatewayId : Text) (range : IdRange)
    (members : Members) (rules : List Members) : Prop where
  enabled : (members.get "enabled").SwitchLike
  listed : members.ListsRules rules
  readable : ∀ rule ∈ rules, ∃ type, RuleIntent.Readable type rule
  enough : rules.countP Members.isUnnumbered ≤ range.size
  found : rules ≠ [] → ∃ networks, d.networks? gatewayId = some networks ∧
    ∀ rule ∈ rules, (networks.find? (rule.get "network_id").written).isSome

/-- What has to hold of an intent with some rules. -/
structure Compilable (d : StaticDirectory) (gatewayId : Text) (range : IdRange)
    (members : Members) (rules : List Members) : Prop
    extends Fits d gatewayId range members rules where
  /-- Ids are never too long to be written if the bounds of the range are not. -/
  written : range.IsWritable ∨
    ∀ j < rules.countP Members.isUnnumbered, Decimal.isWritable (range.minimum + j) = true

/-- The compiled rule of the rule at an index. -/
def compiledAt (d : StaticDirectory) (gatewayId : Text) (first : Int) (rules : List Members)
    (index : Nat) (rule : Members) : CompiledRule where
  id := Compiler.idAt first rules index rule
  enabled := (rule.get "enabled").flag
  gatewayRule :=
    { interface := (d.interface? gatewayId (rule.get "network_id").written).getD []
      originalIp := (rule.get "original_ip").written
      translatedIp := (rule.get "translated_ip").written
      translation := RuleIntent.translationOf (RuleIntent.typeOf rule) rule }

/-- The document of an intent with some rules. -/
def documentOf (d : StaticDirectory) (gatewayId : Text) (first : Int) (members : Members)
    (rules : List Members) : Document where
  enabled := (members.get "enabled").flag
  rules := rules.mapIdx (compiledAt d gatewayId first rules)

namespace IdRange

/-- The ids from the minimum on, as many as a count, can be given out exactly if the range is large
enough, but for ids that are too long. -/
theorem grants_minimum_iff {range : IdRange} {count : Nat} :
    range.Grants range.minimum count ↔
      count ≤ range.size ∧
        (range.IsWritable ∨ ∀ j < count, Decimal.isWritable (range.minimum + j) = true) := by
  rw [← forall_mem_iff]
  constructor
  · intro all
    exact ⟨fun j below => (all j below).1, .inr fun j below => (all j below).2⟩
  · rintro ⟨inside, writable | written⟩ j below
    · exact ⟨inside j below, isWritable_of_mem writable (inside j below)⟩
    · exact ⟨inside j below, written j below⟩

end IdRange

namespace Compiler

variable {d : StaticDirectory} {gatewayId : Text} {first : Int} {rules : List Members}

/-- What holds of the networks of the admitted rules holds of those of the rules. -/
theorem forall_admittedAt_iff (property : Text → Prop) :
    (∀ entry ∈ rules.mapIdx (admittedAt first rules), property entry.1.networkId) ↔
      ∀ rule ∈ rules, property (rule.get "network_id").written := by
  constructor
  · intro all rule member
    obtain ⟨index, below, rfl⟩ := List.mem_iff_getElem.mp member
    exact all (admittedAt first rules index rules[index]) (List.mem_mapIdx.mpr ⟨index, below, rfl⟩)
  · intro all entry member
    obtain ⟨index, below, rfl⟩ := List.mem_mapIdx.mp member
    exact all _ (List.getElem_mem below)

/-- Bound rules are compiled rules. -/
theorem map_bound_admittedAt :
    (rules.mapIdx (admittedAt first rules)).map
        (bound (Directory.said d.gatewayAnswer d.findInterface gatewayId)) =
      rules.mapIdx (compiledAt d gatewayId first rules) := by
  have each : ∀ index rule,
      bound (Directory.said d.gatewayAnswer d.findInterface gatewayId)
        (admittedAt first rules index rule) = compiledAt d gatewayId first rules index rule := by
    intro index rule
    simp only [bound, StaticDirectory.interface?_said]
    rfl
  simp [List.mapIdx_eq_zipIdx_map, each]

/-- If there are rules, an interface for every rule is one for the gateway and every network. -/
theorem forall_interface?_isSome_iff :
    (∀ rule ∈ rules, (d.interface? gatewayId (rule.get "network_id").written).isSome) ↔
      (rules ≠ [] → ∃ networks, d.networks? gatewayId = some networks ∧
        ∀ rule ∈ rules, (networks.find? (rule.get "network_id").written).isSome) := by
  unfold StaticDirectory.interface?
  cases rules with
  | nil => simp
  | cons rule rest =>
    cases d.networks? gatewayId with
    | none =>
      refine iff_of_false ?_ (by simp)
      intro all
      simpa using all rule (.head _)
    | some networks => simp

/-- What admitted rules are bound to by a static directory. -/
theorem bindRules_static_eq_ok_iff {range : IdRange} {index : Nat} {compiled : List CompiledRule} :
    bindRules (Directory.said d.gatewayAnswer d.findInterface gatewayId) gatewayId
        (admitRules range index first rules).fault index
        (admitRules range index first rules).rules = .ok compiled ↔
      ((∀ rule ∈ rules, ∃ type, RuleIntent.Readable type rule) ∧
        range.Grants first (rules.countP Members.isUnnumbered)) ∧
        (∀ rule ∈ rules, (d.interface? gatewayId (rule.get "network_id").written).isSome) ∧
        compiled = rules.mapIdx (compiledAt d gatewayId first rules) := by
  rw [bindRules_eq_ok_iff]
  have readable_iff : (admitRules range index first rules).fault = none ↔ _ :=
    admitRules_fault_eq_none_iff
  rw [readable_iff]
  refine and_congr_right fun faultless => ?_
  rw [admitRules_rules_of_fault_eq_none (readable_iff.mpr faultless), map_bound_admittedAt]
  simp only [StaticDirectory.interface?_said]
  rw [forall_admittedAt_iff fun network => (d.interface? gatewayId network).isSome = true]

variable {past : List Call} {intent : Json} {range : IdRange} {service : ServiceIntent}
  {document : Document} {members : Members}

/-- The document of a service intent. -/
theorem compile_static_eq_ok_iff_of_valid (read : ServiceIntent.check intent = .valid service) :
    (compile d.toDirectory past gatewayId intent range).result = .ok document ↔
      ((∀ rule ∈ service.rules, ∃ type, RuleIntent.Readable type rule) ∧
        range.Grants range.minimum (service.rules.countP Members.isUnnumbered)) ∧
        (∀ rule ∈ service.rules,
          (d.interface? gatewayId (rule.get "network_id").written).isSome) ∧
        document = ⟨service.enabled,
          service.rules.mapIdx (compiledAt d gatewayId range.minimum service.rules)⟩ := by
  rw [compile_eq_ok_iff (d.findInterface gatewayId), StaticDirectory.toDirectory_eq,
    binding_steady, admission_of_valid read, bindRules_static_eq_ok_iff, enabledOf_of_valid read]
  constructor
  · rintro ⟨⟨granted, found, compiled⟩, enabled⟩
    refine ⟨granted, found, ?_⟩
    rw [← enabled, ← compiled]
  · rintro ⟨granted, found, rfl⟩
    exact ⟨⟨granted, found, rfl⟩, rfl⟩

/-- An intent that compiles is compilable, and its document is the one of its rules. -/
theorem compilable_of_compile
    (compiled : (compile d.toDirectory past gatewayId intent range).result = .ok document) :
    ∃ (members : Members) (rules : List Members), intent = .obj members ∧
      Compilable d gatewayId range members rules ∧
      document = documentOf d gatewayId range.minimum members rules := by
  obtain ⟨service, read⟩ := exists_valid_of_fault_eq_none (fault_eq_none_of_compile compiled)
  obtain ⟨⟨readable, granted⟩, found, rfl⟩ := (compile_static_eq_ok_iff_of_valid read).mp compiled
  obtain ⟨members, rfl, switch, flag, listed⟩ := ServiceIntent.check_eq_valid_iff.mp read
  obtain ⟨enough, written⟩ := IdRange.grants_minimum_iff.mp granted
  have fits : Fits d gatewayId range members service.rules :=
    ⟨switch, listed, readable, enough, forall_interface?_isSome_iff.mp found⟩
  refine ⟨members, service.rules, rfl, ⟨fits, written⟩, ?_⟩
  rw [documentOf, ← flag]

/-- A compilable intent compiles to the document of its rules. -/
theorem compile_of_compilable (compilable : Compilable d gatewayId range members rules) :
    (compile d.toDirectory past gatewayId (.obj members) range).result =
      .ok (documentOf d gatewayId range.minimum members rules) := by
  have read : ServiceIntent.check (.obj members) = .valid ⟨(members.get "enabled").flag, rules⟩ :=
    ServiceIntent.check_eq_valid_iff.mpr ⟨members, rfl, compilable.enabled, rfl, compilable.listed⟩
  have granted := IdRange.grants_minimum_iff.mpr ⟨compilable.enough, compilable.written⟩
  have found := forall_interface?_isSome_iff.mpr compilable.found
  exact (compile_static_eq_ok_iff_of_valid read).mpr ⟨⟨compilable.readable, granted⟩, found, rfl⟩

end Compiler

/-! ## One rule and any id -/

namespace TwoRules

/-- A directory with one network. -/
def directory : Directory := StaticDirectory.toDirectory ⟨[("edge", [("web", [])])]⟩

/-- A rule on that network. -/
def rule : Members :=
  [("rule_type", .str "SNAT"), ("network_id", .str "web"), ("original_ip", .str "10.0.0.1"),
    ("translated_ip", .str "192.0.2.1")]

theorem readable_rule : RuleIntent.Readable .snat rule := by
  constructor
  case typed => rfl
  case textual =>
    intro field member
    simp only [RuleType.textualFields, List.mem_cons, List.not_mem_nil, or_false] at member
    rcases member with rfl | rfl | rfl
    · exact .str _
    · exact .str _
    · exact .str _
  case enabled => exact .inl rfl
  case id => exact .inl rfl
  case protocol => intro isDestination; cases isDestination

/-- The rule fits a range of any one id. -/
theorem fits_rule (id : Int) :
    Fits ⟨[("edge", [("web", [])])]⟩ "edge" ⟨id, id⟩ [("nat_rules", .arr [.obj rule])] [rule] := by
  constructor
  case enabled => exact .inl rfl
  case listed => exact .inr rfl
  case readable =>
    intro each member
    rw [List.mem_singleton.mp member]
    exact ⟨.snat, readable_rule⟩
  case enough =>
    have one : IdRange.size ⟨id, id⟩ = 1 := by simp [IdRange.size]
    exact Nat.le_of_eq one.symm
  case found => exact fun _ => ⟨[("web", [])], by decide, by decide⟩

end TwoRules

/-! ## What compiles -/

/-- With a static directory, an intent compiles exactly if it is compilable, and then to its
document. -/
theorem compile_static_eq_ok_iff (d : StaticDirectory) (past : List Call) (gatewayId : Text)
    (intent : Json) (range : IdRange) (document : Document) :
    (compile d.toDirectory past gatewayId intent range).result = .ok document ↔
      ∃ (members : Members) (rules : List Members), intent = .obj members ∧
        Compilable d gatewayId range members rules ∧
        document = documentOf d gatewayId range.minimum members rules := by
  constructor
  · exact Compiler.compilable_of_compile
  · rintro ⟨members, rules, rfl, compilable, rfl⟩
    exact Compiler.compile_of_compilable compilable

/-- An intent may fit and still not compile, if the id of a rule is too long to be written. -/
theorem not_forall_fitting_compiles :
    ¬∀ (d : StaticDirectory) (past : List Call) (gatewayId : Text) (intent : Json)
      (range : IdRange),
      (∃ document, (compile d.toDirectory past gatewayId intent range).result = .ok document) ↔
        ∃ (members : Members) (rules : List Members), intent = .obj members ∧
          Fits d gatewayId range members rules := by
  intro all
  have fits := TwoRules.fits_rule (Decimal.greatest + 1)
  obtain ⟨document, compiled⟩ := (all _ [] _ _ _).mpr ⟨_, _, rfl, fits⟩
  obtain ⟨members, rules, same, compilable, -⟩ := Compiler.compilable_of_compile compiled
  cases same
  cases compilable.listed.unique fits.listed
  rcases compilable.written with ⟨tooLong, -⟩ | each
  · exact Decimal.not_isWritable_greatest_add_one tooLong
  · have tooLong := each 0 (by decide)
    rw [Int.natCast_zero, Int.add_zero] at tooLong
    exact Decimal.not_isWritable_greatest_add_one tooLong

end GatewayNat
