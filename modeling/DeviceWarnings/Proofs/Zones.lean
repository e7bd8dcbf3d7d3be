import DeviceWarnings.Device.Sensors
import DeviceWarnings.Proofs.Decisions
import Mathlib.Data.List.Basic

/-!
# Which zone serves a class

Zone directories are visited in the order of their names, and a class keeps the first zone that it
was given. So the zone of a class is the first of all names whose type it accepts, which is the
least of them; zones without a type that can be reached are passed over and make no difference. Only
a type that is no text does: it ends the discovery with a fault, whatever the other zones are.
-/

namespace DeviceWarnings

/-! ## Zone directories -/

namespace DeviceTree

variable {tree : DeviceTree} {base path : DevicePath} {name : String}

theorem childOf?_eq_some : childOf? base path = some name ↔ path = base ++ [name] := by
  rw [childOf?]
  constructor
  · intro h
    split at h
    case isTrue hbase =>
      obtain ⟨front, rfl⟩ := List.getLast?_eq_some_iff.1 h
      rw [← hbase, List.dropLast_concat]
    case isFalse => cases h
  · rintro rfl
    simp

theorem isSome_node? : (tree.node? path).isSome = true ↔ path ∈ tree.entries.map Prod.fst := by
  rw [node?, Option.isSome_map, List.find?_isSome, List.mem_map]
  simp only [decide_eq_true_eq]

/-- A name is in a directory exactly if something lies there. -/
theorem mem_children : name ∈ tree.children base ↔ (tree.node? (base ++ [name])).isSome = true := by
  rw [children, List.mem_mergeSort, List.mem_filterMap, isSome_node?, List.mem_map]
  simp only [childOf?_eq_some]

/-- Names are visited in their order. -/
theorem pairwise_children (tree : DeviceTree) (base : DevicePath) :
    (tree.children base).Pairwise (· ≤ ·) := by
  refine (List.pairwise_mergeSort ?_ ?_ _).imp of_decide_eq_true
  · intro a b c hab hbc
    exact decide_eq_true (String.le_trans (of_decide_eq_true hab) (of_decide_eq_true hbc))
  · intro a b
    simpa using String.le_total a b

end DeviceTree

/-- Whether a name is that of a zone directory. -/
def IsZone (tree : DeviceTree) (base : DevicePath) (zone : String) : Prop :=
  (tree.node? (base ++ [zone])).isSome = true ∧ "thermal_zone".toList <+: zone.toList

/-- Whether the type of a zone can be read and starts with one of the words of a class. -/
def HasTypeOf (tree : DeviceTree) (base : DevicePath) (sensor : SensorClass) (zone : String) :
    Prop :=
  ∃ t, tree.readText (base ++ [zone, "type"]) = .ok t ∧
    ∃ word ∈ sensor.typeWords, Text.ofString word <+: typeSpelling t

/-- Whether a zone could serve a class. -/
def CanServe (tree : DeviceTree) (base : DevicePath) (sensor : SensorClass) (zone : String) :
    Prop :=
  IsZone tree base zone ∧ HasTypeOf tree base sensor zone

section Discovery

variable {tree : DeviceTree} {base : DevicePath} {sensor : SensorClass} {zone : String}
  {zones : ZoneMap} {names : List String}

theorem mem_zoneNames : zone ∈ zoneNames tree base ↔ IsZone tree base zone := by
  rw [zoneNames, List.mem_filter, DeviceTree.mem_children, List.isPrefixOf_iff_prefix, IsZone]

theorem pairwise_zoneNames (tree : DeviceTree) (base : DevicePath) :
    (zoneNames tree base).Pairwise (· ≤ ·) :=
  (DeviceTree.pairwise_children tree base).filter _

theorem hasTypeOf_of_ok {t : Text} (h : tree.readText (base ++ [zone, "type"]) = .ok t) :
    HasTypeOf tree base sensor zone ↔ sensor.accepts (typeSpelling t) = true := by
  simp [HasTypeOf, SensorClass.accepts, h]

theorem not_hasTypeOf_of_error {problem : ReadProblem}
    (h : tree.readText (base ++ [zone, "type"]) = .error problem) :
    ¬HasTypeOf tree base sensor zone := by
  simp [HasTypeOf, h]

instance : Decidable (HasTypeOf tree base sensor zone) :=
  match h : tree.readText (base ++ [zone, "type"]) with
  | .ok _ => decidable_of_iff _ (hasTypeOf_of_ok h).symm
  | .error _ => isFalse (not_hasTypeOf_of_error h)

/-! ## One zone -/

/-- A class that has a zone keeps it. -/
theorem zone?_append (zones : ZoneMap) (zone : String) (sensor other : SensorClass) :
    ZoneMap.zone? (zones ++ [(other, zone)]) sensor =
      (zones.zone? sensor).or (if sensor = other then some zone else none) := by
  rw [ZoneMap.zone?, List.lookup_append, List.lookup_cons, List.lookup_nil]
  by_cases h : sensor = other
  · rw [if_pos h, beq_iff_eq.2 h]
    rfl
  · rw [if_neg h, beq_eq_false_iff_ne.2 h]
    rfl

/-- A zone is given to each class that accepts its type and has none. -/
theorem zone?_withZone (zones : ZoneMap) (zone : String) (zoneType : Text) (sensor : SensorClass) :
    (zones.withZone zone zoneType).zone? sensor =
      (zones.zone? sensor).or (if sensor.accepts zoneType then some zone else none) := by
  let give (zones : ZoneMap) (other : SensorClass) : ZoneMap :=
    if (zones.zone? other).isNone ∧ other.accepts zoneType then zones ++ [(other, zone)] else zones
  have hother {other : SensorClass} (h : sensor ≠ other) (zones : ZoneMap) :
      (give zones other).zone? sensor = zones.zone? sensor := by
    dsimp only [give]
    split
    · rw [zone?_append, if_neg h, Option.or_none]
    · rfl
  have hown (zones : ZoneMap) : (give zones sensor).zone? sensor =
      (zones.zone? sensor).or (if sensor.accepts zoneType then some zone else none) := by
    dsimp only [give]
    cases hzone : zones.zone? sensor with
    | none => by_cases hword : sensor.accepts zoneType = true <;> simp [hword, hzone, zone?_append]
    | some own => simp [hzone]
  -- Every class is gone through once.
  change (SensorClass.all.foldl give zones).zone? sensor = _
  cases sensor <;> simp only [SensorClass.all, List.foldl] <;> simp [hother, hown]

/-- The discovery of a zone fails if its type is no text. Otherwise the zone is given to each class
whose words its type starts with, if the type can be reached and the class has no zone. -/
theorem discoverZone_cases (tree : DeviceTree) (base : DevicePath) (zones : ZoneMap)
    (zone : String) :
    (tree.readText (base ++ [zone, "type"]) = .error .notUnicode ∧
        discoverZone tree base zones zone = .error .notUnicode) ∨
      (tree.readText (base ++ [zone, "type"]) ≠ .error .notUnicode ∧
        ∃ found, discoverZone tree base zones zone = .ok found ∧
          ∀ sensor, found.zone? sensor =
            (zones.zone? sensor).or
              (if HasTypeOf tree base sensor zone then some zone else none)) := by
  rw [discoverZone]
  cases h : tree.readText (base ++ [zone, "type"]) with
  | ok t =>
    refine .inr ⟨nofun, _, rfl, fun sensor => ?_⟩
    rw [zone?_withZone]
    simp only [hasTypeOf_of_ok h]
  | error problem =>
    cases problem with
    | notUnicode => exact .inl ⟨rfl, rfl⟩
    | unreachable =>
      refine .inr ⟨nofun, zones, rfl, fun sensor => ?_⟩
      rw [if_neg (not_hasTypeOf_of_error h), Option.or_none]

/-! ## All zones -/

/-- The discovery of some zones fails if the type of one of them is no text. Otherwise a class that
had no zone has the first of them that has a type of the class. -/
theorem discoverZones_cases (tree : DeviceTree) (base : DevicePath) (names : List String)
    (zones : ZoneMap) :
    ((∃ zone ∈ names, tree.readText (base ++ [zone, "type"]) = .error .notUnicode) ∧
        names.foldlM (discoverZone tree base) zones = .error .notUnicode) ∨
      ((∀ zone ∈ names, tree.readText (base ++ [zone, "type"]) ≠ .error .notUnicode) ∧
        ∃ found, names.foldlM (discoverZone tree base) zones = .ok found ∧
          ∀ sensor, found.zone? sensor =
            (zones.zone? sensor).or (names.find? fun zone => HasTypeOf tree base sensor zone)) := by
  induction names generalizing zones with
  | nil => exact .inr ⟨nofun, zones, rfl, fun sensor => Option.or_none.symm⟩
  | cons zone rest ih =>
    rw [List.foldlM_cons]
    rcases discoverZone_cases tree base zones zone with
      ⟨hbad, hfails⟩ | ⟨hgood, next, hnext, hfirst⟩
    · exact .inl ⟨⟨zone, List.mem_cons_self, hbad⟩, by rw [hfails]; rfl⟩
    rw [hnext]
    rcases ih next with ⟨⟨other, hother, hbad⟩, hfails⟩ | ⟨hall, found, hfound, hrest⟩
    · exact .inl ⟨⟨other, List.mem_cons_of_mem _ hother, hbad⟩, hfails⟩
    · refine .inr ⟨List.forall_mem_cons.2 ⟨hgood, hall⟩, found, hfound, fun sensor => ?_⟩
      rw [hrest, hfirst, Option.or_assoc, List.find?_cons]
      by_cases h : HasTypeOf tree base sensor zone <;> simp [h]

/-- Among names in order, the first one with some property is the least. -/
theorem find?_eq_some_iff_least {p : String → Bool} (hsorted : names.Pairwise (· ≤ ·)) :
    names.find? p = some zone ↔
      (zone ∈ names ∧ p zone = true) ∧ ∀ other ∈ names, p other = true → zone ≤ other := by
  have hleast {first : String} (h : names.find? p = some first) :
      ∀ other ∈ names, p other = true → first ≤ other := by
    obtain ⟨-, before, after, rfl, hbefore⟩ := List.find?_eq_some_iff_append.1 h
    intro other hother hp
    rcases List.mem_append.1 hother with hold | hrest
    · simpa [hp] using hbefore other hold
    · rcases List.mem_cons.1 hrest with rfl | hlater
      · exact String.le_refl _
      · exact (List.pairwise_cons.1 (List.pairwise_append.1 hsorted).2.1).1 other hlater
  constructor
  · intro h
    exact ⟨⟨List.mem_of_find?_eq_some h, List.find?_some h⟩, hleast h⟩
  · rintro ⟨⟨hmem, hp⟩, hall⟩
    cases h : names.find? p with
    | none => simpa [hp] using List.find?_eq_none.1 h zone hmem
    | some first =>
      have hle : zone ≤ first := hall first (List.mem_of_find?_eq_some h) (List.find?_some h)
      rw [String.le_antisymm (hleast h zone hmem hp) hle]

end Discovery

namespace ThermalSensors

/-- The sensors of a device are found unless the type of a zone is no text. A class has a zone then
exactly if some zone has a type that can be read and starts with one of its words, and it is the
first of these zones in the order of their names. -/
theorem discover_least_zone (tree : DeviceTree) (base : DevicePath) :
    ((∃ sensors, discover tree base = .ok sensors) ↔
      ∀ zone, IsZone tree base zone →
        tree.readText (base ++ [zone, "type"]) ≠ .error .notUnicode) ∧
    (∀ fault, discover tree base = .error fault → fault = .notUnicode) ∧
    ∀ sensors, discover tree base = .ok sensors → ∀ sensor,
      ((sensors.zones.zone? sensor).isSome = true ↔ ∃ zone, CanServe tree base sensor zone) ∧
      ∀ zone, sensors.zones.zone? sensor = some zone ↔
        CanServe tree base sensor zone ∧
          ∀ other, CanServe tree base sensor other → zone ≤ other := by
  rcases discoverZones_cases tree base (zoneNames tree base) [] with
    ⟨⟨zone, hzone, hbad⟩, hfails⟩ | ⟨hgood, found, hfound, hfirst⟩
  · have hdiscover : discover tree base = .error .notUnicode := by
      rw [discover, discoverZones, hfails]
      rfl
    rw [hdiscover]
    refine ⟨iff_of_false nofun fun h => ?_, fun fault h => (Except.error.inj h).symm, nofun⟩
    exact h zone (mem_zoneNames.1 hzone) hbad
  · have hdiscover : discover tree base = .ok { base := base, zones := found } := by
      rw [discover, discoverZones, hfound]
      rfl
    rw [hdiscover]
    refine ⟨iff_of_true ⟨_, rfl⟩ fun zone hzone => hgood zone (mem_zoneNames.2 hzone), nofun,
      fun sensors hsensors sensor => ?_⟩
    obtain rfl := Except.ok.inj hsensors
    have hzones : found.zone? sensor =
        (zoneNames tree base).find? fun zone => HasTypeOf tree base sensor zone := hfirst sensor
    constructor
    · simp [hzones, List.find?_isSome, mem_zoneNames, CanServe]
    · intro zone
      rw [hzones, find?_eq_some_iff_least (pairwise_zoneNames tree base)]
      simp [mem_zoneNames, CanServe]

/-- A zone whose type is a directory, and one that comes later, leave the class to the zone in
between; in the order of names `thermal_zone10` comes before `thermal_zone2`. -/
theorem discover_least_zone_of_three :
    let file (contents : String) : Option DeviceNode := some (.file contents.toUTF8)
    let tree := DeviceTree.ofList [(["thermal_zone2", "type"], file "skin-therm\n"),
      (["thermal_zone1", "type"], some .directory), (["thermal_zone10", "type"], file " XO-THERM")]
    ∃ sensors, discover tree [] = .ok sensors ∧
      sensors.zones.zone? .skin = some "thermal_zone10" := by
  intro file tree
  have hpaths : tree.entries.map Prod.fst =
      [[], ["thermal_zone2"], ["thermal_zone2", "type"], ["thermal_zone1"],
        ["thermal_zone1", "type"], ["thermal_zone10"], ["thermal_zone10", "type"]] := by
    decide +kernel
  have hzones {zone : String} (h : IsZone tree [] zone) :
      zone = "thermal_zone2" ∨ zone = "thermal_zone1" ∨ zone = "thermal_zone10" := by
    have hmem := DeviceTree.isSome_node?.1 h.1
    rw [hpaths] at hmem
    simpa using hmem
  obtain ⟨hfound, -, hleast⟩ := discover_least_zone tree []
  obtain ⟨sensors, hsensors⟩ := hfound.2 fun zone hzone => by
    rcases hzones hzone with rfl | rfl | rfl <;> decide +kernel
  refine ⟨sensors, hsensors, ((hleast sensors hsensors .skin).2 _).2 ⟨⟨⟨?_, ?_⟩, ?_⟩, ?_⟩⟩
  · decide +kernel
  · decide +kernel
  · decide +kernel
  · rintro other ⟨hzone, htype⟩
    rcases hzones hzone with rfl | rfl | rfl
    · decide +kernel
    · revert htype
      decide +kernel
    · exact String.le_refl _

/-- It is not so that the sensors of every device are found: here the type of the first zone is no
text. -/
theorem not_discover_total :
    ¬∀ (tree : DeviceTree) (base : DevicePath), ∃ sensors, discover tree base = .ok sensors := by
  intro h
  let tree := DeviceTree.ofList [(["thermal_zone0", "type"], some (.file ⟨#[0xff, 0xfe]⟩)),
    (["thermal_zone1", "type"], some (.file "skin-therm\n".toUTF8))]
  have hzone : "thermal_zone0" ∈ zoneNames tree [] :=
    mem_zoneNames.2 ⟨by decide +kernel, by decide +kernel⟩
  have hbad : tree.readText ([] ++ ["thermal_zone0", "type"]) = .error .notUnicode := by
    decide +kernel
  obtain ⟨sensors, hsensors⟩ := h tree []
  obtain ⟨found, hfound, -⟩ := bind_eq_ok.1 hsensors
  rcases discoverZones_cases tree [] (zoneNames tree []) [] with ⟨-, hfails⟩ | ⟨hgood, -⟩
  · cases hfails.symm.trans hfound
  · exact hgood _ hzone hbad

end ThermalSensors

end DeviceWarnings
