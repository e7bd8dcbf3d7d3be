import DeviceWarnings.Proofs.Zones

/-!
# Which trip point tells the shutdown temperature

The trip points of a zone are visited in the order of their names, and the first one decides whose
type is critical or cannot be read. Since the names are sorted, that is the least name with this
property, so `trip_point_10_type` comes before `trip_point_2_type`. The answer is a function of the
type and the temperature of this one trip point: it depends neither on the temperatures of those
before, nor on anything that comes after.
-/

namespace DeviceWarnings

/-- Whether a name is that of the type of a trip point in a zone. -/
def IsTrip (tree : DeviceTree) (zone : DevicePath) (trip : String) : Prop :=
  (tree.node? (zone ++ [trip])).isSome = true ∧
    ∃ middle, trip.toList = "trip_point_".toList ++ middle ++ "_type".toList

/-- Whether a trip point ends the search: its type cannot be read, or it is critical. -/
def EndsSearch (tree : DeviceTree) (zone : DevicePath) (trip : String) : Prop :=
  ∀ t, tree.readText (zone ++ [trip]) = .ok t → typeSpelling t = ("critical" : Text)

/-- Whether a trip point is the first one that ends the search. -/
structure IsDecidingTrip (tree : DeviceTree) (zone : DevicePath) (trip : String) : Prop where
  isTrip : IsTrip tree zone trip
  endsSearch : EndsSearch tree zone trip
  le : ∀ other, IsTrip tree zone other → EndsSearch tree zone other → trip ≤ other

section Trips

variable {tree other : DeviceTree} {zone path : DevicePath} {trip : String}

/-! ## Names -/

theorem isTripType_iff :
    isTripType trip = true ↔
      ∃ middle, trip.toList = "trip_point_".toList ++ middle ++ "_type".toList := by
  simp only [isTripType, Bool.and_eq_true, List.isPrefixOf_iff_prefix, List.isSuffixOf_iff_suffix,
    decide_eq_true_eq, ← String.length_toList]
  constructor
  · rintro ⟨⟨⟨rest, hopening⟩, hending⟩, hlength⟩
    -- The two parts do not overlap, so the ending lies in what follows the opening.
    have hrest : "_type".toList <:+ rest := by
      apply List.suffix_of_suffix_length_le (hopening ▸ hending) (List.suffix_append _ _)
      rw [← hopening, List.length_append] at hlength
      omega
    obtain ⟨middle, rfl⟩ := hrest
    exact ⟨middle, by rw [← hopening, List.append_assoc]⟩
  · rintro ⟨middle, hname⟩
    rw [hname]
    refine ⟨⟨?_, List.suffix_append _ _⟩, ?_⟩
    · rw [List.append_assoc]
      exact List.prefix_append _ _
    · simp only [List.length_append]
      omega

theorem mem_tripTypes : trip ∈ tripTypes tree zone ↔ IsTrip tree zone trip := by
  rw [tripTypes, List.mem_filter, DeviceTree.mem_children, isTripType_iff, IsTrip]

/-- The trip points are found among the entries of the tree. -/
theorem isTrip_iff_mem : IsTrip tree zone trip ↔
    trip ∈ (tree.entries.filterMap fun entry => DeviceTree.childOf? zone entry.1).filter
      isTripType := by
  rw [← mem_tripTypes, tripTypes, List.mem_filter, DeviceTree.children, List.mem_mergeSort,
    ← List.mem_filter]

theorem pairwise_tripTypes (tree : DeviceTree) (zone : DevicePath) :
    (tripTypes tree zone).Pairwise (· ≤ ·) :=
  (DeviceTree.pairwise_children tree zone).filter _

/-- The name of a file about the trip point of some number. -/
def tripFile (digits : List Char) (ending : String) : String :=
  String.ofList ("trip_point_".toList ++ digits ++ ending.toList)

theorem toList_tripFile (digits : List Char) (ending : String) :
    (tripFile digits ending).toList = "trip_point_".toList ++ digits ++ ending.toList :=
  String.toList_ofList

/-- A character stays as it is where no occurrence of the part begins. -/
theorem replaceParts_cons {part new rest : List Char} {c : Char}
    (h : part.isPrefixOf (c :: rest) = false) :
    replaceParts part new 0 (c :: rest) = c :: replaceParts part new 0 rest := by
  simp [replaceParts, h]

/-- Characters that the part does not start with stay as they are. -/
theorem replaceParts_append {part new before after : List Char} {first : Char}
    (hfirst : part.head? = some first) (h : ∀ c ∈ before, first ≠ c) :
    replaceParts part new 0 (before ++ after) = before ++ replaceParts part new 0 after := by
  obtain ⟨tail, rfl⟩ := List.head?_eq_some_iff.1 hfirst
  induction before with
  | nil => rfl
  | cons c rest ih =>
    have hstart : (first :: tail).isPrefixOf (c :: (rest ++ after)) = false := by
      simp [List.isPrefixOf, h c (by simp)]
    rw [List.cons_append, replaceParts_cons hstart, ih fun d hd => h d (by simp [hd]),
      List.cons_append]

/-- The temperature of the trip point of some number is in the file of the same number. -/
theorem tripTemperature_tripFile {digits : List Char} (h : ∀ c ∈ digits, c.isDigit = true) :
    tripTemperature (tripFile digits "_type") = tripFile digits "_temp" := by
  have hdigits : ∀ c ∈ digits, '_' ≠ c := by
    rintro _ hc rfl
    exact absurd (h '_' hc) (by decide)
  -- An occurrence could begin at either mark of the opening, but does not.
  have hmark : "_type".toList.isPrefixOf ('_' :: (digits ++ "_type".toList)) = false := by
    cases digits with
    | nil => rfl
    | cons c rest =>
      have hne : 't' ≠ c := by
        rintro rfl
        exact absurd (h 't' (by simp)) (by decide)
      simp [List.isPrefixOf, hne]
  have hopening (ending : List Char) : "trip_point_".toList ++ digits ++ ending =
      "trip".toList ++ '_' :: ("point".toList ++ '_' :: (digits ++ ending)) := by simp
  have hhead : "_type".toList.head? = some '_' := rfl
  have hreplaced : replaceParts "_type".toList "_temp".toList 0
      ("trip_point_".toList ++ digits ++ "_type".toList) =
        "trip_point_".toList ++ digits ++ "_temp".toList := by
    rw [hopening, hopening, replaceParts_append hhead (by simp),
      replaceParts_cons (by simp [List.isPrefixOf]), replaceParts_append hhead (by simp),
      replaceParts_cons hmark, replaceParts_append hhead hdigits]
    simp [replaceParts, List.isPrefixOf]
  rw [tripTemperature, toList_tripFile, hreplaced]
  rfl

/-! ## The deciding trip point -/

instance : Decidable (EndsSearch tree zone trip) :=
  match h : tree.readText (zone ++ [trip]) with
  | .ok t => decidable_of_iff (typeSpelling t = ("critical" : Text)) (by simp [EndsSearch, h])
  | .error _ => isTrue (by simp [EndsSearch, h])

/-- The trip point that decides, if there is one. -/
def decidingTrip? (tree : DeviceTree) (zone : DevicePath) : Option String :=
  (tripTypes tree zone).find? fun trip => EndsSearch tree zone trip

theorem decidingTrip?_eq_some :
    decidingTrip? tree zone = some trip ↔ IsDecidingTrip tree zone trip := by
  rw [decidingTrip?, find?_eq_some_iff_least (pairwise_tripTypes tree zone)]
  simp only [mem_tripTypes, decide_eq_true_eq]
  exact ⟨fun ⟨⟨htrip, hends⟩, hle⟩ => ⟨htrip, hends, hle⟩,
    fun ⟨htrip, hends, hle⟩ => ⟨⟨htrip, hends⟩, hle⟩⟩

theorem decidingTrip?_eq_none :
    decidingTrip? tree zone = none ↔
      ∀ trip, IsTrip tree zone trip → ¬EndsSearch tree zone trip := by
  simp [decidingTrip?, List.find?_eq_none, mem_tripTypes]

/-- Only one trip point decides. -/
theorem IsDecidingTrip.eq {first : String} (h : IsDecidingTrip tree zone trip)
    (hfirst : IsDecidingTrip tree zone first) : trip = first :=
  String.le_antisymm (h.le first hfirst.isTrip hfirst.endsSearch)
    (hfirst.le trip h.isTrip h.endsSearch)

/-- The temperature of a trip point, if both its type and its temperature can be read. -/
def tripReading? (tree : DeviceTree) (zone : DevicePath) (trip : String) : Option Binary64 :=
  (tree.readText (zone ++ [trip])).toOption.bind fun _ =>
    readThousandths? tree (zone ++ [tripTemperature trip])

/-- A temperature is read where a file holds a number of thousandths. -/
theorem readThousandths?_eq_some {x : Binary64} :
    readThousandths? tree path = some x ↔
      ∃ t y, tree.readText path = .ok t ∧ t.trim.number? = some y ∧ x = y.divNat 1000 := by
  simp only [readThousandths?]
  cases h : tree.readText path with
  | error problem => simp [Except.toOption]
  | ok t => cases hnumber : t.trim.number? <;> simp [Except.toOption, hnumber, eq_comm]

theorem tripReading?_eq_some {x : Binary64} :
    tripReading? tree zone trip = some x ↔
      ∃ t, tree.readText (zone ++ [trip]) = .ok t ∧
        readThousandths? tree (zone ++ [tripTemperature trip]) = some x := by
  cases h : tree.readText (zone ++ [trip]) <;> simp [tripReading?, h, Except.toOption]

/-- The search comes to the first trip point that ends it, and fails if that one cannot be read. -/
theorem criticalTemperature_eq (tree : DeviceTree) (zone : DevicePath) (trips : List String) :
    (criticalTemperature tree zone trips).toOption =
      match trips.find? fun trip => EndsSearch tree zone trip with
      | none => some none
      | some trip => (tripReading? tree zone trip).map some := by
  induction trips with
  | nil => rfl
  | cons trip rest ih =>
    rw [criticalTemperature, List.find?_cons]
    cases h : tree.readText (zone ++ [trip]) with
    | error problem => simp [EndsSearch, tripReading?, h, Except.toOption]
    | ok t =>
      by_cases hcritical : typeSpelling t = ("critical" : Text)
      · cases hread : readThousandths? tree (zone ++ [tripTemperature trip]) <;>
          simp [EndsSearch, tripReading?, h, hcritical, hread, Except.toOption]
      · simpa [EndsSearch, h, hcritical] using ih

/-! ## What the answer depends on -/

/-- Whether another tree has the same trip points in a zone as far as the search goes: up to the
deciding one the same names with the same types, and the temperature of the deciding one. -/
structure SameTrips (tree other : DeviceTree) (zone : DevicePath) : Prop where
  isTrip : ∀ trip, (∀ first, IsDecidingTrip tree zone first → trip ≤ first) →
    (IsTrip other zone trip ↔ IsTrip tree zone trip)
  type : ∀ trip, (∀ first, IsDecidingTrip tree zone first → trip ≤ first) → IsTrip tree zone trip →
    other.readText (zone ++ [trip]) = tree.readText (zone ++ [trip])
  temperature : ∀ trip, IsDecidingTrip tree zone trip →
    other.readText (zone ++ [tripTemperature trip]) = tree.readText (zone ++ [tripTemperature trip])

/-- As far as the search goes, the same trip points end it. -/
theorem SameTrips.endsSearch (h : SameTrips tree other zone)
    (hreached : ∀ first, IsDecidingTrip tree zone first → trip ≤ first) :
    IsTrip other zone trip ∧ EndsSearch other zone trip ↔
      IsTrip tree zone trip ∧ EndsSearch tree zone trip := by
  rw [h.isTrip trip hreached]
  refine and_congr_right fun htrip => ?_
  rw [EndsSearch, EndsSearch, h.type trip hreached htrip]

/-- The same trip point decides, if any. -/
theorem SameTrips.decidingTrip? (h : SameTrips tree other zone) :
    decidingTrip? other zone = DeviceWarnings.decidingTrip? tree zone := by
  cases hdeciding : DeviceWarnings.decidingTrip? tree zone with
  | none =>
    rw [decidingTrip?_eq_none] at hdeciding ⊢
    intro trip htrip hends
    have hnone : ∀ first, IsDecidingTrip tree zone first → trip ≤ first := fun first hfirst =>
      absurd hfirst.endsSearch (hdeciding first hfirst.isTrip)
    obtain ⟨htrip, hends⟩ := (h.endsSearch hnone).1 ⟨htrip, hends⟩
    exact hdeciding trip htrip hends
  | some trip =>
    rw [decidingTrip?_eq_some] at hdeciding ⊢
    have hfirst {name : String} (hle : name ≤ trip) :
        ∀ first, IsDecidingTrip tree zone first → name ≤ first := fun first hfirst =>
      hdeciding.eq hfirst ▸ hle
    obtain ⟨htrip, hends⟩ :=
      (h.endsSearch (hfirst (String.le_refl trip))).2 ⟨hdeciding.isTrip, hdeciding.endsSearch⟩
    refine ⟨htrip, hends, fun name hname hnameEnds => ?_⟩
    -- A name before the deciding one is still reached, so it would end the search in both trees.
    by_contra hlt
    have hle : name ≤ trip := (String.le_total trip name).resolve_left hlt
    obtain ⟨hname, hnameEnds⟩ := (h.endsSearch (hfirst hle)).1 ⟨hname, hnameEnds⟩
    exact hlt (hdeciding.le name hname hnameEnds)

/-- The deciding trip point reads the same. -/
theorem SameTrips.tripReading? (h : SameTrips tree other zone)
    (htrip : IsDecidingTrip tree zone trip) :
    tripReading? other zone trip = DeviceWarnings.tripReading? tree zone trip := by
  have hreached : ∀ first, IsDecidingTrip tree zone first → trip ≤ first :=
    fun first hfirst => htrip.le first hfirst.isTrip hfirst.endsSearch
  rw [DeviceWarnings.tripReading?, DeviceWarnings.tripReading?, readThousandths?, readThousandths?,
    h.type trip hreached htrip.isTrip, h.temperature trip htrip]

end Trips

namespace ThermalSensors

variable {sensors : ThermalSensors} {tree : DeviceTree} {sensor : SensorClass} {zone : DevicePath}

/-- The shutdown temperature is that of the deciding trip point. -/
theorem shutdownTemperature_eq (hzone : sensors.zonePath sensor = .ok zone) (tree : DeviceTree) :
    sensors.shutdownTemperature tree sensor =
      match decidingTrip? tree zone with
      | none => .error (.unavailable (.noCriticalTrip sensor))
      | some trip =>
        (tripReading? tree zone trip).elim
          (.error (.unavailable (.shutdownUnreadable sensor))) .ok := by
  have hsearch : sensors.shutdownTemperature tree sensor =
      match (criticalTemperature tree zone (tripTypes tree zone)).toOption with
      | some (some x) => .ok x
      | some none => .error (.unavailable (.noCriticalTrip sensor))
      | none => .error (.unavailable (.shutdownUnreadable sensor)) := by
    rw [shutdownTemperature, hzone]
    rcases hfound : criticalTemperature tree zone (tripTypes tree zone) with problem | found
    · simp [bind, Except.bind, hfound, Except.toOption, throw, throwThe, MonadExceptOf.throw]
    · cases found <;>
        simp [bind, Except.bind, hfound, Except.toOption, throw, throwThe, MonadExceptOf.throw,
          pure, Except.pure]
  rw [hsearch, criticalTemperature_eq, ← decidingTrip?]
  cases decidingTrip? tree zone with
  | none => rfl
  | some trip =>
    cases hread : tripReading? tree zone trip <;> simp [hread]

/-- If the trip points of a zone are numbered, its shutdown temperature is found exactly if a trip
point ends the search, the type of the first one that does can be read, and the file of the same
number holds a temperature, which is the one that is found. Otherwise the shutdown temperature is
unavailable: it is unreadable if there is such a trip point, and else no trip point is critical.
Another tree with the same trip points as far as the search goes has the same answer. -/
theorem shutdownTemperature_of_first_trip (hzone : sensors.zonePath sensor = .ok zone)
    (hnumbers : ∀ trip, IsTrip tree zone trip →
      ∃ digits : List Char, (∀ c ∈ digits, c.isDigit = true) ∧ trip = tripFile digits "_type") :
    (∀ x, sensors.shutdownTemperature tree sensor = .ok x ↔
      ∃ digits t contents y, (∀ c ∈ digits, c.isDigit = true) ∧
        IsDecidingTrip tree zone (tripFile digits "_type") ∧
        tree.readText (zone ++ [tripFile digits "_type"]) = .ok t ∧
        tree.readText (zone ++ [tripFile digits "_temp"]) = .ok contents ∧
        contents.trim.number? = some y ∧ x = y.divNat 1000) ∧
    (∀ fault, sensors.shutdownTemperature tree sensor = .error fault →
      (∃ trip, IsDecidingTrip tree zone trip) ∧ fault = .unavailable (.shutdownUnreadable sensor) ∨
        (¬∃ trip, IsDecidingTrip tree zone trip) ∧
          fault = .unavailable (.noCriticalTrip sensor)) ∧
    ∀ other, SameTrips tree other zone →
      sensors.shutdownTemperature other sensor = sensors.shutdownTemperature tree sensor := by
  have heq := shutdownTemperature_eq hzone tree
  refine ⟨fun x => ⟨fun hfound => ?_, ?_⟩, fun fault hfault => ?_, fun other hsame => ?_⟩
  · rw [hfound] at heq
    cases hdeciding : decidingTrip? tree zone with
    | none => simp [hdeciding] at heq
    | some trip =>
      cases hread : tripReading? tree zone trip with
      | none => simp [hdeciding, hread] at heq
      | some z =>
        obtain rfl : x = z := by simpa [hdeciding, hread] using heq
        have htrip := decidingTrip?_eq_some.1 hdeciding
        obtain ⟨digits, hdigits, rfl⟩ := hnumbers trip htrip.isTrip
        obtain ⟨t, ht, htemperature⟩ := tripReading?_eq_some.1 hread
        rw [tripTemperature_tripFile hdigits] at htemperature
        obtain ⟨contents, y, hcontents, hy, hx⟩ := readThousandths?_eq_some.1 htemperature
        exact ⟨digits, t, contents, y, hdigits, htrip, ht, hcontents, hy, hx⟩
  · intro ⟨digits, t, contents, y, hdigits, htrip, ht, hcontents, hy, hx⟩
    have hread : tripReading? tree zone (tripFile digits "_type") = some x := by
      rw [tripReading?_eq_some, tripTemperature_tripFile hdigits]
      exact ⟨t, ht, readThousandths?_eq_some.2 ⟨contents, y, hcontents, hy, hx⟩⟩
    simp [heq, decidingTrip?_eq_some.2 htrip, hread]
  · rw [hfault] at heq
    cases hdeciding : decidingTrip? tree zone with
    | none =>
      right
      constructor
      · intro ⟨trip, htrip⟩
        exact decidingTrip?_eq_none.1 hdeciding trip htrip.isTrip htrip.endsSearch
      · simpa [hdeciding] using heq
    | some trip =>
      left
      refine ⟨⟨trip, decidingTrip?_eq_some.1 hdeciding⟩, ?_⟩
      cases hread : tripReading? tree zone trip with
      | none => simpa [hdeciding, hread] using heq
      | some z => simp [hdeciding, hread] at heq
  · rw [heq, shutdownTemperature_eq hzone other, hsame.decidingTrip?]
    cases hdeciding : decidingTrip? tree zone with
    | none => rfl
    | some trip => simp only [hsame.tripReading? (decidingTrip?_eq_some.1 hdeciding)]

/-- In the order of names the trip point of number 10 comes before that of number 2, so it decides,
and it does so as well where the latter is gone; that the temperature of the passive one before it
holds no number makes no difference. -/
theorem shutdownTemperature_of_first_trip_ten :
    let sensors : ThermalSensors := { base := [], zones := [(.skin, "thermal_zone0")] }
    let file (name contents : String) : DevicePath × Option DeviceNode :=
      (["thermal_zone0", name], some (.file contents.toUTF8))
    let tree := DeviceTree.ofList [file "trip_point_2_type" "critical\n",
      file "trip_point_2_temp" "57000\n", file "trip_point_0_type" "passive\n",
      file "trip_point_0_temp" "warm", file "trip_point_10_type" " Critical\n",
      file "trip_point_10_temp" "95000\n"]
    let other := tree.write ["thermal_zone0", "trip_point_2_type"] none
    sensors.shutdownTemperature tree .skin = .ok (Binary64.ofInt 95) ∧
      sensors.shutdownTemperature other .skin = .ok (Binary64.ofInt 95) := by
  intro sensors file tree other
  let trips (tree : DeviceTree) : List String :=
    (tree.entries.filterMap fun entry => DeviceTree.childOf? ["thermal_zone0"] entry.1).filter
      isTripType
  have htree : trips tree = ["trip_point_2_type", "trip_point_0_type", "trip_point_10_type"] := by
    decide +kernel
  have hother : trips other = ["trip_point_0_type", "trip_point_10_type"] := by decide +kernel
  have hcases {trip : String} : IsTrip tree ["thermal_zone0"] trip ↔
      trip = "trip_point_2_type" ∨ trip = "trip_point_0_type" ∨ trip = "trip_point_10_type" := by
    rw [isTrip_iff_mem]
    change trip ∈ trips tree ↔ _
    simp [htree]
  have hremaining {trip : String} : IsTrip other ["thermal_zone0"] trip ↔
      trip = "trip_point_0_type" ∨ trip = "trip_point_10_type" := by
    rw [isTrip_iff_mem]
    change trip ∈ trips other ↔ _
    simp [hother]
  have hdeciding : IsDecidingTrip tree ["thermal_zone0"] "trip_point_10_type" := by
    refine ⟨hcases.2 (by simp), by decide +kernel, fun name hname hends => ?_⟩
    rcases hcases.1 hname with rfl | rfl | rfl
    · decide +kernel
    · revert hends
      decide +kernel
    · exact String.le_refl _
  have hsame : SameTrips tree other ["thermal_zone0"] := by
    refine ⟨fun trip hreached => ?_, fun trip hreached htrip => ?_, fun trip htrip => ?_⟩
    · have hpassed : trip ≠ "trip_point_2_type" := by
        rintro rfl
        exact absurd (hreached _ hdeciding) (by decide +kernel)
      simp [hcases, hremaining, hpassed]
    · rcases hcases.1 htrip with rfl | rfl | rfl
      · exact absurd (hreached _ hdeciding) (by decide +kernel)
      · decide +kernel
      · decide +kernel
    · obtain rfl := htrip.eq hdeciding
      decide +kernel
  have hzone : sensors.zonePath .skin = .ok ["thermal_zone0"] := by decide +kernel
  have hnumbers (trip : String) (htrip : IsTrip tree ["thermal_zone0"] trip) :
      ∃ digits : List Char, (∀ c ∈ digits, c.isDigit = true) ∧ trip = tripFile digits "_type" := by
    rcases hcases.1 htrip with rfl | rfl | rfl
    · exact ⟨['2'], by simp, by decide +kernel⟩
    · exact ⟨['0'], by simp, by decide +kernel⟩
    · exact ⟨['1', '0'], by simp, by decide +kernel⟩
  obtain ⟨hfound, -, hagrees⟩ := shutdownTemperature_of_first_trip hzone hnumbers
  have hten : tripFile ['1', '0'] "_type" = "trip_point_10_type" := by decide +kernel
  have hanswer : sensors.shutdownTemperature tree .skin = .ok (Binary64.ofInt 95) := by
    refine (hfound _).2 ⟨['1', '0'], " Critical\n", "95000\n", Binary64.ofInt 95000, by simp,
      hten ▸ hdeciding, ?_, ?_, ?_, ?_⟩
    · decide +kernel
    · decide +kernel
    · decide +kernel
    · decide +kernel
  exact ⟨hanswer, (hagrees other hsame).trans hanswer⟩

end ThermalSensors

end DeviceWarnings
