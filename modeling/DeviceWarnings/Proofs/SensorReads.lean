import DeviceWarnings.Proofs.TripPoints
import Mathlib.Data.List.DropRight

/-!
# Requests to the sensors and their failures

The sensors of a device are asked for current and for shutdown temperatures, in any order and of any
class, while the files of the device change under them in any way. A request is answered with a
number, or telemetry is unavailable.

The failures of a class are those of its current temperatures since the last one that could be read.
No other request reaches its counter: which classes have a zone is settled once, a class without one
is answered before anything is counted, and a shutdown temperature is never counted. So a run in
which only the files change and the class itself is read, if it has a zone, counts the same.

What can become of a request is said once, by `ThermalSensors.Exit`; the invariant of a run and the
comparison of two runs are read off it.
-/

namespace DeviceWarnings

/-! ## Requests -/

/-- The temperatures of a class. -/
inductive TemperatureKind where
  | current
  | shutdown
  deriving DecidableEq

/-- A request for a temperature of a class. -/
structure SensorRequest where
  kind : TemperatureKind
  sensor : SensorClass
  deriving DecidableEq

/-- Why a request can remain without a temperature. -/
def SensorRequest.outages : SensorRequest → List Outage
  | ⟨.current, sensor⟩ => [.noZone sensor, .temperatureUnreadable sensor]
  | ⟨.shutdown, sensor⟩ => [.noZone sensor, .shutdownUnreadable sensor, .noCriticalTrip sensor]

/-- The answers that a request admits: a temperature, or that telemetry is unavailable for one of
its own reasons. -/
def SensorRequest.Admits (request : SensorRequest) (answer : Except Fault Binary64) : Prop :=
  (∃ x, answer = .ok x) ∨ ∃ outage ∈ request.outages, answer = .error (.unavailable outage)

/-- What happens while sensors are in use: the files change, to whatever they are then, or a
temperature is asked for. -/
inductive SensorStep where
  | files (tree : DeviceTree)
  | ask (request : SensorRequest)

/-- The request of a step. -/
def SensorStep.request? : SensorStep → Option SensorRequest
  | files _ => none
  | ask request => some request

/-- A request with its answer. -/
abbrev AnsweredRequest := SensorRequest × Except Fault Binary64

/-- A run of requests so far: the files as they are now, the sensors, and all answers in order. -/
structure SensorRun where
  tree : DeviceTree
  sensors : ThermalSensors
  answers : List AnsweredRequest := []

namespace ThermalSensors

/-- The answer to a request, and the sensors after it. -/
def answer (sensors : ThermalSensors) (tree : DeviceTree) (request : SensorRequest) :
    Except Fault Binary64 × ThermalSensors :=
  match request.kind with
  | .current => sensors.readCurrent tree request.sensor
  | .shutdown => (sensors.shutdownTemperature tree request.sensor, sensors)

end ThermalSensors

/-- Whether a step can matter to the counter of a class: the files change, or the current
temperature of the class is read from its zone. -/
def ZoneMap.concern (zones : ZoneMap) (sensor : SensorClass) : SensorStep → Bool
  | .files _ => true
  | .ask request => request = ⟨.current, sensor⟩ ∧ (zones.zone? sensor).isSome

namespace SensorRun

/-- The run after one more step. -/
def step (run : SensorRun) : SensorStep → SensorRun
  | .files tree => { run with tree }
  | .ask request =>
    let (answer, sensors) := run.sensors.answer run.tree request
    { run with sensors, answers := run.answers ++ [(request, answer)] }

/-- The run after some more steps. -/
def steps (run : SensorRun) (more : List SensorStep) : SensorRun := more.foldl step run

end SensorRun

/-- The run of sensors through some steps, with the files as they are at first. -/
def ThermalSensors.run (sensors : ThermalSensors) (tree : DeviceTree) (steps : List SensorStep) :
    SensorRun :=
  SensorRun.steps { tree, sensors } steps

/-! ## Counting failures -/

/-- The answers to the requests for the current temperature of a class, in order. -/
def currentAnswers (sensor : SensorClass) (answers : List AnsweredRequest) :
    List (Except Fault Binary64) :=
  answers.filterMap fun answered =>
    if answered.1 = ⟨.current, sensor⟩ then some answered.2 else none

/-- The number of failures since the last success. -/
def failedSinceSuccess (answers : List (Except Fault Binary64)) : Nat :=
  (answers.rtakeWhile fun answer => !answer.isOk).length

section Counting

variable {sensor : SensorClass} {request : SensorRequest} {answer : Except Fault Binary64}

theorem currentAnswers_concat (answers : List AnsweredRequest) :
    currentAnswers sensor (answers ++ [(⟨.current, sensor⟩, answer)]) =
      currentAnswers sensor answers ++ [answer] := by
  simp [currentAnswers]

/-- Other requests are no readings of the class. -/
theorem currentAnswers_concat_of_ne (h : request ≠ ⟨.current, sensor⟩)
    (answers : List AnsweredRequest) :
    currentAnswers sensor (answers ++ [(request, answer)]) = currentAnswers sensor answers := by
  simp [currentAnswers, h]

theorem failedSinceSuccess_concat_ok (answers : List (Except Fault Binary64)) (x : Binary64) :
    failedSinceSuccess (answers ++ [.ok x]) = 0 := by
  simp [failedSinceSuccess, Except.isOk, Except.toBool]

theorem failedSinceSuccess_concat_error (answers : List (Except Fault Binary64)) (fault : Fault) :
    failedSinceSuccess (answers ++ [.error fault]) = failedSinceSuccess answers + 1 := by
  simp [failedSinceSuccess, Except.isOk, Except.toBool]

end Counting

/-! ## One request -/

namespace ThermalSensors

variable {sensors : ThermalSensors} {tree : DeviceTree} {sensor other : SensorClass} {zone : String}

theorem zonePath_of_none (h : sensors.zones.zone? sensor = none) :
    sensors.zonePath sensor = .error (.unavailable (.noZone sensor)) := by
  rw [zonePath, h]

theorem zonePath_of_some (h : sensors.zones.zone? sensor = some zone) :
    sensors.zonePath sensor = .ok (sensors.base ++ [zone]) := by
  rw [zonePath, h]

@[simp] theorem setFailures_failures (count : Nat) :
    (sensors.setFailures sensor count).failures sensor = some count := by
  simp [setFailures]

theorem setFailures_failures_of_ne (h : other ≠ sensor) (count : Nat) :
    (sensors.setFailures sensor count).failures other = sensors.failures other := by
  simp [setFailures, h]

/-- A class without a zone is refused, and nothing is counted. -/
theorem answer_of_noZone {request : SensorRequest}
    (h : sensors.zones.zone? request.sensor = none) (tree : DeviceTree) :
    sensors.answer tree request =
      (.error (.unavailable (.noZone request.sensor)), sensors) := by
  obtain ⟨kind, sensor⟩ := request
  have hpath := zonePath_of_none h
  cases kind with
  | current => simp [answer, readCurrent, hpath]
  | shutdown => simp [answer, shutdownTemperature, hpath, bind, Except.bind]

/-- A current temperature is read from the zone of the class: the count of its failures ends, or
goes on by one. -/
theorem answer_current (h : sensors.zones.zone? sensor = some zone) (tree : DeviceTree) :
    sensors.answer tree ⟨.current, sensor⟩ =
      match readThousandths? tree (sensors.base ++ [zone] ++ ["temp"]) with
      | some x => (.ok x, sensors.setFailures sensor 0)
      | none => (.error (.unavailable (.temperatureUnreadable sensor)),
          sensors.setFailures sensor ((sensors.failures sensor).getD 0 + 1)) := by
  cases hread : readThousandths? tree (sensors.base ++ [zone] ++ ["temp"]) <;>
    simp only [answer, readCurrent, zonePath_of_some h, hread]

theorem failures_answer_current (h : sensors.zones.zone? sensor = some zone) (tree : DeviceTree) :
    (sensors.answer tree ⟨.current, sensor⟩).2.failures sensor =
      if (readThousandths? tree (sensors.base ++ [zone] ++ ["temp"])).isSome then some 0
      else some ((sensors.failures sensor).getD 0 + 1) := by
  rw [answer_current h]
  cases readThousandths? tree (sensors.base ++ [zone] ++ ["temp"]) <;> simp

theorem admits_shutdownTemperature (h : sensors.zones.zone? sensor = some zone)
    (tree : DeviceTree) :
    SensorRequest.Admits ⟨.shutdown, sensor⟩ (sensors.shutdownTemperature tree sensor) := by
  rw [shutdownTemperature_eq (zonePath_of_some h)]
  cases decidingTrip? tree (sensors.base ++ [zone]) with
  | none => exact .inr ⟨.noCriticalTrip sensor, by simp [SensorRequest.outages], rfl⟩
  | some trip =>
    dsimp only
    cases tripReading? tree (sensors.base ++ [zone]) trip with
    | none => exact .inr ⟨.shutdownUnreadable sensor, by simp [SensorRequest.outages], rfl⟩
    | some x => exact .inl ⟨x, rfl⟩

/-- All that can become of a request: its answer, and the sensors after it. -/
inductive Exit (sensors : ThermalSensors) :
    SensorRequest → Except Fault Binary64 → ThermalSensors → Prop
  | noZone (request : SensorRequest) (hzone : sensors.zones.zone? request.sensor = none) :
      Exit sensors request (.error (.unavailable (.noZone request.sensor))) sensors
  | told (sensor : SensorClass) (x : Binary64)
      (hzone : (sensors.zones.zone? sensor).isSome = true) :
      Exit sensors ⟨.current, sensor⟩ (.ok x) (sensors.setFailures sensor 0)
  | unreadable (sensor : SensorClass) (hzone : (sensors.zones.zone? sensor).isSome = true) :
      Exit sensors ⟨.current, sensor⟩ (.error (.unavailable (.temperatureUnreadable sensor)))
        (sensors.setFailures sensor ((sensors.failures sensor).getD 0 + 1))
  | shutdown (sensor : SensorClass) (answer : Except Fault Binary64)
      (hanswer : SensorRequest.Admits ⟨.shutdown, sensor⟩ answer) :
      Exit sensors ⟨.shutdown, sensor⟩ answer sensors

theorem exit_answer (sensors : ThermalSensors) (tree : DeviceTree) (request : SensorRequest) :
    sensors.Exit request (sensors.answer tree request).1 (sensors.answer tree request).2 := by
  cases hzone : sensors.zones.zone? request.sensor with
  | none =>
    rw [answer_of_noZone hzone]
    exact .noZone request hzone
  | some zone =>
    have hserved : (sensors.zones.zone? request.sensor).isSome = true := by rw [hzone]; rfl
    obtain ⟨kind, sensor⟩ := request
    cases kind with
    | current =>
      rw [answer_current hzone]
      cases readThousandths? tree (sensors.base ++ [zone] ++ ["temp"]) with
      | some x => exact .told sensor x hserved
      | none => exact .unreadable sensor hserved
    | shutdown => exact .shutdown sensor _ (admits_shutdownTemperature hzone tree)

namespace Exit

variable {after : ThermalSensors} {request : SensorRequest} {answer : Except Fault Binary64}

theorem admits (h : sensors.Exit request answer after) : request.Admits answer := by
  cases h with
  | noZone hzone =>
    refine .inr ⟨.noZone request.sensor, ?_, rfl⟩
    obtain ⟨kind, sensor⟩ := request
    cases kind <;> simp [SensorRequest.outages]
  | told sensor x => exact .inl ⟨x, rfl⟩
  | unreadable sensor =>
    exact .inr ⟨.temperatureUnreadable sensor, by simp [SensorRequest.outages], rfl⟩
  | shutdown sensor answer hanswer => exact hanswer

/-- The zones are settled. -/
theorem zones (h : sensors.Exit request answer after) : after.zones = sensors.zones := by
  cases h <;> rfl

theorem base (h : sensors.Exit request answer after) : after.base = sensors.base := by
  cases h <;> rfl

/-- A request reaches no counter, except that of the class whose current temperature is read from
its zone. -/
theorem failures (h : sensors.Exit request answer after)
    (hconcern : sensors.zones.concern sensor (.ask request) = false) :
    after.failures sensor = sensors.failures sensor := by
  have hne {asked : SensorClass} (hserved : (sensors.zones.zone? asked).isSome = true)
      (hrequest : request = ⟨.current, asked⟩) : sensor ≠ asked := by
    rintro rfl
    simp [ZoneMap.concern, hrequest, hserved] at hconcern
  cases h with
  | noZone => rfl
  | told asked x hserved => exact setFailures_failures_of_ne (hne hserved rfl) _
  | unreadable asked hserved => exact setFailures_failures_of_ne (hne hserved rfl) _
  | shutdown => rfl

end Exit

end ThermalSensors

/-! ## Runs -/

namespace SensorRun

variable {run : SensorRun} {found : ZoneMap} {sensor : SensorClass}

theorem step_zones (run : SensorRun) (s : SensorStep) :
    (run.step s).sensors.zones = run.sensors.zones := by
  cases s with
  | files tree => rfl
  | ask request => exact (run.sensors.exit_answer run.tree request).zones

/-- What holds all along a run on the zones that were found. -/
structure Counts (found : ZoneMap) (run : SensorRun) : Prop where
  zones : run.sensors.zones = found
  answers : ∀ answered ∈ run.answers, answered.1.Admits answered.2
  served : ∀ sensor, (found.zone? sensor).isSome = true →
    (run.sensors.failures sensor).getD 0 = failedSinceSuccess (currentAnswers sensor run.answers)
  unserved : ∀ sensor, found.zone? sensor = none → run.sensors.failures sensor = none

/-- A counter keeps step with the answers to one more request. -/
theorem Counts.served_ask (h : run.Counts found) (request : SensorRequest)
    (hserved : (found.zone? sensor).isSome = true) :
    ((run.step (.ask request)).sensors.failures sensor).getD 0 =
      failedSinceSuccess (currentAnswers sensor (run.step (.ask request)).answers) := by
  simp only [step]
  by_cases hown : request = ⟨.current, sensor⟩
  · subst hown
    obtain ⟨zone, hzone⟩ := Option.isSome_iff_exists.1 (h.zones ▸ hserved)
    rw [ThermalSensors.answer_current hzone, currentAnswers_concat]
    cases readThousandths? run.tree (run.sensors.base ++ [zone] ++ ["temp"]) with
    | some x => simp [failedSinceSuccess_concat_ok]
    | none => simp [failedSinceSuccess_concat_error, h.served sensor hserved]
  · have hconcern : run.sensors.zones.concern sensor (.ask request) = false := by
      simp [ZoneMap.concern, hown]
    rw [currentAnswers_concat_of_ne hown,
      (run.sensors.exit_answer run.tree request).failures hconcern]
    exact h.served sensor hserved

theorem Counts.step (h : run.Counts found) (s : SensorStep) : (run.step s).Counts found := by
  cases s with
  | files tree => exact ⟨h.zones, h.answers, h.served, h.unserved⟩
  | ask request =>
    refine ⟨?_, ?_, fun sensor => h.served_ask request, fun sensor hnone => ?_⟩
    · exact (step_zones run _).trans h.zones
    · intro answered hmem
      rcases List.mem_append.1 hmem with hold | hnew
      · exact h.answers answered hold
      · obtain rfl := List.mem_singleton.1 hnew
        exact (run.sensors.exit_answer run.tree request).admits
    · rw [← h.unserved sensor hnone]
      apply (run.sensors.exit_answer run.tree request).failures
      simp [ZoneMap.concern, h.zones, hnone]

theorem Counts.steps (h : run.Counts found) (more : List SensorStep) :
    (run.steps more).Counts found := by
  induction more generalizing run with
  | nil => exact h
  | cons s rest ih => exact ih (h.step s)

/-- Every request is answered, in the order in which they are made. -/
theorem map_fst_answers_steps (run : SensorRun) (more : List SensorStep) :
    (run.steps more).answers.map Prod.fst =
      run.answers.map Prod.fst ++ more.filterMap SensorStep.request? := by
  induction more generalizing run with
  | nil => simp [steps]
  | cons s rest ih =>
    rw [steps, List.foldl_cons, ← steps, ih]
    cases s <;> simp [step, SensorStep.request?, List.filterMap_cons]

/-- Whether two runs are alike for the counter of a class. -/
structure AlikeFor (sensor : SensorClass) (a b : SensorRun) : Prop where
  tree : a.tree = b.tree
  base : a.sensors.base = b.sensors.base
  zones : a.sensors.zones = b.sensors.zones
  failures : a.sensors.failures sensor = b.sensors.failures sensor

variable {a b : SensorRun} {s : SensorStep}

/-- A step that does not concern the counter can be left out. -/
theorem AlikeFor.step_left (h : a.AlikeFor sensor b)
    (hconcern : a.sensors.zones.concern sensor s = false) : (a.step s).AlikeFor sensor b := by
  cases s with
  | files tree => simp [ZoneMap.concern] at hconcern
  | ask request =>
    have hexit := a.sensors.exit_answer a.tree request
    exact ⟨h.tree, hexit.base.trans h.base, hexit.zones.trans h.zones,
      (hexit.failures hconcern).trans h.failures⟩

/-- A step that concerns the counter does the same to it in both runs. -/
theorem AlikeFor.step (h : a.AlikeFor sensor b)
    (hconcern : a.sensors.zones.concern sensor s = true) :
    (a.step s).AlikeFor sensor (b.step s) := by
  cases s with
  | files tree => exact ⟨rfl, h.base, h.zones, h.failures⟩
  | ask request =>
    simp only [ZoneMap.concern, decide_eq_true_eq] at hconcern
    obtain ⟨rfl, hserved⟩ := hconcern
    obtain ⟨zone, hzone⟩ := Option.isSome_iff_exists.1 hserved
    have hexit := a.sensors.exit_answer a.tree ⟨.current, sensor⟩
    have hexit' := b.sensors.exit_answer b.tree ⟨.current, sensor⟩
    refine ⟨h.tree, hexit.base.trans (h.base.trans hexit'.base.symm),
      hexit.zones.trans (h.zones.trans hexit'.zones.symm), ?_⟩
    simp only [SensorRun.step]
    rw [ThermalSensors.failures_answer_current hzone,
      ThermalSensors.failures_answer_current (h.zones ▸ hzone), h.tree, h.base, h.failures]

/-- Only the steps that concern a counter matter to it. -/
theorem AlikeFor.steps_filter (h : a.AlikeFor sensor b) (more : List SensorStep) :
    (a.steps more).AlikeFor sensor (b.steps (more.filter (a.sensors.zones.concern sensor))) := by
  induction more generalizing a b with
  | nil => exact h
  | cons s rest ih =>
    rw [steps, List.foldl_cons, ← steps, List.filter_cons]
    cases hconcern : a.sensors.zones.concern sensor s with
    | true => simpa [steps, step_zones] using ih (h.step hconcern)
    | false => simpa [step_zones] using ih (h.step_left hconcern)

end SensorRun

namespace ThermalSensors

/-- Sensors that have been found answer every request with a temperature, or telemetry is
unavailable for a reason of that request, whatever becomes of the files. The count of a class with a
zone is that of its failed current temperatures since the last successful one, a class without a
zone has none, and a run with only those steps that concern the class leaves the same count. -/
theorem failures_of_requests {tree : DeviceTree} {base : DevicePath} {sensors : ThermalSensors}
    (h : discover tree base = .ok sensors) (steps : List SensorStep) :
    (sensors.run tree steps).answers.map Prod.fst = steps.filterMap SensorStep.request? ∧
      (∀ answered ∈ (sensors.run tree steps).answers, answered.1.Admits answered.2) ∧
      ∀ sensor,
        ((sensors.zones.zone? sensor).isSome = true →
          ((sensors.run tree steps).sensors.failures sensor).getD 0 =
            failedSinceSuccess (currentAnswers sensor (sensors.run tree steps).answers)) ∧
        (sensors.zones.zone? sensor = none →
          (sensors.run tree steps).sensors.failures sensor = none) ∧
        (sensors.run tree steps).sensors.failures sensor =
          (sensors.run tree (steps.filter (sensors.zones.concern sensor))).sensors.failures
            sensor := by
  obtain ⟨found, -, hfound⟩ := bind_eq_ok.1 h
  obtain rfl := Except.ok.inj hfound
  let start : SensorRun := { tree, sensors := { base, zones := found } }
  have hstart : start.Counts found :=
    { zones := rfl
      answers := List.forall_mem_nil _
      served := fun sensor _ => by simp [start, currentAnswers, failedSinceSuccess]
      unserved := fun _ _ => rfl }
  have hrun : (start.steps steps).Counts found := hstart.steps steps
  refine ⟨start.map_fst_answers_steps steps, hrun.answers, fun sensor =>
    ⟨hrun.served sensor, hrun.unserved sensor, ?_⟩⟩
  have halike : start.AlikeFor sensor start := ⟨rfl, rfl, rfl, rfl⟩
  exact (halike.steps_filter steps).failures

/-- After a success, two current temperatures fail, one because its file has become a directory and
one because the file is no text; a failed shutdown temperature and a class without a zone in between
are not counted. -/
theorem failures_of_requests_two :
    let tree := DeviceTree.ofList [(["thermal_zone0", "type"], some (.file "skin-therm\n".toUTF8)),
      (["thermal_zone0", "temp"], some (.file "38500\n".toUTF8))]
    let write (node : DeviceNode) : SensorStep :=
      .files (tree.write ["thermal_zone0", "temp"] (some node))
    let sensors : ThermalSensors := { base := [], zones := [(.skin, "thermal_zone0")] }
    let steps : List SensorStep := [.ask ⟨.current, .skin⟩, write .directory,
      .ask ⟨.current, .skin⟩, .ask ⟨.shutdown, .skin⟩, .ask ⟨.current, .cpu⟩,
      write (.file ⟨#[0xff, 0xfe]⟩), .ask ⟨.current, .skin⟩]
    discover tree [] = .ok sensors ∧
      ((sensors.run tree steps).sensors.failures .skin).getD 0 = 2 ∧
      (sensors.run tree steps).sensors.failures .cpu = none := by
  intro tree write sensors steps
  have hnames : (tree.entries.filterMap fun entry => DeviceTree.childOf? [] entry.1) =
      ["thermal_zone0"] := by decide +kernel
  have hzones : zoneNames tree [] = ["thermal_zone0"] := by
    rw [zoneNames, DeviceTree.children, hnames, List.mergeSort_singleton]
    decide
  have hdiscover : discover tree [] = .ok sensors := by
    have hfound : discoverZones tree [] = .ok [(.skin, "thermal_zone0")] := by
      rw [discoverZones, hzones]
      decide +kernel
    rw [discover, hfound]
    rfl
  obtain ⟨-, -, hcounts⟩ := failures_of_requests hdiscover steps
  obtain ⟨hserved, -, -⟩ := hcounts .skin
  obtain ⟨-, hunserved, -⟩ := hcounts .cpu
  have hfailed :
      failedSinceSuccess (currentAnswers .skin (sensors.run tree steps).answers) = 2 := by
    decide +kernel
  exact ⟨hdiscover, (hserved (by decide)).trans hfailed, hunserved (by decide)⟩

end ThermalSensors

end DeviceWarnings
