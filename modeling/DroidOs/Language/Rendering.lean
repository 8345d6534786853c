/- GID: DroidOs/Language/Rendering
   generality: I
   source: src/droidos/executive/executive.py, src/droidos/language/service.py
   digest: Which results of the handlers a text can be made of. -/

import DroidOs.Executive.Tools
import DroidOs.Language.Renderer
import DroidOs.Services.Diagnostics

set_option autoImplicit false
set_option relaxedAutoImplicit false

namespace DroidOs.Language.Rendering

open DroidOs.Lib.Procedure DroidOs.Lib.Interleaving
open DroidOs.Core.Values DroidOs.Core.Context DroidOs.Core.Words
open DroidOs.Body.Package (LoadedBody)
open DroidOs.Executive.RunIntent DroidOs.Executive.Tools
open DroidOs.Services DroidOs.Services.Lifecycle
open DroidOs.Services.Supervisor (Brain)
open Intent Wording Renderer

variable (text : PyText) (p : Personality)

/-- A text is made of the result. -/
def Told (r : TaskResult) : Prop := ∃ said, render text p r = .ok said

/-- The renderers of information, which read the data only. -/
def informations : List String :=
  ["robot_get_status", "robot_get_battery", "robot_get_temperature", "diagnostics_summary", "robot_explain",
    "perception_describe_scene", "navigation_list_places", "help"]

/-- The renderers that some data make raise. -/
def demanding : List String := informations ++ ["inspect_named_target", "memory_store_place", "system_set_body"]

variable {text p} {r : TaskResult} {d : Items}

theorem told_by_report_iff : Told text p r ↔ ∃ said, report text p r = .ok said := by
  unfold Told render
  rcases report text p r with e | said
  · exact iff_of_false (fun ⟨_, raised⟩ => by cases raised) (fun ⟨_, raised⟩ => by cases raised)
  · exact iff_of_true ⟨_, rfl⟩ ⟨_, rfl⟩

/-- What a renderer has a text for is told. -/
theorem told_of {rendered : Except Exn String} (renders : report text p r = rendered)
    (worded : ∃ said, rendered = .ok said) : Told text p r := by
  rw [told_by_report_iff, renders]
  exact worded

theorem report_task (name : String) (named : rendererName r.kind = name) (other : name ∉ informations) :
    report text p r = rTask text p r name := by
  subst named
  unfold report
  split
  case h_9 => rfl
  all_goals
    next named =>
      rw [named] at other
      exact absurd other (by decide)

/-- Every other renderer has a text for any result. -/
theorem told_plain (kind : String) (own : r.kind = kind) (plain : rendererName kind ∉ demanding) : Told text p r := by
  subst own
  rw [told_by_report_iff, report_task _ rfl fun inside => plain (List.mem_append_left _ inside)]
  unfold rTask
  split
  case h_8 named => exact absurd plain (by rw [named]; decide)
  case h_10 named => exact absurd plain (by rw [named]; decide)
  case h_12 named => exact absurd plain (by rw [named]; decide)
  all_goals exact ⟨_, rfl⟩

theorem told_inspect (kind : r.kind = "inspect.named_target") :
    Told text p r ↔ ∃ said, rInspect text p r = .ok said := by
  rw [told_by_report_iff, report_task "inspect_named_target" (by rw [kind]; decide) (by decide)]
  rfl

theorem told_storePlace (kind : r.kind = "memory.store_place") :
    Told text p r ↔ ∃ said, rStorePlace text r.data = .ok said := by
  rw [told_by_report_iff, report_task "memory_store_place" (by rw [kind]; decide) (by decide)]
  rfl


/-! Results of the handlers. -/

variable {e : Equipment} {b : Backends.Simulation.SimulationBackend} {st : Stores} {arguments : Items}

theorem told_battery (returned : hBattery e b = .ok r) : Told text p r := by
  unfold hBattery at returned
  obtain ⟨battery, -, returned⟩ := except_bind_ok returned
  obtain ⟨minimum, -, returned⟩ := except_bind_ok returned
  obtain rfl := Except.ok.inj returned
  refine told_of (report_battery rfl) ?_
  cases safe : minimum.le battery.percent
  · exact ⟨_, rfl⟩
  · exact ⟨_, rfl⟩

theorem told_temperature (returned : hTemperature e b = .ok r) : Told text p r := by
  unfold hTemperature at returned
  obtain ⟨acts, -, returned⟩ := except_bind_ok returned
  obtain ⟨warn, -, returned⟩ := except_bind_ok returned
  obtain ⟨fault, -, returned⟩ := except_bind_ok returned
  obtain rfl := Except.ok.inj returned
  refine told_of (report_temperature rfl) ?_
  generalize List.mergeSort _ _ = temps
  rcases temps with _ | ⟨⟨name, temp⟩, temps⟩
  · exact ⟨"I have no motor temperature readings.", rfl⟩
  · have worded (said : String) : ∃ s, (if fault.le temp then pure (said ++ faultExceeded)
        else if warn.le temp then pure (said ++ belowWarning) else pure said : Except Exn String) = .ok s := by
      split
      · exact ⟨_, rfl⟩
      split
      · exact ⟨_, rfl⟩
      · exact ⟨_, rfl⟩
    exact worded (warmest (text.str (.str name)) (text.fixed 1 temp) (text.fixed 0 warn) (text.fixed 0 fault))

theorem told_describe (returned : hDescribe e b = .ok r) : Told text p r := by
  unfold hDescribe at returned
  obtain ⟨scene, described, returned⟩ := except_bind_ok returned
  obtain rfl := Except.ok.inj returned
  refine told_of (report_scene rfl) ?_
  unfold Perception.describe at described
  obtain ⟨has, -, described⟩ := except_bind_ok described
  split at described
  · obtain rfl := Except.ok.inj described
    exact ⟨_, rfl⟩
  dsimp only at described
  split at described
  · obtain rfl := Except.ok.inj described
    exact ⟨_, rfl⟩
  · obtain rfl := Except.ok.inj described
    exact ⟨_, rfl⟩

theorem told_listPlaces (returned : hListPlaces st = .ok r) : Told text p r := by
  obtain rfl := Except.ok.inj returned
  refine told_of (report_places rfl) ?_
  unfold rListPlaces
  dsimp only
  split
  · exact ⟨_, rfl⟩
  · obtain ⟨places, joined⟩ := texts_returns st.world.data.placeNames
    change ∃ said, (texts (.list (st.world.data.placeNames.map .str)) >>= _) = .ok said
    rw [joined]
    exact ⟨_, rfl⟩

theorem told_help (returned : hHelp = .ok r) : Told text p r := by
  obtain rfl := Except.ok.inj returned
  exact told_of (report_help rfl) ⟨_, rfl⟩

/-- The mapping that `summary` returns; of a status it leaves out the readings. -/
def summaryItems (s : Diagnostics.Summary) : Items :=
  [(.str "overall", .str s.overall), (.str "fault_count", .int s.faultCount),
    (.str "faults", .list (s.faults.map fun d => .dict
      [(.str "name", .str d.name), (.str "level", .str (Diagnostics.label d.level)), (.str "message", .str d.message),
        (.str "hardware_id", .str d.hardwareId)]))]

theorem told_diagnose {s : Diagnostics.Summary} (kind : r.kind = "diagnostics.summary") (data : r.data = summaryItems s) :
    Told text p r := by
  refine told_of (report_diagnostics kind) ?_
  rw [data]
  unfold rDiagnosticsSummary
  refine except_ite_returns (fun nominal => ⟨_, rfl⟩) fun some_fault => ?_
  · refine except_bind_known (a := .int s.faultCount) rfl (except_bind_known rfl ?_)
    refine except_bind_returns (except_mapM_returns fun f inside => ?_) fun lines => ⟨_, rfl⟩
    obtain ⟨d, -, rfl⟩ := List.mem_map.mp inside
    exact ⟨_, rfl⟩

/-- Reasons that are texts can be told. -/
private theorem reasons_returns (d : Items) (reasons : List String) (listed : field d "inhibit_reasons" = .list (reasons.map .str)) :
    ∃ said, texts (inhibited d) = .ok said := by
  unfold inhibited
  rw [listed, PyVal.orElse]
  split
  · exact texts_returns reasons
  · exact ⟨[], rfl⟩

theorem told_selected {selection : Items} (kind : r.kind = "system.set_body")
    (data : field r.data "selection" (.dict []) = .dict selection) : Told text p r := by
  refine told_of (report_task "system_set_body" (by rw [kind]; decide) (by decide)) ?_
  refine except_ite_returns (fun failed_ => ⟨_, rfl⟩) fun done => ?_
  rw [data]
  exact ⟨_, rfl⟩

/-- What an inspection of the scene finds can be told. -/
theorem told_inspection {body : LoadedBody} {target dest : PyVal} {findings more : Items}
    (kind : r.kind = "inspect.named_target") (found : Perception.inspect text body b target = .ok findings)
    (behind : more = [] ∨ ∃ drive, more = [(.str "drive", drive)])
    (data : r.data = findings ++ [(.str "destination", dest)] ++ more) : Told text p r := by
  rw [told_inspect kind]
  refine except_ite_returns (fun failed_ => ⟨_, rfl⟩) fun done => ?_
  rw [data]
  unfold Perception.inspect at found
  obtain ⟨has, -, found⟩ := except_bind_ok found
  split at found
  · cases found
  dsimp only at found
  split at found
  · cases found
  case isFalse streaming =>
    obtain ⟨wanted, -, found⟩ := except_bind_ok found
    split at found
    case h_1 missed =>
      obtain rfl := Except.ok.inj found
      refine except_ite_returns (fun unseen => ⟨_, rfl⟩) fun seen => absurd rfl seen
    case h_2 o hit =>
      obtain rfl := Except.ok.inj found
      have shown := List.mem_of_find?_eq_some hit
      unfold Perception.describeScene at shown
      split at shown
      · cases shown
      simp only [List.mem_cons, List.not_mem_nil, or_false] at shown
      rcases behind with rfl | ⟨drive, rfl⟩ <;> rcases shown with rfl | rfl | rfl | rfl
      all_goals exact ⟨_, rfl⟩

/-! The handlers that read the body or work on what is stored. -/

theorem yields_reading {f : Stores → Except Exn TaskResult} (told : ∀ st r, f st = .ok r → Told text p r) :
    Yields (Told text p) (reading f) :=
  fun st r returned => told st r returned

theorem told_hRemember : Yields (Told text p) (hRemember e arguments) := by
  refine yields_ite (fun nothing => yields_pure (told_plain "memory.remember" rfl (by decide))) fun said => ?_
  exact yields_then fun entry => yields_pure (told_plain "memory.remember" rfl (by decide))

theorem told_hForget : Yields (Told text p) (hForget e arguments) :=
  yields_then fun removed => yields_then fun place => yields_pure (told_plain "memory.forget" rfl (by decide))

theorem told_hInstallUpdate : Yields (Told text p) (hInstallUpdate e arguments) := by
  refine yields_ite (fun nothing => ?_) fun given_ => ?_
  · exact yields_then fun status => yields_pure (told_plain "system.install_update" rfl (by decide))
  · exact yields_then fun result => yields_pure (told_plain "system.install_update" rfl (by decide))

theorem told_hSetBody : Yields (Told text p) (hSetBody e arguments) := by
  refine yields_then fun outcome => ?_
  rcases outcome with exc | selected
  · exact yields_pure (told_selected rfl rfl)
  · exact yields_pure (told_selected rfl rfl)

/-- The handlers of this kind whose results are always told. -/
def tellingTools : List String :=
  ["robot.get_battery", "robot.get_temperature", "perception.describe_scene", "navigation.list_places", "help",
    "diagnostics.summary", "memory.remember", "memory.forget", "system.set_body", "system.install_update"]

/-- The equipment makes the summary of a diagnostics service. -/
def Summarizes (e : Equipment) : Prop :=
  ∀ b st items, e.diagnose b st = .ok items → ∃ s, items = summaryItems s

theorem told_tool (sums : Summarizes e) {name : String} (telling : name ∈ tellingTools) :
    Yields (Told text p) (tool e b name arguments) := by
  simp only [tellingTools, List.mem_cons, List.not_mem_nil, or_false] at telling
  rcases telling with rfl | rfl | rfl | rfl | rfl | rfl | rfl | rfl | rfl | rfl
  · exact yields_reading fun st r returned => told_battery returned
  · exact yields_reading fun st r returned => told_temperature returned
  · exact yields_reading fun st r returned => told_describe returned
  · exact yields_reading fun st r returned => told_listPlaces returned
  · exact yields_reading fun st r returned => told_help returned
  · refine yields_reading fun st r returned => ?_
    obtain ⟨items, diagnosed, returned⟩ := except_bind_ok returned
    obtain rfl := Except.ok.inj returned
    obtain ⟨s, rfl⟩ := sums b st items diagnosed
    exact told_diagnose rfl rfl
  · exact told_hRemember
  · exact told_hForget
  · exact told_hSetBody
  · exact told_hInstallUpdate

/-! The other handlers. -/

section

variable {ε : Type} {svc : Services ε} {reg : Registry (Runtime ε)} (task : Task)

theorem told_hStatus : Yields (Told text p) (hStatus svc reg task) := by
  unfold hStatus
  refine yields_then fun battery => yields_then fun readiness => yields_then fun hottest => ?_
  refine yields_then fun machine => yields_then fun safety => yields_pure (told_of (report_status rfl) ?_)
  refine except_bind_returns ⟨_, rfl⟩ fun charge => except_bind_returns ?_ fun motion => except_bind_returns ?_ fun note => ⟨_, rfl⟩
  · refine except_ite_returns (fun permitted => ⟨_, rfl⟩) fun stopped => ?_
    refine except_ite_returns (fun some_reason => ?_) fun no_reason => ⟨_, rfl⟩
    exact except_bind_returns (reasons_returns _ readiness.inhibitReasons rfl) fun said => ⟨_, rfl⟩
  · rcases hottest with _ | shown
    · exact ⟨[], rfl⟩
    refine except_ite_returns (fun some_motor => except_bind_known rfl ?_) fun no_motor => ⟨_, rfl⟩
    exact except_ite_returns (fun fine => ⟨_, rfl⟩) fun warm => ⟨_, rfl⟩

theorem told_hExplain : Yields (Told text p) (hExplain svc reg task) := by
  unfold hExplain
  refine yields_ite (fun current => ?_) fun other => ?_
  · refine yields_then fun last => yields_pure (told_of (report_explain rfl) ?_)
    rcases last with _ | last
    · exact ⟨_, rfl⟩
    · refine except_bind_known rfl (except_bind_known rfl (except_bind_known rfl ?_))
      exact except_bind_returns (texts_returns last.steps) fun steps => ⟨_, rfl⟩
  · refine yields_then fun readiness => yields_then fun machine => yields_then fun engaged => yields_pure ?_
    refine told_of (report_explain rfl) ?_
    refine except_ite_returns (fun current => absurd current (by simp [field, PyVal.lookup, PyVal.isKey])) fun why => ?_
    refine except_ite_returns (fun engaged => ⟨_, rfl⟩) fun free => ?_
    refine except_ite_returns (fun some_reason => ?_) fun no_reason => ⟨_, rfl⟩
    exact except_bind_returns (reasons_returns _ readiness.inhibitReasons rfl) fun said => ⟨_, rfl⟩

theorem told_hStop : Yields (Told text p) (hStop svc task) := by
  unfold hStop
  exact yields_then fun stopped => yields_pure (told_plain "motion.stop" rfl (by decide))

theorem told_hEstop : Yields (Told text p) (hEstop svc task) := by
  unfold hEstop
  exact yields_then fun engaged => yields_pure (told_plain "motion.emergency_stop" rfl (by decide))

theorem told_hCancel : Yields (Told text p) (hCancel svc task) := by
  unfold hCancel
  exact yields_then fun flagged => yields_then fun stopped => yields_pure (told_plain "task.cancel" rfl (by decide))

theorem told_hSilence : Yields (Told text p) (hSilence task : Proc (Brain ε) Exn TaskResult) := by
  unfold hSilence
  exact yields_pure (told_plain "voice.silence" rfl (by decide))

theorem told_hSafeIdle : Yields (Told text p) (hSafeIdle svc task) := by
  unfold hSafeIdle
  refine yields_then fun released => yields_then fun idle => yields_then fun machine => ?_
  exact yields_pure (told_plain "robot.return_safe_idle" rfl (by decide))

theorem told_hReboot : Yields (Told text p) (hReboot task : Proc (Brain ε) Exn TaskResult) := by
  unfold hReboot
  exact yields_pure (told_plain "system.request_reboot" rfl (by decide))

theorem told_hShutdown : Yields (Told text p) (hShutdown svc reg task) := by
  unfold hShutdown
  exact yields_then fun down => yields_then fun machine => yields_pure (told_plain "system.shutdown" rfl (by decide))

theorem told_hNavigate : Yields (Told text p) (hNavigate svc task).run := by
  unfold hNavigate
  rw [Coroutine.run_bind]
  refine yields_then fun place => ?_
  rcases place with _ | goal
  · exact yields_pure (told_plain "navigation.navigate_to" rfl (by decide))
  · rw [Coroutine.run_bind]
    exact yields_then fun driven => yields_pure (told_plain "navigation.navigate_to" rfl (by decide))

theorem told_hGoCharge : Yields (Told text p) (hGoCharge svc task).run := by
  unfold hGoCharge
  rw [Coroutine.run_bind]
  refine yields_then fun place => ?_
  rcases place with _ | goal
  · exact yields_pure (told_plain "navigation.go_charge" rfl (by decide))
  · rw [Coroutine.run_bind]
    refine yields_then fun driven => ?_
    rw [Coroutine.run_bind]
    exact yields_then fun docked => yields_pure (told_plain "navigation.go_charge" rfl (by decide))

theorem told_inspectTarget {body : LoadedBody}
    (inspects : ∀ target, Yields (fun found => ∃ b, Perception.inspect text body b target = .ok found)
      (svc.inspect target)) (drive : Items) : Yields (Told text p) (inspectTarget svc task drive) := by
  unfold inspectTarget
  refine yields_then fun noted => ?_
  refine yields_bind (S := fun outcome => ∀ found, outcome = .ok found → ∃ b,
    Perception.inspect text body b (argument task "target" (.str "")) = .ok found) ?_ fun outcome seen => ?_
  · intro m outcome returned found same
    subst same
    exact inspects _ m.rt.env found (Except.ok.inj returned)
  · rcases outcome with exc | found
    · exact yields_pure ((told_inspect rfl).mpr ⟨_, rfl⟩)
    · obtain ⟨b, inspected⟩ := seen found rfl
      refine yields_pure (told_inspection rfl inspected ?_ rfl)
      split
      · exact .inl rfl
      · exact .inr ⟨_, rfl⟩

theorem told_hInspect {body : LoadedBody}
    (inspects : ∀ target, Yields (fun found => ∃ b, Perception.inspect text body b target = .ok found)
      (svc.inspect target)) : Yields (Told text p) (hInspect svc task).run := by
  unfold hInspect
  dsimp only
  split
  case isTrue =>
    rw [Coroutine.run_bind]
    refine yields_then fun place => ?_
    rcases place with _ | goal
    · exact yields_pure ((told_inspect rfl).mpr ⟨_, rfl⟩)
    rw [Coroutine.run_bind]
    refine yields_then fun driven => ?_
    split
    · exact told_inspectTarget task inspects _
    · exact yields_pure ((told_inspect rfl).mpr ⟨_, rfl⟩)
  case isFalse => exact told_inspectTarget task inspects []

end

/-! Failures. -/

/-- Only of two failures no text can be made. -/
theorem told_failed {kind error : String} (listed : kind ∈ defaultTools.map ToolSpec.name)
    (battery : kind ≠ "robot.get_battery") (place : kind ≠ "memory.store_place") : Told text p (failed kind error) := by
  by_cases plain : rendererName kind ∈ demanding
  · have named : kind ∈ ["robot.get_status", "robot.get_temperature", "diagnostics.summary", "robot.explain",
        "perception.describe_scene", "navigation.list_places", "help", "inspect.named_target", "system.set_body"] := by
      have all : ∀ name ∈ defaultTools.map ToolSpec.name, rendererName name ∈ demanding →
          name ≠ "robot.get_battery" → name ≠ "memory.store_place" →
          name ∈ ["robot.get_status", "robot.get_temperature", "diagnostics.summary", "robot.explain",
            "perception.describe_scene", "navigation.list_places", "help", "inspect.named_target",
            "system.set_body"] := by decide +kernel
      exact all kind listed plain battery place
    simp only [List.mem_cons, List.not_mem_nil, or_false] at named
    rcases named with rfl | rfl | rfl | rfl | rfl | rfl | rfl | rfl | rfl
    · exact told_of (report_status rfl) ⟨_, rfl⟩
    · exact told_of (report_temperature rfl) ⟨_, rfl⟩
    · exact told_of (report_diagnostics rfl) ⟨_, rfl⟩
    · exact told_of (report_explain rfl) ⟨_, rfl⟩
    · exact told_of (report_scene rfl) ⟨_, rfl⟩
    · exact told_of (report_places rfl) ⟨_, rfl⟩
    · exact told_of (report_help rfl) ⟨_, rfl⟩
    · exact (told_inspect rfl).mpr ⟨_, rfl⟩
    · exact told_selected rfl rfl
  · exact told_plain kind rfl plain

theorem untold_battery (error : String) : ¬ Told text p (failed "robot.get_battery" error) := by
  rw [told_by_report_iff, report_battery rfl]
  rintro ⟨said, told⟩
  cases told

theorem untold_place (error : String) : ¬ Told text p (failed "memory.store_place" error) := by
  rw [told_storePlace rfl]
  rintro ⟨said, told⟩
  cases told

/-! Places. -/

/-- The place has a name, and its coordinates are numbers. -/
structure Storable (text : PyText) (here : Pose) (arguments : Items) : Prop where
  named : ((PyVal.lookup "name" arguments).getD .none).truthy = true
  abscissa : ∃ x, text.float ((PyVal.lookup "x" arguments).getD (.float here.x)) = .ok x
  ordinate : ∃ y, text.float ((PyVal.lookup "y" arguments).getD (.float here.y)) = .ok y

/-- The result of a handler, a failure if it raises. -/
def settled (kind : String) : Except Exn TaskResult → TaskResult
  | .ok result => result
  | .error e => failed kind e.describe

/-- The note of a place is no safety rule, so memory keeps it. -/
private theorem remember_place (laws : text.Lawful) (said : String) (m : Memory.MemoryStore) :
    ∃ entry, (Memory.remember text (.str said) "place" .none m).1 = .ok entry := by
  have category : text.lower "place" = "place" := by
    refine laws.lower_plain "place" ?_
    decide
  have entry : Memory.newEntry text (.str said) "place" .none =
      .ok { text := text.strip said, category := "place", info := .dict [] } := by
    unfold Memory.newEntry
    dsimp only
    rw [category]
    rfl
  unfold Memory.remember
  rw [bind_ok (t := m) (by rw [ofExcept_run, entry])]
  exact ⟨_, rfl⟩

/-- A place that can be stored is told of, and no other is. -/
theorem storePlace_told (laws : e.text.Lawful) (st : Stores) :
    Told e.text p (settled "memory.store_place" (hStorePlace e b arguments st).1) ↔
      Storable e.text b.pose arguments := by
  constructor
  · intro told
    rcases returned : (hStorePlace e b arguments st).1 with error | result
    · rw [returned] at told
      exact absurd told (untold_place _)
    rw [returned] at told
    unfold hStorePlace at returned
    dsimp only at returned
    split at returned
    case isTrue unnamed =>
      obtain rfl := Except.ok.inj returned
      exact absurd told (untold_place _)
    case isFalse named =>
      rw [Bool.not_eq_true', Bool.not_eq_false] at named
      obtain ⟨x, abscissa, returned⟩ := bind_returns_iff.mp returned
      obtain ⟨y, ordinate, -⟩ := bind_returns_iff.mp returned
      exact ⟨named, ⟨x, abscissa⟩, ⟨y, ordinate⟩⟩
  · rintro ⟨named, ⟨x, abscissa⟩, ⟨y, ordinate⟩⟩
    have stored : (hStorePlace e b arguments st).1 = .ok { ok := true, kind := "memory.store_place", data :=
        [(.str "place", (PyVal.lookup "name" arguments).getD .none), (.str "x", .float x),
          (.str "y", .float y)] } := by
      unfold hStorePlace
      dsimp only
      split
      case isTrue unnamed =>
        rw [Bool.not_eq_true'] at unnamed
        exact absurd (unnamed.symm.trans named) (by decide)
      case isFalse =>
        refine bind_returns_iff.mpr ⟨x, abscissa, bind_returns_iff.mpr ⟨y, ordinate, ?_⟩⟩
        refine bind_returns_iff.mpr ⟨(), rfl, bind_returns_iff.mpr ?_⟩
        obtain ⟨entry, kept⟩ := remember_place laws _ _
        exact ⟨entry, kept, rfl⟩
    rw [stored, settled]
    exact (told_storePlace rfl).mpr ⟨_, rfl⟩

end DroidOs.Language.Rendering
