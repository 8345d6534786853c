/- GID: DroidOs/System/PackageLaw
   generality: I
   source: src/droidos/body/loader.py, src/droidos/services/supervisor.py
   digest: From the documents of a body package to whether a droid with it can ever come to move. -/

import DroidOs.Body.Loader
import DroidOs.System.RejectedBodies

set_option autoImplicit false
set_option relaxedAutoImplicit false

namespace DroidOs.System.PackageLaw

open DroidOs.Lib.Procedure
open DroidOs.Core.Values DroidOs.Core.Context
open DroidOs.Body.Loader
open DroidOs.Util.Characters (YamlText)
open DroidOs.Services.SafetyGateway
open RejectedBodies

/-- A body is kept from moving exactly when the supervisor counts an issue of it, or cannot assess it. -/
theorem inhibited_counted (text : PyText) (body : Body.Package.LoadedBody) : Inhibited text body ↔ Counted text body := by
  refine ⟨fun inhibited => ?_, inhibited_of_counted⟩
  by_contra uncounted
  obtain ⟨sound, assessable⟩ := not_or.mp uncounted
  rcases limit : body.limits.batteryMotionMinimum text with e | minimum
  · exact assessable ⟨e, limit⟩
  have parked := booted_parked inhibited (spotless text body minimum) rfl rfl 0 .missing ()
  have loads (rt : Runtime Unit) (missing : rt.latch = .missing) :
      loadLatch (spotless text body minimum) rt = (.ok (), rt) := by
    rcases loadLatch_cases (spotless text body minimum) rt with ⟨-, undecodable | ⟨v, e, document, -⟩⟩ |
      ⟨v, flag, reason, document, -⟩ | ⟨run, -⟩
    · rw [missing] at undecodable
      cases undecodable
    · rw [missing] at document
      cases document
    · rw [missing] at document
      cases document
    · exact run
  exact parked (spotless_boots loads (not_not.mp sound) limit)

/-- A fault of the package that the supervisor counts. -/
def Disabling (text : PyText) (loaded : LoadedBody) : Prop :=
  ∃ issue, Fault text loaded issue ∧ Body.Package.LoadedBody.isFatal issue = true

/-- Of a package that is loaded, the body moves in one of the ways there are and the issues are what is wrong with
it. If its names are texts, a droid with this body is kept from moving in every run exactly when something is wrong
that counts, or its battery limit is no number. -/
theorem package_law {text : YamlText} {bodies : Bodies} {bodyId backendKind : PyVal} {loaded : LoadedBody}
    (loads : load text bodies bodyId backendKind = .ok loaded) :
    (∃ kind ∈ validLocomotion, loaded.manifest.locomotionType = .str kind) ∧
      (∀ issue, issue ∈ loaded.issues ↔ Fault text.toPyText loaded issue) ∧
      ∀ body, SameBody loaded body → body.staticValidate text.toPyText = .ok body.issues ∧
        (Inhibited text.toPyText body ↔ Disabling text.toPyText loaded ∨
          ∃ e, loaded.limits.batteryMotionMinimum text.toPyText = .error e) := by
  refine ⟨load_locomotion loads, load_issues loads, fun body same => ⟨?_, ?_⟩⟩
  · rw [← same_validate same, ← same.issues]
    exact load_validated loads
  · have counted : body.fatalIssues ≠ [] ↔ Disabling text.toPyText loaded := by
      rw [Body.Package.LoadedBody.fatalIssues, Ne, List.filter_eq_nil_iff, ← same.issues]
      simp only [not_forall, not_not, exists_prop, load_issues loads]
      rfl
    rw [inhibited_counted, Counted, counted, same.limits]

/-! A package without the sensor it requires. -/

def blindManifest : List String := ["body_id: r5", "locomotion_type: biped", "required_sensors: [imu]"]

def blindBodies : Bodies where
  path id := "bodies/" ++ id
  package id := if id = "r5" then some fun name =>
    if name = "manifest.yaml" then some ("\n".intercalate blindManifest).toList else none else none

theorem blind_fault : ∃ loaded, load YamlText.ascii blindBodies (.str "r5") (.str "physical") = .ok loaded ∧
    Fault YamlText.ascii.toPyText loaded "required sensor 'imu' is not declared in sensors.yaml" ∧
    Fault YamlText.ascii.toPyText loaded "biped body has no gait_policy declared" := by
  have issues : (load YamlText.ascii blindBodies (.str "r5") (.str "physical")).toOption.map LoadedBody.issues =
      some ["required sensor 'imu' is not declared in sensors.yaml", "biped body has no gait_policy declared",
        Body.Package.LoadedBody.signatureIssue] := by decide +kernel
  rcases loads : load YamlText.ascii blindBodies (.str "r5") (.str "physical") with e | loaded
  · rw [loads] at issues
    cases issues
  · rw [loads] at issues
    have said : loaded.issues = _ := Option.some.inj issues
    have law := (package_law loads).2.1
    exact ⟨loaded, rfl, (law _).mp (by rw [said]; decide), (law _).mp (by rw [said]; decide)⟩

end DroidOs.System.PackageLaw
