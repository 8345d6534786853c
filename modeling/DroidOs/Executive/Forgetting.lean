/- GID: DroidOs/Executive/Forgetting
   generality: I
   source: src/droidos/executive/executive.py, src/droidos/services/memory.py, src/droidos/language/offline_parser.py
   digest: Which entries a request to forget removes, from a typed text to the store. -/

import DroidOs.Executive.Tools
import DroidOs.Language.Rules

set_option autoImplicit false
set_option relaxedAutoImplicit false

namespace DroidOs.Executive.Forgetting

open DroidOs.Lib.Procedure
open DroidOs.Core.Values DroidOs.Core.Context
open DroidOs.Body.Package
open DroidOs.Backends.Simulation
open DroidOs.Services DroidOs.Services.Memory
open DroidOs.Language.OfflineParser DroidOs.Language.Rules
open Tools

/-- The marks that a slot may end in. -/
def punctuation : List Char := " .?!,".toList

/-- A text of blanks and punctuation only, or an empty one. -/
def namesNothing (text : PyText) (s : String) : Bool :=
  s.toList.all fun c => text.isSpace c || decide (c ∈ punctuation)

/-- The query of a request, empty where it has none. -/
def queryOf (arguments : Items) : PyVal := (PyVal.lookup "query" arguments).getD (.str "")

/-- What the query is compared with, whatever the case of its letters. -/
def needle (text : PyText) (s : String) : String := text.lower (text.strip s)

/-- The entries that a request is to leave: all if it names nothing, and else those that do not
contain its query. -/
def remaining (text : PyText) (asked : PyVal) (entries : List Entry) : List Entry :=
  match asked with
  | .str s =>
    if namesNothing text s then entries else entries.filter fun e => !e.contains text (needle text s)
  | _ => entries

/-! What a slot is cleaned to. -/

variable {text : PyText}

private theorem mem_strip {s : String} {c : Char} (inside : c ∈ (text.strip s).toList) : c ∈ s.toList := by
  simp only [PyText.strip, String.toList_ofList, List.mem_reverse] at inside
  have reversed := (List.dropWhile_suffix _).subset inside
  exact (List.dropWhile_suffix _).subset (List.mem_reverse.mp reversed)

private theorem mem_rstrip {chars s : String} {c : Char} (inside : c ∈ (rstrip chars s).toList) : c ∈ s.toList := by
  simp only [rstrip, String.toList_ofList, List.mem_reverse] at inside
  exact List.mem_reverse.mp ((List.dropWhile_suffix _).subset inside)

private theorem mem_dropArticle {articles : List String} {s : String} {c : Char}
    (inside : c ∈ (dropArticle text s articles).toList) : c ∈ s.toList := by
  induction articles with
  | nil => exact inside
  | cons article articles ih =>
    unfold dropArticle at inside
    split at inside
    · rw [String.toList_ofList] at inside
      exact List.mem_of_mem_drop inside
    · exact ih inside

/-- Cleaning takes characters away and adds none. -/
theorem mem_clean {s : String} {c : Char} (inside : c ∈ (clean text s).toList) : c ∈ s.toList :=
  mem_strip (mem_rstrip (mem_strip (mem_dropArticle inside)))

/-- An object that names nothing is cleaned to a query that names nothing. -/
theorem clean_namesNothing {object : String} (nothing : namesNothing text object = true) :
    namesNothing text (clean text object) = true :=
  List.all_eq_true.mpr fun c inside => List.all_eq_true.mp nothing c (mem_clean inside)

/-! What is removed. -/

variable {e : Equipment} {b : SimulationBackend}

private theorem forget_entries (asked : PyVal) (m : MemoryStore) : (forget text asked m).2.entries =
    match searched text asked with
    | .ok q => m.entries.filter fun e => !e.contains text q
    | .error _ => m.entries := by
  unfold forget
  rcases searched text asked with exc | q
  · rfl
  · simp only [bind_run, ofExcept_run, reads_run, modify_run]
    split <;> rfl

/-- What the handler does with the places afterwards leaves the entries as they are. -/
theorem tool_forget_entries (arguments : Items) (st : Stores) :
    (tool e b "memory.forget" arguments st).2.memory.entries =
      (forget e.text (queryOf arguments) st.memory).2.entries := by
  change (hForget e arguments st).2.memory.entries = _
  have kept : (onMemory (forget e.text (queryOf arguments)) st).2.memory =
      (forget e.text (queryOf arguments) st.memory).2 := rfl
  rw [← kept]
  change ((onMemory (forget e.text (queryOf arguments)) >>= fun removed =>
    onWorld (WorldModel.removePlace e.text (queryOf arguments)) >>= fun place => _) st).2.memory.entries = _
  rcases ran : onMemory (forget e.text (queryOf arguments)) st with ⟨exc | removed, after⟩
  · rw [bind_error ran]
  · rw [bind_ok ran]
    rcases cleared : onWorld (WorldModel.removePlace e.text (queryOf arguments)) after with ⟨exc | place, last⟩
    · have same : last.memory = after.memory := congrArg (fun r => r.2.memory) cleared.symm
      rw [bind_error cleared, same]
    · have same : last.memory = after.memory := congrArg (fun r => r.2.memory) cleared.symm
      rw [bind_ok cleared]
      exact congrArg MemoryStore.entries same

def shelfBody : LoadedBody where
  manifest := { bodyId := "r2-mk1", name := "R2", revision := "1", locomotionType := "differential" }

def shelfEquipment : Equipment where
  text := .ascii
  body := shelfBody
  manager := { available := [], load := fun _ _ => .ok () }
  bundles := fun _ => .unreadable "no such file"
  digest := fun _ => ""
  diagnose := fun _ _ => .ok []

def shelfStores : Stores where
  memory := { entries := [⟨"the shelf holds cables", "fact", .none⟩, ⟨"Ada likes tea", "fact", .none⟩] }

end DroidOs.Executive.Forgetting
