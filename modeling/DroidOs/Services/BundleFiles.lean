/- GID: DroidOs/Services/BundleFiles
   generality: I
   source: src/droidos/services/update.py
   digest: Which contents of a bundle file are accepted, and what a changed payload does to them. -/

import DroidOs.Lib.Json
import DroidOs.Services.Update

set_option autoImplicit false
set_option relaxedAutoImplicit false

namespace DroidOs.Services.BundleFiles

open DroidOs.Core.Values
open Update

/-! Reading the file. -/

/-- Why `json.loads` gives no value: a `JSONDecodeError`, or any other exception. -/
inductive LoadsError
  | decodeError (msg : String)
  | other (e : Exn)

/-- The standard library under `verify_bundle`. -/
structure Library where
  /-- `raw.decode("utf-8")`, or the text of its `UnicodeDecodeError`. -/
  decode : List UInt8 → Except String (List Char)
  loads : List Char → Except LoadsError PyVal
  /-- `json.dumps(payload, sort_keys=True)`. -/
  dumps : PyVal → String
  /-- `hashlib.sha256(…).hexdigest()`. -/
  sha256 : String → String

/-- The digest that a payload's checksum is compared with. -/
def Library.digest (lib : Library) (payload : PyVal) : String := "sha256:" ++ lib.sha256 (lib.dumps payload)

/-- What `verify_bundle` finds when it reads this content. -/
def Library.read (lib : Library) (content : List UInt8) : BundleFile :=
  match lib.decode content with
  | .error msg => .undecodable msg
  | .ok text =>
    match lib.loads text with
    | .error (.decodeError msg) => .undecodable msg
    | .error (.other e) => .raises e
    | .ok doc => .document doc

/-- `verify_bundle` of a file with this content. -/
def Library.verify (lib : Library) (content : List UInt8) : Except Exn (Bool × PyVal × String) :=
  verifyBundle lib.digest (lib.read content)

/-! Contents. -/

/-- The content is a JSON object with these entries. -/
def Library.Object (lib : Library) (content : List UInt8) (items : List (PyVal × PyVal)) : Prop :=
  lib.read content = .document (.dict items)

/-- The content is no text, no JSON text, or a JSON object. -/
def Library.Foreseen (lib : Library) (content : List UInt8) : Prop :=
  (∃ msg, lib.read content = .undecodable msg) ∨ ∃ items, lib.Object content items

def entry (key : String) (default : PyVal) (items : List (PyVal × PyVal)) : PyVal :=
  (PyVal.lookup key items).getD default

/-- An absent payload counts as an empty one. -/
def payloadOf (items : List (PyVal × PyVal)) : PyVal := entry "payload" (.dict []) items

def checksumOf (items : List (PyVal × PyVal)) : PyVal := entry "payload_checksum" .none items

/-- What an object must have to be installed. -/
structure Acceptable (digest : PyVal → String) (items : List (PyVal × PyVal)) : Prop where
  compatible : entry "compatible" .none items = .str "droidos"
  signed : (entry "signature" .none items).truthy = true
  intact : checksumOf items = .none ∨ checksumOf items = .str (digest (payloadOf items))

private theorem isKey_iff (key : String) (v : PyVal) : v.isKey key = true ↔ v = .str key := by
  cases v <;> simp [PyVal.isKey]

private theorem mismatches_iff (digest : String) (v : PyVal) :
    mismatches digest v = false ↔ v = .none ∨ v = .str digest := by
  cases v <;> simp [mismatches, PyVal.isKey]

/-- `verify_bundle` answers for every JSON object. -/
theorem verifyBundle_object (digest : PyVal → String) (items : List (PyVal × PyVal)) :
    ∃ accepted doc reason,
      verifyBundle digest (.document (.dict items)) = .ok (accepted, doc, reason) ∧
        (accepted = true ↔ Acceptable digest items) := by
  have runs : verifyBundle digest (.document (.dict items)) =
      if !(entry "compatible" .none items).isKey "droidos" then
        .ok (false, .dict [], "bundle is not compatible with DroidOS")
      else if mismatches (digest (payloadOf items)) (checksumOf items) then
        .ok (false, .dict items, "bundle checksum mismatch")
      else if !(entry "signature" .none items).truthy then
        .ok (false, .dict items, "bundle is not signed")
      else .ok (true, .dict items, "verified") := by
    simp only [verifyBundle, PyVal.get, bind, Except.bind, pure, Except.pure]
    rfl
  rw [runs]
  split_ifs with incompatible broken unsigned
  · refine ⟨_, _, _, rfl, fun same => absurd same Bool.false_ne_true, fun acceptable => ?_⟩
    rw [acceptable.compatible] at incompatible
    exact absurd incompatible (by decide)
  · refine ⟨_, _, _, rfl, fun same => absurd same Bool.false_ne_true, fun acceptable => ?_⟩
    rw [(mismatches_iff _ _).mpr acceptable.intact] at broken
    cases broken
  · refine ⟨_, _, _, rfl, fun same => absurd same Bool.false_ne_true, fun acceptable => ?_⟩
    rw [acceptable.signed] at unsigned
    cases unsigned
  · refine ⟨_, _, _, rfl, fun _ => ?_, fun _ => rfl⟩
    simp only [Bool.not_eq_true', Bool.not_eq_true, Bool.not_eq_false] at incompatible broken unsigned
    exact ⟨(isKey_iff _ _).mp incompatible, unsigned, (mismatches_iff _ _).mp broken⟩

variable (lib : Library)

def Library.Accepts (content : List UInt8) : Prop :=
  ∃ doc reason, lib.verify content = .ok (true, doc, reason)

private theorem accepts_object {content : List UInt8} {items : List (PyVal × PyVal)}
    (object : lib.Object content items) : lib.Accepts content ↔ Acceptable lib.digest items := by
  obtain ⟨accepted, doc, reason, runs, exactly⟩ := verifyBundle_object lib.digest items
  have run : lib.verify content = .ok (accepted, doc, reason) := by
    unfold Library.verify
    rw [object]
    exact runs
  rw [← exactly]
  constructor
  · rintro ⟨doc', reason', same⟩
    rw [run] at same
    cases same
    rfl
  · rintro rfl
    exact ⟨doc, reason, run⟩

/-- All but the payload is as before. -/
def PayloadReplaced (items items' : List (PyVal × PyVal)) : Prop :=
  ∀ key, key ≠ "payload" → PyVal.lookup key items' = PyVal.lookup key items

private theorem payload_replaced (front rest : List (PyVal × PyVal)) (payload payload' : PyVal) :
    PayloadReplaced (front ++ (.str "payload", payload) :: rest)
      (front ++ (.str "payload", payload') :: rest) := by
  intro key other
  have passed : (PyVal.str "payload").isKey key = false := by
    simpa [PyVal.isKey] using other.symm
  simp [PyVal.lookup, List.find?_append, passed]

/-- A foreseen content is answered, and accepted exactly when it is an object with what an
installation asks for; an accepted one that has a checksum is refused once its payload is
another one. -/
theorem verify_exactly :
    (∀ content, lib.Foreseen content →
      (∃ answer, lib.verify content = .ok answer) ∧
        (lib.Accepts content ↔
          ∃ items, lib.Object content items ∧ Acceptable lib.digest items)) ∧
      ∀ content content' items items', lib.Object content items → lib.Object content' items' →
        lib.Accepts content → checksumOf items ≠ .none → PayloadReplaced items items' →
          lib.digest (payloadOf items') ≠ lib.digest (payloadOf items) → ¬ lib.Accepts content' := by
  refine ⟨?_, ?_⟩
  · rintro content (⟨msg, undecodable⟩ | ⟨items, object⟩)
    · have refused : lib.verify content =
          .ok (false, .dict [], "bundle is not a valid DroidOS bundle: " ++ msg) := by
        unfold Library.verify
        rw [undecodable]
        rfl
      refine ⟨⟨_, refused⟩, ?_, ?_⟩
      · rintro ⟨doc, reason, accepted⟩
        rw [refused] at accepted
        exact nomatch accepted
      · rintro ⟨items, object, -⟩
        exact nomatch undecodable.symm.trans object
    · obtain ⟨accepted, doc, reason, runs, -⟩ := verifyBundle_object lib.digest items
      refine ⟨⟨(accepted, doc, reason), ?_⟩, ?_⟩
      · unfold Library.verify
        rw [object]
        exact runs
      · rw [accepts_object lib object]
        constructor
        · intro acceptable
          exact ⟨items, object, acceptable⟩
        · rintro ⟨items', object', acceptable⟩
          cases object.symm.trans object'
          exact acceptable
  · intro content content' items items' object object' accepts checked replaced differs accepts'
    have before := ((accepts_object lib object).mp accepts).intact.resolve_left checked
    have same : checksumOf items' = checksumOf items := by
      unfold checksumOf entry
      rw [replaced "payload_checksum" (by decide)]
    have after := ((accepts_object lib object').mp accepts').intact
    rw [same, before] at after
    have digests : lib.digest (payloadOf items) = lib.digest (payloadOf items') := by
      simpa using after
    exact differs digests.symm

/-! A library that answers as the real one does on the contents below. -/

private def textOf (s : Lib.Json.Text) : String :=
  String.ofList (s.filterMap fun
    | .char c => some c
    | .surrogate _ => none)

open DroidOs.Lib.Json (Value Text) in
mutual

private def pyOf : Value PyVal → PyVal
  | .null => .none
  | .bool b => .bool b
  | .num x => x
  | .str s => .str (textOf s)
  | .arr items => .list (pyItems items)
  | .obj members => .dict (pyMembers members)

private def pyItems : List (Value PyVal) → List PyVal
  | [] => []
  | v :: rest => pyOf v :: pyItems rest

private def pyMembers : List (Text × Value PyVal) → List (PyVal × PyVal)
  | [] => []
  | (key, v) :: rest => (.str (textOf key), pyOf v) :: pyMembers rest

end

private def plainDumps : PyVal → String
  | .dict [(.str key, .str v)] => "\x7b\"" ++ key ++ "\": \"" ++ v ++ "\"\x7d"
  | _ => "\x7b\x7d"

private def plainSha256 (text : String) : String :=
  if text = "\x7b\"a\": \"b\"\x7d" then
    "e47aeff37f2bf09285444b8be9fed1f517d9f8de79d2dd63dd22bd1990716f53"
  else if text = "\x7b\"a\": \"c\"\x7d" then
    "f8855a02bdea19f322b6f59698ac95c43c816ca0a3cd43dcc2f96bd2de55c6f2"
  else "44136fa355b3678a1146ad16f7e8649e94fb4fc21fe77e8310c060f61caaff8a"

def plainLibrary : Library where
  decode content := .ok (content.map fun byte => Char.ofNat byte.toNat)
  loads text :=
    match Lib.Json.loads (fun _ => none) (Lib.Json.Text.ofChars text) with
    | .ok v => .ok (pyOf v)
    | .error .unconverted => .error (.other ⟨.valueError, "Exceeds the limit for integer string conversion"⟩)
    | .error _ => .error (.decodeError "")
  dumps := plainDumps
  sha256 := plainSha256

private def bytes (text : String) : List UInt8 := text.toByteArray.data.toList

/-- A bundle with a checksum, whose payload maps a to `value`. -/
def checkedBundle (value : String) : List UInt8 :=
  bytes "\x7b\"compatible\":\"droidos\",\"payload\":\x7b\"a\":\"" ++ bytes value ++
    bytes "\"\x7d,\"payload_checksum\":\"sha256:" ++
    bytes "e47aeff37f2bf09285444b8be9fed1f517d9f8de79d2dd63dd22bd1990716f53" ++
    bytes "\",\"signature\":\"s\"\x7d"

def checkedItems (value : String) : List (PyVal × PyVal) :=
  [(.str "compatible", .str "droidos"), (.str "payload", .dict [(.str "a", .str value)]),
    (.str "payload_checksum",
      .str "sha256:e47aeff37f2bf09285444b8be9fed1f517d9f8de79d2dd63dd22bd1990716f53"),
    (.str "signature", .str "s")]

set_option maxRecDepth 10000 in
private theorem checked_object : plainLibrary.Object (checkedBundle "b") (checkedItems "b") := rfl

set_option maxRecDepth 10000 in
private theorem changed_object : plainLibrary.Object (checkedBundle "c") (checkedItems "c") := rfl

theorem verify_exactly_checked :
    plainLibrary.Accepts (checkedBundle "b") ∧ ¬ plainLibrary.Accepts (checkedBundle "c") := by
  obtain ⟨answers, tampered⟩ := verify_exactly plainLibrary
  have acceptable : Acceptable plainLibrary.digest (checkedItems "b") :=
    ⟨rfl, by decide, .inr (congrArg PyVal.str (by decide))⟩
  have accepts := (answers _ (.inr ⟨_, checked_object⟩)).2.mpr ⟨_, checked_object, acceptable⟩
  exact ⟨accepts, tampered _ _ _ _ checked_object changed_object accepts nofun
    (payload_replaced [(.str "compatible", .str "droidos")] _ _ _) (by decide)⟩

/-- A bundle without a checksum, with the payload that is given. -/
def uncheckedBundle (payload : String) : List UInt8 :=
  bytes "\x7b\"compatible\":\"droidos\",\"payload\":" ++ bytes payload ++
    bytes ",\"signature\":\"s\"\x7d"

def uncheckedItems (payload : List (PyVal × PyVal)) : List (PyVal × PyVal) :=
  [(.str "compatible", .str "droidos"), (.str "payload", .dict payload),
    (.str "signature", .str "s")]

set_option maxRecDepth 10000 in
/-- Without a checksum a bundle is accepted, and stays so whatever its payload becomes. -/
theorem unchecked_accepted :
    plainLibrary.Object (uncheckedBundle "\x7b\x7d") (uncheckedItems []) ∧
      plainLibrary.Object (uncheckedBundle "\x7b\"a\":\"b\"\x7d")
        (uncheckedItems [(.str "a", .str "b")]) ∧
        plainLibrary.Accepts (uncheckedBundle "\x7b\x7d") ∧
          checksumOf (uncheckedItems []) ≠
            .str (plainLibrary.digest (payloadOf (uncheckedItems []))) ∧
            PayloadReplaced (uncheckedItems []) (uncheckedItems [(.str "a", .str "b")]) ∧
              plainLibrary.digest (payloadOf (uncheckedItems [(.str "a", .str "b")])) ≠
                plainLibrary.digest (payloadOf (uncheckedItems [])) ∧
                plainLibrary.Accepts (uncheckedBundle "\x7b\"a\":\"b\"\x7d") := by
  exact ⟨rfl, rfl, ⟨_, _, rfl⟩, nofun,
    payload_replaced [(.str "compatible", .str "droidos")] _ _ _, by decide, ⟨_, _, rfl⟩⟩

end DroidOs.Services.BundleFiles
