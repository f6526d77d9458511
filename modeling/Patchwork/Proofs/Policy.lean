import Patchwork.Proofs.Patch.Updates

/-!
# The gate and the typed Object

A name of a policy reaches the gate in two ways: as it stands, or as the policy of an Object that
was read out of a document with that name.  The two give the same decisions, for as long as the
Object is written and read again and its references are applied, unless the name is empty: the
reader takes an empty name for an absent one, and the gate takes it for one that it does not know.

* `Object.Processed` — the Objects that come of one by writing and reading it again and by applying
  its references.
* `ManagementPolicy.ofText_eq_unknown` — the gate knows the names of the known policies only.
* `ObjectSpec.ofValue_insert_policy` — any name can be given as the policy of a spec that is read.
* `Object.allows_iff_name_not_empty` — the gate decides about the Object as about the name.
-/

set_option autoImplicit false

namespace Patchwork

open Value

/-! ## What is made of an Object -/

namespace Object

/-- What an Object becomes when it is written as a document and read again, and when its references
are applied, any number of times and whatever their sources are. -/
inductive Processed [Machine] (x : Object) : Object → Prop where
  | start : Processed x x
  | reread {y z : Object} (hy : Processed x y) (h : ofValue y.toValue = .ok z) : Processed x z
  | patched {y z : Object} {lookup : SourceLookup} (hy : Processed x y)
      (h : y.applyPatches lookup = .ok z) : Processed x z

theorem Processed.tracks [Machine] {document : Value} {x y : Object} (h : Processed x y)
    (hx : ofValue document = .ok x) : x.Tracks y (.map y.spec.forProvider.manifest) := by
  induction h with
  | start => exact ⟨rfl, rfl, document, hx⟩
  | @reread y z _ hz ih =>
    obtain ⟨written, hwritten⟩ := ih.readable
    rw [ofValue_toValue hwritten, Except.ok.injEq] at hz
    exact hz ▸ ih
  | @patched y z lookup _ hz ih =>
    obtain ⟨written, hwritten⟩ := ih.readable
    have hrun := applyPatches_tracks hwritten lookup
    rw [hz] at hrun
    obtain ⟨_, -, hstep⟩ := hrun.exists_ok_right
    refine ⟨rfl, hstep.frame.trans ?_, hstep.readable⟩
    rw [ih.frame]
    rfl

theorem Processed.managementPolicy_eq [Machine] {document : Value} {x y : Object}
    (h : Processed x y)
    (hx : ofValue document = .ok x) : y.spec.managementPolicy = x.spec.managementPolicy := by
  rw [(h.tracks hx).frame]
  rfl

/-- The gate lets the action that a value names happen under the policy of the Object. -/
def allows (o : Object) (action : Value) : Bool :=
  (PolicyDecision.make o.spec.managementPolicy (ObjectAction.ofValue? action)).allowed

end Object

/-! ## Names of policies -/

namespace ManagementPolicy

/-- A name that no known policy has is that of no policy. -/
theorem ofText_eq_unknown {name : Text} (h : ∀ p ∈ known, p.text ≠ name) :
    ofText name = .unknown := by
  have hnone : (known.find? fun p => p.text = name) = none := by
    rw [List.find?_eq_none]
    intro p hp
    simpa using h p hp
  rw [ofText, hnone, Option.getD_none]

theorem not_allowed_unknown (action : Option ObjectAction) :
    (PolicyDecision.make .unknown action).allowed = false := by
  cases action with
  | none => rfl
  | some a => cases a <;> rfl

end ManagementPolicy

theorem ObjectSpec.policyOf_of_ne_empty {name : Text} (h : name ≠ "") :
    policyOf (some name) = .ofText name := by
  rw [policyOf, if_neg]
  rwa [Text.isEmpty_iff]

/-! ## A name in a document -/

def policyPath : FieldPath := [.field "spec", .field "managementPolicy"]

/-- **Any name can be given as the policy of a spec that is read**, and changes nothing else. -/
theorem ObjectSpec.ofValue_insert_policy {location : Text} {entries : List (Value × Value)}
    {s : ObjectSpec} (h : ofValue location (.map entries) = .ok s) (name : Text) :
    ofValue location (.map (insert "managementPolicy" (.str name) entries)) =
      .ok { s with managementPolicy := policyOf (some name) } := by
  simp only [ofValue, expect_object, ok_bind, bind_eq_ok] at h
  obtain ⟨_, hreferences, _, -, _, hdeletion, _, hdeletionPolicy, _, hproviderRef, _, hsecretRef, _,
    hforProvider, _, hitems, _, hproviderConfig, _, hsecret, hs⟩ := h
  have hname : Value.optional (insert "managementPolicy" (.str name) entries) "managementPolicy"
      .string location = .ok (some name) :=
    optional_of_lookup Shape.reads_string (lookup_insert_self _ _ _) location
  simp (disch := decide) only [ofValue, expect_object, ok_bind, optional_insert_of_ne,
    optionalWith_insert_of_ne, hname, hreferences, hdeletion, hdeletionPolicy, hproviderRef,
    hsecretRef, hforProvider, hitems, hproviderConfig, hsecret]
  cases hs
  rfl

namespace Object

variable {other document : Value} {o : Object} {name : Text}

/-- A document that is read is read with any name of a policy. -/
theorem ofValue_update?_policy [Machine] (h : ofValue other = .ok o)
    (hgiven : Value.update? policyPath (.str name) other = some document) :
    ofValue document =
      .ok { o with
        spec := { o.spec with managementPolicy := ObjectSpec.policyOf (some name) } } := by
  obtain ⟨root, spec, rfl, hspec, hread⟩ := exists_spec h
  have hdocument : document =
      .map (insert "spec" (.map (insert "managementPolicy" (.str name) spec)) root) := by
    obtain ⟨-, item, hitem, rfl⟩ := update?_cons.1 hgiven
    obtain ⟨-, _, ⟨⟩, rfl⟩ := update?_cons.1 hitem
    have hchild : (child? (.field "spec") (.map root)).getD .null = field root "spec" := rfl
    rw [hchild]
    rcases hspec with hmap | ⟨hnull, rfl⟩
    · rw [hmap]
      rfl
    · rw [hnull]
      rfl
  rw [hdocument, ofValue_insert_spec h, ObjectSpec.ofValue_insert_policy hread, map_ok]

/-- **The gate decides about an Object as about the name of its policy, unless that name is empty.**
A document that is read stays one with any name for a policy.  Whatever then is made of the Object,
it can be read again, and the gate allows it what it allows the name itself, for every name but the
empty one.  So a name that no known policy has never allows anything, unless it is empty. -/
theorem allows_iff_name_not_empty [Machine] (h : ofValue other = .ok o)
    (hgiven : Value.update? policyPath (.str name) other = some document) :
    ∃ x, ofValue document = .ok x ∧ ∀ y, Processed x y →
      ofValue y.toValue = .ok y ∧
      ((∀ action, y.allows action = (PolicyDecision.evaluate (.str name) action).allowed) ↔
        name ≠ "") ∧
      (name ≠ "" → (∀ p ∈ ManagementPolicy.known, p.text ≠ name) →
        ∀ action, y.allows action = false) := by
  have hx := ofValue_update?_policy h hgiven
  refine ⟨_, hx, fun y hy => ?_⟩
  obtain ⟨written, hwritten⟩ := (hy.tracks hx).readable
  have hpolicy : y.spec.managementPolicy = ObjectSpec.policyOf (some name) :=
    hy.managementPolicy_eq hx
  have hsame : name ≠ "" → ∀ action,
      y.allows action = (PolicyDecision.evaluate (.str name) action).allowed := by
    intro hne action
    rw [allows, hpolicy, ObjectSpec.policyOf_of_ne_empty hne]
    rfl
  refine ⟨ofValue_toValue hwritten, ⟨?_, hsame⟩, ?_⟩
  · -- The reader takes the empty name for the default policy, the gate for one it does not know.
    rintro hall rfl
    have hcreate : y.allows (.str ObjectAction.create.text) = false := hall _
    rw [allows, hpolicy] at hcreate
    cases hcreate
  · intro hne hknown action
    rw [hsame hne action, PolicyDecision.evaluate, ManagementPolicy.ofValue,
      ManagementPolicy.ofText_eq_unknown hknown, ManagementPolicy.not_allowed_unknown]

open Machine in
/-- An Object with a policy that is not known may do nothing, also after it was written, read again
and patched. -/
theorem allows_iff_name_not_empty_unknown :
    let source : PatchesFrom := { name := "source", fieldPath := some "port" }
    let r : Reference := { patchesFrom := some source }
    let document := fun policy => Value.map [(.str "spec", .map [(.str "managementPolicy", policy),
      (.str "references", .list [r.toValue])])]
    let x : Object := { spec := { managementPolicy := .unknown, references := [r] } }
    let y := x.withManifest [(.str "port", .int 80)]
    ofValue (document (.str "Never")) = .ok x ∧ x.Processed y ∧
      y.allows (.str "Create") = false := by
  intro source r document x y
  have hother : ofValue (document .null) = .ok { spec := { references := [r] } } := rfl
  have hgiven : Value.update? policyPath (.str "Never") (document .null) =
      some (document (.str "Never")) := rfl
  obtain ⟨x', hx, hprocessed⟩ := allows_iff_name_not_empty hother hgiven
  obtain rfl : x = x' := Except.ok.inj hx
  have hupdate : r.update? (fun _ => .ok (.document (.map [(.str "port", .int 80)]))) =
      some ([.field "port"], .int 80) :=
    Reference.update?_eq_some.2 ⟨_, _, "port", _, rfl, rfl, rfl, rfl, rfl⟩
  have hpatched := applyPatches_of_updates hx [_] (congrArg (fun a => [a]) hupdate) rfl
  have hy : x.Processed y := .patched (.reread .start rfl) hpatched
  obtain ⟨-, -, hdenied⟩ := hprocessed y hy
  exact ⟨hx, hy, hdenied (by decide) (by decide) _⟩

/-- An empty name in a document allows what the name itself does not. -/
theorem allows_of_empty_name :
    let document := Value.map [
      (.str "apiVersion", .str ApiGroup.apiVersion), (.str "kind", .str ApiGroup.kind),
      (.str "metadata", .map [(.str "name", .str "settings")]),
      (.str "spec", .map [(.str "managementPolicy", .str ""),
        (.str "forProvider", .map [(.str "manifest", .map [])])])]
    ∃ x, ofValue document = .ok x ∧ ∀ action ∈ ObjectAction.all,
      x.allows (.str action.text) = true ∧
        (PolicyDecision.evaluate (.str "") (.str action.text)).allowed = false := by
  intro document
  refine ⟨{ metadata := [(.str "name", .str "settings")] }, rfl, ?_⟩
  decide

end Object
end Patchwork
