import Patchwork.Proofs.Document.InPlace
import Patchwork.Proofs.FieldPath.Join

/-!
# Where a reading fails

A reading that fails names a path.  That path is written out of the segments that were followed so
far, and read again it leads to the same place.

* `Value.getAt_join` — a path that was written is followed along its segments.
* `Value.FirstUnread` — how far a path can be read.
* `Value.Lacks`, `Value.Misfits` — the two ways in which a node has no child for a segment.
* `Value.getAt_blames` — a failed reading names the first place that cannot be read, if something is
  missing there, and else the node before it, which is of the wrong kind.
-/

set_option autoImplicit false

namespace Patchwork

theorem FieldPath.Addressable.of_prefix {p segments : FieldPath} (h : Addressable segments)
    (hp : p <+: segments) (hne : p ≠ []) : Addressable p :=
  ⟨hne, fun s hs => h.2 s (hp.subset hs)⟩

namespace Value

open FieldPath (join)

variable {document node : Value} {segments p q : FieldPath} {s : Segment} {e : PathError}

/-- A path that was written is followed along its segments. -/
theorem getAt_join (h : FieldPath.Addressable segments) (document : Value) :
    document.getAt (join segments) = read segments document :=
  getAt_eq h.parse_join

theorem exists_reach?_of_prefix (h : reach? p document = some node) (hq : q <+: p) :
    ∃ c, reach? q document = some c := by
  obtain ⟨more, rfl⟩ := hq
  rw [reach?_append] at h
  obtain ⟨c, hc, -⟩ := Option.bind_eq_some_iff.1 h
  exact ⟨c, hc⟩

/-! ## Nodes without a child -/

/-- The node is a container of the kind that the segment goes into, but has no such child. -/
inductive Lacks : Value → Segment → Prop where
  | key {entries : List (Value × Value)} {name : Text} (h : lookup name entries = none) :
      Lacks (.map entries) (.field name)
  | position {items : List Value} {i : Nat} (h : items.length ≤ i) :
      Lacks (.list items) (.index i)

/-- The node is no container of the kind that the segment goes into. -/
inductive Misfits : Value → Segment → Prop where
  | key {node : Value} {name : Text} (h : ∀ entries, node ≠ .map entries) :
      Misfits node (.field name)
  | position {node : Value} {i : Nat} (h : ∀ items, node ≠ .list items) : Misfits node (.index i)

theorem Stuck.blames {trail : FieldPath} (h : Stuck trail node s e) :
    (e.isNotFound = true ∧ e.path = join (trail ++ [s]) ∧ (node = .null ∨ node.Lacks s)) ∨
      (e.isNotFound = false ∧ e.limit? = none ∧ e.path = join trail ∧ node ≠ .null ∧
        node.Misfits s) := by
  cases h with
  | null s => exact .inl ⟨rfl, rfl, .inl rfl⟩
  | field hname => exact .inl ⟨rfl, rfl, .inr (.key hname)⟩
  | index hi => exact .inl ⟨rfl, rfl, .inr (.position hi)⟩
  | notArray hnull hlist => exact .inr ⟨rfl, rfl, rfl, hnull, .position hlist⟩
  | notObject hnull hmap => exact .inr ⟨rfl, rfl, rfl, hnull, .key hmap⟩

/-! ## The place that is named -/

/-- The document can be read along `p`, and no further: the shortest part from the start of the path
that cannot be read is `p` and then `s`. -/
structure FirstUnread (document : Value) (segments p : FieldPath) (s : Segment) : Prop where
  initial : p ++ [s] <+: segments
  reads : ∀ q, q ≠ [] → q <+: p → ∃ v, document.getAt (join q) = .ok v
  fails : ∀ v, document.getAt (join (p ++ [s])) ≠ .ok v

/-- A reading that fails fails in the same way when its path is cut behind the step that cannot be
taken. -/
theorem exists_firstUnread (h : FieldPath.Addressable segments)
    (he : read segments document = .error e) :
    ∃ p s node, FirstUnread document segments p s ∧ read p document = .ok node ∧
      Stuck p node s e ∧ document.getAt (join (p ++ [s])) = .error e := by
  obtain ⟨p, s, rest, node, rfl, hnode, hstuck⟩ := read_eq_error.1 he
  have hinitial : p ++ [s] <+: p ++ s :: rest := ⟨rest, by simp⟩
  have hcut : document.getAt (join (p ++ [s])) = .error e := by
    rw [getAt_join (h.of_prefix hinitial (by simp))]
    exact read_eq_error.2 ⟨p, s, [], node, rfl, hnode, hstuck⟩
  refine ⟨p, s, node, ⟨hinitial, fun q hne hq => ?_, fun v hv => ?_⟩, readFrom_eq_ok.2 hnode,
    hstuck,
    hcut⟩
  · obtain ⟨c, hc⟩ := exists_reach?_of_prefix hnode hq
    refine ⟨c, ?_⟩
    rw [getAt_join (h.of_prefix (hq.trans (List.prefix_append p _)) hne)]
    exact readFrom_eq_ok.2 hc
  · rw [hcut] at hv
    cases hv

/-- **A reading that fails names the exact place.**  All of the path can be read up to a node.  If
the node is null or lacks the child that comes next, nothing is found at the path of that child, and
reading this path again gives the same error.  Otherwise the node is of the wrong kind, and its path
is the one that is invalid. -/
theorem getAt_blames {entries : List (Value × Value)} {path : Text}
    (hpath : FieldPath.parse path = .ok segments)
    (h : (Value.map entries).getAt path = .error e) :
    let document := Value.map entries
    ∃ p s node, FirstUnread document segments p s ∧ read p document = .ok node ∧
      ((e.isNotFound = true ∧ e.path = join (p ++ [s]) ∧ (node = .null ∨ node.Lacks s) ∧
          document.getAt e.path = .error e) ∨
        (e.isNotFound = false ∧ e.limit? = none ∧ e.path = join p ∧ node ≠ .null ∧
          node.Misfits s)) := by
  intro document
  rw [getAt_eq hpath] at h
  obtain ⟨p, s, node, hfirst, hnode, hstuck, hcut⟩ :=
    exists_firstUnread (FieldPath.addressable_of_parse hpath) h
  refine ⟨p, s, node, hfirst, hnode, ?_⟩
  rcases hstuck.blames with ⟨hfound, hplace, hlacks⟩ | hkind
  · refine .inl ⟨hfound, hplace, hlacks, ?_⟩
    rw [hplace]
    exact hcut
  · exact .inr hkind

/-- Behind null under a key with a dot and in an array: the path that is named holds brackets for
the key, and reading it again gives the same error. -/
theorem getAt_blames_null :
    let document := Value.map [(.str "a", .map [(.str "b.c", .list [.int 1, .null])])]
    let path := "a.[b.c][01].x[3]"
    ∃ segments e, FieldPath.parse path = .ok segments ∧ document.getAt path = .error e ∧
      e.path = "a[b.c][1].x" ∧ document.getAt "a[b.c][1].x" = .error e := by
  intro document path
  have hpath : FieldPath.parse "a.[b.c][01].x[3]" =
      .ok [.field "a", .field "b.c", .index 1, .field "x", .index 3] := rfl
  have he : document.getAt "a.[b.c][01].x[3]" =
      .error (.noSuchField [.field "a", .field "b.c", .index 1, .field "x"]) := rfl
  have hplace : (PathError.noSuchField [.field "a", .field "b.c", .index 1, .field "x"]).path =
      "a[b.c][1].x" := by decide
  refine ⟨_, _, hpath, he, hplace, ?_⟩
  obtain ⟨p, s, node, -, -, ⟨-, -, -, hagain⟩ | ⟨hfound, -⟩⟩ := getAt_blames hpath he
  · rwa [hplace] at hagain
  · cases hfound

end Value
end Patchwork
