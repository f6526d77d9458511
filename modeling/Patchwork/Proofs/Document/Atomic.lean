import Patchwork.Proofs.Document.InPlace
import Patchwork.Proofs.FieldPath

/-!
# Failing writes

A write in place that fails has changed nothing, unless it had created something before: then an
array could not grow, or the value to write could not be copied.  Both leave the nodes on the way
behind, and those are what a write that goes no further would have made.

* `Value.LeftAt` — what a walk has made of a node when it has come to the end of a path.
* `Value.overwriteFrom_growth`, `Value.approachFrom_left` — what is left behind when an array cannot
  grow, and when the walk stops at its last segment.
* `Value.overwriteCopyAt_atomic` — how a write of any value fails beside a reading of the same path,
  and what it leaves behind.
-/

set_option autoImplicit false

namespace Patchwork
namespace Value

variable {trail rest sub more : FieldPath} {s : Segment} {v node after : Value}

/-! ## What a walk leaves behind -/

/-- What a walk along `sub ++ more` has made of a node when it has come to the end of `sub`: the
node is as before if something was there, and else has an empty container for `more` there. -/
structure LeftAt [Machine] (trail sub more : FieldPath) (node after : Value) : Prop where
  unchanged : ∀ c, reach? sub node = some c → c ≠ .null → after = node
  created : (reach? sub node).getD .null = .null →
    writeFrom trail sub (orContainer more .null) node = .ok after

theorem LeftAt.nil [Machine] (hnode : node ≠ .null) : LeftAt trail [] more node node where
  unchanged _ _ _ := rfl
  created hnull := absurd hnull hnode

theorem eq_null_of_reach?_null {c : Value} (h : reach? sub .null = some c) : c = .null := by
  cases sub with
  | nil =>
    cases h
    rfl
  | cons s sub =>
    rw [reach?, child?_null] at h
    cases h

theorem orContainer_cons_append (s : Segment) (sub more : FieldPath) :
    orContainer (s :: sub ++ more) .null = orContainer (s :: sub) .null := by
  cases s <;> rfl

theorem writeFrom_orContainer_append [Machine] (sub more : FieldPath) :
    writeFrom trail sub v (orContainer (sub ++ more) .null) = writeFrom trail sub v .null := by
  cases sub with
  | nil => rfl
  | cons s sub => rw [orContainer_cons_append, writeFrom_orContainer]

theorem reach?_orContainer_cons (s : Segment) (sub path : FieldPath) :
    reach? (s :: sub) (orContainer path .null) = none := by
  cases path with
  | nil => cases s <;> rfl
  | cons t path => cases t <;> cases s <;> rfl

/-- What is left in the child that a step passes into tells what is left in the node. -/
theorem LeftAt.cons [Machine] {item : Value} {put : Value → Value} (hp : Passes trail s node put)
    (h : LeftAt (trail ++ [s]) sub more
      (orContainer (sub ++ more) ((child? s node).getD .null)) item) :
    LeftAt trail (s :: sub) more node (put item) := by
  by_cases hnull : (child? s node).getD .null = .null
  · -- Nothing was there, so the walk went on in a new container.
    rw [hnull] at h
    constructor
    · intro c hc hne
      rw [reach?] at hc
      obtain ⟨child, hchild, hc⟩ := Option.bind_eq_some_iff.1 hc
      rw [hchild, Option.getD_some] at hnull
      rw [hnull] at hc
      exact absurd (eq_null_of_reach?_null hc) hne
    · intro _
      have hitem : writeFrom (trail ++ [s]) sub (orContainer more .null) .null = .ok item := by
        cases sub with
        | nil =>
          by_cases hmore : orContainer more .null = .null
          · rw [List.nil_append, hmore] at h
            exact h.created rfl
          · rw [List.nil_append] at h
            rw [h.unchanged _ rfl hmore]
            rfl
        | cons t sub =>
          have hcreated := h.created (by rw [reach?_orContainer_cons]; rfl)
          rwa [writeFrom_orContainer_append] at hcreated
      rw [hp.write, hnull, hitem, map_ok]
  · obtain ⟨child, hchild⟩ := child?_of_ne_null hnull
    rw [orContainer_of_walkable (.inr hnull), hchild, Option.getD_some] at h
    have hreach : reach? (s :: sub) node = reach? sub child := by
      rw [reach?, hchild, Option.bind_some]
    constructor
    · intro c hc hne
      rw [hreach] at hc
      rw [h.unchanged c hc hne, hp.put_child child hchild]
    · intro hmissing
      rw [hreach] at hmissing
      rw [hp.write, hchild, Option.getD_some, h.created hmissing, map_ok]

/-! ## Arrays that cannot grow -/

/-- **When an array cannot grow**, the walk leaves that array as it was, or an empty one in the
place of nothing, with the nodes on the way to it. -/
theorem overwriteFrom_growth [Machine] {path place : FieldPath} {limit : Limit}
    (hnode : Walkable path node)
    (h : writeFrom trail path v node = .error (.tooLong place limit)) :
    ∃ sub i more, place = trail ++ sub ∧ path = sub ++ .index i :: more ∧
      LeftAt trail sub (.index i :: more) node (overwriteFrom trail v path node).node := by
  induction path generalizing trail node with
  | nil => cases h
  | cons s rest ih =>
    rcases passes_or_stops trail s hnode.ne_null with ⟨put, hp⟩ | ⟨e, hs⟩
    · rw [hp.write, map_eq_error, ← writeFrom_orContainer] at h
      obtain ⟨sub, i, more, rfl, rfl, hleft⟩ := ih (walkable_orContainer _ _) h
      refine ⟨s :: sub, i, more, by simp, rfl, ?_⟩
      rw [overwriteFrom, hp.step]
      exact hleft.cons hp
    · rw [hs.write] at h
      cases h
      obtain ⟨rfl, i, rfl⟩ := hs.growth place limit rfl
      refine ⟨[], i, rest, by simp, rfl, ?_⟩
      rw [overwriteFrom, hs.step]
      exact .nil hnode.ne_null

/-! ## Values that cannot be copied -/

theorem overwriteFrom_of_approachFrom_error [Machine] {path : FieldPath} {e : PathError}
    (hnode : Walkable path node) (h : (approachFrom trail path node).error = some e) :
    overwriteFrom trail v path node = approachFrom trail path node := by
  induction path generalizing trail node with
  | nil => cases h
  | cons s rest ih =>
    cases rest with
    | nil => cases h
    | cons t rest =>
      rcases passes_or_stops trail s hnode.ne_null with ⟨put, hp⟩ | ⟨e', hs⟩
      · rw [approachFrom, hp.step] at h
        rw [overwriteFrom, approachFrom, hp.step, hp.step, ih (walkable_orContainer _ _) h]
      · rw [overwriteFrom, approachFrom, hs.step, hs.step]

/-- A walk that comes to its last segment leaves the nodes on the way there. -/
theorem approachFrom_left [Machine] {init : FieldPath} {last : Segment}
    (hnode : Walkable (init ++ [last]) node)
    (h : (approachFrom trail (init ++ [last]) node).error = none) :
    LeftAt trail init [last] node (approachFrom trail (init ++ [last]) node).node := by
  induction init generalizing trail node with
  | nil => exact .nil hnode.ne_null
  | cons s init ih =>
    obtain ⟨t, tail, htail⟩ : ∃ t tail, init ++ [last] = t :: tail := by
      cases init with
      | nil => exact ⟨last, [], rfl⟩
      | cons t tail => exact ⟨t, tail ++ [last], rfl⟩
    have hstep : approachFrom trail (s :: init ++ [last]) node =
        stepInto trail (init ++ [last]) (approachFrom (trail ++ [s]) (init ++ [last])) s node := by
      rw [List.cons_append, htail, approachFrom]
    rw [hstep] at h ⊢
    rcases passes_or_stops trail s hnode.ne_null with ⟨put, hp⟩ | ⟨e, hs⟩
    · rw [hp.step] at h ⊢
      exact (ih (walkable_orContainer _ _) h).cons hp
    · rw [hs.step] at h
      cases h

/-! ## Documents after a failed write -/

/-- The document with what a walk creates on its way to a place: nothing if something is there, and
else the nodes on the way and an empty container. -/
def createdAt [Machine] (place : FieldPath) (empty document : Value) : Value :=
  if ((read place document).toOption.getD .null).isNull then
    (write place empty document).toOption.getD document
  else document

/-- The document that a failed write in place leaves behind: the same as before.  Only where an
array cannot grow as far as it would have to, the nodes on the way to it and the array itself are
there. -/
def afterFailure [Machine] (e : PathError) (document : Value) : Value :=
  match e with
  | .tooLong place _ => createdAt place (.list []) document
  | _ => document

theorem LeftAt.eq_createdAt [Machine] (h : LeftAt [] sub more node after) :
    after = createdAt sub (orContainer more .null) node := by
  have hread : (read sub node).toOption = reach? sub node := by
    cases hreach : reach? sub node with
    | some c => exact toOption_eq_some.2 (readFrom_eq_ok.2 hreach)
    | none =>
      rw [Option.eq_none_iff_forall_ne_some]
      intro c hc
      rw [readFrom_eq_ok.1 (toOption_eq_some.1 hc)] at hreach
      cases hreach
  unfold createdAt
  rw [hread]
  split
  · rename_i hnull
    have hmissing : (reach? sub node).getD .null = .null := by
      revert hnull
      cases (reach? sub node).getD .null <;> simp [isNull]
    rw [write, h.created hmissing]
    rfl
  · rename_i hne
    cases hreach : reach? sub node with
    | none =>
      rw [hreach] at hne
      exact absurd rfl hne
    | some c =>
      refine h.unchanged c hreach fun hc => hne ?_
      rw [hreach, hc]
      rfl

/-- **What a failed walk leaves behind**, in one definition for all errors. -/
theorem overwriteFrom_node_of_error [Machine] {path : FieldPath} {document : Value} {e : PathError}
    (hnode : Walkable path document) (h : writeFrom [] path v document = .error e) :
    (overwriteFrom [] v path document).node = afterFailure e document := by
  cases hg : e.cannotGrow with
  | false =>
    rw [overwriteFrom_unchanged hnode h hg]
    cases e with
    | tooLong place limit => cases hg
    | _ => rfl
  | true =>
    cases e with
    | tooLong place limit =>
      obtain ⟨sub, i, more, hplace, -, hleft⟩ := overwriteFrom_growth hnode h
      rw [List.nil_append] at hplace
      rw [hplace]
      exact hleft.eq_createdAt
    | _ => cases hg

/-! ## Paths given as texts -/

/-- A write at a path of a document failed for the path and left `after` behind.  Unless an array
cannot grow, a reading of the path fails in the same way and the document is as it was.  An array
that cannot grow has to do so for a huge position, where a reading finds nothing. -/
structure WriteFailure [Machine] (document : Value) (path : Text) (e : PathError)
    (after : Value) : Prop where
  found : e.isNotFound = false
  same : e.cannotGrow = false → document.getAt path = .error e ∧ after = document
  growth : e.cannotGrow = true →
    (∃ e', document.getAt path = .error e' ∧ e'.isNotFound = true) ∧
      ∃ segments i, FieldPath.parse path = .ok segments ∧ .index i ∈ segments ∧ Machine.maxItems ≤ i
  left : after = afterFailure e document

theorem writeFailure_of_malformed [Machine] {document : Value} {path : Text} {fault : PathFault}
    (h : FieldPath.parse path = .error fault) :
    WriteFailure document path (.malformed path fault) document where
  found := rfl
  same _ := ⟨getAt_of_malformed h, rfl⟩
  growth hgrow := by cases hgrow
  left := rfl

theorem writeFailure_of_writeFrom [Machine] {document : Value} {path : Text}
    {segments : FieldPath} {e : PathError} (hp : FieldPath.parse path = .ok segments)
    (hroot : Walkable segments document) (h : writeFrom [] segments v document = .error e) :
    WriteFailure document path e (overwriteFrom [] v segments document).node where
  found := writeFrom_error_isNotFound h
  same hg := ⟨by rw [getAt_eq hp]; exact ((writeFrom_error_iff hg).1 h).1,
    overwriteFrom_unchanged hroot h hg⟩
  growth hgrow := by
    rcases readFrom_of_writeFrom_error h with ⟨-, -, hg⟩ | ⟨⟨-, i, hi, hle⟩, hmissing⟩
    · rw [hgrow] at hg
      cases hg
    · rw [getAt_eq hp]
      exact ⟨hmissing, segments, i, hp, hi, hle⟩
  left := overwriteFrom_node_of_error hroot h

theorem overwriteAt_failure [Machine] {entries : List (Value × Value)} {path : Text}
    {e : PathError} (h : ((Value.map entries).overwriteAt path v).error = some e) :
    WriteFailure (.map entries) path e ((Value.map entries).overwriteAt path v).node := by
  cases hp : FieldPath.parse path with
  | error fault =>
    rw [overwriteAt_of_malformed hp] at h ⊢
    cases h
    exact writeFailure_of_malformed hp
  | ok segments =>
    have hroot : Walkable segments (.map entries) := .inr Value.noConfusion
    rw [overwriteAt_eq hp] at h ⊢
    exact writeFailure_of_writeFrom hp hroot ((overwriteFrom_error_iff hroot).1 h)

theorem overwriteAt_error_iff [Machine] {entries : List (Value × Value)} {path : Text}
    {e : PathError} (hg : e.cannotGrow = false) :
    ((Value.map entries).overwriteAt path v).error = some e ↔
      (Value.map entries).getAt path = .error e ∧ e.isNotFound = false := by
  cases hp : FieldPath.parse path with
  | error fault =>
    rw [overwriteAt_of_malformed hp, getAt_of_malformed hp]
    simp only [Option.some.injEq, Except.error.injEq]
    constructor
    · rintro rfl
      exact ⟨rfl, rfl⟩
    · exact And.left
  | ok segments =>
    have hroot : Walkable segments (.map entries) := .inr Value.noConfusion
    rw [overwriteAt_eq hp, getAt_eq hp, overwriteFrom_error_iff hroot]
    exact writeFrom_error_iff hg

theorem overwriteCopyAt_of_ok [Machine] {document : Value} {path : Text} {e : WriteError} :
    (document.overwriteCopyAt path (.ok v)).error = some e ↔
      ∃ e', (document.overwriteAt path v).error = some e' ∧ WriteError.path e' = e :=
  Option.map_eq_some_iff

/-- How the write of a value that cannot be copied fails: on the way, as any other, or for the copy
when it has come to the last segment. -/
theorem overwriteCopyAt_of_error [Machine] (entries : List (Value × Value)) (path : Text)
    (fault : CopyFault) :
    let document := Value.map entries
    let after := document.overwriteCopyAt path (.error fault)
    (∃ e, after.error = some (.path e) ∧ WriteFailure document path e after.node) ∨
      after.error = some (.copy fault) ∧ ∃ init last, FieldPath.parse path = .ok (init ++ [last]) ∧
        after.node = createdAt init (orContainer [last] .null) document := by
  intro document after
  cases hp : FieldPath.parse path with
  | error pathFault =>
    have hafter : after = ⟨document, some (.path (.malformed path pathFault))⟩ := by
      simp only [after, overwriteCopyAt, FieldPath.ofText, hp, mapError_error]
    rw [hafter]
    exact .inl ⟨_, rfl, writeFailure_of_malformed hp⟩
  | ok segments =>
    have hroot : Walkable segments document := .inr Value.noConfusion
    have hafter : after = ⟨(approachFrom [] segments document).node,
        ((approachFrom [] segments document).error.map .path).or (some (.copy fault))⟩ := by
      simp only [after, overwriteCopyAt, FieldPath.ofText, hp, mapError_ok]
    rw [hafter]
    cases happroach : (approachFrom [] segments document).error with
    | some e =>
      refine .inl ⟨e, rfl, ?_⟩
      -- The walk stops where the write of any value would.
      have hsame := overwriteFrom_of_approachFrom_error (v := .null) hroot happroach
      have herror : (overwriteFrom [] .null segments document).error = some e := by
        rw [hsame, happroach]
      rw [← hsame]
      exact writeFailure_of_writeFrom hp hroot ((overwriteFrom_error_iff hroot).1 herror)
    | none =>
      have hne := FieldPath.parse_ne_nil hp
      have hsplit : segments.dropLast ++ [segments.getLast hne] = segments :=
        List.dropLast_append_getLast hne
      refine .inr ⟨rfl, segments.dropLast, segments.getLast hne, by rw [hsplit], ?_⟩
      rw [← hsplit] at hroot happroach
      have hleft := (approachFrom_left hroot happroach).eq_createdAt
      rw [hsplit] at hleft
      exact hleft

/-- **A write in place fails as a reading does and then has changed nothing**, unless an array
cannot grow or the value cannot be copied.  Then the nodes on the way are left behind, and the write
fails whatever a reading does. -/
theorem overwriteCopyAt_atomic [Machine] (entries : List (Value × Value)) (path : Text)
    (copied : Except CopyFault Value) :
    let document := Value.map entries
    let after := document.overwriteCopyAt path copied
    (∀ e, after.error = some (.path e) → WriteFailure document path e after.node) ∧
    (∀ v, copied = .ok v → ∀ e, e.cannotGrow = false →
      (after.error = some (.path e) ↔ document.getAt path = .error e ∧ e.isNotFound = false)) ∧
    (∀ fault, copied = .error fault → after.error ≠ none) ∧
    (∀ fault, after.error = some (.copy fault) → copied = .error fault ∧
      ∃ init last, FieldPath.parse path = .ok (init ++ [last]) ∧
        after.node = createdAt init (orContainer [last] .null) document) := by
  intro document after
  cases copied with
  | ok v =>
    have herror : ∀ e, after.error = some (.path e) ↔
        (document.overwriteAt path v).error = some e := fun e => by
      simp [after, overwriteCopyAt_of_ok]
    refine ⟨fun e he => overwriteAt_failure ((herror e).1 he), ?_, nofun, fun fault hfault => ?_⟩
    · rintro _ ⟨⟩ e hg
      exact (herror e).trans (overwriteAt_error_iff hg)
    · obtain ⟨e, -, he⟩ := overwriteCopyAt_of_ok.1 hfault
      cases he
  | error fault =>
    rcases overwriteCopyAt_of_error entries path fault with ⟨e, he, hfailure⟩ | ⟨hcopy, hleft⟩
    · refine ⟨fun e' he' => ?_, nofun, fun _ _ => ?_, fun fault' hfault => ?_⟩
      · cases he.symm.trans he'
        exact hfailure
      · exact Option.ne_none_iff_exists'.2 ⟨_, he⟩
      · cases he.symm.trans hfault
    · refine ⟨fun e he => ?_, nofun, fun _ _ => ?_, fun fault' hfault => ?_⟩
      · cases hcopy.symm.trans he
      · exact Option.ne_none_iff_exists'.2 ⟨_, hcopy⟩
      · cases hcopy.symm.trans hfault
        exact ⟨rfl, hleft⟩

open Machine in
/-- Two writes that fail where a reading finds nothing, and leave behind what was to hold the value:
one at a position that no array can be counted up to, one of a value that is nested too deep to be
copied. -/
theorem overwriteCopyAt_not_atomic :
    let document := Value.map []
    let grown := document.overwriteCopyAt "a[9223372036854775807]" (.ok (.int 1))
    let copied := document.overwriteCopyAt "a.b" (.error .tooDeep)
    (grown.error = some (.path (.tooLong [.field "a"] .magnitude)) ∧
      document.getAt "a[9223372036854775807]" = .error (.noSuchField [.field "a"]) ∧
      grown.node = .map [(.str "a", .list [])] ∧ grown.node ≠ document) ∧
    copied.error = some (.copy .tooDeep) ∧
      document.getAt "a.b" = .error (.noSuchField [.field "a"]) ∧
      copied.node = .map [(.str "a", .map [])] ∧ copied.node ≠ document := by
  refine ⟨⟨rfl, rfl, rfl, ?_⟩, rfl, rfl, rfl, ?_⟩
  · intro h
    cases h
  · intro h
    cases h

end Value
end Patchwork
