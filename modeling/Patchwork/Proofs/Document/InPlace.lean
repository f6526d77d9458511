import Patchwork.Proofs.Document.Reach

/-!
# Writing in place

A write in place creates containers and pads arrays while it walks, before it knows whether a later
step can be taken.  Reading walks the same way and changes nothing.  Step by step a write does one
of three things, as the reading step tells: it goes on into a child, it fails with the error of the
reading, or it finds nothing and creates.  From there on every node is new, so nothing can be of
the wrong kind any more.

* `Value.writeFrom_null_error` — a write into nothing fails only where an array cannot grow.
* `Value.writeFrom_error_iff` — a write fails as a reading of the same path does, unless the
  reading finds nothing or an array cannot grow.
* `Value.overwriteFrom_of_ok`, `Value.overwriteFrom_of_error` — the walk in place gives the document
  or the error of the pure write.
* `Value.overwriteFrom_unchanged` — a walk that fails otherwise than for growth left the node as it
  was.
* `Value.overwriteAt_changes_only_path` — a walk that succeeds changes what its path reaches, and
  otherwise adds padding at most.
-/

set_option autoImplicit false

namespace Patchwork
namespace Value

variable {trail rest : FieldPath} {s : Segment} {v node : Value}

/-! ## Failing writes -/

theorem checkGrowth_error [Machine] {trail : FieldPath} {i : Nat} {items : List Value}
    {e : PathError}
    (h : checkGrowth trail i items = .error e) :
    e.cannotGrow = true ∧ Machine.maxItems < i + 1 := by
  unfold checkGrowth at h
  split at h
  · rename_i limit hlimit
    cases h
    refine ⟨rfl, Nat.lt_of_not_le fun hle => ?_⟩
    rw [Limit.ofGrowth?_eq_none.2 (.inr hle)] at hlimit
    cases hlimit
  · cases h

theorem checkGrowth_place [Machine] {trail place : FieldPath} {i : Nat} {items : List Value}
    {limit : Limit}
    (h : checkGrowth trail i items = .error (.tooLong place limit)) : place = trail := by
  unfold checkGrowth at h
  split at h
  · cases h; rfl
  · cases h

theorem checkGrowth_of_lt [Machine] {trail : FieldPath} {i : Nat} {items : List Value}
    (h : i < items.length) : checkGrowth trail i items = .ok () :=
  checkGrowth_eq_ok.2 (.inl h)

/-- The error is that an array cannot grow, for a position of the path. -/
def GrowthFailure [Machine] (path : FieldPath) (e : PathError) : Prop :=
  e.cannotGrow = true ∧ ∃ i, .index i ∈ path ∧ Machine.maxItems ≤ i

theorem GrowthFailure.cons [Machine] {path : FieldPath} {e : PathError} (h : GrowthFailure path e)
    (s : Segment) : GrowthFailure (s :: path) e := by
  obtain ⟨hgrow, i, hi, hle⟩ := h
  exact ⟨hgrow, i, List.mem_cons_of_mem _ hi, hle⟩

/-! ## One step of a write beside one step of a reading -/

/-- Where a reading goes on into a child, a write does too, and fails only below it. -/
theorem writeFrom_cons_of_child [Machine] (rest : FieldPath) (v : Value) {c : Value}
    (h : child trail s node = .ok c) :
    ∃ put : Value → Value,
      writeFrom trail (s :: rest) v node = put <$> writeFrom (trail ++ [s]) rest v c := by
  rw [child_eq_ok] at h
  cases s with
  | index i =>
    cases node <;> simp only [child?, reduceCtorEq] at h
    rename_i items
    have hi : i < items.length := (List.getElem?_eq_some_iff.1 h).1
    refine ⟨fun item => .list (setPadded item i items), ?_⟩
    simp only [writeFrom, itemsAt, ok_bind, checkGrowth_of_lt hi, List.getD_eq_getElem?_getD, h,
      Option.getD_some]
    rfl
  | field name =>
    cases node <;> simp only [child?, reduceCtorEq] at h
    rename_i entries
    refine ⟨fun item => .map (insert name item entries), ?_⟩
    simp only [writeFrom, entriesAt, ok_bind, field, fieldOr, h, Option.getD_some]
    rfl

theorem writeFrom_cons_of_wrong_kind [Machine] {e : PathError} (h : child trail s node = .error e)
    (hn : e.isNotFound = false) : writeFrom trail (s :: rest) v node = .error e := by
  cases child_eq_error.1 h with
  | null | field | index => cases hn
  | notArray hnull hlist =>
    cases node
    case null => exact absurd rfl hnull
    case list items => exact absurd rfl (hlist items)
    all_goals rfl
  | notObject hnull hmap =>
    cases node
    case null => exact absurd rfl hnull
    case map entries => exact absurd rfl (hmap entries)
    all_goals rfl

theorem child_error_cannotGrow {e : PathError} (h : child trail s node = .error e) :
    e.cannotGrow = false := by
  cases child_eq_error.1 h <;> rfl

/-- Where a reading finds nothing, a write goes on from null. -/
theorem writeFrom_cons_of_missing [Machine] {e e' : PathError} (h : child trail s node = .error e)
    (hn : e.isNotFound = true) (hw : writeFrom trail (s :: rest) v node = .error e') :
    GrowthFailure (s :: rest) e' ∨ writeFrom (trail ++ [s]) rest v .null = .error e' := by
  have hnone : child? s node = none := by
    cases hc : child? s node with
    | none => rfl
    | some c => rw [child_eq_ok.2 hc] at h; cases h
  cases s with
  | index i =>
    have hitems : ∃ items, itemsAt trail node = .ok items ∧ items[i]? = none := by
      cases node <;> simp only [child, Except.error.injEq] at h
      case null => exact ⟨[], rfl, rfl⟩
      case list items => exact ⟨items, rfl, hnone⟩
      all_goals subst h; cases hn
    obtain ⟨items, hitems, hi⟩ := hitems
    simp only [writeFrom, hitems, ok_bind, List.getD_eq_getElem?_getD, hi, Option.getD_none] at hw
    rcases bind_eq_error.1 hw with hg | ⟨_, _, hw⟩
    · obtain ⟨hgrow, hlt⟩ := checkGrowth_error hg
      exact .inl ⟨hgrow, i, List.mem_cons_self, by omega⟩
    · exact .inr (bind_pure_eq_error.1 hw)
  | field name =>
    have hentries : ∃ entries, entriesAt trail node = .ok entries ∧ lookup name entries = none := by
      cases node <;> simp only [child, Except.error.injEq] at h
      case null => exact ⟨[], rfl, rfl⟩
      case map entries => exact ⟨entries, rfl, hnone⟩
      all_goals subst h; cases hn
    obtain ⟨entries, hentries, hname⟩ := hentries
    simp only [writeFrom, hentries, ok_bind, field, fieldOr, hname, Option.getD_none] at hw
    exact .inr (bind_pure_eq_error.1 hw)

/-! ## Failing writes and failing readings -/

/-- **Once something was created, no later step fails**, but for an array that cannot grow. -/
theorem writeFrom_null_error [Machine] {path : FieldPath} {e : PathError}
    (h : writeFrom trail path v .null = .error e) : GrowthFailure path e := by
  induction path generalizing trail with
  | nil => cases h
  | cons s rest ih =>
    have hmissing : child trail s .null = .error (.noSuchField (trail ++ [s])) := by
      cases s <;> rfl
    rcases writeFrom_cons_of_missing hmissing rfl h with hgrow | hr
    · exact hgrow
    · exact (ih hr).cons s

theorem writeFrom_of_readFrom_error [Machine] {path : FieldPath} {e : PathError}
    (h : readFrom trail path node = .error e) (hn : e.isNotFound = false) :
    writeFrom trail path v node = .error e := by
  induction path generalizing trail node with
  | nil => cases h
  | cons s rest ih =>
    rcases bind_eq_error.1 h with hc | ⟨c, hc, hr⟩
    · exact writeFrom_cons_of_wrong_kind hc hn
    · obtain ⟨put, hput⟩ := writeFrom_cons_of_child rest v hc
      rw [hput, ih hr, map_error]

/-- A write fails with the error of the reading, or the reading finds nothing and an array cannot
grow. -/
theorem readFrom_of_writeFrom_error [Machine] {path : FieldPath} {e : PathError}
    (h : writeFrom trail path v node = .error e) :
    (readFrom trail path node = .error e ∧ e.isNotFound = false ∧ e.cannotGrow = false) ∨
      (GrowthFailure path e ∧
        ∃ e', readFrom trail path node = .error e' ∧ e'.isNotFound = true) := by
  induction path generalizing trail node with
  | nil => cases h
  | cons s rest ih =>
    cases hc : child trail s node with
    | ok c =>
      obtain ⟨put, hput⟩ := writeFrom_cons_of_child rest v hc
      have hread : readFrom trail (s :: rest) node = readFrom (trail ++ [s]) rest c := by
        rw [readFrom, hc, ok_bind]
      rw [hput] at h
      rw [hread]
      rcases ih (map_eq_error.1 h) with hsame | ⟨hgrow, hmissing⟩
      · exact .inl hsame
      · exact .inr ⟨hgrow.cons s, hmissing⟩
    | error e' =>
      have hread : readFrom trail (s :: rest) node = .error e' := by
        rw [readFrom, hc, error_bind]
      cases hn : e'.isNotFound with
      | false =>
        rw [writeFrom_cons_of_wrong_kind hc hn, Except.error.injEq] at h
        subst h
        exact .inl ⟨hread, hn, child_error_cannotGrow hc⟩
      | true =>
        refine .inr ⟨?_, e', hread, hn⟩
        rcases writeFrom_cons_of_missing hc hn h with hgrow | hr
        · exact hgrow
        · exact (writeFrom_null_error hr).cons s

/-- **A write fails as a reading does**, unless the reading finds nothing or an array cannot
grow. -/
theorem writeFrom_error_iff [Machine] {path : FieldPath} {e : PathError}
    (hg : e.cannotGrow = false) :
    writeFrom trail path v node = .error e ↔
      readFrom trail path node = .error e ∧ e.isNotFound = false := by
  constructor
  · intro h
    rcases readFrom_of_writeFrom_error h with ⟨hread, hn, -⟩ | ⟨⟨hgrow, -⟩, -⟩
    · exact ⟨hread, hn⟩
    · rw [hg] at hgrow
      cases hgrow
  · rintro ⟨hread, hn⟩
    exact writeFrom_of_readFrom_error hread hn

theorem isNotFound_of_cannotGrow {e : PathError} (h : e.cannotGrow = true) :
    e.isNotFound = false := by
  cases e <;> first | rfl | cases h

theorem writeFrom_error_isNotFound [Machine] {path : FieldPath} {e : PathError}
    (h : writeFrom trail path v node = .error e) : e.isNotFound = false := by
  rcases readFrom_of_writeFrom_error h with ⟨-, hn, -⟩ | ⟨⟨hgrow, -⟩, -⟩
  · exact hn
  · exact isNotFound_of_cannotGrow hgrow

/-! ## The walk in place -/

/-- The path ends here, or there is something to walk into. -/
def Walkable (path : FieldPath) (node : Value) : Prop := path = [] ∨ node ≠ .null

theorem walkable_orContainer (path : FieldPath) (node : Value) :
    Walkable path (orContainer path node) := by
  unfold Walkable orContainer
  split
  · exact .inr Value.noConfusion
  · exact .inr Value.noConfusion
  · cases path with
    | nil => exact .inl rfl
    | cons s rest => cases s <;> cases node <;> simp_all

theorem orContainer_of_walkable {path : FieldPath} {node : Value} (h : Walkable path node) :
    orContainer path node = node := by
  rcases h with rfl | h
  · rfl
  · unfold orContainer
    split
    · exact absurd rfl h
    · exact absurd rfl h
    · rfl

@[simp] theorem writeFrom_orContainer [Machine] (path : FieldPath) :
    writeFrom trail path v (orContainer path node) = writeFrom trail path v node := by
  unfold orContainer
  split
  · rfl
  · rfl
  · rfl

theorem padTo_getD (i : Nat) (items : List Value) :
    (padTo i items)[i]?.getD .null = items[i]?.getD .null := by
  rcases padTo_getElem? i i items with h | ⟨hnone, hnull⟩
  · rw [h]
  · rw [hnone, hnull]
    rfl

/-- A step goes on into a child, or into null where there is none, and `put` puts back what comes
of it: the pure write and the walk in place alike. -/
structure Passes [Machine] (trail : FieldPath) (s : Segment) (node : Value)
    (put : Value → Value) : Prop where
  write : ∀ rest v, writeFrom trail (s :: rest) v node =
    put <$> writeFrom (trail ++ [s]) rest v ((child? s node).getD .null)
  step : ∀ rest next, stepInto trail rest next s node =
    let item := next (orContainer rest ((child? s node).getD .null))
    ⟨put item.node, item.error⟩
  put_child : ∀ c, child? s node = some c → put c = node

/-- A step stops with an error and leaves the node alone: the pure write and the walk in place
alike. -/
structure Stops [Machine] (trail : FieldPath) (s : Segment) (node : Value)
    (e : PathError) : Prop where
  write : ∀ rest v, writeFrom trail (s :: rest) v node = .error e
  step : ∀ rest next, stepInto trail rest next s node = ⟨node, some e⟩
  growth : ∀ place limit, e = .tooLong place limit → place = trail ∧ ∃ i, s = .index i

theorem Passes.list [Machine] {i : Nat} {items : List Value}
    (hg : checkGrowth trail i items = .ok ()) :
    Passes trail (.index i) (.list items) fun item => .list (setPadded item i items) where
  write rest v := by
    simp only [writeFrom, itemsAt, ok_bind, hg, child?, List.getD_eq_getElem?_getD]
    rfl
  step rest next := by
    simp only [stepInto, hg, List.getD_eq_getElem?_getD, padTo_getD, setPadded_eq_set, child?]
  put_child c hc := by
    obtain ⟨hi, hitem⟩ := List.getElem?_eq_some_iff.1 hc
    simp only [setPadded, hi, if_true]
    rw [← hitem, List.set_getElem_self]

theorem Passes.map [Machine] {name : Text} {entries : List (Value × Value)} :
    Passes trail (.field name) (.map entries) fun item => .map (insert name item entries) where
  write rest v := rfl
  step rest next := rfl
  put_child c hc := by rw [insert_of_lookup hc]

/-- **A step of a walk either passes or stops.** -/
theorem passes_or_stops [Machine] (trail : FieldPath) (s : Segment) (hnode : node ≠ .null) :
    (∃ put, Passes trail s node put) ∨ ∃ e, Stops trail s node e := by
  cases s with
  | index i =>
    cases node
    case null => exact absurd rfl hnode
    case list items =>
      cases hg : checkGrowth trail i items with
      | ok _ => exact .inl ⟨_, Passes.list hg⟩
      | error e =>
        refine .inr ⟨e, fun rest v => ?_, fun rest v => ?_, fun place limit he => ?_⟩
        · simp only [writeFrom, itemsAt, ok_bind, hg, error_bind]
        · simp only [stepInto, hg]
        · subst he
          exact ⟨checkGrowth_place hg, i, rfl⟩
    all_goals
      exact .inr ⟨.notArray trail, fun _ _ => rfl, fun _ _ => rfl,
        fun _ _ he => PathError.noConfusion he⟩
  | field name =>
    cases node
    case null => exact absurd rfl hnode
    case map entries => exact .inl ⟨_, Passes.map⟩
    all_goals
      exact .inr ⟨.notObject trail, fun _ _ => rfl, fun _ _ => rfl,
        fun _ _ he => PathError.noConfusion he⟩

theorem Walkable.ne_null (h : Walkable (s :: rest) node) : node ≠ .null := by
  simpa [Walkable] using h

/-- **A walk in place that succeeds leaves the document of the pure write.** -/
theorem overwriteFrom_of_ok [Machine] {path : FieldPath} {w : Value} (hnode : Walkable path node)
    (h : writeFrom trail path v node = .ok w) : overwriteFrom trail v path node = ⟨w, none⟩ := by
  induction path generalizing trail node w with
  | nil => cases h; rfl
  | cons s rest ih =>
    rcases passes_or_stops trail s hnode.ne_null with ⟨put, hp⟩ | ⟨e, hs⟩
    · rw [hp.write, map_eq_ok] at h
      obtain ⟨item, hitem, rfl⟩ := h
      rw [← writeFrom_orContainer] at hitem
      simp only [overwriteFrom, hp.step, ih (walkable_orContainer _ _) hitem]
    · rw [hs.write] at h
      cases h

/-- A walk in place reports the error of the pure write. -/
theorem overwriteFrom_of_error [Machine] {path : FieldPath} {e : PathError}
    (hnode : Walkable path node)
    (h : writeFrom trail path v node = .error e) :
    (overwriteFrom trail v path node).error = some e := by
  induction path generalizing trail node with
  | nil => cases h
  | cons s rest ih =>
    rcases passes_or_stops trail s hnode.ne_null with ⟨put, hp⟩ | ⟨e', hs⟩
    · rw [hp.write, map_eq_error, ← writeFrom_orContainer] at h
      simp only [overwriteFrom, hp.step, ih (walkable_orContainer _ _) h]
    · rw [hs.write] at h
      cases h
      rw [overwriteFrom, hs.step]

theorem overwriteFrom_error_iff [Machine] {path : FieldPath} {e : PathError}
    (hnode : Walkable path node) :
    (overwriteFrom trail v path node).error = some e ↔
      writeFrom trail path v node = .error e := by
  cases hw : writeFrom trail path v node with
  | ok w => simp [overwriteFrom_of_ok hnode hw]
  | error e' => simp [overwriteFrom_of_error hnode hw]

theorem writeFrom_of_no_error [Machine] {path : FieldPath} (hnode : Walkable path node)
    (h : (overwriteFrom trail v path node).error = none) :
    writeFrom trail path v node = .ok (overwriteFrom trail v path node).node := by
  cases hw : writeFrom trail path v node with
  | ok w => rw [overwriteFrom_of_ok hnode hw]
  | error e =>
    rw [overwriteFrom_of_error hnode hw] at h
    cases h

/-- **A walk in place that a wrong kind of node stops has changed nothing.** -/
theorem overwriteFrom_unchanged [Machine] {path : FieldPath} {e : PathError}
    (hnode : Walkable path node)
    (h : writeFrom trail path v node = .error e) (hg : e.cannotGrow = false) :
    (overwriteFrom trail v path node).node = node := by
  induction path generalizing trail node with
  | nil => cases h
  | cons s rest ih =>
    rcases passes_or_stops trail s hnode.ne_null with ⟨put, hp⟩ | ⟨e', hs⟩
    · rw [hp.write, map_eq_error] at h
      -- Into null the write would go on without fail, so the child is there.
      have hne : (child? s node).getD .null ≠ .null := by
        intro hnull
        rw [hnull] at h
        rw [(writeFrom_null_error h).1] at hg
        cases hg
      obtain ⟨c, hc⟩ := child?_of_ne_null hne
      rw [hc, Option.getD_some] at h hne
      simp only [overwriteFrom, hp.step, hc, Option.getD_some, orContainer_of_walkable (.inr hne),
        ih (.inr hne) h, hp.put_child c hc]
    · rw [overwriteFrom, hs.step]

/-! ## Paths given as texts -/

theorem overwriteAt_eq [Machine] {document : Value} {path : Text} {segments : FieldPath}
    (h : FieldPath.parse path = .ok segments) :
    document.overwriteAt path v = overwriteFrom [] v segments document := by
  simp only [overwriteAt, FieldPath.ofText, h, mapError_ok, overwrite]

theorem getAt_eq {document : Value} {path : Text} {segments : FieldPath}
    (h : FieldPath.parse path = .ok segments) :
    document.getAt path = readFrom [] segments document := by
  simp only [getAt, FieldPath.ofText, h, mapError_ok, ok_bind, read]

theorem overwriteAt_of_malformed [Machine] {document : Value} {path : Text} {fault : PathFault}
    (h : FieldPath.parse path = .error fault) :
    document.overwriteAt path v = ⟨document, some (.malformed path fault)⟩ := by
  simp only [overwriteAt, FieldPath.ofText, h, mapError_error]

theorem getAt_of_malformed {document : Value} {path : Text} {fault : PathFault}
    (h : FieldPath.parse path = .error fault) :
    document.getAt path = .error (.malformed path fault) := by
  simp only [getAt, FieldPath.ofText, h, mapError_error, error_bind]

/-- **A write in place changes exactly its path.**  Below the path stands the new value; a path
that leaves it reads what it read before, or null out of padding where nothing could be read. -/
theorem overwriteAt_changes_only_path [Machine] {entries : List (Value × Value)} {p q : Text}
    {ps qs : FieldPath} {v : Value} (hp : FieldPath.parse p = .ok ps)
    (hq : FieldPath.parse q = .ok qs)
    (hw : ((Value.map entries).overwriteAt p v).error = none) :
    let document := Value.map entries
    let after := (document.overwriteAt p v).node
    (∀ rest, qs = ps ++ rest → ∀ u, after.getAt q = .ok u ↔ Value.read rest v = .ok u) ∧
    (¬ ps <+: qs → ¬ qs <+: ps →
      (∀ u, document.getAt q = .ok u → after.getAt q = .ok u) ∧
      ((∀ u, document.getAt q ≠ .ok u) → ∀ u, after.getAt q = .ok u → u = .null)) := by
  intro document after
  have hroot : Walkable ps document := .inr Value.noConfusion
  have hwrite : writeFrom [] ps v document = .ok after := by
    simp only [after, document, overwriteAt_eq hp] at hw ⊢
    exact writeFrom_of_no_error hroot hw
  simp only [getAt_eq hq, read, readFrom_eq_ok]
  refine ⟨?_, fun hpq hqp => ?_⟩
  · rintro rest rfl u
    rw [reach?_write_append hwrite]
  · rcases reach?_write_diverging hwrite hpq hqp with hsame | ⟨hnone, hnull⟩
    · refine ⟨fun u hu => by rw [hsame, hu], fun hunread u hu => ?_⟩
      rw [hsame] at hu
      exact absurd (readFrom_eq_ok.2 hu) (hunread u)
    · refine ⟨fun u hu => ?_, fun _ u hu => ?_⟩
      · rw [hnone] at hu
        cases hu
      · rw [hnull, Option.some.injEq] at hu
        exact hu.symm

open Machine in
/-- The statement at a path that creates a map and an array and pads it: the sibling position,
where nothing could be read, reads null. -/
theorem overwriteAt_changes_only_path_padding :
    let document := Value.map []
    let after := (document.overwriteAt "ports[2].name" (.str "https")).node
    ((document.overwriteAt "ports[2].name" (.str "https")).error = none ∧
      (∀ u, document.getAt "ports[0]" ≠ .ok u) ∧ after.getAt "ports[0]" = .ok .null) ∧
    ∀ u, after.getAt "ports[0]" = .ok u → u = .null := by
  intro document after
  have hunread : ∀ u, document.getAt "ports[0]" ≠ .ok u := by
    intro u h
    cases h
  refine ⟨⟨rfl, hunread, rfl⟩, ?_⟩
  have hp : FieldPath.parse "ports[2].name" = .ok [.field "ports", .index 2, .field "name"] := rfl
  have hq : FieldPath.parse "ports[0]" = .ok [.field "ports", .index 0] := rfl
  have hw : (document.overwriteAt "ports[2].name" (.str "https")).error = none := rfl
  have h := overwriteAt_changes_only_path hp hq hw
  exact (h.2 (by decide) (by decide)).2 hunread

end Value
end Patchwork
