import Patchwork.Document
import Patchwork.Proofs.Outcome

/-!
# What a path reaches

Reading a document by path either reaches a value or reports a place.  `Value.reach?` is the value
alone, and what a write does to a document is said by what paths reach in it afterwards.

* `Value.readFrom_eq_ok` — reading succeeds exactly with the value that is reached.
* `Value.readFrom_eq_error`, `Value.read_eq_error` — reading fails exactly where a step is `Stuck`,
  for what stands there.
* `Value.writeFrom_cons_ok` — what one step of a write does to a node: the child it goes to is
  written, and every other child stays, except that padding may appear where nothing was.
* `Value.reach?_write_append`, `Value.reach?_write_diverging` — what a whole write does: below its
  path stands the new value, and a path that leaves it anywhere reaches what it reached before, or
  null out of padding where it reached nothing.
-/

set_option autoImplicit false

namespace Patchwork
namespace Value

def child? : Segment → Value → Option Value
  | .index i, .list items => items[i]?
  | .field name, .map entries => lookup name entries
  | _, _ => none

/-- The value that a path reaches from a node, if there is one. -/
def reach? : FieldPath → Value → Option Value
  | [], node => some node
  | s :: rest, node => (child? s node).bind (reach? rest)

@[simp] theorem child?_null (s : Segment) : child? s .null = none := by cases s <;> rfl

theorem reach?_append (p q : FieldPath) (node : Value) :
    reach? (p ++ q) node = (reach? p node).bind (reach? q) := by
  induction p generalizing node with
  | nil => rfl
  | cons s rest ih =>
    simp only [List.cons_append, reach?, Option.bind_assoc]
    exact congrArg _ (funext ih)

theorem child?_of_ne_null {s : Segment} {node : Value} (h : (child? s node).getD .null ≠ .null) :
    ∃ c, child? s node = some c := by
  cases hc : child? s node with
  | none => rw [hc] at h; exact absurd rfl h
  | some c => exact ⟨c, rfl⟩

/-! ## Reading -/

theorem child_eq_ok {trail : FieldPath} {s : Segment} {node v : Value} :
    child trail s node = .ok v ↔ child? s node = some v := by
  cases s <;> cases node <;> simp only [child, child?, reduceCtorEq]
  · split <;> simp_all
  · split <;> simp_all

/-- **Reading succeeds exactly with the value that is reached.** -/
theorem readFrom_eq_ok {trail path : FieldPath} {node v : Value} :
    readFrom trail path node = .ok v ↔ reach? path node = some v := by
  induction path generalizing trail node with
  | nil => simp [readFrom, reach?]
  | cons s rest ih =>
    simp only [readFrom, reach?, bind_eq_ok, Option.bind_eq_some_iff, child_eq_ok, ih]

/-- A step of a path cannot be taken from a node, for what the node is; `trail` is the path to the
node.  A node of the right kind lacks the child, and so does null; any other is of the wrong
kind. -/
inductive Stuck (trail : FieldPath) : Value → Segment → PathError → Prop where
  | null (s : Segment) : Stuck trail .null s (.noSuchField (trail ++ [s]))
  | field {entries : List (Value × Value)} {name : Text} (h : lookup name entries = none) :
      Stuck trail (.map entries) (.field name) (.noSuchField (trail ++ [.field name]))
  | index {items : List Value} {i : Nat} (h : items.length ≤ i) :
      Stuck trail (.list items) (.index i) (.outOfBounds (trail ++ [.index i]))
  | notArray {node : Value} {i : Nat} (hnull : node ≠ .null) (h : ∀ items, node ≠ .list items) :
      Stuck trail node (.index i) (.notArray trail)
  | notObject {node : Value} {name : Text} (hnull : node ≠ .null)
      (h : ∀ entries, node ≠ .map entries) : Stuck trail node (.field name) (.notObject trail)

theorem child_eq_error {trail : FieldPath} {s : Segment} {node : Value} {e : PathError} :
    child trail s node = .error e ↔ Stuck trail node s e := by
  constructor
  · intro h
    cases s with
    | index i =>
      cases node <;> simp only [child, Except.error.injEq] at h
      case null =>
        cases h
        exact .null _
      case list items =>
        split at h
        · cases h
        · rename_i hnone
          cases h
          exact .index (List.getElem?_eq_none_iff.1 hnone)
      all_goals
        cases h
        exact .notArray nofun nofun
    | field name =>
      cases node <;> simp only [child, Except.error.injEq] at h
      case null =>
        cases h
        exact .null _
      case map entries =>
        split at h
        · cases h
        · rename_i hnone
          cases h
          exact .field hnone
      all_goals
        cases h
        exact .notObject nofun nofun
  · intro h
    cases h with
    | null s => cases s <;> rfl
    | field h => simp only [child, h]
    | index h => simp only [child, List.getElem?_eq_none_iff.2 h]
    | notArray hnull h =>
      cases node
      case null => exact absurd rfl hnull
      case list items => exact absurd rfl (h items)
      all_goals rfl
    | notObject hnull h =>
      cases node
      case null => exact absurd rfl hnull
      case map entries => exact absurd rfl (h entries)
      all_goals rfl

/-- **Reading fails exactly where a step is stuck.** -/
theorem readFrom_eq_error {trail path : FieldPath} {node : Value} {e : PathError} :
    readFrom trail path node = .error e ↔
      ∃ p s rest stop, path = p ++ s :: rest ∧ reach? p node = some stop ∧
        Stuck (trail ++ p) stop s e := by
  induction path generalizing trail node with
  | nil => simp [readFrom]
  | cons t path ih =>
    simp only [readFrom, bind_eq_error, child_eq_error, child_eq_ok, ih]
    constructor
    · rintro (h | ⟨c, hc, p, s, rest, stop, rfl, hstop, h⟩)
      · exact ⟨[], t, path, node, rfl, rfl, by rwa [List.append_nil]⟩
      · refine ⟨t :: p, s, rest, stop, rfl, ?_, ?_⟩
        · rw [reach?, hc, Option.bind_some, hstop]
        · rwa [List.append_assoc] at h
    · rintro ⟨p, s, rest, stop, hpath, hstop, h⟩
      cases p with
      | nil =>
        cases hpath
        cases hstop
        rw [List.append_nil] at h
        exact .inl h
      | cons t' p =>
        obtain ⟨rfl, rfl⟩ := List.cons_eq_cons.1 hpath
        obtain ⟨c, hc, hstop⟩ := Option.bind_eq_some_iff.1 hstop
        refine .inr ⟨c, hc, p, s, rest, stop, rfl, hstop, ?_⟩
        rwa [List.append_assoc]

/-- A path is stuck in a document, at the first step that cannot be taken. -/
def Blocks (document : Value) (path : FieldPath) (e : PathError) : Prop :=
  ∃ p s rest stop, path = p ++ s :: rest ∧ reach? p document = some stop ∧ Stuck p stop s e

theorem read_eq_error {path : FieldPath} {document : Value} {e : PathError} :
    read path document = .error e ↔ document.Blocks path e := by
  simp only [read, readFrom_eq_error, List.nil_append, Blocks]

/-! ## One step of a write -/

theorem checkGrowth_eq_ok [Machine] {trail : FieldPath} {i : Nat} {items : List Value} :
    checkGrowth trail i items = .ok () ↔ i < items.length ∨ i < Machine.maxItems := by
  unfold checkGrowth
  split
  · rename_i limit hlimit
    simp only [reduceCtorEq, false_iff]
    intro h
    rw [Limit.ofGrowth?_eq_none.2 h] at hlimit
    cases hlimit
  · rename_i hnone
    exact ⟨fun _ => Limit.ofGrowth?_eq_none.1 hnone, fun _ => rfl⟩

theorem lt_length_padTo (i : Nat) (items : List Value) : i < (padTo i items).length := by
  simp only [padTo, List.length_append, List.length_replicate]
  omega

theorem padTo_getElem? (i j : Nat) (items : List Value) :
    (padTo i items)[j]? = items[j]? ∨ (items[j]? = none ∧ (padTo i items)[j]? = some .null) := by
  unfold padTo
  by_cases hj : j < items.length
  · left
    rw [List.getElem?_append_left hj]
  · have hnone : items[j]? = none := List.getElem?_eq_none (by omega)
    rw [List.getElem?_append_right (by omega), List.getElem?_replicate, hnone]
    split
    · exact .inr ⟨rfl, rfl⟩
    · exact .inl rfl

theorem setPadded_eq_set (v : Value) (i : Nat) (items : List Value) :
    setPadded v i items = (padTo i items).set i v := by
  unfold setPadded padTo
  split
  · rename_i hi
    have hzero : i + 1 - items.length = 0 := by omega
    simp [hzero]
  · rename_i hi
    have hsucc : i + 1 - items.length = i - items.length + 1 := by omega
    have hlen : (items ++ List.replicate (i - items.length) Value.null).length = i := by
      simp only [List.length_append, List.length_replicate]
      omega
    rw [hsucc, List.replicate_succ', ← List.append_assoc,
      List.set_append_right _ _ (by omega), hlen]
    simp

theorem setPadded_getElem?_self (v : Value) (i : Nat) (items : List Value) :
    (setPadded v i items)[i]? = some v := by
  rw [setPadded_eq_set, List.getElem?_set_self (lt_length_padTo i items)]

theorem setPadded_getElem?_of_ne {i j : Nat} (h : j ≠ i) (v : Value) (items : List Value) :
    (setPadded v i items)[j]? = items[j]? ∨
      (items[j]? = none ∧ (setPadded v i items)[j]? = some .null) := by
  rw [setPadded_eq_set, List.getElem?_set_ne (Ne.symm h)]
  exact padTo_getElem? i j items

/-- **What one step of a write does.**  The child that the step goes to is written; any other child
is what it was, or null where there was none. -/
theorem writeFrom_cons_ok [Machine] {trail rest : FieldPath} {s : Segment} {v node w : Value}
    (h : writeFrom trail (s :: rest) v node = .ok w) :
    ∃ item, writeFrom (trail ++ [s]) rest v ((child? s node).getD .null) = .ok item ∧
      child? s w = some item ∧
      ∀ t ≠ s, child? t w = child? t node ∨ (child? t node = none ∧ child? t w = some .null) := by
  cases s with
  | index i =>
    simp only [writeFrom, bind_eq_ok] at h
    obtain ⟨items, hitems, -, -, item, hitem, hw⟩ := h
    cases hw
    have hnode : node = .list items ∨ (node = .null ∧ items = []) := by
      cases node <;> simp_all [itemsAt]
    refine ⟨item, ?_, setPadded_getElem?_self item i items, ?_⟩
    · rcases hnode with rfl | ⟨rfl, rfl⟩
      · simpa [child?, List.getD_eq_getElem?_getD] using hitem
      · simpa using hitem
    · intro t ht
      cases t with
      | index j =>
        have hj : j ≠ i := fun e => ht (by rw [e])
        rcases hnode with rfl | ⟨rfl, rfl⟩
        · exact setPadded_getElem?_of_ne hj item items
        · exact setPadded_getElem?_of_ne hj item []
      | field name => left; rcases hnode with rfl | ⟨rfl, rfl⟩ <;> rfl
  | field name =>
    simp only [writeFrom, bind_eq_ok] at h
    obtain ⟨entries, hentries, item, hitem, hw⟩ := h
    cases hw
    have hnode : node = .map entries ∨ (node = .null ∧ entries = []) := by
      cases node <;> simp_all [entriesAt]
    refine ⟨item, ?_, lookup_insert_self name item entries, ?_⟩
    · rcases hnode with rfl | ⟨rfl, rfl⟩
      · exact hitem
      · exact hitem
    · intro t ht
      cases t with
      | index j => left; rcases hnode with rfl | ⟨rfl, rfl⟩ <;> rfl
      | field other =>
        left
        have hne : other ≠ name := fun e => ht (by rw [e])
        rcases hnode with rfl | ⟨rfl, rfl⟩
        · exact lookup_insert_of_ne hne item entries
        · exact lookup_insert_of_ne hne item []

/-! ## A whole write -/

/-- Below the path that was written, paths reach what they reach in the new value. -/
theorem reach?_write_append [Machine] {trail p : FieldPath} {v node w : Value}
    (h : writeFrom trail p v node = .ok w) (rest : FieldPath) :
    reach? (p ++ rest) w = reach? rest v := by
  induction p generalizing trail node w with
  | nil =>
    cases h
    rfl
  | cons s p ih =>
    obtain ⟨item, hitem, hself, -⟩ := writeFrom_cons_ok h
    simp only [List.cons_append, reach?, hself, Option.bind_some]
    exact ih hitem

/-- **A path that leaves the written one** reaches what it reached before, or null out of padding
where it reached nothing. -/
theorem reach?_write_diverging [Machine] {trail p q : FieldPath} {v node w : Value}
    (h : writeFrom trail p v node = .ok w) (hpq : ¬ p <+: q) (hqp : ¬ q <+: p) :
    reach? q w = reach? q node ∨ (reach? q node = none ∧ reach? q w = some .null) := by
  induction p generalizing trail q node w with
  | nil => exact absurd List.nil_prefix hpq
  | cons s p ih =>
    cases q with
    | nil => exact absurd List.nil_prefix hqp
    | cons t q =>
      obtain ⟨item, hitem, hself, hother⟩ := writeFrom_cons_ok h
      by_cases hts : t = s
      · subst hts
        -- The paths share this step, so they part further down.
        have hpq' : ¬ p <+: q := fun hp => hpq (List.cons_prefix_cons.2 ⟨rfl, hp⟩)
        have hqp' : ¬ q <+: p := fun hq => hqp (List.cons_prefix_cons.2 ⟨rfl, hq⟩)
        have hq := ih hitem hpq' hqp'
        simp only [reach?, hself, Option.bind_some]
        cases hc : child? t node with
        | some c => simpa [hc] using hq
        | none =>
          -- Nothing was there: the rest of `q` is not empty, so null leads it nowhere.
          obtain ⟨u, q', rfl⟩ : ∃ u q', q = u :: q' := by
            cases q with
            | nil => exact absurd List.nil_prefix hqp'
            | cons u q' => exact ⟨u, q', rfl⟩
          simpa [hc, reach?] using hq
      · rcases hother t hts with heq | ⟨hnone, hnull⟩
        · left
          simp only [reach?, heq]
        · simp only [reach?, hnone, hnull, Option.bind_none, Option.bind_some, true_and]
          cases q with
          | nil => exact .inr rfl
          | cons u q' => left; simp [reach?]

end Value
end Patchwork
