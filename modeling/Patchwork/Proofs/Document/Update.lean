import Patchwork.Proofs.Document.Reach

/-!
# Writes as updates

A write either fails or gives a new document.  `Value.update?` is the new document alone, apart from
the error and the place that an error names: it goes down along the path, child by child, and puts
each child back.

* `Value.writeFrom_eq_ok` — a write succeeds exactly with the document that the update gives.
* `Value.update?_of_reach?` — writing what is there changes nothing.
* `Value.update?_initial` — a write undoes an earlier one further down its path.
* `Value.update?_update?` — of two writes at one path only the last one counts.
* `Value.update?_comm` — writes to paths that part within the document can change places.
-/

set_option autoImplicit false

namespace Patchwork
namespace Value

variable {s t : Segment} {node c v w u : Value} {p q r rest : FieldPath}

/-! ## Positions and entries -/

theorem setPadded_getElem? (v : Value) (i k : Nat) (items : List Value) :
    (setPadded v i items)[k]? =
      if k = i then some v else if k < i then some (items[k]?.getD .null) else items[k]? := by
  by_cases hk : k = i
  · rw [hk, setPadded_getElem?_self, if_pos rfl]
  · rw [setPadded_eq_set, padTo, List.getElem?_set_ne (Ne.symm hk), if_neg hk]
    by_cases hlt : k < items.length
    · rw [List.getElem?_append_left hlt, List.getElem?_eq_getElem hlt]
      split <;> rfl
    · rw [List.getElem?_append_right (by omega), List.getElem?_replicate,
        List.getElem?_eq_none (by omega)]
      simp only [Option.getD_none]
      split <;> split <;> first | rfl | omega

theorem length_setPadded (v : Value) (i : Nat) (items : List Value) :
    (setPadded v i items).length = max items.length (i + 1) := by
  rw [setPadded_eq_set, List.length_set, padTo, List.length_append, List.length_replicate]
  omega

theorem setPadded_of_getElem? {i : Nat} {items : List Value} (h : items[i]? = some v) :
    setPadded v i items = items := by
  obtain ⟨hi, hitem⟩ := List.getElem?_eq_some_iff.1 h
  rw [setPadded, if_pos hi, ← hitem, List.set_getElem_self]

theorem setPadded_setPadded (v w : Value) (i : Nat) (items : List Value) :
    setPadded w i (setPadded v i items) = setPadded w i items := by
  have hi : i < (setPadded v i items).length := by
    rw [length_setPadded]
    omega
  rw [setPadded, if_pos hi, setPadded_eq_set, setPadded_eq_set, List.set_set]

theorem setPadded_comm {i j : Nat} (h : i ≠ j) (v w : Value) (items : List Value) :
    setPadded w j (setPadded v i items) = setPadded v i (setPadded w j items) := by
  apply List.ext_getElem?
  intro k
  simp only [setPadded_getElem?]
  grind

theorem insert_insert (key : Text) (v w : Value) (entries : List (Value × Value)) :
    insert key w (insert key v entries) = insert key w entries := by
  fun_induction insert key v entries <;> simp_all [insert]

/-- An entry that is there can be written before or after another. -/
theorem insert_comm_of_lookup {key other : Text} (h : key ≠ other)
    {entries : List (Value × Value)} (hkey : lookup key entries = some c) (v w : Value) :
    insert key v (insert other w entries) = insert other w (insert key v entries) := by
  fun_induction lookup key entries with
  | case1 => cases hkey
  | case2 x rest => simp [insert, h]
  | case3 k x rest hne ih =>
    by_cases hk : k = other
    · subst hk
      simp only [insert, hne, if_true, if_false]
    · simp only [insert, hne, hk, if_false, ih hkey]
  | case4 entry rest hne ih => simp_all [insert]

/-! ## Children -/

/-- A write can go on through a node along a segment: the node is null or a container of the right
kind, and an array can be padded as far as it takes. -/
def opens [Machine] : Segment → Value → Bool
  | .index i, .null => decide (i < Machine.maxItems)
  | .index i, .list items => decide (i < items.length ∨ i < Machine.maxItems)
  | .field _, .null | .field _, .map _ => true
  | _, _ => false

/-- The node with another child where a segment leads; null counts as an empty container. -/
def putChild : Segment → (item node : Value) → Value
  | .index i, item, .list items => .list (setPadded item i items)
  | .index i, item, _ => .list (setPadded item i [])
  | .field name, item, .map entries => .map (insert name item entries)
  | .field name, item, _ => .map (insert name item [])

@[simp] theorem child?_putChild_self : child? s (putChild s v node) = some v := by
  cases s <;> cases node <;>
    simp only [putChild, child?, setPadded_getElem?_self, lookup_insert_self]

/-- Another child is what it was, or null where there was none. -/
theorem child?_putChild_of_ne [Machine] (h : t ≠ s) (hs : opens s node = true) :
    child? t (putChild s v node) = child? t node ∨
      (child? t node = none ∧ child? t (putChild s v node) = some .null) := by
  cases s with
  | index i =>
    cases t with
    | index j =>
      have hj : j ≠ i := fun e => h (by rw [e])
      cases node <;> simp only [opens, Bool.false_eq_true] at hs
      case null => exact setPadded_getElem?_of_ne hj v []
      case list items => exact setPadded_getElem?_of_ne hj v items
    | field name =>
      left
      cases node <;> simp only [opens, Bool.false_eq_true] at hs <;> rfl
  | field name =>
    left
    cases t with
    | index j => cases node <;> simp only [opens, Bool.false_eq_true] at hs <;> rfl
    | field other =>
      have hne : other ≠ name := fun e => h (by rw [e])
      cases node <;> simp only [opens, Bool.false_eq_true] at hs
      case null => exact lookup_insert_of_ne hne v []
      case map entries => exact lookup_insert_of_ne hne v entries

theorem getD_child?_putChild_of_ne [Machine] (h : t ≠ s) (hs : opens s node = true) :
    (child? t (putChild s v node)).getD .null = (child? t node).getD .null := by
  rcases child?_putChild_of_ne (v := v) h hs with heq | ⟨hnone, hnull⟩
  · rw [heq]
  · rw [hnone, hnull]
    rfl

theorem opens_of_child? [Machine] (h : child? s node = some c) : opens s node = true := by
  cases s <;> cases node <;> simp only [child?, reduceCtorEq] at h
  case index.list i items =>
    have hi : i < items.length := (List.getElem?_eq_some_iff.1 h).1
    simp [opens, hi]
  case field.map => rfl

theorem putChild_of_child? (h : child? s node = some c) : putChild s c node = node := by
  cases s <;> cases node <;> simp only [child?, reduceCtorEq] at h
  case index.list => rw [putChild, setPadded_of_getElem? h]
  case field.map => rw [putChild, insert_of_lookup h]

theorem putChild_putChild : putChild s w (putChild s v node) = putChild s w node := by
  cases s <;> cases node <;> simp only [putChild, setPadded_setPadded, insert_insert]

theorem opens_putChild_self [Machine] : opens s (putChild s v node) = true :=
  opens_of_child? child?_putChild_self

theorem opens_putChild_of_child? [Machine] (hs : child? s node = some c)
    (ht : opens t node = true) :
    opens t (putChild s v node) = true := by
  cases s <;> cases node <;> simp only [child?, reduceCtorEq] at hs <;>
    cases t <;> simp only [opens, Bool.false_eq_true] at ht
  case index.list.index i items j =>
    simp only [opens, putChild, length_setPadded, decide_eq_true_eq] at ht ⊢
    omega
  case field.map.field => rfl

theorem opens_swap [Machine] (hs : opens s node = true) (ht : opens t (putChild s v node) = true) :
    opens t node = true ∧ opens s (putChild t w node) = true := by
  cases s <;> cases node <;> simp only [opens, Bool.false_eq_true] at hs <;>
    cases t <;> simp only [putChild, opens, Bool.false_eq_true] at ht
  case index.null.index i j =>
    simp only [opens, putChild, length_setPadded, decide_eq_true_eq, List.length_nil] at hs ht ⊢
    omega
  case index.list.index i items j =>
    simp only [opens, putChild, length_setPadded, decide_eq_true_eq] at hs ht ⊢
    omega
  case field.null.field => exact ⟨rfl, rfl⟩
  case field.map.field => exact ⟨rfl, rfl⟩

theorem putChild_comm_of_child? [Machine] (h : s ≠ t) (hs : child? s node = some c)
    (ht : opens t node = true) :
    putChild s v (putChild t w node) = putChild t w (putChild s v node) := by
  cases s <;> cases node <;> simp only [child?, reduceCtorEq] at hs <;>
    cases t <;> simp only [opens, Bool.false_eq_true] at ht
  case index.list.index i items j =>
    have hij : j ≠ i := fun e => h (by rw [e])
    rw [putChild, putChild, putChild, putChild, setPadded_comm hij]
  case field.map.field name entries other =>
    have hne : name ≠ other := fun e => h (by rw [e])
    rw [putChild, putChild, putChild, putChild, insert_comm_of_lookup hne hs]

/-! ## Updates -/

/-- The node with a value written where a path leads from it, if it can be. -/
def update? [Machine] : FieldPath → (value node : Value) → Option Value
  | [], value, _ => some value
  | s :: rest, value, node =>
    if opens s node then
      (update? rest value ((child? s node).getD .null)).map (putChild s · node)
    else none

@[simp] theorem update?_nil [Machine] : update? [] v node = some v := rfl

theorem update?_cons [Machine] :
    update? (s :: rest) v node = some w ↔
      opens s node = true ∧ ∃ item, update? rest v ((child? s node).getD .null) = some item ∧
        putChild s item node = w := by
  rw [update?]
  split
  · rename_i h
    simp [h]
  · rename_i h
    simp [h]

theorem checkGrowth_bind_eq_ok [Machine] {trail : FieldPath} {i : Nat} {items : List Value}
    {next : Except PathError Value} :
    (checkGrowth trail i items >>= fun _ => next) = .ok w ↔
      (i < items.length ∨ i < Machine.maxItems) ∧ next = .ok w := by
  rw [← checkGrowth_eq_ok, bind_eq_ok]
  constructor
  · rintro ⟨_, hgrowth, hnext⟩
    exact ⟨hgrowth, hnext⟩
  · rintro ⟨hgrowth, hnext⟩
    exact ⟨(), hgrowth, hnext⟩

/-- One step of a write goes through a node that opens, and puts the child back. -/
theorem writeFrom_cons_eq_ok [Machine] {trail : FieldPath} :
    writeFrom trail (s :: rest) v node = .ok w ↔
      opens s node = true ∧
        ∃ item, writeFrom (trail ++ [s]) rest v ((child? s node).getD .null) = .ok item ∧
          putChild s item node = w := by
  cases s with
  | index i =>
    cases node
    case null | list =>
      simp only [writeFrom, itemsAt, ok_bind, checkGrowth_bind_eq_ok, List.getD_eq_getElem?_getD,
        opens, child?, putChild, decide_eq_true_eq, List.length_nil, Nat.not_lt_zero, false_or,
        List.getElem?_nil]
      exact and_congr_right fun _ => map_eq_ok
    all_goals simp [writeFrom, itemsAt, opens]
  | field name =>
    cases node
    case null | map =>
      simp only [writeFrom, entriesAt, ok_bind, field, fieldOr, child?, putChild, opens, true_and]
      exact map_eq_ok
    all_goals simp [writeFrom, entriesAt, opens]

/-- **A write succeeds exactly with the document that the update gives.** -/
theorem writeFrom_eq_ok [Machine] {trail path : FieldPath} :
    writeFrom trail path v node = .ok w ↔ update? path v node = some w := by
  induction path generalizing trail node w with
  | nil => simp [writeFrom]
  | cons s rest ih => simp only [writeFrom_cons_eq_ok, update?_cons, ih]

/-! ## What paths reach after an update -/

theorem reach?_update?_append [Machine] (h : update? p v node = some w) (rest : FieldPath) :
    reach? (p ++ rest) w = reach? rest v := by
  have hwrite : writeFrom [] p v node = .ok w := writeFrom_eq_ok.2 h
  exact reach?_write_append hwrite rest

theorem reach?_update?_self [Machine] (h : update? p v node = some w) : reach? p w = some v := by
  have hself := reach?_update?_append h []
  rwa [List.append_nil] at hself

theorem reach?_update?_of_apart [Machine] (h : update? p v node = some w) (hpr : ¬ p <+: r)
    (hrp : ¬ r <+: p) (hr : reach? r node = some c) : reach? r w = some c := by
  have hwrite : writeFrom [] p v node = .ok w := writeFrom_eq_ok.2 h
  rcases reach?_write_diverging hwrite hpr hrp with heq | ⟨hnone, -⟩
  · exact heq.trans hr
  · rw [hnone] at hr
    cases hr

/-- What was reached stays reached, unless the write cuts the way to it. -/
theorem exists_reach?_update? [Machine] (h : update? p v node = some w) (hcut : p <+: r → p = r)
    (hr : ∃ c, reach? r node = some c) : ∃ c, reach? r w = some c := by
  by_cases hpr : p <+: r
  · rw [← hcut hpr]
    exact ⟨v, reach?_update?_self h⟩
  · by_cases hrp : r <+: p
    · obtain ⟨more, rfl⟩ := hrp
      have hself := reach?_update?_self h
      rw [reach?_append] at hself
      obtain ⟨c, hc, -⟩ := Option.bind_eq_some_iff.1 hself
      exact ⟨c, hc⟩
    · obtain ⟨c, hc⟩ := hr
      exact ⟨c, reach?_update?_of_apart h hpr hrp hc⟩

/-! ## Laws of updates -/

/-- **Writing what is there changes nothing.** -/
theorem update?_of_reach? [Machine] (h : reach? p node = some v) :
    update? p v node = some node := by
  induction p generalizing node with
  | nil => exact h.symm
  | cons s rest ih =>
    obtain ⟨c, hc, hrest⟩ := Option.bind_eq_some_iff.1 h
    refine update?_cons.2 ⟨opens_of_child? hc, c, ?_, putChild_of_child? hc⟩
    rw [hc, Option.getD_some]
    exact ih hrest

/-- **A write undoes an earlier one further down its path**: the result is the same as without
it. -/
theorem update?_initial [Machine] (h : update? (p ++ r) v node = some w) (u : Value) :
    ∃ z, update? p u node = some z ∧ update? p u w = some z := by
  induction p generalizing node w with
  | nil => exact ⟨u, rfl, rfl⟩
  | cons s rest ih =>
    obtain ⟨hopens, item, hitem, rfl⟩ := update?_cons.1 h
    obtain ⟨z, hz, hz'⟩ := ih hitem
    refine ⟨putChild s z node, update?_cons.2 ⟨hopens, z, hz, rfl⟩,
      update?_cons.2 ⟨opens_putChild_self, z, ?_, putChild_putChild⟩⟩
    rw [child?_putChild_self, Option.getD_some]
    exact hz'

/-- **Of two writes at one path only the last one counts.** -/
theorem update?_update? [Machine] (h : update? p v node = some w) (u : Value) :
    ∃ z, update? p u node = some z ∧ update? p u w = some z := by
  refine update?_initial (r := []) (v := v) ?_ u
  rwa [List.append_nil]

theorem exists_update? [Machine] (h : update? p v node = some w) (u : Value) :
    ∃ z, update? p u node = some z := by
  obtain ⟨z, hz, -⟩ := update?_update? h u
  exact ⟨z, hz⟩

/-- Within a node, `p` parts from `q` where something is: an initial part of `p` that leaves `q`
reaches a value. -/
def PartsWithin (node : Value) (p q : FieldPath) : Prop :=
  ∃ r, r <+: p ∧ ¬ r <+: q ∧ ∃ c, reach? r node = some c

/-- **Writes to paths that part within a node can change places**: the node stays the same to the
order of entries, since the first of the two adds none where they part. -/
theorem update?_comm [Machine] {a b : Value} (hparts : PartsWithin node p q) (hqp : ¬ q <+: p)
    (ha : update? p u node = some a) (hb : update? q v node = some b) :
    ∃ z, update? p u b = some z ∧ update? q v a = some z := by
  induction p generalizing q node a b with
  | nil =>
    obtain ⟨r, hrp, hrq, -⟩ := hparts
    rw [List.prefix_nil.1 hrp] at hrq
    exact absurd List.nil_prefix hrq
  | cons s p ih =>
    obtain ⟨hs, item, hitem, rfl⟩ := update?_cons.1 ha
    obtain ⟨r, hrp, hrq, c, hr⟩ := hparts
    cases r with
    | nil => exact absurd List.nil_prefix hrq
    | cons s' r =>
      obtain ⟨rfl, hrp'⟩ := List.cons_prefix_cons.1 hrp
      obtain ⟨child, hchild, hr⟩ := Option.bind_eq_some_iff.1 hr
      cases q with
      | nil => exact absurd List.nil_prefix hqp
      | cons t q =>
        obtain ⟨ht, item', hitem', rfl⟩ := update?_cons.1 hb
        by_cases hst : s' = t
        · -- Both go down to the same child, which is there, and part below it.
          subst hst
          rw [hchild, Option.getD_some] at hitem hitem'
          have hrq : ¬ r <+: q := fun h => hrq (List.cons_prefix_cons.2 ⟨rfl, h⟩)
          have hqp : ¬ q <+: p := fun h => hqp (List.cons_prefix_cons.2 ⟨rfl, h⟩)
          obtain ⟨z, hz, hz'⟩ := ih ⟨r, hrp', hrq, c, hr⟩ hqp hitem hitem'
          refine ⟨putChild s' z node,
            update?_cons.2 ⟨opens_putChild_self, z, ?_, putChild_putChild⟩,
            update?_cons.2 ⟨opens_putChild_self, z, ?_, putChild_putChild⟩⟩
          · rwa [child?_putChild_self, Option.getD_some]
          · rwa [child?_putChild_self, Option.getD_some]
        · -- They part here, and the child of the first is there.
          have hta := opens_putChild_of_child? (v := item) hchild ht
          obtain ⟨-, hsb⟩ := opens_swap (w := item') hs hta
          refine ⟨putChild s' item (putChild t item' node),
            update?_cons.2 ⟨hsb, item, ?_, rfl⟩,
            update?_cons.2 ⟨hta, item', ?_, (putChild_comm_of_child? hst hchild ht).symm⟩⟩
          · rwa [getD_child?_putChild_of_ne hst ht]
          · rwa [getD_child?_putChild_of_ne (Ne.symm hst) hs]

end Value
end Patchwork
