import Patchwork.Proofs.Document.Run

/-!
# Documents up to the order of entries

Updates add entries at the end of a map, so the order of two updates shows in the order of the
entries that they add, and, when their paths are apart, nowhere else.

* `Value.Reordered` — two values are the same but for the order of entries in maps.
* `Value.Reordered.update?` — the same update of two such values gives two such values.
* `Value.update?_swap` — two updates at paths that are apart can be done in the other order.
* `Value.updates?_perm` — a run of updates at paths that are apart can be done in any order.
-/

set_option autoImplicit false

namespace Patchwork
namespace Value

variable {s t : Segment} {node a b c v w u : Value} {p q : FieldPath} {key : Text}
  {entries es fs : List (Value × Value)} {xs ys : List Value}

/-! ## Keys -/

def keys (entries : List (Value × Value)) : List Value := entries.map (·.1)

theorem exists_lookup_iff : (∃ v, lookup key entries = some v) ↔ .str key ∈ keys entries := by
  fun_induction lookup key entries with
  | case1 => simp [keys]
  | case2 v rest => simp [keys]
  | case3 k v rest hne ih =>
    rw [ih, keys, keys, List.map_cons, List.mem_cons, Value.str.injEq]
    exact ⟨.inr, fun h => h.resolve_left fun hk => hne hk.symm⟩
  | case4 entry rest hne ih =>
    rw [ih, keys, keys, List.map_cons, List.mem_cons]
    exact ⟨.inr, fun h => h.resolve_left fun hk => hne key entry.2 (Prod.ext hk.symm rfl)⟩

theorem keys_insert_of_lookup (h : lookup key entries = some c) (v : Value) :
    keys (insert key v entries) = keys entries := by
  fun_induction insert key v entries <;> simp_all [keys, lookup]

theorem keys_insert_of_none (h : lookup key entries = none) (v : Value) :
    keys (insert key v entries) = keys entries ++ [.str key] := by
  fun_induction insert key v entries <;> simp_all [keys, lookup]

/-! ## The same but for the order of entries -/

/-- The values are the same but for the order of the entries of maps in them: arrays have the same
items place by place, and maps the same keys with the same values.  Keys are strings, as they are in
all that JSON can hold. -/
inductive Reordered : Value → Value → Prop
  | refl (v : Value) : Reordered v v
  | list {xs ys : List Value} (hlength : xs.length = ys.length)
      (hitems : ∀ (i : Nat) (v w : Value), xs[i]? = some v → ys[i]? = some w → Reordered v w) :
      Reordered (.list xs) (.list ys)
  | map {es fs : List (Value × Value)} (hkeys : (keys es).Perm (keys fs))
      (hvalues : ∀ key v w, lookup key es = some v → lookup key fs = some w → Reordered v w) :
      Reordered (.map es) (.map fs)

theorem lookup_of_keys_perm (h : (keys es).Perm (keys fs)) (key : Text) :
    (lookup key es = none ∧ lookup key fs = none) ∨
      ∃ v w, lookup key es = some v ∧ lookup key fs = some w := by
  have hiff : (∃ v, lookup key es = some v) ↔ ∃ w, lookup key fs = some w := by
    rw [exists_lookup_iff, exists_lookup_iff, h.mem_iff]
  cases hes : lookup key es <;> cases hfs : lookup key fs <;> simp_all

namespace Reordered

/-- Children under the same segment are the same but for the order, or missing both. -/
theorem child? (h : Reordered a b) (s : Segment) :
    (child? s a = none ∧ child? s b = none) ∨
      ∃ v w, child? s a = some v ∧ child? s b = some w ∧ Reordered v w := by
  cases h with
  | refl =>
    cases hc : Value.child? s a with
    | none => exact .inl ⟨rfl, rfl⟩
    | some c => exact .inr ⟨c, c, rfl, rfl, .refl c⟩
  | list hlength hitems =>
    rename_i xs ys
    cases s with
    | field name => exact .inl ⟨rfl, rfl⟩
    | index i =>
      by_cases hi : i < xs.length
      · have hi' : i < ys.length := hlength ▸ hi
        have hx : xs[i]? = some xs[i] := List.getElem?_eq_getElem hi
        have hy : ys[i]? = some ys[i] := List.getElem?_eq_getElem hi'
        exact .inr ⟨_, _, hx, hy, hitems i _ _ hx hy⟩
      · exact .inl ⟨List.getElem?_eq_none (by omega), List.getElem?_eq_none (by omega)⟩
  | map hkeys hvalues =>
    cases s with
    | index i => exact .inl ⟨rfl, rfl⟩
    | field name =>
      rcases lookup_of_keys_perm hkeys name with hnone | ⟨v, w, hv, hw⟩
      · exact .inl hnone
      · exact .inr ⟨v, w, hv, hw, hvalues name v w hv hw⟩

theorem getD_child? (h : Reordered a b) (s : Segment) :
    Reordered ((Value.child? s a).getD .null) ((Value.child? s b).getD .null) := by
  rcases h.child? s with ⟨ha, hb⟩ | ⟨v, w, ha, hb, hvw⟩
  · rw [ha, hb]
    exact .refl _
  · rw [ha, hb]
    exact hvw

theorem opens_eq [Machine] (h : Reordered a b) (s : Segment) : opens s a = opens s b := by
  cases h with
  | refl => rfl
  | list hlength _ => cases s <;> simp only [opens, hlength]
  | map => cases s <;> rfl

theorem exists_map (h : Reordered (.map es) b) : ∃ fs, b = .map fs := by
  cases h with
  | refl => exact ⟨es, rfl⟩
  | map => exact ⟨_, rfl⟩

theorem trans (hab : Reordered a b) (hbc : Reordered b c) : Reordered a c := by
  induction hab generalizing c with
  | refl => exact hbc
  | list hlength hitems ih =>
    rename_i xs ys
    cases hbc with
    | refl => exact .list hlength hitems
    | list hlength' hitems' =>
      refine .list (hlength.trans hlength') fun i v w hv hw => ?_
      have hi : i < ys.length := by
        rw [← hlength]
        exact (List.getElem?_eq_some_iff.1 hv).1
      have hy : ys[i]? = some ys[i] := List.getElem?_eq_getElem hi
      exact ih i v _ hv hy (hitems' i _ w hy hw)
  | map hkeys hvalues ih =>
    cases hbc with
    | refl => exact .map hkeys hvalues
    | map hkeys' hvalues' =>
      refine .map (hkeys.trans hkeys') fun key v w hv hw => ?_
      rcases lookup_of_keys_perm hkeys key with ⟨hnone, -⟩ | ⟨_, x, -, hx⟩
      · rw [hnone] at hv
        cases hv
      · exact ih key v x hv hx (hvalues' key x w hx hw)

theorem setPadded (hlength : xs.length = ys.length)
    (hitems : ∀ (i : Nat) (v w : Value), xs[i]? = some v → ys[i]? = some w → Reordered v w)
    (h : Reordered v w) (i : Nat) :
    Reordered (.list (Value.setPadded v i xs)) (.list (Value.setPadded w i ys)) := by
  refine .list (by rw [length_setPadded, length_setPadded, hlength]) fun j x y hx hy => ?_
  rw [setPadded_getElem?] at hx hy
  by_cases hji : j = i
  · rw [if_pos hji, Option.some.injEq] at hx hy
    rwa [← hx, ← hy]
  · rw [if_neg hji] at hx hy
    by_cases hlt : j < i
    · rw [if_pos hlt, Option.some.injEq] at hx hy
      rw [← hx, ← hy]
      exact (Reordered.list hlength hitems).getD_child? (.index j)
    · rw [if_neg hlt] at hx hy
      exact hitems j x y hx hy

theorem insert (hkeys : (keys es).Perm (keys fs))
    (hvalues : ∀ key v w, lookup key es = some v → lookup key fs = some w → Reordered v w)
    (h : Reordered v w) (key : Text) :
    Reordered (.map (Value.insert key v es)) (.map (Value.insert key w fs)) := by
  refine .map ?_ fun other x y hx hy => ?_
  · rcases lookup_of_keys_perm hkeys key with ⟨hes, hfs⟩ | ⟨x, y, hes, hfs⟩
    · rw [keys_insert_of_none hes, keys_insert_of_none hfs]
      exact hkeys.append_right _
    · rw [keys_insert_of_lookup hes, keys_insert_of_lookup hfs]
      exact hkeys
  · by_cases hother : other = key
    · subst hother
      rw [lookup_insert_self, Option.some.injEq] at hx hy
      rwa [← hx, ← hy]
    · rw [lookup_insert_of_ne hother] at hx hy
      exact hvalues other x y hx hy

/-- Children that are the same but for the order can be put into nodes that are. -/
theorem putChild (h : Reordered a b) (hvw : Reordered v w) (s : Segment) :
    Reordered (Value.putChild s v a) (Value.putChild s w b) := by
  have hitems : ∀ (xs : List Value) (i : Nat) (v w : Value), xs[i]? = some v → xs[i]? = some w →
      Reordered v w := by
    intro xs i v w hv hw
    rw [hv, Option.some.injEq] at hw
    exact hw ▸ .refl v
  have hvalues : ∀ (es : List (Value × Value)) key v w, lookup key es = some v →
      lookup key es = some w → Reordered v w := by
    intro es key v w hv hw
    rw [hv, Option.some.injEq] at hw
    exact hw ▸ .refl v
  cases s with
  | index i =>
    cases h with
    | refl => cases a <;> exact setPadded rfl (hitems _) hvw i
    | list hlength hitems => exact setPadded hlength hitems hvw i
    | map => exact setPadded rfl (hitems []) hvw i
  | field name =>
    cases h with
    | refl => cases a <;> exact insert (.refl _) (hvalues _) hvw name
    | list => exact insert (.refl _) (hvalues []) hvw name
    | map hkeys hvalues => exact insert hkeys hvalues hvw name

/-- **The same update of values that are the same but for the order** gives such values. -/
theorem update? [Machine] (h : Reordered a b) (hw : Value.update? p v a = some w) :
    ∃ w', Value.update? p v b = some w' ∧ Reordered w w' := by
  induction p generalizing a b w with
  | nil =>
    cases hw
    exact ⟨v, rfl, .refl v⟩
  | cons s p ih =>
    obtain ⟨hopens, item, hitem, rfl⟩ := update?_cons.1 hw
    obtain ⟨item', hitem', hitems⟩ := ih (h.getD_child? s) hitem
    rw [h.opens_eq] at hopens
    exact ⟨_, update?_cons.2 ⟨hopens, item', hitem', rfl⟩, h.putChild hitems s⟩

end Reordered

/-! ## Two updates in the other order -/

/-- Two entries can be written in either order, but for their order. -/
theorem reordered_insert_insert {other : Text} (h : key ≠ other) (v w : Value)
    (entries : List (Value × Value)) :
    Reordered (.map (insert other w (insert key v entries)))
      (.map (insert key v (insert other w entries))) := by
  cases hkey : lookup key entries with
  | some c => rw [insert_comm_of_lookup h hkey]; exact .refl _
  | none =>
    cases hother : lookup other entries with
    | some c => rw [insert_comm_of_lookup h.symm hother]; exact .refl _
    | none =>
      refine .map ?_ fun k x y hx hy => ?_
      · rw [keys_insert_of_none, keys_insert_of_none hkey, keys_insert_of_none,
          keys_insert_of_none hother, List.append_assoc, List.append_assoc]
        · exact (List.Perm.swap _ _ _).append_left _
        · rwa [lookup_insert_of_ne h]
        · rwa [lookup_insert_of_ne h.symm]
      · have hsame : lookup k (insert other w (insert key v entries)) =
            lookup k (insert key v (insert other w entries)) := by
          by_cases hk : k = key
          · subst hk
            rw [lookup_insert_of_ne h, lookup_insert_self, lookup_insert_self]
          · by_cases hk' : k = other
            · subst hk'
              rw [lookup_insert_self, lookup_insert_of_ne h.symm, lookup_insert_self]
            · simp only [lookup_insert_of_ne, hk, hk', ne_eq, not_false_eq_true]
        rw [hsame, hy, Option.some.injEq] at hx
        exact hx ▸ .refl _

/-- Two children can be put in either order, but for the order of entries. -/
theorem reordered_putChild_putChild [Machine] (h : s ≠ t) (hs : opens s node = true)
    (ht : opens t (putChild s v node) = true) :
    Reordered (putChild t w (putChild s v node)) (putChild s v (putChild t w node)) := by
  cases s with
  | index i =>
    cases t with
    | index j =>
      have hij : i ≠ j := fun e => h (by rw [e])
      cases node <;> simp only [opens, Bool.false_eq_true] at hs <;>
        simp only [putChild, setPadded_comm hij] <;> exact .refl _
    | field name =>
      cases node <;> simp only [opens, putChild, Bool.false_eq_true] at hs ht
  | field name =>
    cases t with
    | index j => cases node <;> simp only [opens, putChild, Bool.false_eq_true] at hs ht
    | field other =>
      have hne : name ≠ other := fun e => h (by rw [e])
      cases node <;> simp only [opens, Bool.false_eq_true] at hs <;>
        exact reordered_insert_insert hne v w _

/-- **Two updates at paths that are apart can be done in the other order**, but for the order of the
entries that they add. -/
theorem update?_swap [Machine] (hpq : FieldPath.Apart p q) (ha : update? p u node = some a)
    (hb : update? q v a = some b) :
    ∃ a' b', update? q v node = some a' ∧ update? p u a' = some b' ∧ Reordered b b' := by
  induction p generalizing q node a b with
  | nil => exact absurd List.nil_prefix hpq.1
  | cons s p ih =>
    cases q with
    | nil => exact absurd List.nil_prefix hpq.2
    | cons t q =>
      obtain ⟨hs, item, hitem, rfl⟩ := update?_cons.1 ha
      obtain ⟨ht, item', hitem', rfl⟩ := update?_cons.1 hb
      by_cases hst : s = t
      · subst hst
        rw [child?_putChild_self, Option.getD_some] at hitem'
        obtain ⟨x, y, hx, hy, hxy⟩ := ih hpq.of_cons hitem hitem'
        refine ⟨putChild s x node, putChild s y node, update?_cons.2 ⟨hs, x, hx, rfl⟩,
          update?_cons.2 ⟨opens_putChild_self, y, ?_, putChild_putChild⟩, ?_⟩
        · rwa [child?_putChild_self, Option.getD_some]
        · rw [putChild_putChild]
          exact (Reordered.refl node).putChild hxy s
      · -- The paths part here: neither child matters for the other.
        rw [getD_child?_putChild_of_ne (Ne.symm hst) hs] at hitem'
        obtain ⟨ht', hs'⟩ := opens_swap (w := item') hs ht
        refine ⟨putChild t item' node, putChild s item (putChild t item' node),
          update?_cons.2 ⟨ht', item', hitem', rfl⟩, update?_cons.2 ⟨hs', item, ?_, rfl⟩,
          reordered_putChild_putChild hst hs ht⟩
        rwa [getD_child?_putChild_of_ne hst ht']

/-! ## Runs in any order -/

theorem Reordered.updates? [Machine] {ws : List (FieldPath × Value)} (h : Reordered a b)
    (hw : Value.updates? ws a = some w) :
    ∃ w', Value.updates? ws b = some w' ∧ Reordered w w' := by
  induction ws generalizing a b with
  | nil =>
    cases hw
    exact ⟨b, rfl, h⟩
  | cons x ws ih =>
    obtain ⟨n, hn, hw⟩ := updates?_cons.1 hw
    obtain ⟨n', hn', hnn⟩ := h.update? hn
    obtain ⟨w', hw', hww⟩ := ih hnn hw
    exact ⟨w', updates?_cons.2 ⟨n', hn', hw'⟩, hww⟩

/-- **A run of updates at paths that are apart can be done in any order**, but for the order of the
entries that it adds. -/
theorem updates?_perm [Machine] {ws ws' : List (FieldPath × Value)} (hperm : ws.Perm ws')
    (hws : ws.Pairwise fun x y => FieldPath.Apart x.1 y.1) (h : updates? ws node = some w) :
    ∃ w', updates? ws' node = some w' ∧ Reordered w w' := by
  induction hperm generalizing node w with
  | nil => exact ⟨w, h, .refl w⟩
  | cons x _ ih =>
    obtain ⟨n, hn, hw⟩ := updates?_cons.1 h
    obtain ⟨w', hw', hww⟩ := ih (List.pairwise_cons.1 hws).2 hw
    exact ⟨w', updates?_cons.2 ⟨n, hn, hw'⟩, hww⟩
  | swap x y ws =>
    obtain ⟨n, hn, hrest⟩ := updates?_cons.1 h
    obtain ⟨m, hm, hw⟩ := updates?_cons.1 hrest
    have hapart : FieldPath.Apart y.1 x.1 :=
      (List.pairwise_cons.1 hws).1 x List.mem_cons_self
    obtain ⟨n', m', hn', hm', hmm⟩ := update?_swap hapart hn hm
    obtain ⟨w', hw', hww⟩ := hmm.updates? hw
    exact ⟨w', updates?_cons.2 ⟨n', hn', updates?_cons.2 ⟨m', hm', hw'⟩⟩, hww⟩
  | trans hperm _ ih ih' =>
    obtain ⟨x, hx, hwx⟩ := ih hws h
    have hws' := (hperm.pairwise_iff fun h => And.symm h).1 hws
    obtain ⟨w', hw', hxw⟩ := ih' hws' hx
    exact ⟨w', hw', hwx.trans hxw⟩

end Value
end Patchwork
