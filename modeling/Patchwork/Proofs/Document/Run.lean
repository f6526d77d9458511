import Patchwork.Proofs.Document.Update
import Mathlib.Data.List.Induction

/-!
# Runs of updates

A run of updates writes one value after another into a document.  What a path reaches after a run is
said by what the later updates leave alone; and a run that no later update undoes can be done again
without any change.

* `Value.reach?_updates?_of_apart` — what was reached stays while updates write elsewhere.
* `Value.updates?_beside_update` — a run beside the document with one more update: each step keeps
  the two documents that one update apart, or writes above it and makes them the same.
* `Value.updates?_again` — a run, done again on its own result, gives that result.
-/

set_option autoImplicit false

namespace Patchwork

/-- Neither path is an initial part of the other. -/
def FieldPath.Apart (p q : FieldPath) : Prop := ¬ p <+: q ∧ ¬ q <+: p

theorem FieldPath.Apart.of_cons {s : Segment} {p q : FieldPath} (h : Apart (s :: p) (s :: q)) :
    Apart p q :=
  ⟨fun hpq => h.1 (List.cons_prefix_cons.2 ⟨rfl, hpq⟩),
    fun hqp => h.2 (List.cons_prefix_cons.2 ⟨rfl, hqp⟩)⟩

namespace Value

variable {p q r : FieldPath} {node c v w u : Value} {ws : List (FieldPath × Value)}

/-- The document after values were written at paths, one after the other, if they can be. -/
def updates? [Machine] (ws : List (FieldPath × Value)) (node : Value) : Option Value :=
  ws.foldlM (fun n w => update? w.1 w.2 n) node

theorem updates?_cons [Machine] :
    updates? ((p, u) :: ws) node = some w ↔
      ∃ n, update? p u node = some n ∧ updates? ws n = some w := by
  rw [updates?, List.foldlM_cons]
  exact Option.bind_eq_some_iff

theorem updates?_append [Machine] {ws' : List (FieldPath × Value)} :
    updates? (ws ++ ws') node = some w ↔
      ∃ n, updates? ws node = some n ∧ updates? ws' n = some w := by
  rw [updates?, List.foldlM_append]
  exact Option.bind_eq_some_iff

/-! ## What paths reach after a run -/

theorem exists_reach?_updates? [Machine] (h : updates? ws node = some w)
    (hcut : ∀ a ∈ ws, a.1 <+: r → a.1 = r) (hr : ∃ c, reach? r node = some c) :
    ∃ c, reach? r w = some c := by
  induction ws generalizing node with
  | nil =>
    cases h
    exact hr
  | cons a ws ih =>
    obtain ⟨n, hn, hw⟩ := updates?_cons.1 h
    have hhead := exists_reach?_update? hn (hcut a List.mem_cons_self) hr
    exact ih hw (fun b hb => hcut b (List.mem_cons_of_mem a hb)) hhead

/-- **What was reached stays while updates write elsewhere.** -/
theorem reach?_updates?_of_apart [Machine] (h : updates? ws node = some w)
    (hapart : ∀ a ∈ ws, FieldPath.Apart a.1 r) (hr : reach? r node = some c) :
    reach? r w = some c := by
  induction ws generalizing node with
  | nil =>
    cases h
    exact hr
  | cons a ws ih =>
    obtain ⟨n, hn, hw⟩ := updates?_cons.1 h
    obtain ⟨har, hra⟩ := hapart a List.mem_cons_self
    exact ih hw (fun b hb => hapart b (List.mem_cons_of_mem a hb))
      (reach?_update?_of_apart hn har hra hr)

/-! ## A run beside the document with one more update -/

theorem PartsWithin.update? [Machine] (h : PartsWithin node p q)
    (hr : Value.update? r u node = some w)
    (hrq : ¬ r <+: q) : PartsWithin w p q := by
  obtain ⟨part, hpart, hleaves, hreach⟩ := h
  by_cases hrp : r <+: p
  · exact ⟨r, hrp, hrq, u, reach?_update?_self hr⟩
  · have hcut : r <+: part → r = part := fun hle => absurd (hle.trans hpart) hrp
    exact ⟨part, hpart, hleaves, exists_reach?_update? hr hcut hreach⟩

/-- **A run beside the document with one more update.**  Where a run writes at the path of that
update or above it, the two documents become the same; till then, they stay that update apart. -/
theorem updates?_beside_update [Machine] {beside : Value} (hbeside : update? q v node = some beside)
    (hcut : ∀ a ∈ ws, q <+: a.1 → q = a.1)
    (hparts : ∀ a ∈ ws, ¬ a.1 <+: q → PartsWithin node a.1 q) (h : updates? ws node = some w) :
    ∃ w', updates? ws beside = some w' ∧ (w' = w ∨ update? q v w = some w') := by
  induction ws generalizing node beside with
  | nil =>
    cases h
    exact ⟨beside, rfl, .inr hbeside⟩
  | cons a ws ih =>
    obtain ⟨p, u⟩ := a
    obtain ⟨n, hn, hw⟩ := updates?_cons.1 h
    by_cases hpq : p <+: q
    · obtain ⟨more, rfl⟩ := hpq
      obtain ⟨z, hz, hz'⟩ := update?_initial hbeside u
      rw [hn, Option.some.injEq] at hz
      subst hz
      exact ⟨w, updates?_cons.2 ⟨n, hz', hw⟩, .inl rfl⟩
    · have hqp : ¬ q <+: p := by
        intro hle
        rw [hcut (p, u) List.mem_cons_self hle] at hpq
        exact hpq (List.prefix_refl p)
      obtain ⟨z, hz, hz'⟩ :=
        update?_comm (hparts (p, u) List.mem_cons_self hpq) hqp hn hbeside
      have hparts' : ∀ a ∈ ws, ¬ a.1 <+: q → PartsWithin n a.1 q := fun a ha haq =>
        (hparts a (List.mem_cons_of_mem _ ha) haq).update? hn hpq
      obtain ⟨w', hw', hsame⟩ :=
        ih hz' (fun a ha => hcut a (List.mem_cons_of_mem _ ha)) hparts' hw
      exact ⟨w', updates?_cons.2 ⟨z, hz, hw'⟩, hsame⟩

/-! ## Doing a run again -/

/-- No update writes above an earlier one: a later path is no initial part of an earlier one, unless
it is the same. -/
def Downward (ws : List (FieldPath × Value)) : Prop :=
  ws.Pairwise fun a b => b.1 <+: a.1 → b.1 = a.1

theorem Downward.exists_reach? [Machine] (hws : Downward ws) (h : updates? ws node = some w) :
    ∀ a ∈ ws, ∃ c, reach? a.1 w = some c := by
  induction ws generalizing node with
  | nil => nofun
  | cons a ws ih =>
    obtain ⟨hhead, hrest⟩ := List.pairwise_cons.1 hws
    obtain ⟨n, hn, hw⟩ := updates?_cons.1 h
    intro b hb
    rcases List.mem_cons.1 hb with rfl | hb
    · exact exists_reach?_updates? hw hhead ⟨_, reach?_update?_self hn⟩
    · exact ih hrest hw b hb

/-- **A downward run, done again on its own result, gives that result.** -/
theorem updates?_again [Machine] (hws : Downward ws) (h : updates? ws node = some w) :
    updates? ws w = some w := by
  induction ws using List.reverseRecOn generalizing w with
  | nil => rfl
  | append_singleton ws a ih =>
    obtain ⟨q, v⟩ := a
    obtain ⟨hinit, -, hlast⟩ := List.pairwise_append.1 hws
    obtain ⟨n, hn, hw⟩ := updates?_append.1 h
    obtain ⟨_, hw, ⟨⟩⟩ := updates?_cons.1 hw
    have hcut : ∀ a ∈ ws, q <+: a.1 → q = a.1 := fun a ha =>
      hlast a ha (q, v) List.mem_cons_self
    have hparts : ∀ a ∈ ws, ¬ a.1 <+: q → PartsWithin n a.1 q := fun a ha haq =>
      ⟨a.1, List.prefix_refl a.1, haq, Downward.exists_reach? hinit hn a ha⟩
    -- The second run sees the first result with the last value in it already.
    obtain ⟨w', hw', hsame⟩ := updates?_beside_update hw hcut hparts (ih hinit hn)
    refine updates?_append.2 ⟨w', hw', updates?_cons.2 ⟨w, ?_, rfl⟩⟩
    rcases hsame with rfl | hagain
    · exact hw
    · rw [hw, Option.some.injEq] at hagain
      subst hagain
      exact update?_of_reach? (reach?_update?_self hw)

end Value
end Patchwork
