import Patchwork.Proofs.Json.Refused
import Patchwork.Proofs.Location

/-!
# The first fault of a value

Conversion walks through a value in document order and stops at the first fault.  Here the walk is
laid out in full, apart from what is looked for on it.

* `Value.sites` — what a walk comes by: every node and every key, in document order.
* `Site.error?` — the fault of a site, if it has one.
* `Value.listed` — the value with arrays for tuples.
* `Value.unstructured_eq` — conversion fails with the fault of the first site that has one, and else
  gives the value with arrays for tuples.
* `Value.Within.exists_place` — a location inside a value is the path of what stands there, if keys
  need no brackets and there are no tuples.
* `Value.unstructured_finds_first_fault` — what conversion accepts, gives and refuses.
-/

set_option autoImplicit false

namespace Patchwork

/-! ## A walk in document order -/

/-- What a walk through a value comes by, and the location; a key stands at the location of its
map. -/
inductive Site where
  | node (location : Text) (v : Value)
  | key (location : Text) (key : Value)

/-- Why JSON cannot hold what is at a site, apart from what comes below it. -/
def Site.error? : Site → Option ConversionError
  | .node location v =>
    match v with
    | .date _ | .datetime _ | .bytes _ | .set _ => some ⟨location, .unsupported v.kindName⟩
    | .endless => some ⟨location, .endless⟩
    | _ => none
  | .key location k =>
    match k with
    | .str _ => none
    | _ => some ⟨location, .keyNotText k⟩

namespace Value

mutual

/-- The sites of a value in document order: a node comes before its parts, and a key before what
stands under it. -/
def sites (location : Text) : Value → List Site
  | .list items => .node location (.list items) :: itemSites location 0 items
  | .tuple items => .node location (.tuple items) :: itemSites location 0 items
  | .map entries => .node location (.map entries) :: entrySites location entries
  | v => [.node location v]

def itemSites (location : Text) (i : Nat) : List Value → List Site
  | [] => []
  | v :: rest => sites (Location.item location i) v ++ itemSites location (i + 1) rest

def entrySites (location : Text) : List (Value × Value) → List Site
  | [] => []
  | (key, v) :: rest =>
    .key location key :: (sites (Location.entry location key.display) v
      ++ entrySites location rest)

end

mutual

/-- The value with arrays for tuples. -/
def listed : Value → Value
  | .list items => .list (listedItems items)
  | .tuple items => .list (listedItems items)
  | .map entries => .map (listedEntries entries)
  | v => v

def listedItems : List Value → List Value
  | [] => []
  | v :: rest => listed v :: listedItems rest

def listedEntries : List (Value × Value) → List (Value × Value)
  | [] => []
  | (key, v) :: rest => (key, listed v) :: listedEntries rest

end

/-! ## Conversion as a search -/

/-- The first error of a search, or else a result. -/
def unlessError {α : Type} (found : Option ConversionError) (a : α) : Except ConversionError α :=
  found.elim (.ok a) .error

section Search

variable {α β γ : Type} {found more : Option ConversionError} {a : α} {b : β}
  {e : ConversionError}

@[simp] theorem unlessError_none : unlessError none a = .ok a := rfl

@[simp] theorem unlessError_some : unlessError (some e) a = .error e := rfl

theorem unlessError_eq_ok {c : α} : unlessError found a = .ok c ↔ found = none ∧ a = c := by
  cases found <;> simp

theorem unlessError_eq_error : unlessError found a = .error e ↔ found = some e := by
  cases found <;> simp

theorem unlessError_map (f : α → β) : f <$> unlessError found a = unlessError found (f a) := by
  cases found <;> rfl

theorem unlessError_bind (f : α → β → γ) :
    (do let a ← unlessError found a; let b ← unlessError more b; return f a b) =
      unlessError (found.or more) (f a b) := by
  cases found <;> cases more <;> rfl

end Search

variable {location place : Text} {v w node : Value} {items : List Value}
  {entries : List (Value × Value)} {e : ConversionError}

mutual

/-- **Conversion is a search for the first fault** in document order; a value without any comes out
with arrays for tuples. -/
theorem unstructured_eq : ∀ (v : Value) (location : Text),
    unstructured location v =
      unlessError ((sites location v).findSome? Site.error?) (listed v)
  | .null, _ | .bool _, _ | .int _, _ | .float _, _ | .str _, _ | .date _, _ | .datetime _, _
  | .bytes _, _ | .set _, _ | .endless, _ => rfl
  | .list items, location | .tuple items, location => by
    rw [unstructured, unstructuredItems_eq items location 0, unlessError_map]
    rfl
  | .map entries, location => by
    rw [unstructured, unstructuredEntries_eq entries location, unlessError_map]
    rfl

theorem unstructuredItems_eq : ∀ (items : List Value) (location : Text) (i : Nat),
    unstructuredItems location i items =
      unlessError ((itemSites location i items).findSome? Site.error?) (listedItems items)
  | [], _, _ => rfl
  | v :: rest, location, i => by
    rw [unstructuredItems, unstructured_eq v, unstructuredItems_eq rest, unlessError_bind,
      itemSites, List.findSome?_append, listedItems]

theorem unstructuredEntries_eq : ∀ (entries : List (Value × Value)) (location : Text),
    unstructuredEntries location entries =
      unlessError ((entrySites location entries).findSome? Site.error?) (listedEntries entries)
  | [], _ => rfl
  | (key, v) :: rest, location => by
    cases key
    case str text =>
      rw [unstructuredEntries, unstructured_eq v, unstructuredEntries_eq rest, unlessError_bind,
        entrySites, List.findSome?_cons, List.findSome?_append, listedEntries]
      rfl
    -- A key that is no text is the first fault, whatever stands under it.
    all_goals rfl

end

/-! ## Nodes on the walk -/

/-- Every node among the sites satisfies `P`. -/
def EveryNode (P : Value → Prop) (sites : List Site) : Prop :=
  ∀ place node, .node place node ∈ sites → P node

section EveryNode

variable {P : Value → Prop} {l more : List Site}

@[simp] theorem everyNode_nil : EveryNode P [] := nofun

@[simp] theorem everyNode_node_cons :
    EveryNode P (.node place v :: l) ↔ P v ∧ EveryNode P l := by
  simp only [EveryNode, List.mem_cons, Site.node.injEq, or_imp, forall_and]
  exact and_congr_left fun _ => ⟨fun h => h place v ⟨rfl, rfl⟩, fun h _ _ heq => heq.2 ▸ h⟩

@[simp] theorem everyNode_key_cons {k : Value} :
    EveryNode P (.key place k :: l) ↔ EveryNode P l := by
  simp [EveryNode]

@[simp] theorem everyNode_append : EveryNode P (l ++ more) ↔ EveryNode P l ∧ EveryNode P more := by
  simp only [EveryNode, List.mem_append, or_imp, forall_and]

theorem everyNode_entrySites : EveryNode P (entrySites location entries) ↔
    ∀ entry ∈ entries, EveryNode P (sites (Location.entry location entry.1.display) entry.2) := by
  induction entries with
  | nil => simp [entrySites]
  | cons entry rest ih => simp [entrySites, ih]

theorem everyNode_itemSites {i : Nat} (h : EveryNode P (itemSites location i items)) {j : Nat}
    (hj : items[j]? = some v) : EveryNode P (sites (Location.item location (i + j)) v) := by
  induction items generalizing i j with
  | nil => cases hj
  | cons w rest ih =>
    rw [itemSites, everyNode_append] at h
    cases j with
    | zero =>
      cases hj
      exact h.1
    | succ j =>
      have hplace : i + (j + 1) = i + 1 + j := by omega
      rw [hplace]
      exact ih h.2 hj

end EveryNode

/-! ## Values without a fault -/

/-- The node is a scalar, an array, a tuple, or a map all of whose keys are texts. -/
def IsSupported : Value → Prop
  | .null | .bool _ | .int _ | .float _ | .str _ | .list _ | .tuple _ => True
  | .map entries => ∀ entry ∈ entries, ∃ text, entry.1 = .str text
  | .date _ | .datetime _ | .bytes _ | .set _ | .endless => False

theorem error?_key_eq_none {k : Value} :
    (Site.key location k).error? = none ↔ ∃ text, k = .str text := by
  cases k <;> simp [Site.error?]

mutual

/-- No site has a fault exactly if every node is supported. -/
theorem sites_without_error : ∀ (v : Value) (location : Text),
    (∀ site ∈ sites location v, site.error? = none) ↔
      EveryNode IsSupported (sites location v)
  | .null, _ | .bool _, _ | .int _, _ | .float _, _ | .str _, _ | .date _, _ | .datetime _, _
  | .bytes _, _ | .set _, _ | .endless, _ => by
    simp [sites, Site.error?, IsSupported]
  | .list items, location | .tuple items, location => by
    simp only [sites, List.forall_mem_cons, everyNode_node_cons, IsSupported,
      itemSites_without_error items location 0]
    exact and_congr_left fun _ => iff_of_true rfl trivial
  | .map entries, location => by
    simp only [sites, List.forall_mem_cons, everyNode_node_cons, IsSupported,
      entrySites_without_error entries location]
    exact and_iff_right rfl

theorem itemSites_without_error : ∀ (items : List Value) (location : Text) (i : Nat),
    (∀ site ∈ itemSites location i items, site.error? = none) ↔
      EveryNode IsSupported (itemSites location i items)
  | [], _, _ => by simp [itemSites]
  | v :: rest, location, i => by
    rw [itemSites, List.forall_mem_append, everyNode_append, sites_without_error v,
      itemSites_without_error rest]

theorem entrySites_without_error : ∀ (entries : List (Value × Value)) (location : Text),
    (∀ site ∈ entrySites location entries, site.error? = none) ↔
      (∀ entry ∈ entries, ∃ text, entry.1 = .str text) ∧
        EveryNode IsSupported (entrySites location entries)
  | [], _ => by simp [entrySites]
  | (k, v) :: rest, location => by
    rw [entrySites, List.forall_mem_cons, List.forall_mem_append, everyNode_key_cons,
      everyNode_append, List.forall_mem_cons, error?_key_eq_none, sites_without_error v,
      entrySites_without_error rest]
    tauto

end

/-- **Conversion succeeds exactly if every node is supported**, with arrays for tuples. -/
theorem unstructured_eq_ok :
    unstructured location v = .ok w ↔
      EveryNode IsSupported (sites location v) ∧ listed v = w := by
  rw [unstructured_eq, unlessError_eq_ok, List.findSome?_eq_none_iff, sites_without_error]

/-! ## Locations inside a value -/

/-- Locations below the node are paths: it is no tuple, and no text key of it is empty or needs
brackets. -/
def KeepsPaths : Value → Prop
  | .tuple _ => False
  | .map entries => ∀ key ∈ textKeys entries, key ≠ "" ∧ Segment.needsBrackets key = false
  | _ => True

/-- **A location inside a value is the path of what stands there**, if keys need no brackets and
there are no tuples. -/
theorem Within.exists_place (h : Within v location node place) (hv : v.WellFormed)
    (hpaths : EveryNode KeepsPaths (sites location v)) :
    ∃ path : FieldPath, v.reach? path = some node ∧ place = Location.below location path ∧
      ∀ s ∈ path, s.Plain := by
  induction h with
  | here v location => exact ⟨[], rfl, rfl, nofun⟩
  | @entry entries key location place v node hmem _ ih =>
    rw [sites, everyNode_node_cons, everyNode_entrySites] at hpaths
    obtain ⟨path, hnode, hplace, hplain⟩ := ih (hv.entry hmem) (hpaths.2 _ hmem)
    refine ⟨.field key :: path, ?_, hplace, List.forall_mem_cons.2 ⟨?_, hplain⟩⟩
    · rw [reach?, child?, lookup_of_mem hv.nodup hmem, Option.bind_some, hnode]
    · exact hpaths.1 key (mem_textKeys.2 ⟨v, hmem⟩)
  | @item sequence items i location place v node hitems hi _ ih =>
    cases sequence <;> cases hitems
    -- A location in a tuple is no path: reading goes into arrays only.
    case item.tuple.refl =>
      rw [sites, everyNode_node_cons] at hpaths
      exact hpaths.1.elim
    case item.list.refl =>
      rw [sites, everyNode_node_cons] at hpaths
      have hitem := everyNode_itemSites hpaths.2 hi
      rw [Nat.zero_add] at hitem
      obtain ⟨path, hnode, hplace, hplain⟩ := ih (hv.item (List.mem_of_getElem? hi)) hitem
      refine ⟨.index i :: path, ?_, hplace, List.forall_mem_cons.2 ⟨?_, hplain⟩⟩
      · rw [reach?, child?, hi, Option.bind_some, hnode]
      · exact Nat.lt_trans (List.getElem?_eq_some_iff.1 hi).1 hv.length_lt

/-- The node is a map with a key that is no text. -/
def HasOtherKey : Value → Prop
  | .map entries => ∃ entry ∈ entries, ∀ text, entry.1 ≠ .str text
  | _ => False

theorem Refused.isForeign_or_hasOtherKey (h : node.Refused e.fault) (hlimit : e.limit? = none) :
    node.isForeign = true ∨ node.HasOtherKey := by
  obtain ⟨location, fault⟩ := e
  cases h with
  | kind hforeign => exact .inl hforeign
  | key hmem hkey => exact .inr ⟨_, hmem, hkey⟩
  | endless => cases hlimit

/-- **What conversion accepts, gives and refuses.**  It succeeds exactly if every node is supported,
with arrays for tuples, which it leaves as they are from then on.  Otherwise it stops at the first
fault in document order.  That a limit is met there has to do with a key that cannot be written out,
or with a value that has no end.  The location that is reported is the path of the fault, where keys
need no brackets and there are no tuples. -/
theorem unstructured_finds_first_fault (v : Value) :
    ((∃ copy, unstructured "" v = .ok copy) ↔ EveryNode IsSupported (sites "" v)) ∧
    (∀ copy, unstructured "" v = .ok copy → copy = listed v ∧ unstructured "" copy = .ok copy) ∧
    (∀ e, unstructured "" v = .error e ↔ (sites "" v).findSome? Site.error? = some e) ∧
    (∀ e limit, unstructured "" v = .error e → e.limit? = some limit →
      ∃ node, Within v "" node e.location ∧ node.MeetsLimit limit) ∧
    ∀ entries e, v = .map entries → v.WellFormed → EveryNode KeepsPaths (sites "" v) →
      unstructured "" v = .error e → e.limit? = none →
      (e.location ≠ "" → ∃ node, v.getAt e.location = .ok node ∧
        (node.isForeign = true ∨ node.HasOtherKey)) ∧
      (e.location = "" → v.HasOtherKey) := by
  refine ⟨?_, fun copy hcopy => ⟨?_, ?_⟩, fun e => ?_, fun e limit he hlimit => ?_,
    fun entries e hmap hv hpaths he hlimit => ?_⟩
  · simp [unstructured_eq_ok]
  · exact (unstructured_eq_ok.1 hcopy).2.symm
  · exact unstructured_of_isJson copy "" (isJson_of_unstructured v hcopy)
  · rw [unstructured_eq, unlessError_eq_error]
  · obtain ⟨node, hnode, hrefused⟩ := unstructured_failsWith v "" e he
    exact ⟨node, hnode, hrefused.meetsLimit hlimit⟩
  · obtain ⟨node, hnode, hrefused⟩ := unstructured_failsWith v "" e he
    have hfault := hrefused.isForeign_or_hasOtherKey hlimit
    obtain ⟨path, hreach, hplace, hplain⟩ := hnode.exists_place hv hpaths
    rw [hplace, ne_eq, Location.below_eq_empty_iff hplain]
    refine ⟨fun hne => ⟨node, ?_, hfault⟩, fun hroot => ?_⟩
    · rw [Location.getAt_below hplain hne]
      exact readFrom_eq_ok.2 hreach
    · subst hroot hmap
      cases hreach
      exact hfault.resolve_left Bool.false_ne_true

/-- Of two faults, the one in the earlier entry is reported, at the path of the item that it is
in. -/
theorem unstructured_finds_first_fault_item :
    let v := Value.map [(.str "items", .list [.null, .map [(.str "data", .bytes [1])]]),
      (.int 1, .null)]
    unstructured "" v = .error ⟨"items[1].data", .unsupported "bytes"⟩ ∧
      ∃ node, v.getAt "items[1].data" = .ok node ∧
        (node.isForeign = true ∨ node.HasOtherKey) := by
  intro v
  have hv : v.WellFormed := by decide
  have hpaths : EveryNode KeepsPaths (sites "" v) := by
    simp [v, sites, entrySites, itemSites, KeepsPaths, textKeys, Segment.needsBrackets]
  have herror : unstructured "" v = .error ⟨"items[1].data", .unsupported "bytes"⟩ := by rfl
  obtain ⟨-, -, -, -, hlocated⟩ := unstructured_finds_first_fault v
  exact ⟨herror, (hlocated _ _ rfl hv hpaths herror rfl).1 (by decide)⟩

/-- A value with a fault is not always refused for that: naming a key that is a number too long to
be written out meets a limit. -/
theorem unstructured_long_key :
    let v := Value.map [(.int (Int.ofNat (Binary64.tenPow Limit.maxDigits)), .null)]
    ¬ EveryNode IsSupported (sites "" v) ∧
      ∃ e, unstructured "" v = .error e ∧ e.limit? = some .digits := by
  intro v
  have herror : unstructured "" v =
      .error ⟨"", .keyNotText (.int (Int.ofNat (Binary64.tenPow Limit.maxDigits)))⟩ := rfl
  refine ⟨fun h => ?_, _, herror, ?_⟩
  · rw [unstructured_eq_ok.2 ⟨h, rfl⟩] at herror
    cases herror
  · show Value.limit? _ = some .digits
    decide +kernel

end Value
end Patchwork
