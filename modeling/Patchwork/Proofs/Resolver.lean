import Mathlib.Data.List.Induction
import Patchwork.Patch
import Patchwork.Proofs.Document.Reach

/-!
# What a resolver finds

A resolver is filled one resource at a time, and a resource that cannot be indexed leaves it as it
is.  What it holds is told from the whole history: the last resource under a key is found, and the
keys are counted as equality by value tells them apart.

* `Resource.HasKey` — the key that a resource is known by, read off its document.
* `Resolver.attempts` — a resolver after resources are tried in turn.
* `Resolver.Indexes` — the invariant: what the resolver holds of the resources that were tried.
* `Resolver.attempts_finds_last` — the last resource that has the key of a descriptor is found.
-/

set_option autoImplicit false

namespace Patchwork

open Value

/-! ## The key of a resource -/

/-- What a path reaches in a document, or the empty text. -/
def Value.reachOrEmpty (path : FieldPath) (document : Value) : Value :=
  (reach? path document).getD (.str "")

/-- The key that a resource is known by.  The document is a map, and so is its `metadata` unless it
counts as unset; a part that is absent counts as the empty text, and every part can be a key. -/
structure Resource.HasKey (resource : Resource) (key : ResourceKey) : Prop where
  document : ∃ entries, resource.toValue = .map entries
  metadata : ∀ m, reach? [.field "metadata"] resource.toValue = some m →
    m.truthy = true → ∃ entries, m = .map entries
  apiVersion : key.apiVersion = reachOrEmpty [.field "apiVersion"] resource.toValue
  kind : key.kind = reachOrEmpty [.field "kind"] resource.toValue
  ns : key.ns = reachOrEmpty [.field "metadata", .field "namespace"] resource.toValue
  name : key.name = reachOrEmpty [.field "metadata", .field "name"] resource.toValue
  hashable : key.hashable = true

theorem Value.entriesIfSet_eq_ok {v : Value} {es : List (Value × Value)} :
    v.entriesIfSet = .ok es ↔
      (v.truthy = true → v = .map es) ∧ (v.truthy = false → es = []) := by
  cases htruthy : v.truthy with
  | false => simp [entriesIfSet, htruthy, eq_comm]
  | true => cases v <;> simp [entriesIfSet, htruthy, entriesOf]

theorem Value.child?_of_entriesIfSet {v : Value} {es : List (Value × Value)}
    (h : v.entriesIfSet = .ok es) (key : Text) : child? (.field key) v = lookup key es := by
  obtain ⟨hset, hunset⟩ := entriesIfSet_eq_ok.1 h
  cases htruthy : v.truthy with
  | true =>
    rw [hset htruthy]
    rfl
  | false =>
    rw [hunset htruthy]
    cases v with
    | map entries =>
      obtain rfl : entries = [] := by simpa [truthy] using htruthy
      rfl
    | _ => rfl

theorem Value.reachOrEmpty_field (entries : List (Value × Value)) (name : Text) :
    reachOrEmpty [.field name] (.map entries) = fieldOr entries name (.str "") := by
  simp [reachOrEmpty, reach?, child?, fieldOr]

theorem Value.reachOrEmpty_metadata {entries metadata : List (Value × Value)}
    (h : (field entries "metadata").entriesIfSet = .ok metadata) (name : Text) :
    reachOrEmpty [.field "metadata", .field name] (.map entries) =
      fieldOr metadata name (.str "") := by
  have hchild := child?_of_entriesIfSet h name
  rw [reachOrEmpty, fieldOr, ← hchild, field, fieldOr]
  cases hm : lookup "metadata" entries <;> simp [reach?, child?, hm]

namespace Resource

variable {resource : Resource} {key : ResourceKey}

theorem HasKey.exists_metadata {entries : List (Value × Value)} (h : resource.HasKey key)
    (hdocument : resource.toValue = .map entries) :
    ∃ metadata, (field entries "metadata").entriesIfSet = .ok metadata := by
  have hmap := h.metadata
  simp only [hdocument, reach?, child?] at hmap
  rw [field, fieldOr]
  cases hm : lookup "metadata" entries with
  | none => exact ⟨[], rfl⟩
  | some m =>
    rw [Option.getD_some]
    cases hset : m.truthy with
    | false => exact ⟨[], by simp [entriesIfSet, hset]⟩
    | true =>
      obtain ⟨es, rfl⟩ := hmap m (by rw [hm]; rfl) hset
      exact ⟨es, by rw [entriesIfSet, if_pos hset]; rfl⟩

/-- **A resource is indexed under the key that it has**, and is not indexed if it has none. -/
theorem indexKey_eq_ok : resource.indexKey = .ok key ↔ resource.HasKey key := by
  constructor
  · intro h
    obtain ⟨k, hk, hhashable⟩ := bind_eq_ok.1 h
    split at hhashable <;> cases hhashable
    rename_i hhashable
    obtain ⟨entries, hentries, metadata, hmetadata, hkey⟩ := by
      simpa only [keyOf, bind_eq_ok] using hk
    cases hkey
    have hdocument : resource.toValue = .map entries := by
      cases hv : resource.toValue <;> rw [hv] at hentries <;> cases hentries
      rfl
    constructor
    case document => exact ⟨entries, hdocument⟩
    case metadata =>
      intro m hm hset
      have hlookup : lookup "metadata" entries = some m := by
        simpa [hdocument, reach?, child?] using hm
      rw [field, fieldOr, hlookup, Option.getD_some] at hmetadata
      exact ⟨metadata, (entriesIfSet_eq_ok.1 hmetadata).1 hset⟩
    case hashable => exact hhashable
    all_goals simp only [hdocument, reachOrEmpty_field, reachOrEmpty_metadata hmetadata]
  · intro h
    obtain ⟨entries, hdocument⟩ := h.document
    obtain ⟨metadata, hmetadata⟩ := h.exists_metadata hdocument
    refine bind_eq_ok.2 ⟨key, ?_, if_pos h.hashable⟩
    obtain ⟨apiVersion, kind, ns, name⟩ := key
    obtain ⟨-, -, hapiVersion, hkind, hns, hname, -⟩ := h
    simp only [hdocument, reachOrEmpty_field, reachOrEmpty_metadata hmetadata] at *
    subst hapiVersion hkind hns hname
    rw [keyOf, entriesOf, ok_bind, hmetadata]
    rfl

/-- The resource has the key of a descriptor. -/
def isKnownAs (target : DependsOn) (resource : Resource) : Bool :=
  resource.indexKey.toOption.any (·.same target.key)

end Resource

theorem ResourceKey.same_key_iff {key : ResourceKey} {target : DependsOn} :
    key.same target.key = true ↔ key = target.key := by
  obtain ⟨apiVersion, kind, ns, name⟩ := key
  simp [ResourceKey.same, parts, DependsOn.key, sameItems, same_str_iff]

theorem ResourceKey.key_same_iff {key : ResourceKey} {target : DependsOn} :
    target.key.same key = true ↔ key = target.key := by
  obtain ⟨apiVersion, kind, ns, name⟩ := key
  simp [ResourceKey.same, parts, DependsOn.key, sameItems, str_same_iff]

theorem ResourceKey.same_key_congr {k key : ResourceKey} (h : k.same key = true)
    (target : DependsOn) : k.same target.key = key.same target.key := by
  rw [Bool.eq_iff_iff]
  constructor
  · intro hk
    obtain rfl := same_key_iff.1 hk
    exact same_key_iff.2 (key_same_iff.1 h)
  · intro hkey
    obtain rfl := same_key_iff.1 hkey
    exact h

theorem Resource.isKnownAs_iff {target : DependsOn} {resource : Resource} :
    resource.isKnownAs target = true ↔ resource.HasKey target.key := by
  rw [isKnownAs, Option.any_eq_true, ← indexKey_eq_ok]
  constructor
  · rintro ⟨key, hkey, hsame⟩
    obtain rfl := ResourceKey.same_key_iff.1 hsame
    exact toOption_eq_some.1 hkey
  · intro h
    exact ⟨target.key, toOption_eq_some.2 h, ResourceKey.same_key_iff.2 rfl⟩

/-- An item at the end of a list stays if no item that stays is the same. -/
theorem eraseDupsBy_concat {α : Type} (r : α → α → Bool) (l : List α) (a : α) :
    (l ++ [a]).eraseDupsBy r =
      if (l.eraseDupsBy r).any (r a) then l.eraseDupsBy r else l.eraseDupsBy r ++ [a] := by
  suffices h : ∀ seen, List.eraseDupsBy.loop r (l ++ [a]) seen =
      if (List.eraseDupsBy.loop r l seen).any (r a) then List.eraseDupsBy.loop r l seen
      else List.eraseDupsBy.loop r l seen ++ [a] from h []
  induction l with
  | nil =>
    intro seen
    simp only [List.nil_append, List.eraseDupsBy.loop, List.any_reverse]
    cases seen.any (r a) <;> simp
  | cons b rest ih =>
    intro seen
    rw [List.cons_append, List.eraseDupsBy.loop, List.eraseDupsBy.loop]
    cases hseen : seen.any (r b) with
    | true => exact ih seen
    | false => exact ih (b :: seen)

namespace Resolver

/-- The resolver after one more resource is tried; one that cannot be indexed leaves it as it is. -/
def attempt (r : Resolver) (resource : Resource) : Resolver :=
  (r.add resource).toOption.getD r

/-- The resolver after resources are tried in turn. -/
def attempts (resources : List Resource) : Resolver := resources.foldl attempt .empty

/-- The keys of the resources that can be indexed, in order. -/
def keysOf (resources : List Resource) : List ResourceKey :=
  resources.filterMap fun resource => resource.indexKey.toOption

variable {r : Resolver} {resource : Resource} {resources : List Resource} {key : ResourceKey}
  {target : DependsOn}

/-! ## One more resource -/

/-- After a resource is stored, the key of a descriptor finds it or what it found before. -/
theorem find?_put (r : Resolver) (key : ResourceKey) (resource : Resource) (target : DependsOn) :
    (r.put key resource).find? target.key =
      if key.same target.key then some resource else r.find? target.key := by
  obtain ⟨index, distinct⟩ := r
  simp only [find?, put]
  clear distinct
  induction index with
  | nil => cases h : key.same target.key <;> simp [store, h]
  | cons entry rest ih =>
    obtain ⟨k, other⟩ := entry
    cases hk : k.same key with
    | true =>
      -- the entry whose place is taken is found exactly if the new one is
      have hsame := ResourceKey.same_key_congr hk target
      cases htarget : key.same target.key <;> simp [store, hk, hsame, htarget]
    | false =>
      cases hfound : k.same target.key with
      | true =>
        obtain rfl := ResourceKey.same_key_iff.1 hfound
        have hother : key.same target.key = false := by
          rw [← Bool.not_eq_true, ResourceKey.same_key_iff, ← ResourceKey.key_same_iff, hk]
          exact Bool.false_ne_true
        simp [store, hk, hfound, hother]
      | false => simpa [store, hk, hfound] using ih

theorem keys_store (key : ResourceKey) (resource : Resource)
    (index : List (ResourceKey × Resource)) :
    (store key resource index).map (·.1) =
      if (index.map (·.1)).any (·.same key) then index.map (·.1)
      else index.map (·.1) ++ [key] := by
  induction index with
  | nil => rfl
  | cons entry rest ih =>
    obtain ⟨k, other⟩ := entry
    cases hk : k.same key with
    | true => simp [store, hk]
    | false =>
      simp only [store, hk, Bool.false_eq_true, if_false, List.map_cons, ih, List.any_cons,
        Bool.false_or]
      split <;> rfl

/-- **Which resources can be added** does not depend on what is there. -/
theorem add_eq_error_iff :
    (∃ e, r.add resource = .error e) ↔ ∀ key, ¬ resource.HasKey key := by
  simp only [← Resource.indexKey_eq_ok, add]
  cases resource.indexKey <;> simp [pure, Except.pure]

theorem attempt_of_indexKey_ok (h : resource.indexKey = .ok key) :
    r.attempt resource = r.put key resource := by
  rw [attempt, add, h]
  rfl

theorem attempt_of_indexKey_error {e : KindError} (h : resource.indexKey = .error e) :
    r.attempt resource = r := by
  rw [attempt, add, h]
  rfl

theorem find?_attempt (r : Resolver) (resource : Resource) (target : DependsOn) :
    (r.attempt resource).find? target.key =
      if resource.isKnownAs target then some resource else r.find? target.key := by
  cases h : resource.indexKey with
  | ok key =>
    rw [attempt_of_indexKey_ok h, find?_put, Resource.isKnownAs, h]
    rfl
  | error e =>
    rw [attempt_of_indexKey_error h, Resource.isKnownAs, h]
    rfl

/-! ## Resources tried in turn -/

/-- What a resolver holds of the resources that were tried: the last one for each descriptor, and
the keys without repeats. -/
structure Indexes (resources : List Resource) (r : Resolver) : Prop where
  finds : ∀ target : DependsOn,
    r.find? target.key = resources.reverse.find? (·.isKnownAs target)
  keys : r.index.map (·.1) = (keysOf resources).eraseDupsBy fun key earlier => earlier.same key

theorem Indexes.attempt (h : Indexes resources r) (resource : Resource) :
    Indexes (resources ++ [resource]) (r.attempt resource) where
  finds target := by
    rw [find?_attempt, List.reverse_concat, List.find?_cons, h.finds]
    cases resource.isKnownAs target <;> rfl
  keys := by
    rw [keysOf, List.filterMap_append, ← keysOf]
    cases hkey : resource.indexKey with
    | ok key =>
      have hone : [resource].filterMap (fun x => x.indexKey.toOption) = [key] := by
        simp [hkey, Except.toOption]
      rw [attempt_of_indexKey_ok hkey, put, keys_store, hone, eraseDupsBy_concat, h.keys]
    | error e =>
      have hnone : [resource].filterMap (fun x => x.indexKey.toOption) = [] := by
        simp [hkey, Except.toOption]
      rw [attempt_of_indexKey_error hkey, hnone, List.append_nil, h.keys]

theorem indexes_attempts (resources : List Resource) : Indexes resources (attempts resources) := by
  induction resources using List.reverseRecOn with
  | nil => exact ⟨fun _ => rfl, rfl⟩
  | append_singleton before resource ih =>
    rw [attempts, List.foldl_concat]
    exact ih.attempt resource

/-- The last of several resources that has a key. -/
theorem find?_reverse_eq_some {found : Resource} :
    resources.reverse.find? (·.isKnownAs target) = some found ↔
      ∃ before after, resources = before ++ found :: after ∧ found.HasKey target.key ∧
        ∀ later ∈ after, ¬ later.HasKey target.key := by
  simp only [List.find?_eq_some_iff_append, Bool.not_eq_true', ← Bool.not_eq_true,
    Resource.isKnownAs_iff]
  constructor
  · rintro ⟨hkey, after, before, hresources, hlater⟩
    refine ⟨before.reverse, after.reverse, ?_, hkey, fun later hmem => ?_⟩
    · rw [← List.reverse_reverse resources, hresources]
      simp
    · exact hlater later (List.mem_reverse.1 hmem)
  · rintro ⟨before, after, rfl, hkey, hlater⟩
    refine ⟨hkey, after.reverse, before.reverse, by simp, fun later hmem => ?_⟩
    exact hlater later (List.mem_reverse.1 hmem)

/-- **The last writer wins.**  A descriptor finds the last of the resources tried that has its key,
and nothing else; it is refused exactly if there is none.  As many keys are held as equality by
value tells apart, and a resource that cannot be added, having no key, makes no difference to
anything later. -/
theorem attempts_finds_last (resources : List Resource) :
    let resolver := attempts resources
    (∀ (target : DependsOn) (found : Resource), resolver.resolve target = .ok found ↔
        ∃ before after, resources = before ++ found :: after ∧ found.HasKey target.key ∧
          ∀ later ∈ after, ¬ later.HasKey target.key) ∧
      (∀ (target : DependsOn) (e : UnknownResource), resolver.resolve target = .error e ↔
        e = ⟨target⟩ ∧ ∀ resource ∈ resources, ¬ resource.HasKey target.key) ∧
      (∀ p : PatchesFrom, resolver.lookup p = resolver.resolve p.toDependsOn) ∧
      resolver.size =
        ((keysOf resources).eraseDupsBy fun key earlier => earlier.same key).length ∧
      (∀ resource, (∃ e, resolver.add resource = .error e) ↔ ∀ key, ¬ resource.HasKey key) ∧
      ∀ failing later, (∃ e, resolver.add failing = .error e) →
        attempts (resources ++ failing :: later) = attempts (resources ++ later) := by
  intro resolver
  have hindexes : Indexes resources resolver := indexes_attempts resources
  refine ⟨fun target found => ?_, fun target e => ?_, fun p => rfl, ?_, fun _ => add_eq_error_iff,
    fun failing later hfails => ?_⟩
  · rw [← find?_reverse_eq_some, ← hindexes.finds, resolve]
    cases resolver.find? target.key <;> simp
  · have hnone : (∀ resource ∈ resources, ¬ resource.HasKey target.key) ↔
        resolver.find? target.key = none := by
      simp [hindexes.finds, Resource.isKnownAs_iff]
    rw [hnone, resolve]
    cases resolver.find? target.key <;> simp [eq_comm]
  · rw [size, ← hindexes.keys, List.length_map]
  · obtain ⟨e, he⟩ := hfails
    have hstep : resolver.attempt failing = resolver := by
      rw [attempt, he]
      rfl
    rw [attempts, List.foldl_append, List.foldl_cons]
    change later.foldl attempt (resolver.attempt failing) = _
    rw [hstep, attempts, List.foldl_append]
    rfl

/-- Names that are the same number share a key, although they are of different kinds; a name that is
an array cannot be a key, and is as if it had not been tried. -/
theorem attempts_finds_last_numbers :
    let named := fun name =>
      Resource.document (.map [(.str "metadata", .map [(.str "name", name)])])
    let x := Resource.object { metadata := [(.str "name", .str "x")] }
    let earlier := [named (.int 1), x, named (.float (.finite false 4503599627370496 (-52)))]
    let failing := named (.list [])
    let resolver := attempts (earlier ++ failing :: [named (.bool true)])
    (∃ e, (attempts earlier).add failing = .error e) ∧
      resolver = attempts (earlier ++ [named (.bool true)]) ∧
      resolver.size = 2 ∧
      resolver.resolve { name := "x" } = .ok x ∧
      resolver.resolve { name := "1" } = .error ⟨{ name := "1" }⟩ := by
  intro named x earlier failing resolver
  obtain ⟨-, -, -, -, -, hdrop⟩ := attempts_finds_last earlier
  have hfails : ∃ e, (attempts earlier).add failing = .error e := ⟨.unhashable, rfl⟩
  have hresolver : resolver = attempts (earlier ++ [named (.bool true)]) :=
    hdrop failing _ hfails
  refine ⟨hfails, hresolver, ?_, ?_, ?_⟩ <;> rw [hresolver] <;> rfl

end Resolver
end Patchwork
