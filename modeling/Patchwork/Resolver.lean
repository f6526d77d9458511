import Patchwork.Error
import Patchwork.Resource

/-!
# Looking up resources

A resolver holds resources under their keys.  The last one added under a key is the one found.

* `Resolver.add` adds a resource, `Resolver.resolve` finds one, `Resolver.size` counts the keys.
-/

set_option autoImplicit false

namespace Patchwork

/-- Resources by key.  No two keys are the same by value. -/
structure Resolver where
  index : List (ResourceKey × Resource) := []
  distinct : index.Pairwise fun entry later => entry.1.same later.1 = false := by
    exact List.Pairwise.nil
  deriving Repr

namespace Resolver

/-- The resolver that holds nothing. -/
def empty : Resolver := {}

instance : Inhabited Resolver := ⟨empty⟩

/-- The number of keys. -/
def size (r : Resolver) : Nat := r.index.length

/-- The index with a resource under a key, in the place of an earlier one if there is one. -/
def store (key : ResourceKey) (resource : Resource) :
    List (ResourceKey × Resource) → List (ResourceKey × Resource)
  | [] => [(key, resource)]
  | (k, r) :: rest =>
    if k.same key then (k, resource) :: rest else (k, r) :: store key resource rest

theorem mem_store {key : ResourceKey} {resource : Resource}
    {index : List (ResourceKey × Resource)} {entry : ResourceKey × Resource}
    (h : entry ∈ store key resource index) :
    entry.1 = key ∨ ∃ r, (entry.1, r) ∈ index := by
  induction index with
  | nil =>
    rw [List.mem_singleton.1 h]
    exact .inl rfl
  | cons head rest ih =>
    obtain ⟨k, r⟩ := head
    rw [store] at h
    split at h
    · rcases List.mem_cons.1 h with rfl | htail
      · exact .inr ⟨r, List.mem_cons_self⟩
      · exact .inr ⟨entry.2, List.mem_cons_of_mem _ htail⟩
    · rcases List.mem_cons.1 h with rfl | htail
      · exact .inr ⟨r, List.mem_cons_self⟩
      · rcases ih htail with hkey | ⟨r', hr'⟩
        · exact .inl hkey
        · exact .inr ⟨r', List.mem_cons_of_mem _ hr'⟩

theorem store_distinct {key : ResourceKey} {resource : Resource}
    {index : List (ResourceKey × Resource)}
    (h : index.Pairwise fun entry later => entry.1.same later.1 = false) :
    (store key resource index).Pairwise fun entry later => entry.1.same later.1 = false := by
  induction index with
  | nil => exact List.pairwise_singleton _ _
  | cons head rest ih =>
    obtain ⟨k, r⟩ := head
    obtain ⟨hhead, hrest⟩ := List.pairwise_cons.1 h
    rw [store]
    split
    · exact List.pairwise_cons.2 ⟨hhead, hrest⟩
    · rename_i hne
      refine List.pairwise_cons.2 ⟨fun later hlater => ?_, ih hrest⟩
      rcases mem_store hlater with hkey | ⟨r', hr'⟩
      · rw [hkey]
        exact Bool.eq_false_iff.2 hne
      · exact hhead (later.1, r') hr'

/-- The resolver with a resource under a key. -/
def put (r : Resolver) (key : ResourceKey) (resource : Resource) : Resolver :=
  ⟨store key resource r.index, store_distinct r.distinct⟩

/-- The resolver with one more resource. -/
def add (r : Resolver) (resource : Resource) : Except KindError Resolver := do
  return r.put (← resource.indexKey) resource

/-- The resolver with further resources, added in order. -/
def addAll (r : Resolver) (resources : List Resource) : Except KindError Resolver :=
  resources.foldlM add r

/-- The resource under a key. -/
def find? (r : Resolver) (key : ResourceKey) : Option Resource :=
  (r.index.find? fun entry => entry.1.same key).map (·.2)

/-- The resource that a descriptor identifies. -/
def resolve (r : Resolver) (target : DependsOn) : Except UnknownResource Resource :=
  match r.find? target.key with
  | some resource => .ok resource
  | none => .error ⟨target⟩

end Resolver
end Patchwork
