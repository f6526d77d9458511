import Patchwork.Proofs.WellFormed
import Patchwork.Proofs.Yaml.Assembling
import Patchwork.Proofs.Yaml.Composition

/-!
# Documents without days and moments

Under the rules for manifests only a tag makes a day or a moment of a scalar.  So where no scalar
carries that tag, no document holds one: it is an invariant of making the parts of a value, kept by
each step, and it goes from the parts to the values that are put together of them.

* `Assembly.Dateless` — the invariant; `keeps_make`, `keeps_fill` and `keeps_run` are its step and
  run lemmas.
* `Graph.value_dateless`, `Composition.values_dateless` — the values.
-/

set_option autoImplicit false

namespace Patchwork

/-- The value is a day or a moment. -/
def Value.isDate : Value → Bool
  | .date _ | .datetime _ => true
  | _ => false

namespace Yaml

/-! ## The invariant -/

/-- The part holds no day or moment itself. -/
def Part.Dateless : Part → Prop
  | .value v => v.holds Value.isDate = false
  | .map entries => ∀ entry ∈ entries, entry.1.holds Value.isDate = false
  | .set members => ∀ v ∈ members, v.holds Value.isDate = false
  | .sharedNan | .list _ | .pairs _ => True

namespace Assembly

/-- No scalar has the tag of timestamps, and nothing that was made holds a day or a moment. -/
structure Dateless (s : Assembly) : Prop where
  untagged : ∀ id text, s.contents.getD id (.scalar "") = .scalar text →
    s.tags.getD id .null ≠ .timestamp
  parts : ∀ id part, s.parts.getD id none = some part → part.Dateless

theorem keeps_setTag (id : NodeId) {tag : Tag} (h : tag ≠ .timestamp) :
    Keeps Dateless (setTag id tag) fun _ => True := by
  refine fun s hs => ensures_modify ⟨⟨fun other text htext => ?_, hs.parts⟩, trivial⟩
  obtain hnew | hold := getD_setIfInBounds s.tags id other tag .null
  · exact fun htag => h (hnew.symm.trans htag)
  · exact fun htag => hs.untagged other text htext (hold.symm.trans htag)

theorem keeps_setEntries (id : NodeId) (entries : List Entry) :
    Keeps Dateless (setEntries id entries) fun _ => True := by
  refine fun s hs => ensures_modify ⟨⟨fun other text htext => ?_, hs.parts⟩, trivial⟩
  obtain hnew | hold := getD_setIfInBounds s.contents id other (.mapping entries) (.scalar "")
  · rw [hnew] at htext
    cases htext
  · exact hs.untagged other text (hold.symm.trans htext)

theorem keeps_setPart (id : NodeId) {part : Part} (h : part.Dateless) :
    Keeps Dateless (setPart id part) fun _ => True := by
  refine fun s hs => ensures_modify ⟨⟨hs.untagged, fun other made hmade => ?_⟩, trivial⟩
  obtain hnew | hold := getD_setIfInBounds s.parts id other (some part) none
  · rw [hnew] at hmade
    cases hmade
    exact h
  · exact hs.parts other made (hold.symm.trans hmade)

/-! ## Merging -/

section Merging

-- Merging changes tags and entries only, and makes no part.

variable {flatten : NodeId → Assembling Unit}
  (hflatten : ∀ id, Keeps Dateless (flatten id) fun _ => True)

include hflatten

theorem keeps_mergedItems (items : List NodeId) :
    Keeps Dateless (mergedItems flatten items) fun _ => True := by
  induction items with
  | nil => exact keeps_pure trivial
  | cons item rest ih =>
    refine (looks_contentAt item).keeps.bind fun content _ => ?_
    cases content with
    | scalar | sequence => exact keeps_throw _
    | mapping _ =>
      exact (hflatten item).bind fun _ _ => (looks_entriesAt item).keeps.bind fun _ _ =>
        ih.bind fun _ _ => keeps_pure trivial

theorem keeps_mergedNode (id : NodeId) :
    Keeps Dateless (mergedNode flatten id) fun _ => True := by
  refine (looks_contentAt id).keeps.bind fun content _ => ?_
  cases content with
  | scalar => exact keeps_throw _
  | sequence items => exact keeps_mergedItems hflatten items
  | mapping _ => exact (hflatten id).bind fun _ _ => (looks_entriesAt id).keeps

theorem keeps_takeMerges (id : NodeId) (kept entries : List Entry) :
    Keeps Dateless (takeMerges flatten id kept entries) fun _ => True := by
  induction entries generalizing kept with
  | nil => exact keeps_pure trivial
  | cons entry rest ih =>
    obtain ⟨k, v⟩ := entry
    refine (looks_tagAt k).keeps.bind fun tag _ => ?_
    split
    · refine (keeps_setEntries id _).bind fun _ _ =>
        (keeps_mergedNode hflatten v).bind fun merged _ =>
        (looks_entriesAt id).keeps.bind fun now _ => ?_
      split
      · exact (ih kept).bind fun _ _ => keeps_pure trivial
      · exact keeps_pure trivial
    · exact (keeps_setTag k (by decide)).bind fun _ _ => ih _
    · exact ih _

end Merging

theorem keeps_flatten (fuel : Nat) (id : NodeId) :
    Keeps Dateless (flatten fuel id) fun _ => True := by
  induction fuel generalizing id with
  | zero => exact keeps_throw _
  | succ fuel ih =>
    exact (looks_entriesAt id).keeps.bind fun entries _ =>
      (keeps_takeMerges ih id [] entries).bind fun _ _ =>
        (looks_entriesAt id).keeps.bind fun _ _ => keeps_setEntries id _

/-! ## Scalars -/

end Assembly

/-- Only the tag of timestamps makes a day or a moment of a text. -/
theorem scalarValue_dateless {tag : Tag} {text : Text} {v : Value} (htag : tag ≠ .timestamp)
    (h : scalarValue tag text = .ok v) : v.holds Value.isDate = false := by
  unfold scalarValue at h
  split at h
  · cases h
    rfl
  · cases h
    rfl
  · rw [truthOf] at h
    split at h
    · cases h
      rfl
    · cases h
  · obtain ⟨i, -, rfl⟩ := map_eq_ok.1 (mapError_eq_ok.1 h)
    rfl
  · obtain ⟨x, -, rfl⟩ := map_eq_ok.1 (mapError_eq_ok.1 h)
    rfl
  · rw [binaryOf] at h
    split at h
    · split at h
      · cases h
        rfl
      · cases h
    · cases h
  · exact absurd rfl htag
  all_goals cases h

namespace Assembly

/-- A sequence has no text. -/
theorem textOf_sequence {id : NodeId} {s : Assembly} {items : List NodeId}
    (h : s.contents.getD id (.scalar "") = .sequence items) (fuel : Nat)
    (post : Text → Assembly → Prop) : Ensures (textOf fuel id) s post := by
  cases fuel with
  | zero => exact ensures_throw _
  | succ fuel =>
    refine ensures_contentAt_bind ?_
    rw [h]
    exact ensures_throw _

theorem ensures_value {s : Assembly} {tag : Tag} {text : Text} (htag : tag ≠ .timestamp) :
    Ensures (do return Part.value (← scalarValue tag text)) s fun part s' =>
      s' = s ∧ part.Dateless := by
  have hvalue : Ensures (liftM (scalarValue tag text)) s fun v s' =>
      s' = s ∧ v.holds Value.isDate = false :=
    ensures_lift fun v hv => ⟨rfl, scalarValue_dateless htag hv⟩
  refine hvalue.bind ?_
  rintro v _ ⟨rfl, hv⟩
  exact ensures_pure ⟨rfl, hv⟩

/-- What a node is made into that is taken for a scalar. -/
theorem ensures_scalarPart {s : Assembly} (hs : s.Dateless) (id : NodeId) :
    Ensures (scalarPart id (s.tags.getD id .null)) s fun part s' => s' = s ∧ part.Dateless := by
  have htext : Ensures (textOf (s.contents.size + 1) id) s fun _ s' =>
      s' = s ∧ ∀ items, s.contents.getD id (.scalar "") ≠ .sequence items :=
    fun text s' hrun => ⟨looks_textOf _ id s text s' hrun, fun items hitems =>
      textOf_sequence hitems _ (fun _ _ => False) text s' hrun⟩
  unfold scalarPart
  -- Looking for the text changes nothing, so the content is still that of the node with the tag.
  refine ensures_get_bind (htext.bind ?_)
  rintro text _ ⟨hsame, hsequence⟩
  rw [hsame]
  refine ensures_contentAt_bind ?_
  split
  case h_1 => exact ensures_throw _
  case h_2 =>
    split
    · exact ensures_pure ⟨rfl, trivial⟩
    · exact ensures_value (by decide)
  case h_3 _ hmapping =>
    refine ensures_value fun htag => ?_
    -- A scalar has another tag, a sequence no text, and a mapping is refused.
    cases hcontent : s.contents.getD id (.scalar "") with
    | scalar text => exact hs.untagged id text hcontent htag
    | sequence items => exact hsequence items hcontent
    | mapping entries => exact hmapping entries htag hcontent

/-! ## Making parts -/

theorem keeps_announce (id : NodeId) (part : Part) (h : part.Dateless) :
    Keeps Dateless (announce id part) fun _ => True :=
  (keeps_setPart id h).bind fun _ _ _ hs => ensures_modify ⟨⟨hs.untagged, hs.parts⟩, trivial⟩

theorem keeps_make (id : NodeId) : Keeps Dateless (make id) fun _ => True := by
  refine fun s hs => ensures_get_bind ?_
  split
  · exact ensures_pure ⟨hs, trivial⟩
  · refine ensures_tagAt_bind ?_
    split
    case h_1 => exact keeps_announce id (.list []) trivial s hs
    case h_2 | h_3 => exact keeps_announce id (.pairs []) trivial s hs
    case h_4 => exact keeps_announce id (.map []) (List.forall_mem_nil _) s hs
    case h_5 => exact keeps_announce id (.set []) (List.forall_mem_nil _) s hs
    case h_6 | h_7 | h_8 => exact ensures_throw _
    case h_9 =>
      refine (ensures_scalarPart hs id).bind ?_
      rintro part _ ⟨rfl, hpart⟩
      exact keeps_setPart id hpart _ hs

/-- A key that was made holds no day or moment. -/
theorem keeps_makeKey (id : NodeId) :
    Keeps Dateless (makeKey id) fun key => key.value.holds Value.isDate = false := by
  refine (keeps_make id).bind fun _ _ s hs => ensures_get_bind ?_
  split
  · rename_i v hmade
    exact ensures_pure ⟨hs, hs.parts id (.value v) hmade⟩
  · exact ensures_pure ⟨hs, rfl⟩
  · exact ensures_throw _

theorem mem_putEntry {key : Key} {node : NodeId} {made : List (Key × NodeId)} {entry : Key × NodeId}
    (h : entry ∈ putEntry key node made) : entry.1 = key ∨ ∃ old ∈ made, entry.1 = old.1 := by
  fun_induction putEntry key node made with
  | case1 => exact .inl (congrArg Prod.fst (List.mem_singleton.1 h))
  | case2 k n rest hsame =>
    obtain rfl | hrest := List.mem_cons.1 h
    · exact .inr ⟨(k, n), List.mem_cons_self, rfl⟩
    · exact .inr ⟨entry, List.mem_cons_of_mem _ hrest, rfl⟩
  | case3 k n rest hdiffers ih =>
    obtain rfl | hrest := List.mem_cons.1 h
    · exact .inr ⟨(k, n), List.mem_cons_self, rfl⟩
    · exact (ih hrest).imp_right fun ⟨old, hold, heq⟩ => ⟨old, List.mem_cons_of_mem _ hold, heq⟩

theorem keeps_makeEntries {made : List (Key × NodeId)}
    (hmade : ∀ entry ∈ made, entry.1.value.holds Value.isDate = false) (entries : List Entry) :
    Keeps Dateless (makeEntries made entries) fun all =>
      ∀ entry ∈ all, entry.1.value.holds Value.isDate = false := by
  induction entries generalizing made with
  | nil => exact keeps_pure hmade
  | cons entry rest ih =>
    obtain ⟨k, v⟩ := entry
    refine (keeps_makeKey k).bind fun key hkey => (keeps_make v).bind fun _ _ => ih ?_
    intro entry hentry
    obtain h | ⟨old, hold, h⟩ := mem_putEntry hentry
    · exact h ▸ hkey
    · exact h ▸ hmade old hold

theorem keeps_makeMapping (id : NodeId) :
    Keeps Dateless (makeMapping id) fun entries =>
      ∀ entry ∈ entries, entry.1.value.holds Value.isDate = false := by
  refine (looks_contentAt id).keeps.bind fun content _ => ?_
  cases content with
  | scalar | sequence => exact keeps_throw _
  | mapping _ =>
    exact looks_mergeFuel.keeps.bind fun fuel _ => (keeps_flatten fuel id).bind fun _ _ =>
      (looks_entriesAt id).keeps.bind fun entries _ => keeps_makeEntries (by simp) entries

theorem keeps_makePairs (items : List NodeId) :
    Keeps Dateless (makePairs items) fun _ => True := by
  induction items with
  | nil => exact keeps_pure trivial
  | cons id rest ih =>
    refine (looks_contentAt id).keeps.bind fun content _ => ?_
    split
    · exact (keeps_make _).bind fun _ _ => (keeps_make _).bind fun _ _ =>
        ih.bind fun _ _ => keeps_pure trivial
    · exact keeps_throw _

theorem keeps_fill (id : NodeId) : Keeps Dateless (fill id) fun _ => True := by
  refine (looks_tagAt id).keeps.bind fun tag _ => ?_
  split
  · exact (looks_itemsAt id).keeps.bind fun items _ => (keeps_forM keeps_make items).bind fun _ _ =>
      keeps_setPart id trivial
  · exact (looks_itemsAt id).keeps.bind fun items _ => (keeps_makePairs items).bind fun _ _ =>
      keeps_setPart id trivial
  · exact (looks_itemsAt id).keeps.bind fun items _ => (keeps_makePairs items).bind fun _ _ =>
      keeps_setPart id trivial
  · refine (keeps_makeMapping id).bind fun entries hentries => keeps_setPart id ?_
    exact List.forall_mem_map.2 hentries
  · refine (keeps_makeMapping id).bind fun entries hentries => keeps_setPart id ?_
    exact List.forall_mem_map.2 hentries
  · exact keeps_pure trivial

/-- Each round fills what the round before has met; the induction is on the number of rounds. -/
theorem keeps_fillAll (fuel : Nat) : Keeps Dateless (fillAll fuel) fun _ => True := by
  induction fuel with
  | zero => exact keeps_pure trivial
  | succ fuel ih =>
    refine looks_get.keeps.bind fun s _ => ?_
    split
    · exact keeps_pure trivial
    · exact Keeps.bind (Q := fun _ => True)
        (fun s hs => ensures_modify ⟨⟨hs.untagged, hs.parts⟩, trivial⟩)
        fun _ _ => (keeps_forM keeps_fill _).bind fun _ _ => ih

/-- **All that is made of a graph without scalars that are tagged as timestamps is without days and
moments.** -/
theorem keeps_run (root : NodeId) : Keeps Dateless (run root) fun _ => True :=
  (keeps_make root).bind fun _ _ => looks_get.keeps.bind fun _ _ => keeps_fillAll _

end Assembly

/-! ## Putting parts together -/

section Build

variable {below : Array Built} {parts : Array Part}

/-- The values that were built hold no day or moment. -/
def BuiltDateless (below : Array Built) : Prop := ∀ b ∈ below, b.1.holds Value.isDate = false

theorem builtAt_dateless (h : BuiltDateless below) (id : NodeId) :
    (Part.builtAt below id).1.holds Value.isDate = false := by
  rw [Part.builtAt, Array.getD_eq_getD_getElem?]
  cases hid : below[id]? with
  | none => rfl
  | some b => exact h b (Array.mem_of_getElem? hid)

theorem Part.build_dateless {part : Part} (hpart : part.Dateless) (hbelow : BuiltDateless below) :
    (part.build below).1.holds Value.isDate = false := by
  cases part with
  | value v => exact hpart
  | sharedNan => rfl
  | list items =>
    refine Value.holds_list_eq_false.2 ⟨rfl, ?_⟩
    simp only [List.forall_mem_map]
    exact fun id _ => builtAt_dateless hbelow id
  | map entries =>
    refine Value.holds_map_eq_false.2 ⟨rfl, ?_⟩
    simp only [List.forall_mem_map]
    exact fun entry hentry => ⟨hpart entry hentry, builtAt_dateless hbelow entry.2⟩
  | set members => exact Value.holds_set_eq_false.2 ⟨rfl, hpart⟩
  | pairs entries =>
    refine Value.holds_list_eq_false.2 ⟨rfl, ?_⟩
    simp only [List.forall_mem_map]
    refine fun entry _ => Value.holds_tuple_eq_false.2 ⟨rfl, ?_⟩
    simp [builtAt_dateless hbelow]

theorem exists_of_mem_zipWith {α β γ : Type} {f : α → β → γ} {as : Array α} {bs : Array β} {c : γ}
    (h : c ∈ Array.zipWith f as bs) : ∃ a ∈ as, ∃ b ∈ bs, f a b = c := by
  obtain ⟨i, hi⟩ := Array.mem_iff_getElem?.1 h
  obtain ⟨a, b, ha, hb, rfl⟩ := Array.getElem?_zipWith_eq_some.1 hi
  exact ⟨a, Array.mem_of_getElem? ha, b, Array.mem_of_getElem? hb, rfl⟩

theorem Part.buildAll_dateless (hparts : ∀ part ∈ parts, part.Dateless)
    (hbelow : BuiltDateless below) (levels : Nat) :
    BuiltDateless (Part.buildAll parts levels below) := by
  induction levels generalizing below with
  | zero => exact hbelow
  | succ levels ih =>
    rw [Part.buildAll]
    split
    · exact hbelow
    · refine ih fun b hb => ?_
      obtain ⟨part, hpart, built, hbuilt, rfl⟩ := exists_of_mem_zipWith hb
      split
      · exact hbelow built hbuilt
      · exact Part.build_dateless (hparts part hpart) hbelow

theorem Part.values_dateless (hparts : ∀ part ∈ parts, part.Dateless) :
    BuiltDateless (Part.values parts) := by
  have hstart (v : Value) (hv : v.holds Value.isDate = false) :
      BuiltDateless (parts.map fun _ => (v, false)) := by
    intro b hb
    obtain ⟨part, -, rfl⟩ := Array.mem_map.1 hb
    exact hv
  simp only [Part.values]
  split
  · exact Part.buildAll_dateless hparts (hstart .endless rfl) _
  · refine Part.buildAll_dateless hparts (fun b hb => ?_) _
    obtain ⟨cut, hcut, ended, -, rfl⟩ := exists_of_mem_zipWith hb
    split
    · exact Part.buildAll_dateless hparts (hstart .tooDeep (by decide)) _ cut hcut
    · rfl

end Build

/-! ## Documents -/

/-- The node is a scalar with the tag of timestamps. -/
def Node.IsTaggedTimestamp (node : Node) : Prop :=
  ∃ address text, node = ⟨.tagged address, .scalar text⟩ ∧ Tag.ofAddress address = .timestamp

theorem ImplicitRule.apply_manifest_ne_timestamp (text : Text) :
    ImplicitRule.apply ImplicitRule.manifest text ≠ .timestamp := by
  cases text with
  | illFormed points hpoints => exact Tag.noConfusion
  | string s =>
    rw [ImplicitRule.apply]
    split
    · rename_i rule hfind
      exact of_decide_eq_true (List.mem_filter.1 (List.mem_of_find?_eq_some hfind)).2
    · decide

/-- Under the rules for manifests a scalar has the tag of timestamps only if it is written. -/
theorem Node.tag_ne_timestamp {node : Node} {text : Text} (h : ¬node.IsTaggedTimestamp)
    (hcontent : node.content = .scalar text) : node.tag ImplicitRule.manifest ≠ .timestamp := by
  obtain ⟨mark, content⟩ := node
  obtain rfl : content = .scalar text := hcontent
  cases mark with
  | tagged address => exact fun htag => h ⟨address, text, rfl, htag⟩
  | plain => exact ImplicitRule.apply_manifest_ne_timestamp text
  | untagged => exact fun htag => by cases htag

theorem Graph.dateless_ofGraph {g : Graph} (h : ∀ node ∈ g.nodes, ¬node.IsTaggedTimestamp) :
    (Assembly.ofGraph ImplicitRule.manifest g).Dateless where
  untagged := by
    intro id text
    simp only [Assembly.ofGraph, Array.getD_eq_getD_getElem?, Array.getElem?_map]
    cases hid : g.nodes[id]? with
    | none => exact fun _ htag => by cases htag
    | some node =>
      exact fun hcontent => Node.tag_ne_timestamp (h node (Array.mem_of_getElem? hid)) hcontent
  parts := by
    intro id part
    simp only [Assembly.ofGraph, Array.getD_eq_getD_getElem?, Array.getElem?_map]
    cases g.nodes[id]? <;> exact fun hpart => by cases hpart

/-- **The value of a document in which no scalar is declared to be a timestamp.** -/
theorem Graph.value_dateless {g : Graph} {v : Value}
    (h : ∀ node ∈ g.nodes, ¬node.IsTaggedTimestamp)
    (hvalue : g.value ImplicitRule.manifest = .ok v) : v.holds Value.isDate = false := by
  obtain ⟨⟨_, made⟩, hrun, hpure⟩ := bind_eq_ok.1 hvalue
  cases hpure
  have hmade : made.Dateless := (Assembly.keeps_run g.root _ (Graph.dateless_ofGraph h) _ _ hrun).1
  refine builtAt_dateless (Part.values_dateless fun part hpart => ?_) g.root
  obtain ⟨found, hfound, rfl⟩ := Array.mem_map.1 hpart
  obtain ⟨id, hid⟩ := Array.mem_iff_getElem?.1 hfound
  cases found with
  | none => rfl
  | some part =>
    exact hmade.parts id part (by rw [Array.getD_eq_getD_getElem?, hid, Option.getD_some])

theorem Composition.values_dateless {s : Composition} {values : List Value}
    (h : ∀ node ∈ s.nodes, ¬node.IsTaggedTimestamp)
    (hvalues : s.values ImplicitRule.manifest = .ok values) :
    ∀ v ∈ values, v.holds Value.isDate = false := by
  obtain ⟨all, hall, hend⟩ := bind_eq_ok.1 hvalues
  split at hend
  · cases hend
    intro v hv
    obtain ⟨g, hg, hvalue⟩ := exists_of_mapM_eq_ok hall hv
    exact g.value_dateless (fun node hnode => h node
      (List.mem_flatMap.2 ⟨g, hg, Array.mem_toList_iff.2 hnode⟩)) hvalue
  · cases hend

end Yaml
end Patchwork
