import Mathlib.Tactic.MkIffOfInductiveProp
import Patchwork.Proofs.Schema

/-!
# Values that a schema accepts

The check of a schema lists issues at locations.  What it is to have none does not depend on the
location and can be said without the check: `Schema.Accepts` asks for the kind of the value, for
what the schema says about the value itself, and the same of its entries and items.

* `Schema.check_eq_nil_iff` — the check finds no issue exactly in the values that are accepted.
* `Schema.AcceptsEntries` — the schemas of a map accept its entries, with one lemma for each way of
  writing an entry.
* `Schema.AcceptsEntries.text`, `Schema.AcceptsEntries.part`, `Schema.AcceptsEntries.array` — what
  was read of an entry comes of something that is accepted.
-/

set_option autoImplicit false

namespace Patchwork

open Value

namespace Schema

/-! ## Acceptance -/

/-- A value has what a schema asks of the value itself. -/
@[mk_iff]
structure Suits (schema : Schema) (v : Value) : Prop where
  kind : schema.typeFits v = true
  allowed : ∀ allowed, schema.enum? = some allowed → ∃ w ∈ allowed, v.same w = true
  length : ∀ s, v = .str s → schema.minLength ≤ s.length
  pattern : ∀ s pattern, v = .str s → schema.pattern? = some pattern → s.startsWith pattern = true
  required : ∀ es, v = .map es → ∀ key ∈ schema.required, field es key ≠ .null

/-- A value suits a schema, the entries of a map that have a schema are null or accepted by it, and
so are the items of an array. -/
inductive Accepts : Schema → Value → Prop where
  | intro {schema : Schema} {v : Value} (suits : schema.Suits v)
      (entries : ∀ es, v = .map es → schema.preserveUnknown = false → ∀ key w child,
        (.str key, w) ∈ es → w ≠ .null → schema.properties.lookup key = some child →
        Accepts child w)
      (items : ∀ items, v = .list items → ∀ child, schema.items? = some child →
        ∀ w ∈ items, Accepts child w) : Accepts schema v

/-- The entries of a map that have a schema are null or accepted by it. -/
def AcceptsEntries (properties : List (Text × Schema)) (es : List (Value × Value)) : Prop :=
  ∀ key w child, (.str key, w) ∈ es → w ≠ .null → properties.lookup key = some child →
    Accepts child w

variable {schema child : Schema} {v w : Value} {es fs : List (Value × Value)}
  {items : List Value} {key location : Text} {required : List Text}
  {properties : List (Text × Schema)}

theorem Accepts.suits (h : schema.Accepts v) : schema.Suits v := by
  cases h with
  | intro suits _ _ => exact suits

theorem acceptsEntries_cons_iff {text : Text} :
    AcceptsEntries properties ((.str text, v) :: es) ↔
      (v ≠ .null → ∀ child, properties.lookup text = some child → Accepts child v) ∧
        AcceptsEntries properties es := by
  constructor
  · intro h
    exact ⟨fun hne child hchild => h text v child List.mem_cons_self hne hchild,
      fun key w child hmem => h key w child (List.mem_cons_of_mem _ hmem)⟩
  · rintro ⟨hhead, hrest⟩ key w child hmem hne hchild
    rcases List.mem_cons.1 hmem with heq | hmem
    · cases heq
      exact hhead hne child hchild
    · exact hrest key w child hmem hne hchild

theorem acceptsEntries_cons_of_ne_iff {k : Value} (h : ∀ text, k ≠ .str text) :
    AcceptsEntries properties ((k, v) :: es) ↔ AcceptsEntries properties es := by
  constructor
  · intro hall key w child hmem
    exact hall key w child (List.mem_cons_of_mem _ hmem)
  · intro hrest key w child hmem hne hchild
    rcases List.mem_cons.1 hmem with heq | hmem
    · cases heq
      exact absurd rfl (h key)
    · exact hrest key w child hmem hne hchild

/-! ## The check -/

/-- A value suits a schema if its kind fits and nothing is wrong with the value itself. -/
theorem ownFaults_eq_nil_iff (hkind : schema.typeFits v = true) :
    schema.ownFaults v = [] ↔ schema.Suits v := by
  simp only [ownFaults, List.append_eq_nil_iff, suits_iff, hkind, true_and, and_assoc]
  refine and_congr ?_ (Iff.trans (and_congr ?_ ?_) and_assoc)
  · cases schema.enum? with
    | none => simp
    | some allowed => simp
  · cases v
    case str s => cases schema.pattern? <;> simp
    all_goals simp
  · cases v
    case map es => simp [isNull_iff]
    all_goals simp

theorem check_eq_nil_iff_checkParts :
    schema.check location v = [] ↔ schema.Suits v ∧ schema.checkParts location v = [] := by
  rw [check_eq]
  split
  · rename_i hkind
    rw [List.append_eq_nil_iff, List.map_eq_nil_iff, ownFaults_eq_nil_iff hkind]
  · rename_i hkind
    have hissue : schema.typeFault v ≠ [] := by
      unfold typeFits at hkind
      unfold typeFault
      cases htype : schema.type? with
      | none => simp [htype] at hkind
      | some t => simp
    rw [List.map_eq_nil_iff]
    exact ⟨fun h => absurd h hissue, fun h => absurd h.1.kind hkind⟩

theorem accepts_map_iff :
    schema.Accepts (.map es) ↔ schema.Suits (.map es) ∧
      (schema.preserveUnknown = false → AcceptsEntries schema.properties es) := by
  constructor
  · rintro ⟨suits, entries, -⟩
    exact ⟨suits, entries es rfl⟩
  · rintro ⟨suits, entries⟩
    refine .intro suits ?_ nofun
    rintro _ ⟨⟩ hopen
    exact entries hopen

theorem accepts_list_iff :
    schema.Accepts (.list items) ↔ schema.Suits (.list items) ∧
      ∀ child, schema.items? = some child → ∀ w ∈ items, Accepts child w := by
  constructor
  · rintro ⟨suits, -, hitems⟩
    exact ⟨suits, hitems items rfl⟩
  · rintro ⟨suits, hitems⟩
    refine .intro suits nofun ?_
    rintro _ ⟨⟩
    exact hitems

/-- A value without parts is accepted if it suits the schema. -/
theorem accepts_iff_suits (hmap : ∀ es, v ≠ .map es) (hlist : ∀ items, v ≠ .list items) :
    schema.Accepts v ↔ schema.Suits v :=
  ⟨Accepts.suits, fun suits => .intro suits (fun es h => absurd h (hmap es))
    fun items h => absurd h (hlist items)⟩

mutual

/-- **The check finds no issue exactly in the values that the schema accepts**, wherever they
stand. -/
theorem check_eq_nil_iff : ∀ (v : Value) {schema : Schema} {location : Text},
    schema.check location v = [] ↔ schema.Accepts v
  | .map es, schema, location => by
    rw [check_eq_nil_iff_checkParts, accepts_map_iff, checkParts]
    cases schema.preserveUnknown with
    | true => simp
    | false => simp [checkEntries_eq_nil_iff es]
  | .list items, schema, location => by
    rw [check_eq_nil_iff_checkParts, accepts_list_iff, checkParts]
    cases schema.items? with
    | none => simp
    | some child => simp [checkItems_eq_nil_iff items]
  | .null, schema, location | .bool _, schema, location | .int _, schema, location
  | .float _, schema, location | .str _, schema, location | .tuple _, schema, location
  | .date _, schema, location | .datetime _, schema, location | .bytes _, schema, location
  | .set _, schema, location | .endless, schema, location => by
    rw [check_eq_nil_iff_checkParts, accepts_iff_suits (by simp) (by simp)]
    exact and_iff_left rfl

theorem checkEntries_eq_nil_iff : ∀ (es : List (Value × Value))
    {properties : List (Text × Schema)} {location : Text},
    checkEntries location properties es = [] ↔ AcceptsEntries properties es
  | [], _, _ => by simp [checkEntries, AcceptsEntries]
  | (k, v) :: rest, properties, location => by
    by_cases hk : ∃ text, k = .str text
    · obtain ⟨text, rfl⟩ := hk
      rw [checkEntries_cons, List.append_eq_nil_iff, checkEntries_eq_nil_iff rest,
        acceptsEntries_cons_iff]
      refine and_congr_left fun _ => ?_
      by_cases hnull : v = .null
      · simp [hnull, isNull]
      · have hisNull : v.isNull = false := Bool.eq_false_iff.2 (mt isNull_iff.1 hnull)
        simp only [hisNull, hnull, Bool.false_eq_true, if_false, ne_eq, not_false_eq_true,
          forall_const]
        cases properties.lookup text with
        | none => simp
        | some child => simp [check_eq_nil_iff v]
    · have hne : ∀ text, k ≠ .str text := fun text heq => hk ⟨text, heq⟩
      rw [checkEntries_cons_of_ne _ hne, checkEntries_eq_nil_iff rest,
        acceptsEntries_cons_of_ne_iff hne]

theorem checkItems_eq_nil_iff : ∀ (items : List Value) {schema : Schema} {i : Nat}
    {location : Text},
    checkItems location schema i items = [] ↔ ∀ v ∈ items, schema.Accepts v
  | [], _, _, _ => by simp [checkItems]
  | v :: rest, schema, i, location => by
    rw [checkItems, List.append_eq_nil_iff, check_eq_nil_iff v, checkItems_eq_nil_iff rest,
      List.forall_mem_cons]

end

/-! ## Texts and arrays -/

/-- A schema that asks for a text of some length accepts the texts that are that long. -/
theorem accepts_text_iff {text : Text} (htype : schema.type? = some .string)
    (henum : schema.enum? = none) (hpattern : schema.pattern? = none) :
    schema.Accepts (.str text) ↔ schema.minLength ≤ text.length := by
  have hkind : schema.typeFits (.str text) = true := by simp [typeFits, htype, SchemaType.admits]
  rw [accepts_iff_suits (by simp) (by simp)]
  constructor
  · intro suits
    exact suits.length text rfl
  · intro hlength
    refine ⟨hkind, ?_, ?_, ?_, ?_⟩
    · simp [henum]
    · rintro _ ⟨⟩
      exact hlength
    · simp [hpattern]
    · rintro es ⟨⟩

theorem accepts_oneOf_iff {names : List Text} {default? : Option Value} {name : Text} :
    Accepts { ObjectSchema.oneOf names with default? } (.str name) ↔ name ∈ names := by
  constructor
  · intro h
    have hcheck : check "" { ObjectSchema.oneOf names with default? } (.str name) = [] :=
      (check_eq_nil_iff _).2 h
    exact mem_of_check_eq_nil hcheck
  · intro hname
    refine (accepts_iff_suits (by simp) (by simp)).2 ⟨rfl, ?_, ?_, nofun, nofun⟩
    · rintro allowed ⟨⟩
      exact ⟨.str name, List.mem_map_of_mem hname, by simp [same, sameScalar]⟩
    · exact fun _ _ => Nat.zero_le _

theorem Accepts.typeFits (h : schema.Accepts v) : schema.typeFits v = true := h.suits.kind

theorem Accepts.exists_list (h : (ObjectSchema.arrayOf schema).Accepts v) :
    ∃ items, v = .list items ∧ ∀ w ∈ items, schema.Accepts w := by
  have hkind := h.typeFits
  cases v <;> try cases hkind
  rename_i items
  exact ⟨items, rfl, (accepts_list_iff.1 h).2 schema rfl⟩

theorem accepts_arrayOf (h : ∀ w ∈ items, schema.Accepts w) :
    (ObjectSchema.arrayOf schema).Accepts (.list items) := by
  refine accepts_list_iff.2 ⟨⟨rfl, nofun, nofun, nofun, nofun⟩, ?_⟩
  rintro child ⟨⟩
  exact h

/-! ## Maps -/

theorem accepts_object_iff :
    (ObjectSchema.object required properties).Accepts (.map es) ↔
      (∀ key ∈ required, field es key ≠ .null) ∧ AcceptsEntries properties es := by
  rw [accepts_map_iff]
  constructor
  · rintro ⟨suits, hentries⟩
    exact ⟨suits.required es rfl, hentries rfl⟩
  · rintro ⟨hrequired, hentries⟩
    refine ⟨⟨rfl, nofun, nofun, nofun, ?_⟩, fun _ => hentries⟩
    rintro _ ⟨⟩
    exact hrequired

theorem Accepts.exists_map (h : (ObjectSchema.object required properties).Accepts v) :
    ∃ es, v = .map es ∧ (∀ key ∈ required, field es key ≠ .null) ∧
      AcceptsEntries properties es := by
  have hkind := h.typeFits
  cases v <;> try cases hkind
  rename_i es
  exact ⟨es, rfl, accepts_object_iff.1 h⟩

/-- A schema of maps that says nothing about entries accepts every map. -/
theorem accepts_open (hkind : schema.type? = some .object) (hleaf : schema.enum? = none)
    (hrequired : schema.required = []) (hopen : schema.preserveUnknown = true ∨
      schema.properties = []) (es : List (Value × Value)) : schema.Accepts (.map es) := by
  refine accepts_map_iff.2 ⟨⟨?_, ?_, nofun, nofun, ?_⟩, ?_⟩
  · simp [typeFits, hkind, SchemaType.admits]
  · simp [hleaf]
  · simp [hrequired]
  · intro hclosed key w child _ _ hchild
    rcases hopen with hopen | hnone
    · rw [hopen] at hclosed
      cases hclosed
    · rw [hnone] at hchild
      cases hchild

/-! ### Entries that are written -/

theorem field_ne_null_of_lookup (h : lookup key es = some v) (hv : v ≠ .null) :
    field es key ≠ .null := by
  rwa [field_of_lookup h]

/-- A free text is accepted. -/
theorem accepts_text (htype : schema.type? = some .string) (henum : schema.enum? = none)
    (hpattern : schema.pattern? = none) (hlength : schema.minLength = 0) (text : Text) :
    schema.Accepts (.str text) := by
  rw [accepts_text_iff htype henum hpattern, hlength]
  exact Nat.zero_le _

theorem acceptsEntries_nil : AcceptsEntries properties [] := nofun

theorem AcceptsEntries.append (h : AcceptsEntries properties es)
    (h' : AcceptsEntries properties fs) : AcceptsEntries properties (es ++ fs) := by
  intro key w child hmem
  rcases List.mem_append.1 hmem with hmem | hmem
  · exact h key w child hmem
  · exact h' key w child hmem

theorem AcceptsEntries.cons (hchild : properties.lookup key = some child) (hv : child.Accepts v)
    (h : AcceptsEntries properties es) : AcceptsEntries properties ((.str key, v) :: es) := by
  refine acceptsEntries_cons_iff.2 ⟨fun _ other hother => ?_, h⟩
  rw [hchild, Option.some.injEq] at hother
  exact hother ▸ hv

theorem acceptsEntries_single (hchild : properties.lookup key = some child)
    (hv : child.Accepts v) : AcceptsEntries properties [(.str key, v)] :=
  .cons hchild hv acceptsEntries_nil

theorem acceptsEntries_unless {c : Prop} [Decidable c]
    (hchild : properties.lookup key = some child) (hv : ¬ c → child.Accepts v) :
    AcceptsEntries properties (if c then [] else [(.str key, v)]) := by
  split
  · exact acceptsEntries_nil
  · rename_i hc
    exact acceptsEntries_single hchild (hv hc)

theorem acceptsEntries_unlessEmpty {text : Text} (hchild : properties.lookup key = some child)
    (hv : child.Accepts (.str text)) :
    AcceptsEntries properties (entryUnlessEmpty key text) :=
  acceptsEntries_unless hchild fun _ => hv

theorem acceptsEntries_ifSome {α : Type} {write : α → Value} {a : Option α}
    (hchild : properties.lookup key = some child) (hv : ∀ b, a = some b → child.Accepts (write b)) :
    AcceptsEntries properties (entryIfSome key write a) := by
  cases a with
  | none => exact acceptsEntries_nil
  | some b => exact acceptsEntries_single hchild (hv b rfl)

/-! ### Entries that are read -/

variable {α : Type}

theorem AcceptsEntries.lookup (h : AcceptsEntries properties es)
    (hlookup : lookup key es = some v) (hne : v ≠ .null)
    (hchild : properties.lookup key = some child) : child.Accepts v :=
  h key v child (mem_of_lookup hlookup) hne hchild

/-- A text that is read is accepted. -/
theorem AcceptsEntries.text (h : AcceptsEntries properties es) {given : Option Text}
    (hchild : properties.lookup key = some child)
    (hread : Value.optional es key .string location = .ok given) :
    ∀ text, given = some text → child.Accepts (.str text) := by
  rintro text rfl
  rcases optional_eq_ok hread with ⟨hnone, -⟩ | ⟨_, v, ⟨⟩, hv, hne, hvalue⟩
  · cases hnone
  · obtain rfl := Shape.string_eq_some.1 hvalue
    exact h.lookup hv hne hchild

/-- What is read of an entry is read out of something that is accepted. -/
theorem AcceptsEntries.part (h : AcceptsEntries properties es) {given : Option α}
    {convert : Value → Except ConversionError α} (hchild : properties.lookup key = some child)
    (hread : Value.optionalWith es key convert = .ok given) :
    ∀ a, given = some a → ∃ v, child.Accepts v ∧ convert v = .ok a := by
  rintro a rfl
  rcases optionalWith_eq_ok hread with ⟨hnone, -⟩ | ⟨_, v, ⟨⟩, hv, hne, hconvert⟩
  · cases hnone
  · exact ⟨v, h.lookup hv hne hchild, hconvert⟩

/-- The items of an array that is read are read out of what is accepted. -/
theorem AcceptsEntries.array (h : AcceptsEntries properties es) {given : Option (List Value)}
    {inner : Text} {convert : Text → Value → Except ConversionError α} {as : List α}
    (hchild : properties.lookup key = some (ObjectSchema.arrayOf child))
    (hread : Value.optional es key .array location = .ok given)
    (hitems : convertItems inner convert 0 (given.getD []) = .ok as) :
    ∀ a ∈ as, ∃ place v, child.Accepts v ∧ convert place v = .ok a := by
  intro a ha
  obtain ⟨place, v, hv, hconvert⟩ := exists_of_mem_convertItems hitems a ha
  rcases optional_eq_ok hread with ⟨rfl, -⟩ | ⟨items, w, rfl, hw, hne, hvalue⟩
  · cases hv
  · obtain rfl := Shape.array_eq_some.1 hvalue
    obtain ⟨_, ⟨⟩, hall⟩ := (h.lookup hw hne hchild).exists_list
    exact ⟨place, v, hall v hv, hconvert⟩

/-- What is required is read. -/
theorem exists_of_required {shape : Shape α} {given : Option α} (hrequired : field es key ≠ .null)
    (hread : Value.optional es key shape location = .ok given) : ∃ a, given = some a := by
  rcases optional_eq_ok hread with ⟨-, hnull⟩ | ⟨a, _, ha, -⟩
  · exact absurd hnull hrequired
  · exact ⟨a, ha⟩

theorem exists_of_required_part {convert : Value → Except ConversionError α} {given : Option α}
    (hrequired : field es key ≠ .null) (hread : Value.optionalWith es key convert = .ok given) :
    ∃ a, given = some a := by
  rcases optionalWith_eq_ok hread with ⟨-, hnull⟩ | ⟨a, _, ha, -⟩
  · exact absurd hnull hrequired
  · exact ⟨a, ha⟩

end Schema
end Patchwork
