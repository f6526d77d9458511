import Patchwork.Proofs.FieldPath.Join

/-!
# The grammar of field paths

A path is a sequence of items, each of which gives one segment.  An item is a bare key, or brackets
around a key or a position.  A dot stands in front of every bare key but the first item; in front of
brackets that are not the first item it may stand or not.

* `FieldPath.Item` — the items, and the segment that each gives.
* `FieldPath.Spells` — characters that begin with a path, as a grammar apart from the scan.
* `FieldPath.parse_of_spells`, `FieldPath.parse_settled` — what is spelled is read, and what is read
  is spelled.
* `FieldPath.parse_grammar` — exactly the texts of the grammar are paths, and which error all others
  give.
-/

set_option autoImplicit false

namespace Patchwork
namespace FieldPath

/-! ## Items -/

/-- The characters are a key that can stand without brackets. -/
def IsBare (name : List CodePoint) : Prop :=
  name ≠ [] ∧ ∀ c ∈ name, c ≠ '.' ∧ c ≠ '[' ∧ c ≠ ']'

/-- The characters can stand in brackets, dots and opening brackets among them. -/
def IsContent (content : List CodePoint) : Prop := content ≠ [] ∧ CodePoint.char ']' ∉ content

/-- A part of a path that gives one segment. -/
inductive Item where
  | key (name : List CodePoint) (bare : IsBare name)
  | brackets (content : List CodePoint) (closes : IsContent content)

namespace Item

def text : Item → List CodePoint
  | .key name _ => name
  | .brackets content _ => .char '[' :: (content ++ [.char ']'])

/-- The segment of an item: what stands in brackets is a position if it is all ASCII digits, and a
bare key is a key even then. -/
def segment : Item → Segment
  | .key name _ => .field (Text.ofList name)
  | .brackets content _ =>
    if content.all CodePoint.isDigit then
      .index (Nat.ofDigitChars 10 (content.filterMap CodePoint.char?) 0)
    else .field (Text.ofList content)

/-- The item is a position with more digits than a number may have. -/
def TooLong : Item → Prop
  | .key _ _ => False
  | .brackets content _ => content.all CodePoint.isDigit = true ∧ Limit.maxDigits < content.length

variable {i : Item} {content : List CodePoint}

theorem bracketSegment_of_tooLong {closes : IsContent content}
    (h : (brackets content closes).TooLong) :
    bracketSegment content = .error .tooManyDigits := by
  rw [bracketSegment, if_pos h.1, if_pos h.2]

theorem map_char_filterMap {digits : List CodePoint} (h : digits.all CodePoint.isDigit = true) :
    (digits.filterMap CodePoint.char?).map .char = digits := by
  induction digits with
  | nil => rfl
  | cons c rest ih =>
    simp only [List.all_cons, Bool.and_eq_true] at h
    obtain ⟨hc, hrest⟩ := h
    cases c with
    | surrogate n => cases hc
    | char c =>
      rw [List.filterMap_cons_some (CodePoint.char?_char c), List.map_cons, ih hrest]

theorem bracketSegment_of_not_tooLong {closes : IsContent content}
    (h : ¬ (brackets content closes).TooLong) :
    bracketSegment content = .ok (brackets content closes).segment := by
  simp only [bracketSegment, segment]
  split
  · rename_i hdigits
    have hvalue : decimalValue content =
        Nat.ofDigitChars 10 (content.filterMap CodePoint.char?) 0 := by
      rw [← decimalValue_map_char, map_char_filterMap hdigits]
    rw [if_neg fun hlong => h ⟨hdigits, hlong⟩, hvalue]
  · rfl

end Item

/-! ## The grammar -/

/-- Behind an item, the characters go on with `items` and then with `rest`. -/
inductive Behind : List CodePoint → List Item → List CodePoint → Prop where
  | done (rest : List CodePoint) : Behind rest [] rest
  | dotted (i : Item) {chars rest : List CodePoint} {items : List Item}
      (h : Behind chars items rest) : Behind (.char '.' :: (i.text ++ chars)) (i :: items) rest
  | brackets (content : List CodePoint) (closes : IsContent content) {chars rest : List CodePoint}
      {items : List Item} (h : Behind chars items rest) :
      Behind ((Item.brackets content closes).text ++ chars) (.brackets content closes :: items) rest

/-- The characters begin with a path made of `items` and go on with `rest`. -/
inductive Spells : List CodePoint → List Item → List CodePoint → Prop where
  | intro (first : Item) {chars rest : List CodePoint} {items : List Item}
      (h : Behind chars items rest) : Spells (first.text ++ chars) (first :: items) rest

variable {chars rest : List CodePoint} {items : List Item}

theorem Spells.dotted (h : Spells chars items rest) : Behind (.char '.' :: chars) items rest := by
  obtain ⟨first, h⟩ := h
  exact .dotted first h

/-- An opening bracket that begins a path begins an item behind another too. -/
theorem Spells.behind (h : Spells (.char '[' :: chars) items rest) :
    Behind (.char '[' :: chars) items rest := by
  generalize hopen : .char '[' :: chars = opened at h
  cases h with
  | intro first h =>
    cases first with
    | brackets content closes => exact .brackets content closes h
    | key name bare =>
      cases name with
      | nil => exact absurd rfl bare.1
      | cons c name =>
        cases hopen
        exact absurd rfl (bare.2 '[' List.mem_cons_self).2.1

/-! ## What is spelled is read -/

/-- A scan goes on with the same outcome behind closing brackets and behind a bare key, which ends
there. -/
def Continues (chars : List CodePoint) (outcome : Except PathFault FieldPath) : Prop :=
  ∀ position, scan .closed position chars = outcome ∧
    ∀ reversed, scan (.key reversed) position chars =
      (.field (Text.ofList reversed.reverse) :: ·) <$> outcome

variable {outcome : Except PathFault FieldPath}

theorem scan_open (position : Nat) :
    scan .expectItem position (.char '[' :: chars) =
      scan (.bracket position []) (position + 1) chars := by
  rw [scan, if_neg (by decide), if_pos rfl]

theorem continues_dot (h : ∀ position, scan .expectItem position chars = outcome) :
    Continues (.char '.' :: chars) outcome := by
  intro position
  refine ⟨?_, fun reversed => ?_⟩
  · rw [scan, if_pos rfl, h]
  · rw [scan, if_pos rfl, h]

theorem continues_open (h : ∀ opened position, scan (.bracket opened []) position chars = outcome) :
    Continues (.char '[' :: chars) outcome := by
  intro position
  refine ⟨?_, fun reversed => ?_⟩
  · rw [scan, if_neg (by decide), if_pos rfl, h]
  · rw [scan, if_neg (by decide), if_pos rfl, h]

theorem scan_bareKey {name : List CodePoint} (bare : IsBare name) (h : Continues chars outcome)
    (position : Nat) :
    scan .expectItem position (name ++ chars) = (.field (Text.ofList name) :: ·) <$> outcome := by
  obtain ⟨hne, hbare⟩ := bare
  cases name with
  | nil => exact absurd rfl hne
  | cons c name =>
    obtain ⟨⟨hdot, hopen, hclose⟩, hrest⟩ := List.forall_mem_cons.1 hbare
    rw [List.cons_append, scan, if_neg hdot, if_neg hopen, if_neg hclose, scan_key hrest, (h _).2,
      List.reverse_append, List.reverse_reverse, List.reverse_singleton, List.singleton_append]

section Content

variable {content : List CodePoint} {closes : IsContent content}

theorem scan_content (hshort : ¬ (Item.brackets content closes).TooLong)
    (h : Continues chars outcome) (opened position : Nat) :
    scan (.bracket opened []) position (content ++ [.char ']'] ++ chars) =
      ((Item.brackets content closes).segment :: ·) <$> outcome := by
  rw [List.append_assoc, List.singleton_append, scan_brackets closes.1 closes.2,
    Item.bracketSegment_of_not_tooLong hshort, ok_bind, (h _).1]

theorem scan_content_tooLong
    (h : (Item.brackets content closes).TooLong ∨ Continues chars (.error .tooManyDigits))
    (opened position : Nat) :
    scan (.bracket opened []) position (content ++ [.char ']'] ++ chars) =
      .error .tooManyDigits := by
  by_cases hlong : (Item.brackets content closes).TooLong
  · rw [List.append_assoc, List.singleton_append, scan_brackets closes.1 closes.2,
      Item.bracketSegment_of_tooLong hlong, error_bind]
  · rw [scan_content hlong (h.resolve_left hlong), map_error]

end Content

/-- **A scan over an item gives its segment.** -/
theorem scan_text {i : Item} (hshort : ¬ i.TooLong) (h : Continues chars outcome)
    (position : Nat) :
    scan .expectItem position (i.text ++ chars) = (i.segment :: ·) <$> outcome := by
  cases i with
  | key name bare => exact scan_bareKey bare h position
  | brackets content closes => exact (scan_open position).trans (scan_content hshort h _ _)

theorem scan_text_tooLong {i : Item} (h : i.TooLong ∨ Continues chars (.error .tooManyDigits))
    (position : Nat) : scan .expectItem position (i.text ++ chars) = .error .tooManyDigits := by
  cases i with
  | key name bare => exact scan_bareKey bare (h.resolve_left id) position
  | brackets content closes => exact (scan_open position).trans (scan_content_tooLong h _ _)

theorem Behind.continues (h : Behind chars items rest) (hrest : rest = [])
    (hshort : ∀ i ∈ items, ¬ i.TooLong) : Continues chars (.ok (items.map Item.segment)) := by
  induction h with
  | done => subst hrest; exact fun position => ⟨rfl, fun reversed => rfl⟩
  | dotted i h ih =>
    obtain ⟨hi, hitems⟩ := List.forall_mem_cons.1 hshort
    exact continues_dot fun position => scan_text hi (ih hrest hitems) position
  | brackets content closes h ih =>
    obtain ⟨hi, hitems⟩ := List.forall_mem_cons.1 hshort
    exact continues_open fun opened position => scan_content hi (ih hrest hitems) opened position

/-- A scan over items of which one is too long stops there, and the rest does not matter. -/
theorem Behind.continues_tooLong (h : Behind chars items rest) (hlong : ∃ i ∈ items, i.TooLong) :
    Continues chars (.error .tooManyDigits) := by
  induction h with
  | done => simp at hlong
  | dotted i h ih =>
    simp only [List.mem_cons, exists_eq_or_imp] at hlong
    exact continues_dot fun position => scan_text_tooLong (hlong.imp_right ih) position
  | brackets content closes h ih =>
    simp only [List.mem_cons, exists_eq_or_imp] at hlong
    exact continues_open fun opened position =>
      scan_content_tooLong (hlong.imp_right ih) opened position

theorem Spells.ne_nil (h : Spells chars items rest) : chars ≠ [] := by
  obtain ⟨first, h⟩ := h
  intro hnil
  cases first with
  | key name bare => exact bare.1 (List.append_eq_nil_iff.1 hnil).1
  | brackets content closes => cases hnil

theorem parse_eq_scan {path : Text} (h : path.toList ≠ []) :
    parse path = scan .expectItem 0 path.toList := by
  rw [parse, if_neg]
  rwa [Text.isEmpty_iff, ← Text.toList_eq_nil_iff]

variable {path : Text} {segments : FieldPath}

/-- **What is spelled is read**, one segment for each item. -/
theorem parse_of_spells (h : Spells path.toList items [])
    (hshort : ∀ i ∈ items, ¬ i.TooLong) : parse path = .ok (items.map Item.segment) := by
  rw [parse_eq_scan h.ne_nil]
  generalize path.toList = chars at h
  obtain ⟨first, h⟩ := h
  obtain ⟨hfirst, hitems⟩ := List.forall_mem_cons.1 hshort
  exact scan_text hfirst (h.continues rfl hitems) 0

theorem parse_of_spells_tooLong (h : Spells path.toList items rest)
    (hlong : ∃ i ∈ items, i.TooLong) : parse path = .error .tooManyDigits := by
  rw [parse_eq_scan h.ne_nil]
  generalize path.toList = chars at h
  obtain ⟨first, h⟩ := h
  simp only [List.mem_cons, exists_eq_or_imp] at hlong
  exact scan_text_tooLong (hlong.imp_right h.continues_tooLong) 0

/-! ## What is read is spelled -/

/-- What a scan has gathered can begin an item. -/
def Scan.Begun : Scan → Prop
  | .key reversed => IsBare reversed
  | .bracket _ reversed => CodePoint.char ']' ∉ reversed
  | .expectItem | .closed => True

/-- The characters complete `items` and then go on with `rest`; the first item is the one that the
scan is in, if it is in one. -/
def Scan.Ahead (chars : List CodePoint) (items : List Item) (rest : List CodePoint) : Scan → Prop
  | .expectItem => Spells chars items rest
  | .key reversed => Spells (reversed.reverse ++ chars) items rest
  | .bracket _ reversed => Spells (.char '[' :: (reversed.reverse ++ chars)) items rest
  | .closed => Behind chars items rest

/-- The grammar accounts for the outcome of a scan: segments are those of the items ahead, and too
many digits are those of an item ahead.  Of the other faults nothing is said. -/
def Scan.Settled (state : Scan) (chars : List CodePoint) : Except PathFault FieldPath → Prop
  | .ok segments => ∃ items, state.Ahead chars items [] ∧ (∀ i ∈ items, ¬ i.TooLong) ∧
      segments = items.map Item.segment
  | .error .tooManyDigits => ∃ items rest, state.Ahead chars items rest ∧ ∃ i ∈ items, i.TooLong
  | .error _ => True

variable {state next : Scan} {nextChars : List CodePoint}

theorem Scan.Settled.inside (h : next.Settled nextChars outcome)
    (hstep : ∀ items rest, next.Ahead nextChars items rest → state.Ahead chars items rest) :
    state.Settled chars outcome := by
  unfold Settled at h ⊢
  split at h
  · obtain ⟨items, hahead, h⟩ := h
    exact ⟨items, hstep _ _ hahead, h⟩
  · obtain ⟨items, rest, hahead, h⟩ := h
    exact ⟨items, rest, hstep _ _ hahead, h⟩
  · trivial

/-- A step that ends an item puts it in front of the items ahead. -/
theorem Scan.Settled.ends {i : Item} (hshort : ¬ i.TooLong) (h : next.Settled nextChars outcome)
    (hstep : ∀ items rest, next.Ahead nextChars items rest → state.Ahead chars (i :: items) rest) :
    state.Settled chars ((i.segment :: ·) <$> outcome) := by
  unfold Settled at h
  split at h
  · obtain ⟨items, hahead, hitems, rfl⟩ := h
    exact ⟨i :: items, hstep _ _ hahead, List.forall_mem_cons.2 ⟨hshort, hitems⟩, rfl⟩
  · obtain ⟨items, rest, hahead, j, hj, hlong⟩ := h
    exact ⟨i :: items, rest, hstep _ _ hahead, j, List.mem_cons_of_mem i hj, hlong⟩
  · rename_i fault hne
    rw [map_error]
    cases fault <;> trivial

theorem IsBare.reverse {reversed : List CodePoint} (h : IsBare reversed) :
    IsBare reversed.reverse :=
  ⟨fun hnil => h.1 (List.reverse_eq_nil_iff.1 hnil), fun c hc => h.2 c (List.mem_reverse.1 hc)⟩

theorem isContent_reverse {reversed : List CodePoint} (hne : ¬ reversed.isEmpty = true)
    (hclose : CodePoint.char ']' ∉ reversed) : IsContent reversed.reverse := by
  refine ⟨fun hnil => hne ?_, fun hmem => hclose (List.mem_reverse.1 hmem)⟩
  rw [List.isEmpty_iff]
  exact List.reverse_eq_nil_iff.1 hnil

theorem Scan.Ahead.closes {reversed : List CodePoint} {opened : Nat}
    (hcontent : IsContent reversed.reverse) (h : Behind chars items rest) :
    Scan.Ahead (.char ']' :: chars) (.brackets reversed.reverse hcontent :: items) rest
      (.bracket opened reversed) := by
  have hspells := Spells.intro (.brackets reversed.reverse hcontent) h
  simpa only [Item.text, Scan.Ahead, List.cons_append, List.append_assoc, List.nil_append]
    using hspells

/-- **The grammar accounts for the outcome of every scan.** -/
theorem scan_settled (state : Scan) (position : Nat) (chars : List CodePoint)
    (hstate : state.Begun) :
    state.Settled chars (scan state position chars) := by
  fun_induction scan state position chars
  case case1 | case2 | case4 | case9 | case11 | case12 | case18 => trivial
  case case3 ih => exact (ih List.not_mem_nil).inside fun _ _ => id
  case case5 hdot hopen hclose ih =>
    exact (ih ⟨List.cons_ne_nil _ _, List.forall_mem_singleton.2 ⟨hdot, hopen, hclose⟩⟩).inside
      fun _ _ => id
  case case6 reversed =>
    have hkey := IsBare.reverse hstate
    exact ⟨[.key _ hkey], .intro (.key _ hkey) (.done []), by simp [Item.TooLong], rfl⟩
  case case7 reversed _ _ _ ih =>
    have hkey := IsBare.reverse hstate
    exact (ih trivial).ends (i := .key _ hkey) id fun _ _ h => .intro (.key _ hkey) h.dotted
  case case8 ih =>
    have hkey := IsBare.reverse hstate
    exact (ih List.not_mem_nil).ends (i := .key _ hkey) id fun _ _ h =>
      .intro (.key _ hkey) h.behind
  case case10 hdot hopen hclose ih =>
    have hbegun := List.forall_mem_cons.2 ⟨⟨hdot, hopen, hclose⟩, hstate.2⟩
    refine (ih ⟨List.cons_ne_nil _ _, hbegun⟩).inside fun _ _ h => ?_
    simpa only [Scan.Ahead, List.reverse_cons, List.append_assoc, List.singleton_append] using h
  case case13 reversed position rest hne ih =>
    have hcontent := isContent_reverse hne hstate
    by_cases hlong : (Item.brackets _ hcontent).TooLong
    · rw [Item.bracketSegment_of_tooLong hlong]
      exact ⟨[.brackets _ hcontent], rest, .closes hcontent (.done rest), _,
        List.mem_singleton_self _, hlong⟩
    · rw [Item.bracketSegment_of_not_tooLong hlong, ok_bind]
      exact (ih trivial).ends hlong fun _ _ => .closes hcontent
  case case14 hclose ih =>
    refine (ih (List.not_mem_cons_of_ne_of_not_mem (Ne.symm hclose) hstate)).inside fun _ _ h => ?_
    simpa only [Scan.Ahead, List.reverse_cons, List.append_assoc, List.singleton_append] using h
  case case15 => exact ⟨[], .done [], List.forall_mem_nil _, rfl⟩
  case case16 ih => exact (ih trivial).inside fun _ _ h => h.dotted
  case case17 ih => exact (ih List.not_mem_nil).inside fun _ _ h => h.behind

/-! ## Exactly the grammar -/

/-- **What is read is spelled**, and where too many digits are met the text begins with items that
have them. -/
theorem parse_settled (path : Text) :
    Scan.Settled .expectItem path.toList (parse path) := by
  by_cases hempty : path.toList = []
  · rw [parse, if_pos (Text.isEmpty_iff.2 (Text.toList_eq_nil_iff.1 hempty))]
    trivial
  · rw [parse_eq_scan hempty]
    exact scan_settled .expectItem 0 path.toList trivial

theorem parse_eq_ok_iff : parse path = .ok segments ↔
    ∃ items, Spells path.toList items [] ∧ (∀ i ∈ items, ¬ i.TooLong) ∧
      segments = items.map Item.segment := by
  constructor
  · intro h
    have hsettled := parse_settled path
    rwa [h] at hsettled
  · rintro ⟨items, hspells, hshort, rfl⟩
    exact parse_of_spells hspells hshort

theorem parse_eq_tooManyDigits_iff : parse path = .error .tooManyDigits ↔
    ∃ items rest, Spells path.toList items rest ∧ ∃ i ∈ items, i.TooLong := by
  constructor
  · intro h
    have hsettled := parse_settled path
    rwa [h] at hsettled
  · rintro ⟨items, rest, hspells, hlong⟩
    exact parse_of_spells_tooLong hspells hlong

theorem ofText_eq_error {e : PathError} :
    ofText path = .error e ↔ ∃ fault, parse path = .error fault ∧ .malformed path fault = e := by
  unfold ofText
  cases parse path <;> simp

theorem limit?_malformed (fault : PathFault) :
    (PathError.malformed path fault).limit? =
      if fault = .tooManyDigits then some .digits else none := by
  cases fault <;> rfl

theorem ofText_meets_limit_iff {path : Text} :
    (∃ e, ofText path = .error e ∧ e.limit? = some .digits) ↔
      parse path = .error .tooManyDigits := by
  constructor
  · rintro ⟨e, he, hlimit⟩
    obtain ⟨fault, hfault, rfl⟩ := ofText_eq_error.1 he
    rw [limit?_malformed] at hlimit
    split at hlimit
    · rename_i hdigits
      rw [hfault, hdigits]
    · cases hlimit
  · intro h
    exact ⟨_, ofText_eq_error.2 ⟨_, h, rfl⟩, rfl⟩

theorem ofText_refuses_iff {path : Text} :
    (∃ e, ofText path = .error e ∧ e.limit? = none ∧ e.isNotFound = false ∧ e.path = path) ↔
      ∃ fault, parse path = .error fault ∧ fault ≠ .tooManyDigits := by
  constructor
  · rintro ⟨e, he, hlimit, -⟩
    obtain ⟨fault, hfault, rfl⟩ := ofText_eq_error.1 he
    refine ⟨fault, hfault, ?_⟩
    rintro rfl
    cases hlimit
  · rintro ⟨fault, hfault, hne⟩
    refine ⟨_, ofText_eq_error.2 ⟨fault, hfault, rfl⟩, ?_, rfl, rfl⟩
    rw [limit?_malformed, if_neg hne]

theorem exists_parse_eq_ok_iff {path : Text} :
    (∃ segments, parse path = .ok segments) ↔
      ∃ items, Spells path.toList items [] ∧ ∀ i ∈ items, ¬ i.TooLong := by
  constructor
  · rintro ⟨segments, h⟩
    obtain ⟨items, hspells, hitems, -⟩ := parse_eq_ok_iff.1 h
    exact ⟨items, hspells, hitems⟩
  · rintro ⟨items, hspells, hitems⟩
    exact ⟨_, parse_of_spells hspells hitems⟩

/-- **A text is a path exactly if the grammar spells it**, and then has one segment for each item.
A text that begins with items of which one has too many digits meets that limit; every other text is
refused as malformed. -/
theorem parse_grammar (path : Text) :
    let short := ∃ items, Spells path.toList items [] ∧ ∀ i ∈ items, ¬ i.TooLong
    let long := ∃ items rest, Spells path.toList items rest ∧ ∃ i ∈ items, i.TooLong
    (∀ segments, parse path = .ok segments ↔
      ∃ items, Spells path.toList items [] ∧ (∀ i ∈ items, ¬ i.TooLong) ∧
        segments = items.map Item.segment) ∧
    ((∃ e, ofText path = .error e ∧ e.limit? = some .digits) ↔ long) ∧
    ((∃ e, ofText path = .error e ∧ e.limit? = none ∧ e.isNotFound = false ∧ e.path = path) ↔
      ¬ short ∧ ¬ long) := by
  intro short long
  have hshort : (∃ segments, parse path = .ok segments) ↔ short := exists_parse_eq_ok_iff
  have hlong : parse path = .error .tooManyDigits ↔ long := parse_eq_tooManyDigits_iff
  refine ⟨fun segments => parse_eq_ok_iff, ?_, ?_⟩
  · rw [← hlong]
    exact ofText_meets_limit_iff
  · rw [ofText_refuses_iff, ← hlong, ← hshort]
    cases parse path <;> simp

/-- The grammar spells any number of zeros as the position zero, but too many are not read. -/
theorem parse_zeros {n : Nat} (h : Limit.maxDigits < n) :
    let zeros := List.replicate n (CodePoint.char '0')
    let path := Text.ofList ([.char 'a'] ++ (.char '[' :: (zeros ++ [.char ']']) ++ []))
    (∃ items, Spells path.toList items [] ∧ items.map Item.segment = [.field "a", .index 0]) ∧
      parse path = .error .tooManyDigits := by
  intro zeros path
  have hbare : IsBare [.char 'a'] := ⟨List.cons_ne_nil _ _, List.forall_mem_singleton.2 (by decide)⟩
  have hclose : CodePoint.char ']' ∉ List.replicate n (CodePoint.char '0') := by
    intro hmem
    exact absurd (List.eq_of_mem_replicate hmem) (by decide)
  have hlength : Limit.maxDigits < (List.replicate n (CodePoint.char '0')).length := by
    rw [List.length_replicate]
    exact h
  have hcontent : IsContent (List.replicate n (CodePoint.char '0')) :=
    ⟨List.ne_nil_of_length_pos (Nat.zero_lt_of_lt hlength), hclose⟩
  have hdigits : (List.replicate n (CodePoint.char '0')).all CodePoint.isDigit = true := by
    rw [List.all_eq_true]
    intro c hc
    rw [List.eq_of_mem_replicate hc]
    decide
  have hvalue : Nat.ofDigitChars 10
      ((List.replicate n (CodePoint.char '0')).filterMap CodePoint.char?) 0 = 0 := by
    rw [List.filterMap_replicate_of_some (CodePoint.char?_char _), Nat.ofDigitChars_replicate_zero,
      Nat.mul_zero]
  have hspells : Spells path.toList [.key _ hbare, .brackets _ hcontent] [] := by
    rw [Text.toList_ofList]
    exact .intro (.key _ hbare) (.brackets _ hcontent (.done []))
  refine ⟨⟨_, hspells, ?_⟩, ?_⟩
  · simp only [List.map, Item.segment, hdigits, hvalue]
    rfl
  · exact parse_of_spells_tooLong hspells
      ⟨_, List.mem_cons_of_mem _ (List.mem_singleton_self _), hdigits, hlength⟩

/-- A position of zeros, one more than are read: the grammar spells the path, whose items give a key
and the position zero, and yet it is not read. -/
theorem parse_long_zeros :
    let zeros := List.replicate (Limit.maxDigits + 1) (CodePoint.char '0')
    let path := Text.ofList ([.char 'a'] ++ (.char '[' :: (zeros ++ [.char ']']) ++ []))
    (∃ items, Spells path.toList items [] ∧ items.map Item.segment = [.field "a", .index 0]) ∧
      parse path = .error .tooManyDigits :=
  parse_zeros (Nat.lt_succ_self _)

end FieldPath
end Patchwork
