import Mathlib.Algebra.Group.Nat.Defs
import Patchwork.Proofs.FieldPath

/-!
# Paths that are written and read back

Segments are written as items, one after the other: a position or a key that holds a dot or a
bracket stands in brackets, any other key stands bare, with a dot in front of it unless it is the
first.  A scan of the text goes over one item at a time.

* `FieldPath.Addressable` — the segments that a path can address.
* `FieldPath.toList_join` — the text of segments is that of their items.
* `FieldPath.scan_item` — a scan over an item gives its segment.
* `FieldPath.Addressable.parse_join` — addressable segments are read back from their text.
* `FieldPath.addressable_of_parse` — segments that were read are addressable.
* `FieldPath.parse_join_inverse` — reading and writing paths are inverse to each other on the
  addressable segments, and on no others.
-/

set_option autoImplicit false

namespace Patchwork

/-! ## Addressable segments -/

/-- The segment can be a part of a path: a key is not empty and does not close brackets, and a
position does not have too many digits. -/
def Segment.Addressable : Segment → Prop
  | .field name => name ≠ "" ∧ CodePoint.char ']' ∉ name.toList
  | .index i => i < 10 ^ Limit.maxDigits

/-- The segments that a path can address. -/
def FieldPath.Addressable (segments : FieldPath) : Prop :=
  segments ≠ [] ∧ ∀ s ∈ segments, s.Addressable

/-! ## Digits -/

def Segment.digits (i : Nat) : List CodePoint := (Nat.toDigits 10 i).map .char

namespace FieldPath

open Segment (digits)

theorem all_isDigit_digits (i : Nat) : (digits i).all CodePoint.isDigit = true := by
  rw [digits, List.all_map, List.all_eq_true]
  exact fun _ hc => Nat.isDigit_of_mem_toDigits (by decide) (by decide) hc

theorem close_not_mem_digits (i : Nat) : CodePoint.char ']' ∉ digits i :=
  fun hclose => absurd (List.all_eq_true.1 (all_isDigit_digits i) _ hclose) (by decide)

theorem digits_ne_nil {i : Nat} : digits i ≠ [] :=
  fun hnil => Nat.toDigits_ne_nil (List.map_eq_nil_iff.1 hnil)

theorem decimalValue_map_char (chars : List Char) :
    decimalValue (chars.map .char) = Nat.ofDigitChars 10 chars 0 := by
  rw [decimalValue, List.foldl_map, Nat.ofDigitChars_eq_foldl]
  rfl

theorem decimalValue_digits (i : Nat) : decimalValue (digits i) = i := by
  rw [digits, decimalValue_map_char, Nat.ofDigitChars_ten_toDigits]

theorem bracketSegment_digits (i : Nat) :
    bracketSegment (digits i) =
      if i < 10 ^ Limit.maxDigits then .ok (.index i) else .error .tooManyDigits := by
  have hlength : (digits i).length ≤ Limit.maxDigits ↔ i < 10 ^ Limit.maxDigits := by
    rw [digits, List.length_map]
    exact Nat.length_toDigits_le_iff (by decide) (by decide)
  rw [bracketSegment, if_pos (all_isDigit_digits i), decimalValue_digits]
  split
  · rename_i hlong
    rw [if_neg fun h => Nat.not_lt.2 (hlength.2 h) hlong]
  · rename_i hshort
    rw [if_pos (hlength.1 (Nat.le_of_not_lt hshort))]

theorem digitValue_lt {c : CodePoint} (h : c.isDigit = true) : digitValue c < 10 := by
  cases c with
  | surrogate n => cases h
  | char c =>
    simp only [CodePoint.isDigit, Char.isDigit, Bool.and_eq_true, decide_eq_true_eq] at h
    obtain ⟨-, hle⟩ := h
    have hnine : c.toNat ≤ 57 := hle
    simp only [digitValue, CodePoint.toNat, Char.reduceToNat]
    omega

theorem decimalValue_foldl (digits : List CodePoint) (n : Nat) :
    digits.foldl (fun n c => 10 * n + digitValue c) n =
      10 ^ digits.length * n + decimalValue digits := by
  induction digits generalizing n with
  | nil => simp [decimalValue]
  | cons c rest ih =>
    rw [decimalValue, List.foldl_cons, List.foldl_cons, ih, ih (10 * 0 + _), List.length_cons,
      Nat.pow_succ, Nat.mul_zero, Nat.zero_add, Nat.mul_add, ← Nat.mul_assoc, Nat.add_assoc]

theorem decimalValue_lt {digits : List CodePoint} (h : digits.all CodePoint.isDigit = true) :
    decimalValue digits < 10 ^ digits.length := by
  induction digits with
  | nil => exact Nat.one_pos
  | cons c rest ih =>
    simp only [List.all_cons, Bool.and_eq_true] at h
    have hhead : digitValue c ≤ 9 := Nat.le_of_lt_succ (digitValue_lt h.1)
    have hvalue :
        decimalValue (c :: rest) = 10 ^ rest.length * digitValue c + decimalValue rest := by
      rw [decimalValue, List.foldl_cons, decimalValue_foldl, Nat.mul_zero, Nat.zero_add]
    calc decimalValue (c :: rest)
        = 10 ^ rest.length * digitValue c + decimalValue rest := hvalue
      _ < 10 ^ rest.length * digitValue c + 10 ^ rest.length := Nat.add_lt_add_left (ih h.2) _
      _ = 10 ^ rest.length * (digitValue c + 1) := by rw [Nat.mul_succ]
      _ ≤ 10 ^ rest.length * 10 := Nat.mul_le_mul_left _ (by omega)
      _ = 10 ^ (c :: rest).length := rfl

/-! ## Items -/

end FieldPath

namespace Segment

def isBracketed : Segment → Bool
  | .field name => needsBrackets name
  | .index _ => true

/-- The characters of a segment, without brackets. -/
def content : Segment → List CodePoint
  | .field name => name.toList
  | .index i => digits i

def item (s : Segment) : List CodePoint :=
  if s.isBracketed then .char '[' :: s.content ++ [.char ']'] else s.content

/-- The segment as an item behind another. -/
def nextItem (s : Segment) : List CodePoint :=
  if s.isBracketed then s.item else .char '.' :: s.item

variable {s : Segment} {path : Text}

theorem content_ne_nil (h : s.Addressable) : s.content ≠ [] := by
  cases s with
  | field name => exact fun hnil => h.1 (Text.toList_eq_nil_iff.1 hnil)
  | index i => exact FieldPath.digits_ne_nil

theorem close_not_mem_content (h : s.Addressable) : CodePoint.char ']' ∉ s.content := by
  cases s with
  | field name => exact h.2
  | index i => exact FieldPath.close_not_mem_digits i

theorem toList_append_empty (s : Segment) : (append "" s).toList = s.item := by
  cases s with
  | index i => simp [append, item, isBracketed, content, digits]
  | field name => cases h : needsBrackets name <;> simp [append, item, isBracketed, content, h]

theorem toList_append (h : path ≠ "") (s : Segment) :
    (append path s).toList = path.toList ++ s.nextItem := by
  cases s with
  | index i => simp [append, nextItem, item, isBracketed, content, digits]
  | field name =>
    cases hname : needsBrackets name <;>
      simp [append, nextItem, item, isBracketed, content, h, hname]

theorem item_ne_nil (h : s.Addressable) : s.item ≠ [] := by
  unfold item
  split
  · exact List.cons_ne_nil _ _
  · exact content_ne_nil h

end Segment

namespace FieldPath

theorem toList_foldl_append {path : Text} (h : path ≠ "") (segments : FieldPath) :
    (segments.foldl Segment.append path).toList =
      path.toList ++ segments.flatMap Segment.nextItem := by
  induction segments generalizing path with
  | nil => simp
  | cons s rest ih =>
    have hne : Segment.append path s ≠ "" := by
      intro hempty
      have hchars := Segment.toList_append h s
      rw [hempty] at hchars
      exact h (Text.toList_eq_nil_iff.1 (List.append_eq_nil_iff.1 hchars.symm).1)
    rw [List.foldl_cons, ih hne, Segment.toList_append h, List.flatMap_cons, List.append_assoc]

/-- **The text of segments is that of their items**, in their order. -/
theorem toList_join {s : Segment} (h : s.item ≠ []) (rest : FieldPath) :
    (join (s :: rest)).toList = s.item ++ rest.flatMap Segment.nextItem := by
  have hitem := Segment.toList_append_empty s
  have hne : Segment.append "" s ≠ "" := by
    intro hempty
    rw [hempty] at hitem
    exact h hitem.symm
  rw [join, List.foldl_cons, toList_foldl_append hne, hitem]

theorem parse_join_cons {s : Segment} (h : s.item ≠ []) (rest : FieldPath) :
    parse (join (s :: rest)) =
      scan .expectItem 0 (s.item ++ rest.flatMap Segment.nextItem) := by
  have htext := toList_join h rest
  have hempty : ¬ (join (s :: rest)).isEmpty = true := by
    rw [Text.isEmpty_iff]
    intro hempty
    rw [hempty] at htext
    exact h (List.append_eq_nil_iff.1 htext.symm).1
  rw [parse, if_neg hempty, htext]

/-! ## Scanning items -/

theorem bracketSegment_content {s : Segment} (h : s.Addressable)
    (hbracketed : s.isBracketed = true) : bracketSegment s.content = .ok s := by
  cases s with
  | index i => exact (bracketSegment_digits i).trans (if_pos h)
  | field name =>
    have hdigits : ¬ name.toList.all CodePoint.isDigit = true := by
      intro hall
      obtain ⟨c, hc, hspecial⟩ := List.any_eq_true.1 hbracketed
      have hdigit := List.all_eq_true.1 hall c hc
      simp only [Bool.or_eq_true, decide_eq_true_eq] at hspecial
      rcases hspecial with (rfl | rfl) | rfl <;> exact absurd hdigit (by decide)
    rw [bracketSegment, Segment.content, if_neg hdigits, Text.ofList_toList]

variable {rest chars : List CodePoint} {segments : FieldPath}

theorem scan_bracket (hchars : CodePoint.char ']' ∉ chars) (opened position : Nat)
    (reversed : List CodePoint) :
    scan (.bracket opened reversed) position (chars ++ rest) =
      scan (.bracket opened (chars.reverse ++ reversed)) (position + chars.length) rest := by
  induction chars generalizing position reversed with
  | nil => rfl
  | cons c chars ih =>
    simp only [List.mem_cons, not_or] at hchars
    rw [List.cons_append, scan, if_neg (Ne.symm hchars.1), ih hchars.2, List.reverse_cons,
      List.append_assoc, List.singleton_append, List.length_cons, Nat.add_right_comm, Nat.add_assoc]

theorem scan_brackets (hne : chars ≠ []) (hchars : CodePoint.char ']' ∉ chars)
    (opened position : Nat) :
    scan (.bracket opened []) position (chars ++ .char ']' :: rest) =
      bracketSegment chars >>= fun s =>
        (s :: ·) <$> scan .closed (position + chars.length + 1) rest := by
  have hempty : ¬ chars.reverse.isEmpty = true := by
    rwa [List.isEmpty_iff, List.reverse_eq_nil_iff]
  rw [scan_bracket hchars, List.append_nil, scan, if_pos rfl, if_neg hempty, List.reverse_reverse]

theorem scan_key (hchars : ∀ c ∈ chars, c ≠ '.' ∧ c ≠ '[' ∧ c ≠ ']') (position : Nat)
    (reversed : List CodePoint) :
    scan (.key reversed) position (chars ++ rest) =
      scan (.key (chars.reverse ++ reversed)) (position + chars.length) rest := by
  induction chars generalizing position reversed with
  | nil => rfl
  | cons c chars ih =>
    obtain ⟨⟨hdot, hopen, hclose⟩, hrest⟩ := List.forall_mem_cons.1 hchars
    rw [List.cons_append, scan, if_neg hdot, if_neg hopen, if_neg hclose, ih hrest,
      List.reverse_cons, List.append_assoc, List.singleton_append, List.length_cons,
      Nat.add_right_comm, Nat.add_assoc]

/-- The characters go on behind an item with segments of their own: so they do behind a closing
bracket, and behind a bare key, which ends there. -/
def Follows (rest : List CodePoint) (segments : FieldPath) : Prop :=
  ∀ position, scan .closed position rest = .ok segments ∧
    ∀ reversed, scan (.key reversed) position rest =
      .ok (.field (Text.ofList reversed.reverse) :: segments)

theorem scan_bracketed {s : Segment} (hs : s.Addressable) (hbracketed : s.isBracketed = true)
    (h : Follows rest segments) (opened position : Nat) :
    scan (.bracket opened []) position (s.content ++ .char ']' :: rest) = .ok (s :: segments) := by
  rw [scan_brackets (Segment.content_ne_nil hs) (Segment.close_not_mem_content hs),
    bracketSegment_content hs hbracketed, ok_bind, (h _).1, map_ok]

theorem scan_bare {name : Text} (hname : name ≠ "") (hbare : Segment.needsBrackets name = false)
    (h : Follows rest segments) (position : Nat) :
    scan .expectItem position (name.toList ++ rest) = .ok (.field name :: segments) := by
  have hchars : ∀ c ∈ name.toList, c ≠ '.' ∧ c ≠ '[' ∧ c ≠ ']' := by
    intro c hc
    have hplain := List.any_eq_false.1 hbare c hc
    simpa only [Bool.or_eq_true, decide_eq_true_eq, not_or, and_assoc] using hplain
  cases hlist : name.toList with
  | nil => exact absurd (Text.toList_eq_nil_iff.1 hlist) hname
  | cons c chars =>
    rw [hlist] at hchars
    obtain ⟨⟨hdot, hopen, hclose⟩, hrest⟩ := List.forall_mem_cons.1 hchars
    rw [List.cons_append, scan, if_neg hdot, if_neg hopen, if_neg hclose, scan_key hrest, (h _).2,
      List.reverse_append, List.reverse_reverse, List.reverse_singleton, List.singleton_append,
      ← hlist, Text.ofList_toList]

/-- **A scan over an item gives its segment.** -/
theorem scan_item {s : Segment} (hs : s.Addressable) (h : Follows rest segments) (position : Nat) :
    scan .expectItem position (s.item ++ rest) = .ok (s :: segments) := by
  cases hbracketed : s.isBracketed with
  | true =>
    rw [Segment.item, if_pos hbracketed, List.append_assoc, List.cons_append, List.singleton_append,
      scan, if_neg (by decide), if_pos rfl]
    exact scan_bracketed hs hbracketed h position (position + 1)
  | false =>
    cases s with
    | index i => cases hbracketed
    | field name =>
      rw [Segment.item, if_neg (by simp [hbracketed])]
      exact scan_bare hs.1 hbracketed h position

/-- The items of addressable segments go on behind an item with these segments. -/
theorem follows_nextItems {segments : FieldPath} (h : ∀ s ∈ segments, s.Addressable) :
    Follows (segments.flatMap Segment.nextItem) segments := by
  induction segments with
  | nil => exact fun position => ⟨rfl, fun reversed => rfl⟩
  | cons s rest ih =>
    obtain ⟨hs, hrest⟩ := List.forall_mem_cons.1 h
    have hfollows := ih hrest
    intro position
    rw [List.flatMap_cons, Segment.nextItem]
    cases hbracketed : s.isBracketed with
    | true =>
      -- The bracket opens in the same way behind a closing one and behind a key.
      have hscan := scan_bracketed hs hbracketed hfollows position (position + 1)
      rw [if_pos rfl, Segment.item, if_pos hbracketed, List.append_assoc, List.cons_append,
        List.singleton_append]
      refine ⟨?_, fun reversed => ?_⟩
      · rw [scan, if_neg (by decide), if_pos rfl, hscan]
      · rw [scan, if_neg (by decide), if_pos rfl, hscan, map_ok]
    | false =>
      have hscan := scan_item hs hfollows (position + 1)
      rw [if_neg Bool.false_ne_true, List.cons_append]
      refine ⟨?_, fun reversed => ?_⟩
      · rw [scan, if_pos rfl, hscan]
      · rw [scan, if_pos rfl, hscan, map_ok]

/-- **Addressable segments are read back from their text.** -/
theorem Addressable.parse_join (h : Addressable segments) :
    parse (join segments) = .ok segments := by
  obtain ⟨hne, hall⟩ := h
  cases segments with
  | nil => exact absurd rfl hne
  | cons s rest =>
    obtain ⟨hs, hrest⟩ := List.forall_mem_cons.1 hall
    rw [parse_join_cons (Segment.item_ne_nil hs), scan_item hs (follows_nextItems hrest)]

/-! ## What is read -/

/-- The characters that a scan has gathered are ones of a segment so far. -/
def Scan.Addressable : Scan → Prop
  | .key reversed => reversed ≠ [] ∧ CodePoint.char ']' ∉ reversed
  | .bracket _ reversed => CodePoint.char ']' ∉ reversed
  | .expectItem | .closed => True

theorem Scan.Addressable.field {reversed : List CodePoint} (h : Scan.Addressable (.key reversed)) :
    (Segment.field (Text.ofList reversed.reverse)).Addressable := by
  refine ⟨fun hempty => h.1 ?_, ?_⟩
  · exact List.reverse_eq_nil_iff.1 (Text.ofList_eq_empty_iff.1 hempty)
  · rw [Text.toList_ofList, List.mem_reverse]
    exact h.2

/-- What is read from brackets can be a part of a path. -/
theorem Scan.Addressable.bracketSegment {opened : Nat} {reversed : List CodePoint} {s : Segment}
    (h : Scan.Addressable (.bracket opened reversed)) (hne : ¬ reversed.isEmpty = true)
    (hsegment : bracketSegment reversed.reverse = .ok s) : s.Addressable := by
  unfold FieldPath.bracketSegment at hsegment
  split at hsegment
  · rename_i hdigits
    split at hsegment
    · cases hsegment
    · rename_i hlength
      cases hsegment
      calc decimalValue reversed.reverse
          < 10 ^ reversed.reverse.length := decimalValue_lt hdigits
        _ ≤ 10 ^ Limit.maxDigits := Nat.pow_le_pow_right (by decide) (Nat.le_of_not_lt hlength)
  · cases hsegment
    refine Scan.Addressable.field ⟨?_, h⟩
    rintro rfl
    exact hne rfl

/-- A scan gives segments that can be parts of a path. -/
theorem addressable_of_scan {state : Scan} {position : Nat}
    (h : scan state position chars = .ok segments) (hstate : state.Addressable) :
    ∀ s ∈ segments, s.Addressable := by
  fun_induction scan state position chars generalizing segments
  all_goals try cases h
  case case3 ih | case17 ih => exact ih h List.not_mem_nil
  case case5 hclose ih =>
    exact ih h ⟨List.cons_ne_nil _ _, fun hmem => hclose (List.mem_singleton.1 hmem).symm⟩
  case case6 => exact List.forall_mem_singleton.2 hstate.field
  case case7 ih =>
    obtain ⟨rest, hrest, rfl⟩ := map_eq_ok.1 h
    exact List.forall_mem_cons.2 ⟨hstate.field, ih hrest trivial⟩
  case case8 ih =>
    obtain ⟨rest, hrest, rfl⟩ := map_eq_ok.1 h
    exact List.forall_mem_cons.2 ⟨hstate.field, ih hrest List.not_mem_nil⟩
  case case10 hclose ih =>
    exact ih h ⟨List.cons_ne_nil _ _, List.not_mem_cons_of_ne_of_not_mem (Ne.symm hclose) hstate.2⟩
  case case13 hne ih =>
    obtain ⟨segment, hsegment, h⟩ := bind_eq_ok.1 h
    obtain ⟨rest, hrest, rfl⟩ := map_eq_ok.1 h
    exact List.forall_mem_cons.2 ⟨hstate.bracketSegment hne hsegment, ih hrest trivial⟩
  case case14 hclose ih =>
    exact ih h (List.not_mem_cons_of_ne_of_not_mem (Ne.symm hclose) hstate)
  case case15 => exact fun s hs => absurd hs List.not_mem_nil
  case case16 ih => exact ih h trivial

variable {path path' : Text} {segments' : FieldPath}

/-- **Segments that were read are addressable.** -/
theorem addressable_of_parse (h : parse path = .ok segments) : Addressable segments := by
  refine ⟨parse_ne_nil h, ?_⟩
  unfold parse at h
  split at h
  · cases h
  · exact addressable_of_scan h trivial

/-! ## There and back -/

theorem parse_join_iff : parse (join segments) = .ok segments ↔ Addressable segments :=
  ⟨addressable_of_parse, Addressable.parse_join⟩

theorem parse_join_index {i : Nat} (h : 10 ^ Limit.maxDigits ≤ i) :
    parse (join [.index i]) = .error .tooManyDigits := by
  have hscan : scan (.bracket 0 []) 1 (Segment.digits i ++ .char ']' :: []) =
      .error .tooManyDigits := by
    rw [scan_brackets digits_ne_nil (close_not_mem_digits i), bracketSegment_digits,
      if_neg (Nat.not_lt.2 h), error_bind]
  have hitem : (Segment.index i).item = .char '[' :: (Segment.digits i ++ .char ']' :: []) := rfl
  have hne : (Segment.index i).item ≠ [] := List.cons_ne_nil _ _
  rw [parse_join_cons hne, hitem, List.flatMap_nil, List.append_nil, scan, if_neg (by decide),
    if_pos rfl, hscan]

theorem segments_eq_iff_join_eq (h : parse path = .ok segments) (h' : parse path' = .ok segments') :
    segments = segments' ↔ join segments = join segments' := by
  constructor
  · exact congrArg join
  · intro hjoin
    have hparse := (addressable_of_parse h).parse_join
    rw [hjoin, (addressable_of_parse h').parse_join, Except.ok.injEq] at hparse
    exact hparse.symm

/-- **Reading and writing paths are inverse to each other on the addressable segments.**  Only these
come back from their text, and only these are ever read. -/
theorem parse_join_inverse :
    (∀ segments : FieldPath, parse (join segments) = .ok segments ↔ Addressable segments) ∧
    (∀ path segments, parse path = .ok segments →
      Addressable segments ∧ parse (join segments) = .ok segments) ∧
    ∀ path path' segments segments', parse path = .ok segments → parse path' = .ok segments' →
      (segments = segments' ↔ join segments = join segments') :=
  ⟨fun _ => parse_join_iff,
    fun _ _ h => ⟨addressable_of_parse h, (addressable_of_parse h).parse_join⟩,
    fun _ _ _ _ h h' => segments_eq_iff_join_eq h h'⟩

/-- Digits with zeros in front, a key with a dot and a key of digits all come back. -/
theorem parse_join_inverse_key :
    let path := "spec[app.kubernetes.io/name][007].1"
    let segments : FieldPath :=
      [.field "spec", .field "app.kubernetes.io/name", .index 7, .field "1"]
    parse path = .ok segments ∧ parse (join segments) = .ok segments := by
  intro path segments
  have hparse : parse "spec[app.kubernetes.io/name][007].1" = .ok segments := rfl
  exact ⟨hparse, (parse_join_inverse.2.1 path segments hparse).2⟩

/-- The least position with too many digits, which is neither an empty path nor a field. -/
theorem parse_join_least_long_index :
    let segments : FieldPath := [.index (10 ^ Limit.maxDigits)]
    segments ≠ [] ∧
      (∀ name : Text, .field name ∈ segments → name ≠ "" ∧ CodePoint.char ']' ∉ name.toList) ∧
      parse (join segments) = .error .tooManyDigits := by
  intro segments
  exact ⟨List.cons_ne_nil _ _, by simp [segments], parse_join_index (Nat.le_refl _)⟩

end FieldPath
end Patchwork
