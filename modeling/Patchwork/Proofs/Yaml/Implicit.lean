import Mathlib.Data.List.Find
import Patchwork.Proofs.Yaml.Timestamp
import Patchwork.Yaml.Implicit

/-!
# Rules for plain scalars, by first character

A reader of YAML lists each rule under the characters with which the texts of its form can begin,
and tries only those that are listed under the first character of a text.  The rules for manifests
are these lists without the rule for timestamps.

* `ImplicitRule.firsts`, `ImplicitRule.listed` — the lists.
* `ImplicitRule.apply_listed`, `ImplicitRule.apply_listed_manifest` — the first rule that fits is
  the first one that fits in the list.
* `ImplicitRule.apply_manifest_of_isTimestamp`, `ImplicitRule.apply_manifest_of_not_isTimestamp` —
  without the rule for timestamps, what has their form is a text, and all else has the tag that it
  has with the rule.
-/

set_option autoImplicit false

namespace Patchwork
namespace Yaml

/-! ## First characters -/

theorem unsigned_eq (text : List Char) :
    unsigned text = text ∨ ∃ sign, (sign = '+' ∨ sign = '-') ∧ text = sign :: unsigned text := by
  unfold unsigned
  split
  · exact .inr ⟨'+', .inl rfl, rfl⟩
  · exact .inr ⟨'-', .inr rfl, rfl⟩
  · exact .inl rfl

theorem head?_of_unsigned {p : Char → Prop} {text : List Char}
    (h : ∃ c ∈ (unsigned text).head?, p c) : ∃ c ∈ text.head?, c = '+' ∨ c = '-' ∨ p c := by
  obtain hnone | ⟨sign, hsign, htext⟩ := unsigned_eq text
  · obtain ⟨c, hc, hp⟩ := h
    exact ⟨c, hnone ▸ hc, .inr (.inr hp)⟩
  · rw [htext]
    exact ⟨sign, rfl, by tauto⟩

theorem head?_of_isInteger {text : List Char} (h : isInteger text = true) :
    ∃ c ∈ text.head?, c = '+' ∨ c = '-' ∨ c.isDigit = true := by
  refine head?_of_unsigned ?_
  unfold isInteger isUnsignedInteger at h
  split at h
  case h_1 heq | h_2 heq | h_3 heq | h_4 heq => exact ⟨'0', by rw [heq]; rfl, rfl⟩
  case h_5 first _ _ _ _ _ heq =>
    exact ⟨first, by rw [heq]; rfl, (Bool.and_eq_true_iff.1 h).1⟩
  case h_6 => cases h

theorem head?_of_isFloat {text : List Char} (h : isFloat text = true) :
    ∃ c ∈ text.head?, c = '+' ∨ c = '-' ∨ c = '.' ∨ c.isDigit = true := by
  refine head?_of_unsigned ?_
  simp only [isFloat] at h
  split at h
  · rename_i first _ _ heq _
    refine ⟨first, by rw [heq]; rfl, ?_⟩
    split at h
    · exact .inr ‹_›
    · split at h
      · exact .inl ‹_›
      · cases h
  · cases h

def spellings (word : String) : List String := [word, capitalized word, word.toUpper]

theorem exists_spelling {word : String} {text : List Char}
    (h : isSpelling word (String.ofList text) = true) :
    ∃ spelling ∈ spellings word, spelling.toList = text := by
  simp only [isSpelling, Bool.or_eq_true, decide_eq_true_eq, or_assoc] at h
  exact ⟨String.ofList text, by simpa [spellings] using h, String.toList_ofList⟩

theorem head?_of_timestamp {text : List Char} (h : text ∈ Form.timestamp.matches') :
    ∃ c ∈ text.head?, c.isDigit = true := by
  obtain ⟨y₁, y₂, y₃, y₄, rest, rfl, h₁, -⟩ := exists_year h
  exact ⟨y₁, rfl, h₁⟩

namespace ImplicitRule

/-! ## The lists -/

/-- What a text must begin with for the rule of a tag to be tried; `none` stands for the empty
text. -/
def firsts : Tag → List (Option Char)
  | .bool => ['y', 'Y', 'n', 'N', 't', 'T', 'f', 'F', 'o', 'O'].map some
  | .float => ('-' :: '+' :: '.' :: Form.digits).map some
  | .int => ('-' :: '+' :: Form.digits).map some
  | .merge => [some '<']
  | .null => [some '~', some 'n', some 'N', none]
  | .timestamp => Form.digits.map some
  | .value => [some '=']
  | .other _ => ['!', '&', '*'].map some
  | _ => []

/-- The rules of the format that are tried for texts which begin with a code point. -/
def listed (first : Option CodePoint) : List ImplicitRule :=
  standard.filter fun rule => first ∈ (firsts rule.tag).map (·.map .char)

theorem head?_of_isTruth {text : List Char} (h : isTruth text = true) :
    text.head? ∈ firsts .bool := by
  have hall : ∀ entry ∈ truthWords, ∀ spelling ∈ spellings entry.1,
      spelling.toList.head? ∈ firsts .bool := by
    decide +kernel
  obtain ⟨entry, hentry, hspelling⟩ := List.any_eq_true.1 h
  obtain ⟨spelling, hmem, rfl⟩ := exists_spelling hspelling
  exact hall entry hentry spelling hmem

theorem head?_of_isNull {text : List Char} (h : isNull text = true) :
    text.head? ∈ firsts .null := by
  have hall : ∀ spelling ∈ spellings "null", spelling.toList.head? ∈ firsts .null := by
    decide +kernel
  simp only [isNull, Bool.or_eq_true, decide_eq_true_eq] at h
  obtain (rfl | rfl) | h := h
  · decide
  · decide
  · obtain ⟨spelling, hmem, rfl⟩ := exists_spelling h
    exact hall spelling hmem

/-- A text that a rule fits begins with one of the characters under which the rule is listed. -/
theorem head?_mem_firsts {rule : ImplicitRule} {text : List Char} (hrule : rule ∈ standard)
    (hfits : rule.fits text = true) : text.head? ∈ firsts rule.tag := by
  simp only [standard, List.mem_cons, List.not_mem_nil, or_false] at hrule
  obtain rfl | rfl | rfl | rfl | rfl | rfl | rfl | rfl := hrule
  · exact head?_of_isTruth hfits
  · obtain ⟨c, hc, h⟩ := head?_of_isFloat hfits
    rw [hc]
    obtain rfl | rfl | rfl | h := h
    · decide
    · decide
    · decide
    · simp [firsts, Form.mem_digits.2 h]
  · obtain ⟨c, hc, h⟩ := head?_of_isInteger hfits
    rw [hc]
    obtain rfl | rfl | h := h
    · decide
    · decide
    · simp [firsts, Form.mem_digits.2 h]
  · rw [of_decide_eq_true hfits]
    decide
  · exact head?_of_isNull hfits
  · obtain ⟨c, hc, h⟩ := head?_of_timestamp (isTimestamp_iff.1 hfits)
    rw [hc]
    simp [firsts, Form.mem_digits.2 h]
  · rw [of_decide_eq_true hfits]
    decide
  · simp only [isSign, Bool.or_eq_true, decide_eq_true_eq] at hfits
    obtain (rfl | rfl) | rfl := hfits
    · decide
    · decide
    · decide

theorem apply_filter {rules : List ImplicitRule} {keep : ImplicitRule → Bool} {text : Text}
    (h : ∀ s : String, text = s → ∀ rule ∈ rules, rule.fits (withoutLineEnd s.toList) = true →
      keep rule = true) :
    apply (rules.filter keep) text = apply rules text := by
  cases text with
  | illFormed points hpoints => rfl
  | string s =>
    have hfind : (rules.filter keep).find? (fun rule => rule.fits (withoutLineEnd s.toList)) =
        rules.find? fun rule => rule.fits (withoutLineEnd s.toList) := by
      rw [List.find?_filter]
      refine List.find?_congr fun rule hrule => ?_
      cases hfits : rule.fits (withoutLineEnd s.toList) with
      | false => simp
      | true => simp [h s rfl rule hrule hfits]
    rw [apply, apply, hfind]

theorem head?_withoutLineEnd (text : List Char) : (withoutLineEnd text).head? = text.head? := by
  rw [withoutLineEnd]
  split
  · rename_i h
    match text, h with
    | [], h => simp at h
    | [_], h => simp at h
    | _ :: _ :: _, _ => rfl
  · rfl

theorem head?_toList_mem_firsts {rule : ImplicitRule} {s : String} (hrule : rule ∈ standard)
    (hfits : rule.fits (withoutLineEnd s.toList) = true) :
    (Text.string s).toList.head? ∈ (firsts rule.tag).map (·.map CodePoint.char) := by
  rw [Text.toList_string, List.head?_map, ← head?_withoutLineEnd]
  exact List.mem_map_of_mem (head?_mem_firsts hrule hfits)

/-- Only the rules that are listed under the first code point of a text matter. -/
theorem apply_listed (text : Text) :
    apply (listed text.toList.head?) text = apply standard text := by
  refine apply_filter fun s hs rule hrule hfits => ?_
  subst hs
  exact decide_eq_true (head?_toList_mem_firsts hrule hfits)

/-- The rules for manifests are the lists without the rule for timestamps. -/
theorem apply_listed_manifest (text : Text) :
    apply ((listed text.toList.head?).filter fun rule => rule.tag ≠ .timestamp) text =
      apply manifest text := by
  have hlisted : ((listed text.toList.head?).filter fun rule => rule.tag ≠ .timestamp) =
      manifest.filter fun rule =>
        text.toList.head? ∈ (firsts rule.tag).map (·.map CodePoint.char) := by
    rw [listed, manifest, List.filter_filter, List.filter_filter]
    exact List.filter_congr fun _ _ => Bool.and_comm ..
  rw [hlisted]
  refine apply_filter fun s hs rule hrule hfits => ?_
  subst hs
  exact decide_eq_true (head?_toList_mem_firsts (List.mem_of_mem_filter hrule) hfits)

/-! ## The rule for timestamps -/

theorem eq_of_tag_eq {rule : ImplicitRule} (hrule : rule ∈ standard) (other : ImplicitRule)
    (hother : other ∈ standard) (h : rule.tag = other.tag) : rule = other := by
  have hnodup : (standard.map (·.tag)).Nodup := by decide
  exact List.inj_on_of_nodup_map hnodup hrule hother h

/-- No rule but their own fits a timestamp: only those for numbers are listed under digits, and no
number has the form. -/
theorem tag_of_fits_timestamp {rule : ImplicitRule} {text : List Char} (hrule : rule ∈ standard)
    (htext : text ∈ Form.timestamp.matches') (hfits : rule.fits text = true) :
    rule.tag = .timestamp := by
  have hdigits : ∀ rule ∈ standard, rule.tag = .float ∨ rule.tag = .int ∨ rule.tag = .timestamp ∨
      ((firsts rule.tag).all fun first => !first.any Char.isDigit) = true := by
    decide
  obtain hfloat | hint | htimestamp | hnone := hdigits rule hrule
  · obtain rfl := eq_of_tag_eq hrule ⟨.float, isFloat⟩ (by simp [standard]) hfloat
    exact absurd hfits (Bool.eq_false_iff.1 (isFloat_of_timestamp htext))
  · obtain rfl := eq_of_tag_eq hrule ⟨.int, isInteger⟩ (by simp [standard]) hint
    exact absurd hfits (Bool.eq_false_iff.1 (isInteger_of_timestamp htext))
  · exact htimestamp
  · obtain ⟨c, hc, hdigit⟩ := head?_of_timestamp htext
    have hfirst := List.all_eq_true.1 hnone _ (head?_mem_firsts hrule hfits)
    rw [hc] at hfirst
    simp [hdigit] at hfirst

end ImplicitRule

/-- A text has the form of a timestamp; a line end behind it makes no difference. -/
def IsTimestamp : Text → Prop
  | .string s => withoutLineEnd s.toList ∈ Form.timestamp.matches'
  | .illFormed _ _ => False

instance : (text : Text) → Decidable (IsTimestamp text)
  | .string s => decidable_of_iff (isTimestamp (withoutLineEnd s.toList) = true) isTimestamp_iff
  | .illFormed _ _ => .isFalse id

example : IsTimestamp "2001-12-14 21:59:43.10 -5" := by decide +kernel

example : ¬IsTimestamp "2001-1-1" := by decide +kernel

namespace ImplicitRule

variable {text : Text}

/-- Without their rule, what has the form of a timestamp is a text. -/
theorem apply_manifest_of_isTimestamp (h : IsTimestamp text) : apply manifest text = .str := by
  cases text with
  | illFormed points hpoints => rfl
  | string s =>
    have hnone : manifest.find? (fun rule => rule.fits (withoutLineEnd s.toList)) = none := by
      refine List.find?_eq_none.2 fun rule hrule hfits => ?_
      obtain ⟨hmem, hkept⟩ := List.mem_filter.1 hrule
      exact of_decide_eq_true hkept (tag_of_fits_timestamp hmem h hfits)
    rw [apply, hnone]

/-- All else has the tag that it has with the rule for timestamps. -/
theorem apply_manifest_of_not_isTimestamp (h : ¬IsTimestamp text) :
    apply manifest text = apply standard text := by
  refine apply_filter fun s hs rule hrule hfits => decide_eq_true fun htag => h ?_
  subst hs
  obtain rfl := eq_of_tag_eq hrule ⟨.timestamp, isTimestamp⟩ (by simp [standard]) htag
  exact isTimestamp_iff.1 hfits

end ImplicitRule

end Yaml
end Patchwork
