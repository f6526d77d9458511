import Mathlib.Computability.RegularExpressions
import Patchwork.Yaml.Number

/-!
# Forms of texts and their readers

A form is a regular expression.  A reader takes a word of the form off the front of a text,
greedily; so what may follow the word has to be known.

* `Form.IsClass` — the form is that of a class of characters; `Form.mem_pow_of_isClass` and
  `Form.mem_star_of_isClass` give the texts that repeat it.
* `Reads` — a reader takes the words of a language off a text; readers that follow one another take
  the products of their languages.
* `afterDigits?_sound`, `afterDigits?_append` — the reader of digits.
-/

set_option autoImplicit false

namespace Patchwork
namespace Yaml

/-! ## Forms -/

namespace Form

def oneOf (chars : List Char) : RegularExpression Char := (chars.map .char).sum

def optional (form : RegularExpression Char) : RegularExpression Char := 1 + form

def digits : List Char := ['0', '1', '2', '3', '4', '5', '6', '7', '8', '9']

def digit : RegularExpression Char := oneOf digits

variable {chars : List Char} {form : RegularExpression Char} {text : List Char} {p : Char → Prop}
  {n : Nat}

theorem mem_char {c : Char} : text ∈ (RegularExpression.char c).matches' ↔ text = [c] := Iff.rfl

theorem mem_oneOf : text ∈ (oneOf chars).matches' ↔ ∃ c ∈ chars, text = [c] := by
  induction chars with
  | nil => simp [oneOf, Language.notMem_zero]
  | cons c rest ih =>
    have hcons : oneOf (c :: rest) = .char c + oneOf rest := List.sum_cons
    rw [hcons, RegularExpression.matches'_add, Language.mem_add, mem_char, ih]
    simp

theorem mem_optional :
    text ∈ (optional form).matches' ↔ text = [] ∨ text ∈ form.matches' := by
  rw [optional, RegularExpression.matches'_add, Language.mem_add,
    RegularExpression.matches'_epsilon, Language.mem_one]

theorem mem_char_mul {c : Char} :
    text ∈ (.char c * form : RegularExpression Char).matches' ↔
      ∃ rest ∈ form.matches', text = c :: rest := by
  rw [RegularExpression.matches'_mul, Language.mem_mul]
  constructor
  · rintro ⟨word, hword, rest, hrest, rfl⟩
    cases mem_char.1 hword
    exact ⟨rest, hrest, rfl⟩
  · rintro ⟨rest, hrest, rfl⟩
    exact ⟨[c], mem_char.2 rfl, rest, hrest, rfl⟩

/-- The form is that of the characters in `p`. -/
def IsClass (form : RegularExpression Char) (p : Char → Prop) : Prop :=
  ∀ text, text ∈ form.matches' ↔ ∃ c, p c ∧ text = [c]

theorem mem_digits {c : Char} : c ∈ digits ↔ c.isDigit = true := by
  simp only [digits, List.mem_cons, List.not_mem_nil, or_false, Char.isDigit, Bool.and_eq_true,
    decide_eq_true_eq, Char.ext_iff, UInt32.ext_iff, UInt32.le_iff_toNat_le]
  simp only [Char.toNat_val, Char.reduceVal, UInt32.reduceToNat]
  omega

theorem isClass_digit : IsClass digit (Char.isDigit · = true) := by
  intro text
  rw [digit, mem_oneOf]
  simp only [mem_digits]

/-- Parts of one character each that are put together. -/
theorem flatten_of_isClass (h : IsClass form p) {parts : List (List Char)}
    (hparts : ∀ part ∈ parts, part ∈ form.matches') :
    parts.flatten.length = parts.length ∧ ∀ c ∈ parts.flatten, p c := by
  induction parts with
  | nil => simp
  | cons part rest ih =>
    obtain ⟨hpart, hrest⟩ := List.forall_mem_cons.1 hparts
    obtain ⟨c, hc, rfl⟩ := (h part).1 hpart
    obtain ⟨hlength, hall⟩ := ih hrest
    exact ⟨by simp [hlength], by simpa using ⟨hc, by simpa using hall⟩⟩

theorem flatten_singletons (text : List Char) : (text.map ([·])).flatten = text := by
  rw [← List.flatMap_def, List.flatMap_singleton']

theorem singletons_of_isClass (h : IsClass form p) (hall : ∀ c ∈ text, p c) :
    ∀ part ∈ text.map ([·]), part ∈ form.matches' := by
  intro part hpart
  obtain ⟨c, hc, rfl⟩ := List.mem_map.1 hpart
  exact (h _).2 ⟨c, hall c hc, rfl⟩

theorem mem_pow_of_isClass (h : IsClass form p) :
    text ∈ (form ^ n).matches' ↔ text.length = n ∧ ∀ c ∈ text, p c := by
  rw [RegularExpression.matches'_pow, Language.mem_pow]
  constructor
  · rintro ⟨parts, rfl, rfl, hparts⟩
    exact flatten_of_isClass h hparts
  · rintro ⟨rfl, hall⟩
    exact ⟨text.map ([·]), (flatten_singletons text).symm, by simp, singletons_of_isClass h hall⟩

theorem mem_star_of_isClass (h : IsClass form p) :
    text ∈ form.star.matches' ↔ ∀ c ∈ text, p c := by
  rw [RegularExpression.matches'_star, Language.mem_kstar]
  constructor
  · rintro ⟨parts, rfl, hparts⟩
    exact (flatten_of_isClass h hparts).2
  · intro hall
    exact ⟨text.map ([·]), (flatten_singletons text).symm, singletons_of_isClass h hall⟩

theorem mem_pow_digit : text ∈ (digit ^ n).matches' ↔ text.length = n ∧ ∀ c ∈ text, c.isDigit :=
  mem_pow_of_isClass isClass_digit

theorem mem_star_digit : text ∈ digit.star.matches' ↔ ∀ c ∈ text, c.isDigit :=
  mem_star_of_isClass isClass_digit

end Form

/-! ## Readers -/

/-- The text does not begin with a character in `p`. -/
def EndsBefore (p : Char → Bool) (text : List Char) : Prop := ∀ c ∈ text.head?, p c = false

/-- A reader takes the words of a language off a text, as long as what follows is in `after`. -/
structure Reads (read : List Char → Option (List Char)) (language : Language Char)
    (after : List Char → Prop) : Prop where
  sound : ∀ {text rest}, read text = some rest → ∃ word ∈ language, word ++ rest = text
  complete : ∀ {word rest}, word ∈ language → after rest → read (word ++ rest) = some rest

namespace Reads

variable {read read₁ read₂ : List Char → Option (List Char)} {l l₁ l₂ : Language Char}
  {after after₁ after₂ : List Char → Prop} {text : List Char}

/-- Readers that follow one another. -/
theorem bind (h₁ : Reads read₁ l₁ after₁) (h₂ : Reads read₂ l₂ after₂)
    (hmeet : ∀ word ∈ l₂, ∀ rest, after₂ rest → after₁ (word ++ rest)) :
    Reads (fun text => (read₁ text).bind read₂) (l₁ * l₂) after₂ where
  sound := by
    intro text rest hread
    obtain ⟨middle, hmiddle, hrest⟩ := Option.bind_eq_some_iff.1 hread
    obtain ⟨first, hfirst, rfl⟩ := h₁.sound hmiddle
    obtain ⟨second, hsecond, rfl⟩ := h₂.sound hrest
    exact ⟨first ++ second, Language.append_mem_mul hfirst hsecond, List.append_assoc ..⟩
  complete := by
    rintro _ rest ⟨first, hfirst, second, hsecond, rfl⟩ hafter
    dsimp only
    rw [List.append_assoc, h₁.complete hfirst (hmeet second hsecond rest hafter),
      Option.bind_some, h₂.complete hsecond hafter]

/-- A reader that takes a whole text. -/
theorem eq_some_nil (h : Reads read l after) (hend : after []) :
    read text = some [] ↔ text ∈ l := by
  constructor
  · intro hread
    obtain ⟨word, hword, rfl⟩ := h.sound hread
    rwa [List.append_nil]
  · intro htext
    simpa using h.complete htext hend

end Reads

/-! ## Runs of characters -/

section Runs

variable {p : Char → Bool} {run rest : List Char} {most : Nat}

theorem EndsBefore.take (h : EndsBefore p rest) : EndsBefore p (rest.take most) := by
  cases most with
  | zero => simp [EndsBefore]
  | succ most => cases rest <;> exact h

theorem takeWhile_eq_nil (h : EndsBefore p rest) : rest.takeWhile p = [] := by
  cases rest with
  | nil => rfl
  | cons c rest => exact List.takeWhile_cons_of_neg (by simp [h c rfl])

theorem dropWhile_eq_self (h : EndsBefore p rest) : rest.dropWhile p = rest := by
  cases rest with
  | nil => rfl
  | cons c rest => exact List.dropWhile_cons_of_neg (by simp [h c rfl])

theorem dropWhile_append (hall : ∀ c ∈ run, p c = true) (h : EndsBefore p rest) :
    (run ++ rest).dropWhile p = rest := by
  rw [List.dropWhile_append_of_pos hall, dropWhile_eq_self h]

/-- The run at the front of a text whose length is bounded. -/
theorem takeWhile_take_append (hall : ∀ c ∈ run, p c = true) (hmost : run.length ≤ most)
    (h : run.length = most ∨ EndsBefore p rest) : ((run ++ rest).take most).takeWhile p = run := by
  have hrest : (rest.take (most - run.length)).takeWhile p = [] := by
    obtain rfl | h := h
    · simp
    · exact takeWhile_eq_nil h.take
  rw [List.take_append, List.take_of_length_le hmost, List.takeWhile_append_of_pos hall, hrest,
    List.append_nil]

end Runs

/-! ## Digits -/

/-- What the reader of digits takes. -/
theorem afterDigits?_sound {least most : Nat} {text rest : List Char}
    (h : afterDigits? least most text = some rest) :
    ∃ digits, digits ++ rest = text ∧ (least ≤ digits.length ∧ digits.length ≤ most) ∧
      ∀ c ∈ digits, c.isDigit := by
  obtain ⟨digits, hdigits⟩ : ∃ digits, (text.take most).takeWhile Char.isDigit = digits := ⟨_, rfl⟩
  have htaken : digits <+: text.take most := hdigits ▸ List.takeWhile_prefix _
  simp only [afterDigits?, hdigits] at h
  split at h
  · cases h
  · rename_i hleast
    cases h
    refine ⟨digits, ?_, ⟨Nat.le_of_not_lt hleast, ?_⟩, ?_⟩
    · have htake : digits = text.take digits.length :=
        List.prefix_iff_eq_take.1 (htaken.trans (List.take_prefix ..))
      calc digits ++ text.drop digits.length
          = text.take digits.length ++ text.drop digits.length := by rw [← htake]
        _ = text := List.take_append_drop ..
    · exact htaken.length_le.trans (List.length_take_le ..)
    · exact hdigits ▸ List.all_eq_true.1 List.all_takeWhile

/-- The reader of digits takes as many as it may, and stops where none comes. -/
theorem afterDigits?_append {least most : Nat} {digits rest : List Char}
    (hlength : least ≤ digits.length ∧ digits.length ≤ most) (hall : ∀ c ∈ digits, c.isDigit)
    (h : digits.length = most ∨ EndsBefore Char.isDigit rest) :
    afterDigits? least most (digits ++ rest) = some rest := by
  simp only [afterDigits?, takeWhile_take_append hall hlength.2 h]
  rw [if_neg (Nat.not_lt.2 hlength.1), List.drop_left]

end Yaml
end Patchwork
