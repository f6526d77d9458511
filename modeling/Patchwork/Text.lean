/-!
# Texts

A text is a sequence of code points.  Nearly every text consists of characters, but an escape in a
file can also write a surrogate, which is the code point of no character; two surrogates next to
each other stay two.  Such a text can be stored, compared and quoted like any other, but it has no
encoding, so it cannot be printed.

* `CodePoint` is a character or a surrogate.
* `Text` is a text; `Text.toList` are its code points and `Text.ofList` makes it out of them.
* `Text.toString?` is the text as a string, if it holds characters only.
-/

set_option autoImplicit false

namespace Patchwork

/-- A character or a surrogate. -/
inductive CodePoint where
  | char (c : Char)
  | surrogate (n : Fin 2048)
  deriving DecidableEq, Repr, Inhabited

namespace CodePoint

instance : Coe Char CodePoint := ⟨char⟩

/-- The number of the first surrogate. -/
def firstSurrogate : Nat := 0xD800

/-- The number of a code point. -/
def toNat : CodePoint → Nat
  | .char c => c.toNat
  | .surrogate n => firstSurrogate + n

/-- The character, if the code point is one. -/
def char? : CodePoint → Option Char
  | .char c => some c
  | .surrogate _ => none

/-- The code point of a number that is at most that of the last character. -/
def ofNat (n : Nat) : CodePoint :=
  if h : firstSurrogate ≤ n ∧ n < firstSurrogate + 2048 then
    .surrogate ⟨n - firstSurrogate, by omega⟩
  else .char (Char.ofNat n)

/-- The code point is an ASCII digit. -/
def isDigit : CodePoint → Bool
  | .char c => c.isDigit
  | .surrogate _ => false

@[simp] theorem char?_char (c : Char) : char? (.char c) = some c := rfl

theorem mapM_char?_map (chars : List Char) :
    (chars.map CodePoint.char).mapM char? = some chars := by
  induction chars with
  | nil => rfl
  | cons c rest ih => simp [ih]

theorem map_char_of_mapM {points : List CodePoint} {chars : List Char}
    (h : points.mapM char? = some chars) : chars.map CodePoint.char = points := by
  induction points generalizing chars with
  | nil => simp_all
  | cons p rest ih =>
    cases p with
    | surrogate n => simp [char?] at h
    | char c =>
      obtain ⟨tail, htail, rfl⟩ : ∃ tail, rest.mapM char? = some tail ∧ c :: tail = chars := by
        simpa [char?, Option.bind_eq_some_iff] using h
      rw [List.map_cons, ih htail]

end CodePoint

/-- A text.  One without surrogates is always given as a string, so texts with the same code points
are equal. -/
inductive Text where
  | string (s : String)
  | illFormed (points : List CodePoint) (h : points.mapM CodePoint.char? = none)
  deriving DecidableEq, Repr

namespace Text

instance : Coe String Text := ⟨string⟩

instance : Inhabited Text := ⟨string ""⟩

/-- The code points of a text. -/
def toList : Text → List CodePoint
  | .string s => s.toList.map .char
  | .illFormed points _ => points

/-- The text of code points. -/
def ofList (points : List CodePoint) : Text :=
  match h : points.mapM CodePoint.char? with
  | some chars => .string (String.ofList chars)
  | none => .illFormed points h

/-- The text as a string; one with a surrogate has none. -/
def toString? : Text → Option String
  | .string s => some s
  | .illFormed _ _ => none

/-- The text has no code point. -/
def isEmpty : Text → Bool
  | .string s => s.isEmpty
  | .illFormed _ _ => false

/-- The number of code points. -/
def length : Text → Nat
  | .string s => s.length
  | .illFormed points _ => points.length

/-- One text behind another. -/
def append : Text → Text → Text
  | .string s, .string t => .string (s ++ t)
  | s, t => ofList (s.toList ++ t.toList)

instance : Append Text := ⟨append⟩

/-- The text begins with another. -/
def startsWith (s start : Text) : Bool := start.toList.isPrefixOf s.toList

/-! ## Texts and their code points -/

@[simp] theorem toList_string (s : String) : (string s).toList = s.toList.map .char := rfl

@[simp] theorem toList_ofList (points : List CodePoint) : (ofList points).toList = points := by
  unfold ofList
  split
  · rename_i chars h
    simp [CodePoint.map_char_of_mapM h]
  · rfl

theorem ofList_map_char (chars : List Char) :
    ofList (chars.map .char) = string (String.ofList chars) := by
  have h := CodePoint.mapM_char?_map chars
  unfold ofList
  split
  · rename_i chars' h'
    rw [h, Option.some.injEq] at h'
    rw [h']
  · rename_i h'
    rw [h] at h'
    contradiction

@[simp] theorem ofList_toList (t : Text) : ofList t.toList = t := by
  cases t with
  | string s => simp [ofList_map_char]
  | illFormed points h =>
    unfold ofList
    split
    · rename_i chars h'
      have hsome : points.mapM CodePoint.char? = some chars := h'
      rw [h] at hsome
      contradiction
    · rfl

theorem toList_inj {s t : Text} : s.toList = t.toList ↔ s = t :=
  ⟨fun h => by rw [← ofList_toList s, h, ofList_toList], fun h => by rw [h]⟩

theorem ofList_inj {ps qs : List CodePoint} : ofList ps = ofList qs ↔ ps = qs :=
  ⟨fun h => by rw [← toList_ofList ps, h, toList_ofList], fun h => by rw [h]⟩

@[simp] theorem ofList_nil : ofList [] = string "" := rfl

theorem ofList_eq_empty_iff {points : List CodePoint} : ofList points = string "" ↔ points = [] :=
  @ofList_inj points []

@[simp] theorem toList_append (s t : Text) : (s ++ t).toList = s.toList ++ t.toList := by
  change (append s t).toList = _
  unfold append
  split
  · simp
  · rw [toList_ofList]

@[simp] theorem append_empty (t : Text) : t ++ string "" = t := by simp [← toList_inj]

@[simp] theorem empty_append (t : Text) : string "" ++ t = t := by simp [← toList_inj]

theorem append_assoc (s t u : Text) : s ++ t ++ u = s ++ (t ++ u) := by simp [← toList_inj]

@[simp] theorem length_toList (t : Text) : t.toList.length = t.length := by
  cases t <;> simp [toList, length, String.length_toList]

@[simp] theorem isEmpty_iff {t : Text} : t.isEmpty = true ↔ t = string "" := by
  cases t <;> simp [isEmpty]

@[simp] theorem isEmpty_eq_false_iff {t : Text} : t.isEmpty = false ↔ t ≠ string "" := by
  rw [← Bool.not_eq_true, Ne, isEmpty_iff]

theorem toList_eq_nil_iff {t : Text} : t.toList = [] ↔ t = string "" := by
  rw [← toList_inj]
  rfl

theorem append_eq_empty_iff {s t : Text} :
    s ++ t = string "" ↔ s = string "" ∧ t = string "" := by
  rw [← toList_eq_nil_iff, toList_append, List.append_eq_nil_iff, toList_eq_nil_iff,
    toList_eq_nil_iff]

end Text
end Patchwork
