import Patchwork.Value

/-!
# Deciding whether values are equal

Equality here is that of the values themselves, which tells `1` from `1.0`, not equality by value.
-/

set_option autoImplicit false

namespace Patchwork
namespace Value

mutual

/-- The values are equal. -/
def equal : Value → Value → Bool
  | .null, w => w.isNull
  | .bool b, w => match w with
    | .bool c => b == c
    | _ => false
  | .int i, w => match w with
    | .int j => i == j
    | _ => false
  | .float x, w => match w with
    | .float y => decide (x = y)
    | _ => false
  | .str s, w => match w with
    | .str t => decide (s = t)
    | _ => false
  | .list xs, w => match w with
    | .list ys => equalItems xs ys
    | _ => false
  | .tuple xs, w => match w with
    | .tuple ys => equalItems xs ys
    | _ => false
  | .map es, w => match w with
    | .map fs => equalEntries es fs
    | _ => false
  | .date d, w => match w with
    | .date e => decide (d = e)
    | _ => false
  | .datetime t, w => match w with
    | .datetime u => decide (t = u)
    | _ => false
  | .bytes bs, w => match w with
    | .bytes cs => bs == cs
    | _ => false
  | .set xs, w => match w with
    | .set ys => equalItems xs ys
    | _ => false
  | .endless, w => w.isEndless
termination_by structural v => v

/-- The items are equal, place by place. -/
def equalItems : List Value → List Value → Bool
  | [], ys => ys.isEmpty
  | x :: xs, ys => match ys with
    | [] => false
    | y :: ys => equal x y && equalItems xs ys
termination_by structural vs => vs

/-- The entries are equal, place by place. -/
def equalEntries : List (Value × Value) → List (Value × Value) → Bool
  | [], fs => fs.isEmpty
  | (k, v) :: es, fs => match fs with
    | [] => false
    | f :: fs => equal k f.1 && equal v f.2 && equalEntries es fs
termination_by structural es => es

end

mutual

theorem equal_iff : (v w : Value) → (equal v w = true ↔ v = w)
  | .null, w => by cases w <;> simp [equal, isNull]
  | .bool b, w => by cases w <;> simp [equal]
  | .int i, w => by cases w <;> simp [equal]
  | .float x, w => by cases w <;> simp [equal]
  | .str s, w => by cases w <;> simp [equal]
  | .list xs, w => by cases w <;> simp [equal, equalItems_iff xs]
  | .tuple xs, w => by cases w <;> simp [equal, equalItems_iff xs]
  | .map es, w => by cases w <;> simp [equal, equalEntries_iff es]
  | .date d, w => by cases w <;> simp [equal]
  | .datetime t, w => by cases w <;> simp [equal]
  | .bytes bs, w => by cases w <;> simp [equal]
  | .set xs, w => by cases w <;> simp [equal, equalItems_iff xs]
  | .endless, w => by cases w <;> simp [equal, isEndless]

theorem equalItems_iff : (xs ys : List Value) → (equalItems xs ys = true ↔ xs = ys)
  | [], ys => by cases ys <;> simp [equalItems]
  | x :: xs, ys => by
    cases ys with
    | nil => simp [equalItems]
    | cons y ys => simp [equalItems, equal_iff x, equalItems_iff xs]

theorem equalEntries_iff :
    (es fs : List (Value × Value)) → (equalEntries es fs = true ↔ es = fs)
  | [], fs => by cases fs <;> simp [equalEntries]
  | (k, v) :: es, fs => by
    cases fs with
    | nil => simp [equalEntries]
    | cons f fs =>
      obtain ⟨k', v'⟩ := f
      simp [equalEntries, equal_iff k, equal_iff v, equalEntries_iff es]

end

instance : DecidableEq Value := fun v w => decidable_of_iff _ (equal_iff v w)

end Value
end Patchwork

