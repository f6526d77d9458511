import Patchwork.Binary64
import Patchwork.Calendar
import Patchwork.Limit
import Patchwork.Text

/-!
# Document values

`Value` is a node of a document: the JSON values, and the further kinds that a document may hold
before it is checked (tuples, dates, byte strings, sets, maps with keys of any kind).

* `Value.lookup` and `Value.insert` read and write the entries of a map by a text key, in
  insertion order; a key that is already there keeps its place.
* `Value.same` is equality by value: numbers compare across kinds (`1`, `1.0` and `true` are the
  same), maps without regard to order.
* `Value.hashable` says which values can serve as keys, and `Value.truthy` which count as set.
* `Value.limit?` is the limit that a value meets when it is written out.
-/

set_option autoImplicit false

namespace Patchwork

/-- A node of a document.  The entries of a map stand in insertion order. -/
inductive Value where
  | null
  | bool (b : Bool)
  | int (i : Int)
  | float (x : Binary64)
  | str (s : Text)
  | list (items : List Value)
  | tuple (items : List Value)
  | map (entries : List (Value × Value))
  | date (d : Date)
  | datetime (t : DateTime)
  | bytes (bs : List UInt8)
  | set (members : List Value)
  /-- What lies deeper than a value is followed, as in one that is nested without end. -/
  | endless
  deriving Repr, Inhabited

namespace Value

/-- The name of the kind of a value, as messages give it. -/
def kindName : Value → String
  | .null => "NoneType"
  | .bool _ => "bool"
  | .int _ => "int"
  | .float _ => "float"
  | .str _ => "str"
  | .list _ => "list"
  | .tuple _ => "tuple"
  | .map _ => "dict"
  | .date _ => "date"
  | .datetime _ => "datetime"
  | .bytes _ => "bytes"
  | .set _ => "set"
  | .endless => "endless"

/-- The value is null. -/
def isNull : Value → Bool
  | .null => true
  | _ => false

/-- The value counts as set: it is not null, false, zero or empty. -/
def truthy : Value → Bool
  | .null => false
  | .bool b => b
  | .int i => i != 0
  | .float x => !x.isZero
  | .str s => !s.isEmpty
  | .list xs => !xs.isEmpty
  | .tuple xs => !xs.isEmpty
  | .map es => !es.isEmpty
  | .bytes bs => !bs.isEmpty
  | .set xs => !xs.isEmpty
  | .date _ | .datetime _ | .endless => true

/-! ## Entries of a map -/

/-- The value under a text key. -/
def lookup (key : Text) : List (Value × Value) → Option Value
  | [] => none
  | (.str k, v) :: rest => if k = key then some v else lookup key rest
  | _ :: rest => lookup key rest

/-- The entries with `value` under a text key: in its place if the key is there, else at the
end. -/
def insert (key : Text) (value : Value) : List (Value × Value) → List (Value × Value)
  | [] => [(.str key, value)]
  | (.str k, v) :: rest =>
    if k = key then (.str k, value) :: rest else (.str k, v) :: insert key value rest
  | entry :: rest => entry :: insert key value rest

/-- The value under a text key, `default` when the key is absent. -/
def fieldOr (entries : List (Value × Value)) (key : Text) (default : Value) : Value :=
  (lookup key entries).getD default

/-- The value under a text key, null when the key is absent. -/
def field (entries : List (Value × Value)) (key : Text) : Value := fieldOr entries key .null

@[simp] theorem lookup_nil (key : Text) : lookup key [] = none := rfl

@[simp] theorem lookup_cons (key k : Text) (v : Value) (rest : List (Value × Value)) :
    lookup key ((.str k, v) :: rest) = if k = key then some v else lookup key rest := rfl

theorem lookup_append (key : Text) (es fs : List (Value × Value)) :
    lookup key (es ++ fs) = (lookup key es).or (lookup key fs) := by
  fun_induction lookup key es <;> simp_all [lookup]

@[simp] theorem lookup_unless (key k : Text) (v : Value) (c : Prop) [Decidable c] :
    lookup key (if c then [] else [(.str k, v)]) =
      if k = key then (if c then none else some v) else none := by
  split <;> simp

@[simp] theorem lookup_insert_self (key : Text) (value : Value) (entries : List (Value × Value)) :
    lookup key (insert key value entries) = some value := by
  fun_induction insert key value entries <;> simp_all [lookup]

theorem lookup_insert_of_ne {key other : Text} (h : other ≠ key) (value : Value)
    (entries : List (Value × Value)) :
    lookup other (insert key value entries) = lookup other entries := by
  fun_induction insert key value entries <;> simp_all [lookup, eq_comm]

/-- Writing what is there already changes nothing. -/
theorem insert_of_lookup {key : Text} {value : Value} {entries : List (Value × Value)}
    (h : lookup key entries = some value) : insert key value entries = entries := by
  fun_induction insert key value entries <;> simp_all [lookup]

/-! ## Equality by value -/

/-- The whole number that a truth value or integer counts as. -/
def whole? : Value → Option Int
  | .bool b => some (if b then 1 else 0)
  | .int i => some i
  | _ => none

/-- Equality of two values that are not containers. -/
def sameScalar : Value → Value → Bool
  | .null, .null => true
  | .str s, .str t => s == t
  | .date d, .date e => decide (d = e)
  | .datetime d, .datetime e => d.same e
  | .bytes b, .bytes c => b == c
  | .float x, .float y => x.eqFloat y
  | .float x, y => y.whole?.any x.eqInt
  | x, .float y => x.whole?.any y.eqInt
  | x, y =>
    match x.whole?, y.whole? with
    | some i, some j => i == j
    | _, _ => false

mutual

/-- Equality by value. -/
def same : Value → Value → Bool
  | .list xs, y => match y with
    | .list ys => sameItems xs ys
    | _ => false
  | .tuple xs, y => match y with
    | .tuple ys => sameItems xs ys
    | _ => false
  | .map es, y => match y with
    | .map fs => es.length == fs.length && sameEntries es fs
    | _ => false
  | .set xs, y => match y with
    | .set ys => xs.length == ys.length && sameMembers xs ys
    | _ => false
  | x, y => sameScalar x y
termination_by structural v => v

/-- Equality of sequences, place by place. -/
def sameItems : List Value → List Value → Bool
  | [], ys => ys.isEmpty
  | x :: xs, ys => match ys with
    | [] => false
    | y :: ys => same x y && sameItems xs ys
termination_by structural vs => vs

/-- Every entry occurs among the others. -/
def sameEntries : List (Value × Value) → List (Value × Value) → Bool
  | [], _ => true
  | (k, v) :: es, fs => (fs.any fun f => same k f.1 && same v f.2) && sameEntries es fs
termination_by structural es => es

/-- Every member occurs among the others. -/
def sameMembers : List Value → List Value → Bool
  | [], _ => true
  | x :: xs, ys => (ys.any fun y => same x y) && sameMembers xs ys
termination_by structural vs => vs

end

/-- Nothing but a text is the same as it. -/
theorem same_str_iff {v : Value} {text : Text} : v.same (.str text) = true ↔ v = .str text := by
  cases v <;> simp [same, sameScalar, whole?]

theorem str_same_iff {v : Value} {text : Text} :
    (Value.str text).same v = true ↔ v = .str text := by
  cases v with
  | str s =>
    have hsame : (Value.str text).same (.str s) = (text == s) := rfl
    rw [hsame, beq_iff_eq, Value.str.injEq, eq_comm]
  | _ => simp [same, sameScalar, whole?]

/-- The entries with `value` under a key of any kind: in the place of the first equal key, which
stays, or else at the end. -/
def put (key value : Value) : List (Value × Value) → List (Value × Value)
  | [] => [(key, value)]
  | (k, v) :: rest => if same k key then (k, value) :: rest else (k, v) :: put key value rest

mutual

/-- The value can be a key: it holds no list, map or set. -/
def hashable : Value → Bool
  | .list _ | .map _ | .set _ | .endless => false
  | .tuple xs => allHashable xs
  | _ => true

/-- All items can be keys. -/
def allHashable : List Value → Bool
  | [] => true
  | x :: xs => hashable x && allHashable xs

end

/-! ## Limits -/

mutual

/-- The value itself or a part of it satisfies `p`. -/
def holds (p : Value → Bool) : Value → Bool
  | .list xs => p (.list xs) || anyHolds p xs
  | .tuple xs => p (.tuple xs) || anyHolds p xs
  | .map es => p (.map es) || anyEntryHolds p es
  | .set xs => p (.set xs) || anyHolds p xs
  | v => p v

/-- One of the values, or a part of it, satisfies `p`. -/
def anyHolds (p : Value → Bool) : List Value → Bool
  | [] => false
  | x :: xs => holds p x || anyHolds p xs

/-- One of the keys or values, or a part of it, satisfies `p`. -/
def anyEntryHolds (p : Value → Bool) : List (Value × Value) → Bool
  | [] => false
  | (k, v) :: es => holds p k || holds p v || anyEntryHolds p es

end

/-- The value is nested without end. -/
def isEndless : Value → Bool
  | .endless => true
  | _ => false

/-- What stands for a value that has an end but is nested too deep to be followed there. -/
def tooDeep : Value := .tuple [.endless]

/-- The value is nested too deep. -/
def isTooDeep : Value → Bool
  | .tuple [.endless] => true
  | _ => false

/-- Numbers with fewer bits than this have no more than the greatest number of digits. -/
def shortBits : Nat := 14283

/-- The value is an integer with more digits than are written. -/
def isLongInteger : Value → Bool
  | .int i => shortBits < i.natAbs.log2 && Binary64.tenPow Limit.maxDigits ≤ i.natAbs
  | _ => false

/-- The limit that the value meets when it is written out. -/
def limit? (v : Value) : Option Limit :=
  if v.holds isEndless then some .nesting
  else if v.holds isLongInteger then some .digits
  else none

end Value
end Patchwork
