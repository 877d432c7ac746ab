import Mathlib.Algebra.Order.Ring.Rat
import Mathlib.Algebra.Order.Ring.Cast

/-!
# JSON values, as the client's Python code sees them

`response.json()` hands `Client._send_http_request` whatever `json.loads` builds from the body:
`None`, a `bool`, an `int`, a `float`, a `str`, a `list` or a `dict`.  Every later decision of
the client on a response is a Python operation on such a value: `dict.get`, `in`, `!=`, `>` and
truthiness.  This module fixes those operations with CPython 3's semantics, so that the client's
code can be followed over any body a server may send, not only over well-formed envelopes.

A float of a document is the rational it stands for, so `float` carries a `ℚ`; comparisons
between `int`, `float` and `bool` (a subclass of `int`) are exact, as CPython makes them.  `NaN`
and the infinities, which `json.loads` accepts as an extension of JSON, are not modelled.  What
`json.loads` refuses in a valid JSON text, a nesting past the recursion limit or an integer of
more than 4300 digits, is `loadsFailure`.

`pyGt` returns `none` where Python raises `TypeError` (`'>' not supported between instances`);
the client module turns that into the exception.
-/

namespace DiemJsonRpc

/-- A value built by `json.loads`.  An object keeps its items in insertion order; its keys are
distinct, since `json.loads` lets a repeated key replace the earlier one. -/
inductive JsonValue where
  | null
  | bool (b : Bool)
  | int (n : ℤ)
  | float (x : ℚ)
  | str (s : String)
  | array (xs : List JsonValue)
  | object (kvs : List (String × JsonValue))
  deriving Repr

namespace JsonValue

/-- The number an `int`, a `float` or a `bool` stands for in a comparison. -/
def toNumber? : JsonValue → Option ℚ
  | bool b => some (if b then 1 else 0)
  | int n => some n
  | float x => some x
  | _ => none

/-- Python's `a == b`.  Numbers compare by value across `int`, `float` and `bool`; lists
elementwise; dicts as maps, whatever the order of their items. -/
def pyEq : JsonValue → JsonValue → Bool
  | null, null => true
  | str s, str t => decide (s = t)
  | array xs, array ys => eqList xs ys
  | object a, object b => a.length == b.length && eqItems a b
  | a, b => match a.toNumber?, b.toNumber? with
    | some x, some y => decide (x = y)
    | _, _ => false
where
  /-- `==` on two lists of the same kind. -/
  eqList : List JsonValue → List JsonValue → Bool
    | [], [] => true
    | x :: xs, y :: ys => pyEq x y && eqList xs ys
    | _, _ => false
  /-- Every item of the first dict is in the second, with an equal value. -/
  eqItems : List (String × JsonValue) → List (String × JsonValue) → Bool
    | [], _ => true
    | (k, v) :: rest, b => (match b.lookup k with
        | some w => pyEq v w
        | none => false) && eqItems rest b

/-- Python's `a != b`, which never raises on JSON values. -/
def pyNe (a b : JsonValue) : Bool := !pyEq a b

/-- Python's `s < t` on two `str`s: the first unequal code point decides, and a proper prefix
comes first. -/
def codePointsLt : List Char → List Char → Bool
  | _, [] => false
  | [], _ :: _ => true
  | a :: as, b :: bs => if a = b then codePointsLt as bs else decide (a.toNat < b.toNat)

/-- Python's `a > b`, or `none` where Python raises `TypeError`: numbers by value, strings by
code points, lists lexicographically; every other pair (a `None`, a dict, or two values of
unrelated kinds) is unorderable. -/
def pyGt : JsonValue → JsonValue → Option Bool
  | str s, str t => some (codePointsLt t.data s.data)
  | array xs, array ys => gtList xs ys
  | a, b => match a.toNumber?, b.toNumber? with
    | some x, some y => some (decide (y < x))
    | _, _ => none
where
  /-- List comparison: the first unequal pair decides, else the longer list is greater. -/
  gtList : List JsonValue → List JsonValue → Option Bool
    | [], _ => some false
    | _ :: _, [] => some true
    | x :: xs, y :: ys => if pyEq x y then gtList xs ys else pyGt x y

/-- Python's `a <= b`: on every pair Python can order the order is total, so it is `not (a > b)`;
`none` where Python raises `TypeError`. -/
def pyLe (a b : JsonValue) : Option Bool := (pyGt a b).map (!·)

/-- Python's truthiness (`if x:`, `x or y`). -/
def truthy : JsonValue → Bool
  | null => false
  | bool b => b
  | int n => n ≠ 0
  | float x => x ≠ 0
  | str s => !s.isEmpty
  | array xs => !xs.isEmpty
  | object kvs => !kvs.isEmpty

/-- The items of a dict; any other value has no `get` and no `__getitem__` by key. -/
def items? : JsonValue → Option (List (String × JsonValue))
  | object kvs => some kvs
  | _ => none

@[simp] lemma pyNe_int_int (a b : ℤ) : pyNe (int a) (int b) = decide (a ≠ b) := by
  simp [pyNe, pyEq, toNumber?]

@[simp] lemma pyGt_int_int (a b : ℤ) : pyGt (int a) (int b) = some (decide (b < a)) := by
  simp [pyGt, toNumber?]

/-- A missing field reaches the tracker as `None`, which no number orders against. -/
@[simp] lemma pyGt_int_null (a : ℤ) : pyGt (int a) null = none := rfl

@[simp] lemma pyLe_int_int (a b : ℤ) : pyLe (int a) (int b) = some (decide (a ≤ b)) := by
  rw [pyLe, pyGt_int_int]
  cases h : decide (a ≤ b) <;> simp_all

@[simp] lemma pyNe_int_null (a : ℤ) : pyNe (int a) null = true := rfl

/-! ## What `json.loads` refuses in a JSON text

CPython's decoder (`scan_once_unicode` in `_json.c`) takes one level of the interpreter's
recursion limit for every array and object it opens, and raises `RecursionError` past it; and it
builds every integer with `PyLong_FromString`, which since CPython 3.11 raises `ValueError` on
more than 4300 digits.  It scans left to right, so the first of the two it meets decides. -/

/-- Why `json.loads` fails on a text that is valid JSON: `RecursionError`, or `ValueError`
("Exceeds the limit (4300 digits) for integer string conversion"). -/
inductive LoadsFailure where
  | recursion
  | intDigits
  deriving DecidableEq, Repr

/-- `n` has more than `k` decimal digits; the recursion stops with the digits of `n`. -/
def moreDigitsThan : ℕ → ℕ → Bool
  | 0, n => n != 0
  | k + 1, n => n != 0 && moreDigitsThan k (n / 10)

lemma moreDigitsThan_iff : ∀ k n, moreDigitsThan k n = true ↔ 10 ^ k ≤ n
  | 0, n => by simp [moreDigitsThan]; omega
  | k + 1, n => by
    have hpos : 0 < 10 ^ k := Nat.pos_pow_of_pos k (by decide)
    rw [moreDigitsThan, Bool.and_eq_true, moreDigitsThan_iff k, pow_succ,
      Nat.le_div_iff_mul_le (by decide), bne_iff_ne]
    generalize 10 ^ k = p at *
    constructor
    · exact fun h => h.2
    · intro h
      exact ⟨by omega, h⟩

/-- The first failure of the decoder on the document `v`, scanning left to right with `room`
more arrays and objects it may open. -/
def loadsFailure (room : ℕ) : JsonValue → Option LoadsFailure
  | int n => if moreDigitsThan 4300 n.natAbs then some .intDigits else none
  | array xs => match room with
    | 0 => some .recursion
    | room + 1 => listFailure room xs
  | object kvs => match room with
    | 0 => some .recursion
    | room + 1 => itemsFailure room kvs
  | _ => none
where
  /-- The elements of an array, in order. -/
  listFailure (room : ℕ) : List JsonValue → Option LoadsFailure
    | [] => none
    | x :: xs => (loadsFailure room x).or (listFailure room xs)
  /-- The values of an object, in order. -/
  itemsFailure (room : ℕ) : List (String × JsonValue) → Option LoadsFailure
    | [] => none
    | (_, v) :: rest => (loadsFailure room v).or (itemsFailure room rest)

@[simp] lemma loadsFailure_array_succ (room : ℕ) (xs : List JsonValue) :
    (array xs).loadsFailure (room + 1) = loadsFailure.listFailure room xs := rfl

@[simp] lemma loadsFailure_object_succ (room : ℕ) (kvs : List (String × JsonValue)) :
    (object kvs).loadsFailure (room + 1) = loadsFailure.itemsFailure room kvs := rfl

@[simp] lemma listFailure_cons (room : ℕ) (x : JsonValue) (xs : List JsonValue) :
    loadsFailure.listFailure room (x :: xs) =
      (x.loadsFailure room).or (loadsFailure.listFailure room xs) := rfl

@[simp] lemma itemsFailure_cons (room : ℕ) (k : String) (v : JsonValue)
    (kvs : List (String × JsonValue)) :
    loadsFailure.itemsFailure room ((k, v) :: kvs) =
      (v.loadsFailure room).or (loadsFailure.itemsFailure room kvs) := rfl

example : pyEq (int 1) (float 1) = true := by decide

example : pyEq (object [("a", int 1), ("b", null)]) (object [("b", null), ("a", bool true)]) =
    true := by decide

example : pyGt (array [int 1, str "b"]) (array [int 1, str "a"]) = some true := by decide

end JsonValue

end DiemJsonRpc
