import EntityGateway.Decimal.Shortest

/-!
# JSON values

A JSON number is read the way a 64-bit reader reads it: a non-negative integer below `2 ^ 64`, a
negative integer of at least `-2 ^ 63`, or else a binary64 float, which prints in its shortest
form (`Binary64.jsonText`). The integer constructors carry their ranges, and `Number.ofNat` and
`Number.ofInt` take a count or an integer into them as a 64-bit word holds it.

An object keeps its members sorted by key, each key once: `Json.Object.insert` puts a member in
its place and replaces an earlier value of the same key, so that the last one written wins.
-/

namespace EntityGateway

/-- A JSON number. Each integer constructor carries the range a 64-bit reader gives it. -/
inductive Number where
  /-- A non-negative integer below `2 ^ 64`. -/
  | nat (n : Nat) (lt : n < Nat.pow 2 64)
  /-- A negative integer of at least `-2 ^ 63`. -/
  | neg (n : Int) (ge : -(Nat.pow 2 63 : Int) ≤ n) (lt : n < 0)
  /-- Any other number, as a binary64. -/
  | float (x : Binary64)
  deriving DecidableEq, Repr

namespace Number

/-- The number as a 64-bit signed integer, if it is one. -/
def toInt64? : Number → Option Int
  | .nat n _ => if n < Nat.pow 2 63 then some n else none
  | .neg n _ _ => some n
  | .float _ => none

/-- The number as a 64-bit unsigned integer, if it is one. -/
def toUInt64? : Number → Option Nat
  | .nat n _ => some n
  | _ => none

/-- The number of a 64-bit unsigned word: a count is taken modulo `2 ^ 64`, as its word holds it. -/
def ofNat (n : Nat) : Number := .nat (n % Nat.pow 2 64) (Nat.mod_lt _ (Nat.two_pow_pos 64))

/-- An integer taken into 64 bits is, as a natural number, below `2 ^ 64`. -/
theorem bmod_toNat_lt (i : Int) : (i.bmod (Nat.pow 2 64)).toNat < Nat.pow 2 64 := by
  have hlt := @Int.bmod_lt i (Nat.pow 2 64) (Nat.two_pow_pos 64)
  have hword : Nat.pow 2 64 = 2 * Nat.pow 2 63 := rfl
  have hpos : 0 < Nat.pow 2 63 := Nat.two_pow_pos 63
  omega

/-- An integer taken into 64 bits is at least `-2 ^ 63`. -/
theorem neg_two_pow_le_bmod (i : Int) : -(Nat.pow 2 63 : Int) ≤ i.bmod (Nat.pow 2 64) := by
  have hle := @Int.le_bmod i (Nat.pow 2 64) (Nat.two_pow_pos 64)
  have hword : Nat.pow 2 64 = 2 * Nat.pow 2 63 := rfl
  omega

/-- The number of a 64-bit signed word: an integer is taken into `[-2 ^ 63, 2 ^ 63)` modulo
`2 ^ 64`, as its word holds it, and is `nat` when non-negative, `neg` otherwise. -/
def ofInt (i : Int) : Number :=
  if h : 0 ≤ i.bmod (Nat.pow 2 64) then .nat (i.bmod (Nat.pow 2 64)).toNat (bmod_toNat_lt i)
  else .neg (i.bmod (Nat.pow 2 64)) (neg_two_pow_le_bmod i) (Int.lt_of_not_ge h)

/-- The text of the number. -/
def text : Number → String
  | .nat n _ => toString n
  | .neg n _ _ => toString n
  | .float x => x.jsonText

end Number

/-- A JSON value. -/
inductive Json where
  | null
  | bool (b : Bool)
  | number (n : Number)
  | string (s : String)
  | array (items : List Json)
  /-- Members sorted by key, each key once. -/
  | object (members : List (String × Json))
  deriving Repr, Inhabited

namespace Json

/-- An integer as a JSON number. -/
def int (i : Int) : Json := .number (Number.ofInt i)

/-- A natural number as a JSON number. -/
def nat (n : Nat) : Json := .number (Number.ofNat n)

/-- Put a member into a sorted member list, replacing the value of an equal key. -/
def insertMember (k : String) (v : Json) : List (String × Json) → List (String × Json)
  | [] => [(k, v)]
  | (k', v') :: rest =>
    if k < k' then (k, v) :: (k', v') :: rest
    else if k = k' then (k, v) :: rest
    else (k', v') :: insertMember k v rest

/-- An object from members in any order; of two equal keys the later wins. -/
def obj (members : List (String × Json)) : Json :=
  .object (members.foldl (fun acc (k, v) => insertMember k v acc) [])

/-- An object from the members that are present. -/
def objOf (members : List (Option (String × Json))) : Json := obj (members.filterMap id)

/-- A list of texts as a JSON array. -/
def strings (xs : List String) : Json := .array (xs.map .string)

/-- The value of a member, for an object. -/
def get? (j : Json) (k : String) : Option Json :=
  match j with
  | .object members => members.lookup k
  | _ => none

/-- The value of a member, or `null`. -/
def getD (j : Json) (k : String) : Json := (j.get? k).getD .null

/-- The text of a string value. -/
def str? : Json → Option String
  | .string s => some s
  | _ => none

/-- The items of an array value. -/
def items? : Json → Option (List Json)
  | .array xs => some xs
  | _ => none

/-- The members of an object value. -/
def members? : Json → Option (List (String × Json))
  | .object ms => some ms
  | _ => none

/-- The value is `null`. -/
def isNull : Json → Bool
  | .null => true
  | _ => false

mutual

/-- Structural equality of JSON values; numbers compare by their reading. -/
def beq : Json → Json → Bool
  | .null, .null => true
  | .bool a, .bool b => a == b
  | .number a, .number b => a == b
  | .string a, .string b => a == b
  | .array xs, .array ys => beqList xs ys
  | .object xs, .object ys => beqMembers xs ys
  | _, _ => false

/-- Item-wise equality of two lists of values. -/
def beqList : List Json → List Json → Bool
  | [], [] => true
  | x :: xs, y :: ys => beq x y && beqList xs ys
  | _, _ => false

/-- Member-wise equality of two member lists. -/
def beqMembers : List (String × Json) → List (String × Json) → Bool
  | [], [] => true
  | (k, x) :: xs, (l, y) :: ys => k == l && beq x y && beqMembers xs ys
  | _, _ => false

end

instance : BEq Json := ⟨beq⟩

end Json

end EntityGateway
