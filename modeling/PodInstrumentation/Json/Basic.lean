import PodInstrumentation.Number.Double
/-!
JSON values. An object keeps its members in order; integers are exact and apart from doubles, so
`1` and `1.0` are different values. -/
namespace PodInstrumentation

inductive Json where
  | null
  | bool (b : Bool)
  | int (n : Int)
  | float (x : Double)
  | str (s : String)
  | arr (items : List Json)
  | obj (fields : List (String × Json))
deriving Inhabited

abbrev Fields := List (String × Json)

namespace Json

mutual
def decEq : (a b : Json) → Decidable (a = b)
  | .null, b => match b with
    | .null => .isTrue rfl
    | .bool _ | .int _ | .float _ | .str _ | .arr _ | .obj _ => .isFalse nofun
  | .bool x, b => match b with
    | .bool y => if h : x = y then .isTrue (h ▸ rfl) else .isFalse fun e => h (by injection e)
    | .null | .int _ | .float _ | .str _ | .arr _ | .obj _ => .isFalse nofun
  | .int x, b => match b with
    | .int y => if h : x = y then .isTrue (h ▸ rfl) else .isFalse fun e => h (by injection e)
    | .null | .bool _ | .float _ | .str _ | .arr _ | .obj _ => .isFalse nofun
  | .float x, b => match b with
    | .float y => if h : x = y then .isTrue (h ▸ rfl) else .isFalse fun e => h (by injection e)
    | .null | .bool _ | .int _ | .str _ | .arr _ | .obj _ => .isFalse nofun
  | .str x, b => match b with
    | .str y => if h : x = y then .isTrue (h ▸ rfl) else .isFalse fun e => h (by injection e)
    | .null | .bool _ | .int _ | .float _ | .arr _ | .obj _ => .isFalse nofun
  | .arr xs, b => match b with
    | .arr ys => match decEqItems xs ys with
      | .isTrue h => .isTrue (h ▸ rfl)
      | .isFalse h => .isFalse fun e => h (by injection e)
    | .null | .bool _ | .int _ | .float _ | .str _ | .obj _ => .isFalse nofun
  | .obj xs, b => match b with
    | .obj ys => match decEqFields xs ys with
      | .isTrue h => .isTrue (h ▸ rfl)
      | .isFalse h => .isFalse fun e => h (by injection e)
    | .null | .bool _ | .int _ | .float _ | .str _ | .arr _ => .isFalse nofun

def decEqItems : (xs ys : List Json) → Decidable (xs = ys)
  | [], [] => .isTrue rfl
  | [], _ :: _ => .isFalse nofun
  | _ :: _, [] => .isFalse nofun
  | x :: xs, y :: ys => match decEq x y, decEqItems xs ys with
    | .isTrue h, .isTrue h' => .isTrue (h ▸ h' ▸ rfl)
    | .isFalse h, _ => .isFalse fun e => h (by injection e)
    | _, .isFalse h => .isFalse fun e => h (by injection e)

def decEqFields : (xs ys : Fields) → Decidable (xs = ys)
  | [], [] => .isTrue rfl
  | [], _ :: _ => .isFalse nofun
  | _ :: _, [] => .isFalse nofun
  | (k, x) :: xs, (l, y) :: ys =>
    if hk : k = l then match decEq x y, decEqFields xs ys with
      | .isTrue h, .isTrue h' => .isTrue (hk ▸ h ▸ h' ▸ rfl)
      | .isFalse h, _ => .isFalse fun e => h (by injection e with e _; injection e)
      | _, .isFalse h => .isFalse fun e => h (by injection e)
    else .isFalse fun e => hk (by injection e with e _; injection e)
end

instance : DecidableEq Json := decEq

/-- Holds something: neither null, false, zero nor empty. -/
def isSet : Json → Bool
  | .null => false
  | .bool b => b
  | .int n => n != 0
  | .float x => !x.isZero
  | .str s => s != ""
  | .arr xs => !xs.isEmpty
  | .obj fs => !fs.isEmpty

def orElse (a b : Json) : Json := if a.isSet then a else b

def empty : Json := .obj []

def text? : Json → Option String
  | .str s => some s
  | _ => none

def fields? : Json → Option Fields
  | .obj fs => some fs
  | _ => none

def items? : Json → Option (List Json)
  | .arr xs => some xs
  | _ => none

def get? (j : Json) (key : String) : Option Json :=
  match j with
  | .obj fs => fs.lookup key
  | _ => none

def get (j : Json) (key : String) : Json := (j.get? key).getD .null

/-- The items of a member, none if the member is missing or no list. -/
def itemsAt (j : Json) (key : String) : List Json := ((j.get key).items?).getD []

end Json

namespace Fields

/-- Sets the member under a key: in its place if there is one, else at the end. -/
def put (key : String) (value : Json) : Fields → Fields
  | [] => [(key, value)]
  | (k, v) :: r => if k = key then (k, value) :: r else (k, v) :: put key value r

def erase (key : String) (fs : Fields) : Fields := fs.filter (·.1 != key)

/-- Members in the order in which they were set, the last value of each key being kept. -/
def ofPairs (pairs : List (String × Json)) : Fields :=
  pairs.foldl (fun fs p => put p.1 p.2 fs) []

theorem lookup_put_self (key : String) (value : Json) (fs : Fields) :
    (put key value fs).lookup key = some value := by
  induction fs with
  | nil => simp [put]
  | cons f r ih =>
    obtain ⟨k, v⟩ := f
    by_cases h : k = key
    · simp [put, h]
    · have h' : (key == k) = false := by simpa using fun e => h e.symm
      simp [put, h, List.lookup_cons, h', ih]

theorem lookup_put_of_ne {key other : String} (h : other ≠ key) (value : Json) (fs : Fields) :
    (put key value fs).lookup other = fs.lookup other := by
  have h' : (other == key) = false := by simpa using h
  induction fs with
  | nil => simp [put, List.lookup_cons, h']
  | cons f r ih =>
    obtain ⟨k, v⟩ := f
    by_cases hk : k = key
    · subst hk
      simp [put, List.lookup_cons, h']
    · cases ho : other == k <;> simp [put, hk, List.lookup_cons, ho, ih]

end Fields

/-- A value was used as what it is not: a text as an object, a list without the entry asked for. -/
inductive Misshapen where
  | misshapen
deriving DecidableEq, Repr

abbrev Shaped (α : Type) := Except Misshapen α

def misfit {α : Type} : Shaped α := .error .misshapen

namespace Json

def field (j : Json) (key : String) : Shaped Json :=
  match j with
  | .obj fs => .ok ((fs.lookup key).getD .null)
  | _ => misfit

def member (j : Json) (key : String) : Shaped Json :=
  match j with
  | .obj fs => match fs.lookup key with
    | some v => .ok v
    | none => misfit
  | _ => misfit

/-- The member of an object, an empty object if nothing is set. -/
def part (j : Json) (key : String) : Shaped Json := do
  return (← j.field key).orElse empty

/-- What a value yields item by item: nothing if it is not set, the items of an array, the keys
of an object, the characters of a text. -/
def each (j : Json) : Shaped (List Json) :=
  if j.isSet then
    match j with
    | .arr xs => .ok xs
    | .obj fs => .ok (fs.map fun f => .str f.1)
    | .str s => .ok (s.toList.map fun c => .str (String.singleton c))
    | _ => misfit
  else .ok []

def asText (j : Json) : Shaped String :=
  match j with
  | .str s => .ok s
  | _ => misfit

end Json

end PodInstrumentation
