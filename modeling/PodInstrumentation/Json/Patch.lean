import PodInstrumentation.Json.Printer
/-!
JSON patches: lists of operations at paths. `difference` turns one document into another,
`apply` runs a patch on a document. Members that hold null count as absent in a comparison of
two documents, so both are stripped of them before. -/
namespace PodInstrumentation

abbrev Pointer := List String

inductive Operation where
  | add (path : Pointer) (value : Json)
  | replace (path : Pointer) (value : Json)
  | remove (path : Pointer)
deriving DecidableEq

abbrev Patch := List Operation

namespace Pointer

def escapeChar (c : Char) : List Char :=
  if c = '~' then ['~', '0'] else if c = '/' then ['~', '1'] else [c]

def escape (key : String) : List Char := key.toList.flatMap escapeChar

def text (p : Pointer) : String := String.ofList (p.flatMap fun key => '/' :: escape key)

/-- The index that a segment writes: ASCII digits without a leading zero. -/
def index? (segment : String) : Option Nat :=
  let cs := segment.toList
  if cs.all Char.isDigit && !cs.isEmpty && (cs.length == 1 || cs.head? != some '0') then
    some (cs.foldl (fun n c => 10 * n + (c.toNat - 48)) 0)
  else none

end Pointer

namespace Json

mutual
/-- The value without the members that hold null, at every depth; nulls in arrays stay. -/
def stripNulls : Json → Json
  | .arr xs => .arr (stripItems xs)
  | .obj fs => .obj (stripFields fs)
  | j => j

def stripItems : List Json → List Json
  | [] => []
  | x :: xs => stripNulls x :: stripItems xs

def stripFields : Fields → Fields
  | [] => []
  | (_, .null) :: fs => stripFields fs
  | (k, v) :: fs => (k, stripNulls v) :: stripFields fs
end

end Json

namespace Operation

def path : Operation → Pointer
  | add p _ | replace p _ | remove p => p

/-- The operation on the member or item `key` of a larger document. -/
def under (key : String) : Operation → Operation
  | add p v => add (key :: p) v
  | replace p v => replace (key :: p) v
  | remove p => remove (key :: p)

def name : Operation → String
  | add .. => "add"
  | replace .. => "replace"
  | remove .. => "remove"

def fields : Operation → Fields
  | add p v => [("op", .str "add"), ("path", .str (Pointer.text p)), ("value", v)]
  | replace p v => [("op", .str "replace"), ("path", .str (Pointer.text p)), ("value", v)]
  | remove p => [("op", .str "remove"), ("path", .str (Pointer.text p))]

end Operation

namespace Patch

def indexKey (i : Nat) : String := toString i

/-- Additions at the end of an array that has `i` items already. -/
def extend : (i : Nat) → List Json → Patch
  | _, [] => []
  | i, y :: ys => .add [indexKey i] y :: extend (i + 1) ys

/-- Additions of the members of `new` whose keys `old` lacks. -/
def newMembers (old new : Fields) : Patch :=
  new.filterMap fun f => if (old.lookup f.1).isNone then some (.add [f.1] f.2) else none

mutual
def difference : (old new : Json) → Patch
  | .obj fs, .obj gs => memberDifference gs fs ++ newMembers fs gs
  | .arr xs, .arr ys => itemDifference 0 xs ys
  | old, new => if old = new then [] else [.replace [] new]

/-- Changes and removals of the members listed, by what `new` holds under their keys. -/
def memberDifference (new : Fields) : (old : Fields) → Patch
  | [] => []
  | (k, v) :: fs =>
    (match new.lookup k with
      | some w => (difference v w).map (.under k)
      | none => [.remove [k]]) ++ memberDifference new fs

/-- Changes of the items from index `i` on, then additions or removals at the end. -/
def itemDifference : (i : Nat) → (old new : List Json) → Patch
  | i, [], ys => extend i ys
  | i, x :: xs, [] => List.replicate (x :: xs).length (.remove [indexKey i])
  | i, x :: xs, y :: ys =>
    (difference x y).map (.under (indexKey i)) ++ itemDifference (i + 1) xs ys
end

/-- The patch between two documents as they count in a comparison. -/
def between (old new : Json) : Patch := difference old.stripNulls new.stripNulls

/-- Runs one operation; none if its path does not lead where it can be run. -/
def applyOne : Operation → Json → Option Json
  | .add [] v, _ => some v
  | .replace [] v, _ => some v
  | .remove [], _ => none
  | .add [k] v, .obj fs => some (.obj (Fields.put k v fs))
  | .replace [k] v, .obj fs =>
    if (fs.lookup k).isSome then some (.obj (Fields.put k v fs)) else none
  | .remove [k], .obj fs => if (fs.lookup k).isSome then some (.obj (Fields.erase k fs)) else none
  | .add [k] v, .arr xs =>
    if k = "-" then some (.arr (xs ++ [v]))
    else (Pointer.index? k).bind fun i =>
      if i ≤ xs.length then some (.arr (xs.insertIdx i v)) else none
  | .replace [k] v, .arr xs => (Pointer.index? k).bind fun i =>
    if i < xs.length then some (.arr (xs.set i v)) else none
  | .remove [k], .arr xs => (Pointer.index? k).bind fun i =>
    if i < xs.length then some (.arr (xs.eraseIdx i)) else none
  | .add (k :: p) v, j => descend k (applyOne (.add p v)) j
  | .replace (k :: p) v, j => descend k (applyOne (.replace p v)) j
  | .remove (k :: p), j => descend k (applyOne (.remove p)) j
where
  /-- Changes the member or item under a key that is there. -/
  descend (k : String) (change : Json → Option Json) : Json → Option Json
    | .obj fs => (fs.lookup k).bind fun v => (change v).map fun w => .obj (Fields.put k w fs)
    | .arr xs => (Pointer.index? k).bind fun i => xs[i]?.bind fun v =>
      (change v).map fun w => .arr (xs.set i w)
    | _ => none

def apply (patch : Patch) (doc : Json) : Option Json := patch.foldlM (fun d op => applyOne op d) doc

end Patch

end PodInstrumentation
