import PodInstrumentation.Json.Printer
import PodInstrumentation.Number.Format
import PodInstrumentation.Telemetry.Directive
/-!
Filling in message templates. `%s` stands for an argument as messages show it, `%d` for a number
without its fraction, `%.2f` for one with two digits of it, and so on. -/
namespace PodInstrumentation.Template

inductive Error where
  | misshapen
  | outOfRange
  | notANumber
  | incomplete
  | incompleteKey
  | widthTooBig
  | precisionTooBig
  | unknown (conversion : Char) (index : Nat)
deriving DecidableEq, Repr

def Error.message? : Error → Option String
  | misshapen | outOfRange => none
  | notANumber => some "cannot convert float NaN to integer"
  | incomplete => some "incomplete format"
  | incompleteKey => some "incomplete format key"
  | widthTooBig => some "width too big"
  | precisionTooBig => some "precision too big"
  | unknown c i =>
    let n := c.toNat
    let shown := if 31 ≤ n && n ≤ 126 then c else '?'
    let hex := String.ofList (Nat.toDigits 16 n)
    some s!"unsupported format character '{shown}' (0x{hex}) at index {i}"

/-- An argument as it is written before it is made as wide as it should be. -/
structure Written where
  numeric : Bool
  negative : Bool
  mark : List Char
  body : List Char
deriving DecidableEq, Repr

def Written.ofText (precision : Option Nat) (cs : List Char) : Written :=
  ⟨false, false, [], match precision with
    | some n => cs.take n
    | none => cs⟩

def wholeNumber : Json → Except Error Int
  | .int n => .ok n
  | .bool b => .ok b.toInt
  | .float x => match x.truncated? with
    | some n => .ok n
    | none => .error (if x.isNaN then .notANumber else .outOfRange)
  | _ => .error .misshapen

/-- A number that has no fraction to be left out. -/
def exactNumber : Json → Except Error Int
  | .int n => .ok n
  | .bool b => .ok b.toInt
  | _ => .error .misshapen

def realOfInt (n : Int) : Except Error Double :=
  let x := Double.ofDecimal n.natAbs 0
  if x.isFinite then .ok (if n < 0 then x.neg else x) else .error .outOfRange

def realNumber : Json → Except Error Double
  | .float x => .ok x
  | .int n => realOfInt n
  | .bool b => realOfInt b.toInt
  | _ => .error .misshapen

def character : Json → Except Error Char
  | .str s => match s.toList with
    | [c] => .ok c
    | _ => .error .misshapen
  | j => do
    let n ← exactNumber j
    if 0 ≤ n && n < 0x110000 then .ok (Char.ofNat n.toNat) else .error .outOfRange

def Written.ofInt (base : Nat) (mark : List Char) (precision : Option Nat) (n : Int) : Written :=
  ⟨true, n < 0, mark, Number.zeroPad (precision.getD 0) (Nat.toDigits base n.natAbs)⟩

def Written.ofReal (form : Number.RealForm) (kept : Bool) (precision : Option Nat) (x : Double) :
    Written :=
  ⟨true, x.isNegative && !x.isNaN, [], Number.sizeText x (precision.getD 6) kept form⟩

def Written.upper (w : Written) : Written :=
  { w with mark := w.mark.map Char.toUpper, body := w.body.map Char.toUpper }

def convert (d : Directive) (precision : Option Nat) (c : Char) (j : Json) :
    Except Error Written :=
  let alternate := d.flags.contains '#'
  let inBase (base : Nat) (mark : Char) :=
    (exactNumber j).map (.ofInt base (if alternate then ['0', mark] else []) precision)
  let real (form : Number.RealForm) := (realNumber j).map (.ofReal form alternate precision)
  match c with
  | 's' => .ok (.ofText precision j.display.toList)
  | 'r' => .ok (.ofText precision j.shown)
  | 'a' => .ok (.ofText precision
      (j.shown.flatMap fun c => if c.toNat < 128 then [c] else Json.hiddenChar c))
  | 'c' => (character j).map fun c => .ofText none [c]
  | 'd' | 'i' | 'u' => (wholeNumber j).map (.ofInt 10 [] precision)
  | 'o' => inBase 8 'o'
  | 'x' => inBase 16 'x'
  | 'X' => (inBase 16 'x').map .upper
  | 'e' => real .scientific
  | 'E' => (real .scientific).map .upper
  | 'f' => real .fixed
  | 'F' => (real .fixed).map .upper
  | 'g' => real .general
  | 'G' => (real .general).map .upper
  | _ => .error (.unknown c d.index)

/-- Blanks fill an argument up to its width, at its left side unless the other is asked for; a
number may be filled up with zeros after its sign. -/
def Written.fit (w : Written) (flags : List Char) (width : Int) : List Char :=
  let sign :=
    if !w.numeric then []
    else if w.negative then ['-']
    else if flags.contains '+' then ['+']
    else if flags.contains ' ' then [' ']
    else []
  let front := sign ++ w.mark
  let missing := width.natAbs - (front.length + w.body.length)
  if width < 0 || flags.contains '-' then front ++ w.body ++ List.replicate missing ' '
  else if w.numeric && flags.contains '0' then front ++ List.replicate missing '0' ++ w.body
  else List.replicate missing ' ' ++ front ++ w.body

/- Directives take their arguments one after the other. Those with a key choose among the members
of an object that is the only argument. -/

structure Supply where
  members : Option Fields
  rest : List Json

/-- An object without members is an argument like others. -/
def Supply.ofArguments : List Json → Supply
  | [.obj (f :: fs)] => ⟨some (f :: fs), [.obj (f :: fs)]⟩
  | args => ⟨none, args⟩

abbrev Filling := StateT Supply (Except Error)

def next : Filling Json := do
  match ← get with
  | ⟨_, []⟩ => throw .misshapen
  | ⟨members, a :: rest⟩ =>
    set (⟨members, rest⟩ : Supply)
    return a

def choose (key : Key) : Filling Unit := do
  match key, (← get).members with
  | .absent, _ => return
  | _, none => throw .misshapen
  | .unclosed, some _ => throw .incompleteKey
  | .named name, some fs => match fs.lookup name with
    | none => throw .misshapen
    | some value => set (⟨some fs, [value]⟩ : Supply)

def resolve (limit : Nat) (tooBig : Error) : Extent → Filling (Option Int)
  | .absent => return none
  | .given n => if n ≤ limit then return some n else throw tooBig
  | .nextArgument => do
    let n ← exactNumber (← next)
    if n.natAbs ≤ limit then return some n else throw .outOfRange

def fillDirective (d : Directive) : Filling (List Char) := do
  choose d.key
  let width ← resolve 0x7FFFFFFFFFFFFFFF .widthTooBig d.width
  let precision ← resolve 0x7FFFFFFF .precisionTooBig d.precision
  match d.conversion with
  | none => throw .incomplete
  | some c => do
    let w ← convert d (precision.map Int.toNat) c (← next)
    return w.fit d.flags (width.getD 0)

def fillPiece : Piece → Filling (List Char)
  | .literal c => return [c]
  | .directive d => fillDirective d

/-- A template without arguments is a text as it stands. All arguments must be used, but of an
object not all members. -/
def fill (template : String) (args : List Json) : Except Error String :=
  if args.isEmpty then .ok template
  else do
    let cs := template.toList
    let (texts, s) ← ((pieces cs.length cs).mapM fillPiece).run (.ofArguments args)
    if s.members.isNone && !s.rest.isEmpty then throw .misshapen
    return String.ofList texts.flatten

example : fill "100%" [] = .ok "100%" := by cbv
example : fill "%d%%" [.int 5] = .ok "5%" := by cbv
example : fill "%s" [.int 1, .int 2] = .error .misshapen := by cbv
example : fill "%(a)3d" [.obj [("a", .int (-7))]] = .ok " -7" := by cbv

end PodInstrumentation.Template
