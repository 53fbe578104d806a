import PodInstrumentation.Json.Basic
import PodInstrumentation.Text.Case
/-!
Checking a document field by field. All fields are checked, so a refusal lists every issue, in
the order in which the fields are declared. -/
namespace PodInstrumentation.Config

inductive Step where
  | key (name : String)
  | index (i : Nat)
deriving DecidableEq, Repr

inductive IssueKind where
  | missing
  | textExpected
  | boolExpected
  | boolUnreadable
  | objectExpected
  | listExpected
  | modelExpected
  | integerUnreadable
  | integerTooLong
  | numberUnreadable
  | notGreater
  | tooSmall
  | tooLarge
  | rule (text : String)
deriving DecidableEq, Repr

def IssueKind.code : IssueKind → String
  | missing => "missing"
  | textExpected => "string_type"
  | boolExpected => "bool_type"
  | boolUnreadable => "bool_parsing"
  | objectExpected => "dict_type"
  | listExpected => "list_type"
  | modelExpected => "model_type"
  | integerUnreadable => "int_parsing"
  | integerTooLong => "int_parsing_size"
  | numberUnreadable => "float_parsing"
  | notGreater => "greater_than"
  | tooSmall => "greater_than_equal"
  | tooLarge => "less_than_equal"
  | rule _ => "value_error"

structure Issue where
  kind : IssueKind
  place : List Step
deriving DecidableEq, Repr

def Issue.message? (i : Issue) : Option String :=
  match i.kind with
  | .rule text => some s!"Value error, {text}"
  | _ => none

/-- A value, or all issues that stand against it. -/
inductive Checked (α : Type) where
  | valid (a : α)
  | invalid (issues : List Issue)
deriving DecidableEq

namespace Checked

variable {α β : Type}

def map (f : α → β) : Checked α → Checked β
  | valid a => valid (f a)
  | invalid issues => invalid issues

/-- The issues of both sides are kept. -/
def seq : Checked (α → β) → Checked α → Checked β
  | valid f, valid a => valid (f a)
  | valid _, invalid issues => invalid issues
  | invalid issues, valid _ => invalid issues
  | invalid issues, invalid more => invalid (issues ++ more)

instance : Applicative Checked where
  pure := valid
  map := map
  seq f x := seq f (x ())

/-- A check that needs the value of the one before. -/
def andThen : Checked α → (α → Checked β) → Checked β
  | valid a, f => f a
  | invalid issues, _ => invalid issues

def issue (kind : IssueKind) : Checked α := invalid [⟨kind, []⟩]

def within (step : Step) : Checked α → Checked α
  | valid a => valid a
  | invalid issues => invalid (issues.map fun i => { i with place := step :: i.place })

def each (check : α → Checked β) : List (Step × α) → Checked (List β)
  | [] => valid []
  | (s, a) :: r => List.cons <$> (check a).within s <*> each check r

end Checked

def text : Json → Checked String
  | .str s => .valid s
  | _ => .issue .textExpected

def object : Json → Checked Fields
  | .obj fs => .valid fs
  | _ => .issue .objectExpected

def list : Json → Checked (List Json)
  | .arr xs => .valid xs
  | _ => .issue .listExpected

def model : Json → Checked Fields
  | .obj fs => .valid fs
  | _ => .issue .modelExpected

def nullable {α : Type} (check : Json → Checked α) : Json → Checked (Option α)
  | .null => .valid none
  | j => some <$> check j

def boolWord? (s : String) : Option Bool :=
  let w := Text.asciiLower s
  if ["1", "on", "t", "true", "y", "yes"].contains w then some true
  else if ["0", "off", "f", "false", "n", "no"].contains w then some false
  else none

def boolOfInt (n : Int) : Checked Bool :=
  if n = 0 then .valid false
  else if n = 1 then .valid true
  else if -0x8000000000000000 ≤ n && n < 0x8000000000000000 then .issue .boolUnreadable
  else .issue .boolExpected

/-- A boolean, one of the numbers zero and one, or a word for yes or no. -/
def bool : Json → Checked Bool
  | .bool b => .valid b
  | .int n => boolOfInt n
  | .float x => match x.integer? with
    | some n => boolOfInt n
    | none => .issue .boolExpected
  | .str s => match boolWord? s with
    | some b => .valid b
    | none => .issue .boolUnreadable
  | _ => .issue .boolExpected

/- Fields of a model, each known by the name it has in documents and one it has in programs; of
the two the first counts when both are given. -/

def find (fs : Fields) (outer inner : String) : Option (String × Json) :=
  ((fs.lookup outer).map (outer, ·)).orElse fun _ => (fs.lookup inner).map (inner, ·)

def required {α : Type} (fs : Fields) (outer inner : String) (check : Json → Checked α) :
    Checked α :=
  match find fs outer inner with
  | some (key, j) => (check j).within (.key key)
  | none => (Checked.issue .missing).within (.key outer)

def optional {α : Type} (fs : Fields) (outer inner : String) (absent : α)
    (check : Json → Checked α) : Checked α :=
  match find fs outer inner with
  | some (key, j) => (check j).within (.key key)
  | none => .valid absent

end PodInstrumentation.Config
