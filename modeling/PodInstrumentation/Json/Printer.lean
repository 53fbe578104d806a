import PodInstrumentation.Json.Basic
import PodInstrumentation.Number.Format
import PodInstrumentation.Text.Character
import PodInstrumentation.Text.Printable
/-!
JSON text in one line: a blank after each comma and colon, and only printable ASCII characters,
all others being escaped. Messages show values otherwise: a text as it is, a text inside a list or
an object in quotes, and null, true and false by the words None, True and False. -/
namespace PodInstrumentation.Json

def unitEscape (n : Nat) : List Char := '\\' :: 'u' :: Text.hexDigits 4 n

def escapeChar (c : Char) : List Char :=
  if c = '"' then ['\\', '"']
  else if c = '\\' then ['\\', '\\']
  else if c = '\n' then ['\\', 'n']
  else if c = '\r' then ['\\', 'r']
  else if c = '\t' then ['\\', 't']
  else if c = '\x08' then ['\\', 'b']
  else if c = '\x0c' then ['\\', 'f']
  else if 0x20 ≤ c.toNat && c.toNat < 0x7F then [c]
  else if c.toNat < 0x10000 then unitEscape c.toNat
  else
    unitEscape (0xD800 + (c.toNat - 0x10000) / 0x400) ++
      unitEscape (0xDC00 + (c.toNat - 0x10000) % 0x400)

def quoted (s : String) : List Char := '"' :: (s.toList.flatMap escapeChar ++ ['"'])

def floatChars (x : Double) : List Char :=
  if x.isNaN then "NaN".toList
  else if x.isFinite then Number.finiteText x
  else if x.isNegative then "-Infinity".toList else "Infinity".toList

def intChars (n : Int) : List Char :=
  if n < 0 then '-' :: Number.digitChars n.natAbs else Number.digitChars n.natAbs

mutual
def chars : Json → List Char
  | .null => "null".toList
  | .bool true => "true".toList
  | .bool false => "false".toList
  | .int n => intChars n
  | .float x => floatChars x
  | .str s => quoted s
  | .arr xs => '[' :: (itemsChars xs ++ [']'])
  | .obj fs => '{' :: (fieldsChars fs ++ ['}'])

def itemsChars : List Json → List Char
  | [] => []
  | [x] => chars x
  | x :: xs => chars x ++ (',' :: ' ' :: itemsChars xs)

def fieldsChars : Fields → List Char
  | [] => []
  | [(k, v)] => quoted k ++ (':' :: ' ' :: chars v)
  | (k, v) :: fs => quoted k ++ (':' :: ' ' :: (chars v ++ (',' :: ' ' :: fieldsChars fs)))
end

def print (j : Json) : String := String.ofList j.chars

example : print (.obj [("a", .arr [.int (-1), .null]), ("é", .str "\n")]) =
    "\x7b\"a\": [-1, null], \"\\u00e9\": \"\\n\"\x7d" := by decide +kernel

def hiddenChar (c : Char) : List Char :=
  let n := c.toNat
  if n < 0x100 then '\\' :: 'x' :: Text.hexDigits 2 n
  else if n < 0x10000 then '\\' :: 'u' :: Text.hexDigits 4 n
  else '\\' :: 'U' :: Text.hexDigits 8 n

def shownChar (quote c : Char) : List Char :=
  if c = quote || c = '\\' then ['\\', c]
  else if c = '\n' then ['\\', 'n']
  else if c = '\r' then ['\\', 'r']
  else if c = '\t' then ['\\', 't']
  else if Text.isPrintable c then [c]
  else hiddenChar c

/-- A text in quotes: single ones, unless it holds a single quote and no double one. -/
def shownText (s : String) : List Char :=
  let cs := s.toList
  let quote := if cs.contains '\'' && !cs.contains '"' then '"' else '\''
  quote :: (cs.flatMap (shownChar quote) ++ [quote])

mutual
def shown : Json → List Char
  | .null => "None".toList
  | .bool true => "True".toList
  | .bool false => "False".toList
  | .int n => (toString n).toList
  | .float x => (Number.doubleText x).toList
  | .str s => shownText s
  | .arr xs => '[' :: (shownItems xs ++ [']'])
  | .obj fs => '{' :: (shownFields fs ++ ['}'])

def shownItems : List Json → List Char
  | [] => []
  | [x] => shown x
  | x :: xs => shown x ++ (',' :: ' ' :: shownItems xs)

def shownFields : Fields → List Char
  | [] => []
  | [(k, v)] => shownText k ++ (':' :: ' ' :: shown v)
  | (k, v) :: fs => shownText k ++ (':' :: ' ' :: (shown v ++ (',' :: ' ' :: shownFields fs)))
end

def display : Json → String
  | .str s => s
  | j => String.ofList j.shown

example : display .null = "None" := by decide +kernel
example : display (.arr [.str "it's", .bool true]) = "[\"it's\", True]" := by decide +kernel

end PodInstrumentation.Json
