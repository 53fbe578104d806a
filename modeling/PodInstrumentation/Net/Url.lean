import PodInstrumentation.Text.Character
import PodInstrumentation.Text.Encoding
/-!
URLs. Percent escapes are read as bytes in runs of ASCII characters, and the bytes are UTF-8;
other characters stand for themselves, and so does an escape without two hexadecimal digits. What
may not be read in the authority, which is user information, host and port, makes the whole URL
unreadable. The password of a proxy is put through the `eval` of a shell, so it may hold neither
an apostrophe nor a backquote; encoding them does not help, since the password is looked at after
decoding. -/
namespace PodInstrumentation.Text.Percent

def isAscii (c : Char) : Bool := c.toNat < 0x80

def bytes : List Char → List UInt8
  | [] => []
  | [c] => [UInt8.ofNat c.toNat]
  | [c, d] => [UInt8.ofNat c.toNat, UInt8.ofNat d.toNat]
  | c :: a :: b :: r =>
    match c == '%', hexValue? a, hexValue? b with
    | true, some x, some y => UInt8.ofNat (16 * x + y) :: bytes r
    | _, _, _ => UInt8.ofNat c.toNat :: bytes (a :: b :: r)

def decodeRun (cs : List Char) : List Char :=
  if cs.all isAscii then Utf8.decodeReplacing (bytes cs) else cs

def decode (cs : List Char) : List Char :=
  (cs.splitBy fun a b => isAscii a == isAscii b).flatMap decodeRun

example : decode ['a', '%', '2', '7', '%', 'g', '1'] = ['a', '\'', '%', 'g', '1'] := by
  decide +kernel
example : decode ['é', '%', 'c', '3', '%', 'a', '9'] = ['é', 'é'] := by decide +kernel

end PodInstrumentation.Text.Percent

namespace PodInstrumentation.Net

def isOctet (cs : List Char) : Bool :=
  !cs.isEmpty && cs.all Text.isAsciiDigit && cs.length ≤ 3 && (cs == ['0'] || cs.head? != some '0')
    && Text.digitsValue cs ≤ 255

def isIpv4 (cs : List Char) : Bool :=
  let parts := cs.splitOn '.'
  parts.length == 4 && parts.all isOctet

def isGroup (cs : List Char) : Bool := !cs.isEmpty && cs.length ≤ 4 && cs.all Text.isHex

/-- Parts between the colons of an address. At most one part between the ends is empty, and it
stands for at least one group of zeros; an end may be empty only beside it. -/
def areGroups (parts : List (List Char)) : Bool :=
  let inner := (parts.drop 1).dropLast
  let head := parts.head?.getD []
  let last := parts.getLast?.getD []
  match inner.findIdx? List.isEmpty with
  | none => parts.length == 8 && parts.all isGroup
  | some i =>
    let high := parts.take (i + 1)
    let low := parts.drop (i + 2)
    let high := if head.isEmpty then high.drop 1 else high
    let low := if last.isEmpty then low.dropLast else low
    (inner.filter List.isEmpty).length == 1
      && (!head.isEmpty || high.isEmpty) && (!last.isEmpty || low.isEmpty)
      && high.length + low.length ≤ 7 && high.all isGroup && low.all isGroup

/-- The groups of an address, an IPv4 address at its end counting as two. -/
def isIpv6Body (cs : List Char) : Bool :=
  let parts := cs.splitOn ':'
  let last := parts.getLast?.getD []
  if parts.length < 3 then false
  else if last.contains '.' then
    isIpv4 last && parts.length + 1 ≤ 9 && areGroups (parts.dropLast ++ [['0'], ['0']])
  else parts.length ≤ 9 && areGroups parts

def isIpv6 (cs : List Char) : Bool :=
  let body := cs.takeWhile (· != '%')
  match cs.dropWhile (· != '%') with
  | [] => isIpv6Body body
  | _ :: zone => !zone.isEmpty && !zone.contains '%' && isIpv6Body body

/-- An address of a later version: `v`, hexadecimal digits, a point and something after it. -/
def isFutureAddress (cs : List Char) : Bool :=
  match cs with
  | 'v' :: r =>
    let version := r.takeWhile Text.isHex
    match r.dropWhile Text.isHex with
    | '.' :: _ :: _ => !version.isEmpty
    | _ => false
  | _ => false

def isBracketed (cs : List Char) : Bool :=
  if cs.head? == some 'v' then isFutureAddress cs else !cs.contains '/' && isIpv6 cs

example : isIpv6 "::1".toList = true := by decide +kernel
example : isIpv6 "1::2::3".toList = false := by decide +kernel
example : isIpv6 "::ffff:10.0.0.1%eth0".toList = true := by decide +kernel
example : isIpv6 ":1:2:3:4:5:6:7".toList = false := by decide +kernel

/-- Characters that a compatible normal form turns into one of the delimiters of an authority. -/
def disguisedDelimiters : List Nat := [
  0x2047, 0x2048, 0x2049, 0x2100, 0x2101, 0x2105, 0x2106, 0x2A74, 0xFE13, 0xFE16, 0xFE55,
  0xFE56, 0xFE5F, 0xFE6B, 0xFF03, 0xFF0F, 0xFF1A, 0xFF1F, 0xFF20]

def isDisguised (c : Char) : Bool := disguisedDelimiters.contains c.toNat

def cutFirst (c : Char) (cs : List Char) : List Char × Option (List Char) :=
  match cs.dropWhile (· != c) with
  | [] => (cs, none)
  | _ :: r => (cs.takeWhile (· != c), some r)

def cutLast (c : Char) (cs : List Char) : Option (List Char) × List Char :=
  match cutFirst c cs.reverse with
  | (_, none) => (none, cs)
  | (after, some before) => (some before.reverse, after.reverse)

/-- Control characters and blanks are no part of a URL at its head, line breaks and tabulators
nowhere. -/
def clean (cs : List Char) : List Char :=
  (cs.dropWhile (·.toNat ≤ 0x20)).filter fun c => c != '\t' && c != '\r' && c != '\n'

def isAsciiLetter (c : Char) : Bool := ('a' ≤ c && c ≤ 'z') || ('A' ≤ c && c ≤ 'Z')

def isSchemeChar (c : Char) : Bool :=
  isAsciiLetter c || Text.isAsciiDigit c || c == '+' || c == '.' || c == '-'

def afterScheme (cs : List Char) : List Char :=
  match cutFirst ':' cs with
  | (scheme, some r) =>
    if (scheme.head?.map isAsciiLetter).getD false && scheme.all isSchemeChar then r else cs
  | (_, none) => cs

def isAuthorityEnd (c : Char) : Bool := c == '/' || c == '?' || c == '#'

/-- The authority of a cleaned URL; empty if no two slashes stand before it. -/
def authority (cs : List Char) : List Char :=
  match afterScheme cs with
  | '/' :: '/' :: r => r.takeWhile (!isAuthorityEnd ·)
  | _ => []

def hostPart (auth : List Char) : List Char := (cutLast '@' auth).2

/-- Brackets stand in pairs and hold an address, with nothing before and only a port after it. -/
def bracketsOk (auth : List Char) : Bool :=
  match auth.contains '[', auth.contains ']' with
  | false, false => true
  | true, true =>
    let (before, bracketed) := cutFirst '[' (hostPart auth)
    match bracketed with
    | some r =>
      let (host, after) := cutFirst ']' r
      let after := after.getD []
      before.isEmpty && (after.isEmpty || after.head? == some ':') && isBracketed host
    | none => isBracketed (cutFirst ':' (hostPart auth)).1
  | _, _ => false

def portText (auth : List Char) : List Char :=
  match cutFirst '[' (hostPart auth) with
  | (_, some r) => (cutFirst ':' ((cutFirst ']' r).2.getD [])).2.getD []
  | (host, none) => (cutFirst ':' host).2.getD []

def portOk (port : List Char) : Bool :=
  port.isEmpty || (port.all Text.isAsciiDigit && Text.digitsValue port ≤ 65535)

def authorityOk (auth : List Char) : Bool :=
  bracketsOk auth && !auth.any isDisguised && portOk (portText auth)

def passwordText (auth : List Char) : List Char :=
  match (cutLast '@' auth).1 with
  | some user => (cutFirst ':' user).2.getD []
  | none => []

example : portText "u:p@h:80".toList = "80".toList := by decide +kernel
example : passwordText "u:p:q@x@h:80".toList = "p:q@x".toList := by decide +kernel

/-- A name or value of a query: `+` is a blank, and percent escapes are decoded. -/
def queryText (cs : List Char) : String :=
  String.ofList (Text.Percent.decode (cs.map fun c => if c == '+' then ' ' else c))

/-- Names and values in order; a name without a value has an empty one. -/
def queryPairs (query : List Char) : List (String × String) :=
  ((query.splitOn '&').filter (!·.isEmpty)).map fun pair =>
    let (name, value) := cutFirst '=' pair
    (queryText name, queryText (value.getD []))

structure Target where
  path : String
  query : List (String × String)
deriving DecidableEq

def Target.ofText (s : String) : Target :=
  let cs := s.toList.takeWhile (· != '#')
  let (path, query) := cutFirst '?' cs
  ⟨String.ofList (Text.Percent.decode path), queryPairs (query.getD [])⟩

example : Target.ofText "/inject?timeout=%31h&x" =
    ⟨"/inject", [("timeout", "1h"), ("x", "")]⟩ := by decide +kernel

/-- Whether `eval` gives a character a meaning that cannot be escaped. -/
def isForbidden (c : Char) : Bool := c == '\'' || c == '\x60'

def hasForbidden (s : String) : Bool := s.toList.any isForbidden

inductive ProxyFault where
  | unreadable
  | forbiddenPassword
deriving DecidableEq, Repr

def proxyPassword? (url : String) : Option (List Char) :=
  let auth := authority (clean url.toList)
  if authorityOk auth then some (Text.Percent.decode (passwordText auth)) else none

def proxyFault? (url : String) : Option ProxyFault :=
  match proxyPassword? url with
  | none => some .unreadable
  | some password => if password.any isForbidden then some .forbiddenPassword else none

example : proxyFault? "http://u:p%27@h:80" = some .forbiddenPassword := by decide +kernel
example : proxyFault? "http://u:p@h:x" = some .unreadable := by decide +kernel
example : proxyFault? "http://u:p@h:80" = none := by decide +kernel

end PodInstrumentation.Net
