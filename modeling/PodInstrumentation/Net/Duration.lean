import PodInstrumentation.Number.Double
import PodInstrumentation.Text.Character
/-!
Durations such as `1m30s`: parts in a row, each a decimal number and its unit. The digits may be
those of any script. A text may be read part by part, or searched for parts while the gaps between
them are minded. -/
namespace PodInstrumentation.Net

inductive TimeUnit where
  | hour | minute | second | millisecond
deriving DecidableEq, Repr

namespace TimeUnit

/-- The unit at the head; `ms` is milliseconds and not minutes. -/
def read : List Char → Option (TimeUnit × List Char)
  | 'h' :: r => some (hour, r)
  | 'm' :: 's' :: r => some (millisecond, r)
  | 'm' :: r => some (minute, r)
  | 's' :: r => some (second, r)
  | _ => none

def seconds : TimeUnit → Float
  | hour => 3600
  | minute => 60
  | second => 1
  | millisecond => 0.001

theorem read_shorter {cs r : List Char} {u : TimeUnit} (h : read cs = some (u, r)) :
    r.length < cs.length := by
  unfold read at h
  split at h
  · cases h; exact Nat.lt_succ_self _
  · cases h; exact Nat.lt_succ_of_lt (Nat.lt_succ_self _)
  · cases h; exact Nat.lt_succ_self _
  · cases h; exact Nat.lt_succ_self _
  · cases h

end TimeUnit

structure DurationPart where
  whole : List Char
  fraction : List Char
  unit : TimeUnit
deriving DecidableEq

/-- Digits after a point, if there are any; else the point stays where it is. -/
def readFraction : List Char → List Char × List Char
  | '.' :: r =>
    if (r.takeWhile Text.isDigit).isEmpty then ([], '.' :: r)
    else (r.takeWhile Text.isDigit, r.dropWhile Text.isDigit)
  | cs => ([], cs)

theorem dropWhile_length_le (p : Char → Bool) (cs : List Char) :
    (cs.dropWhile p).length ≤ cs.length :=
  (List.dropWhile_sublist p).length_le

theorem readFraction_le (cs : List Char) : (readFraction cs).2.length ≤ cs.length := by
  unfold readFraction
  split
  · rename_i r
    split
    · exact Nat.le_refl _
    · exact Nat.le_succ_of_le (dropWhile_length_le _ r)
  · exact Nat.le_refl _

namespace DurationPart

def read (cs : List Char) : Option (DurationPart × List Char) :=
  let whole := cs.takeWhile Text.isDigit
  let after := readFraction (cs.dropWhile Text.isDigit)
  if whole.isEmpty then none
  else (TimeUnit.read after.2).map fun u => (⟨whole, after.1, u.1⟩, u.2)

theorem read_shorter {cs rest : List Char} {p : DurationPart} (h : read cs = some (p, rest)) :
    rest.length < cs.length := by
  simp only [read] at h
  split at h
  · simp at h
  · obtain ⟨⟨unit, r⟩, hu, he⟩ := Option.map_eq_some_iff.1 h
    obtain ⟨-, rfl⟩ := Prod.mk.inj he
    have h1 := TimeUnit.read_shorter hu
    have h2 := readFraction_le (cs.dropWhile Text.isDigit)
    have h3 := dropWhile_length_le Text.isDigit cs
    simp only at h1 h2 h3 ⊢
    omega

def number (p : DurationPart) : Double :=
  Double.ofDecimal (Text.digitsValue (p.whole ++ p.fraction)) (-(p.fraction.length : Int))

def seconds (p : DurationPart) : Float := p.number.toFloat * p.unit.seconds

end DurationPart

def durationParts (cs : List Char) : Option (List DurationPart) :=
  match cs with
  | [] => some []
  | c :: r =>
    match _h : DurationPart.read (c :: r) with
    | none => none
    | some (p, rest) => (durationParts rest).map (p :: ·)
termination_by cs.length
decreasing_by exact DurationPart.read_shorter _h

/-- A part that was found, and the places in the text where it starts and ends. -/
structure Found where
  start : Nat
  stop : Nat
  part : DurationPart

/-- All parts in a text, from a place on: the search goes on behind each of them, and passes over
characters where none starts. -/
def search (place : Nat) (cs : List Char) : List Found :=
  match cs with
  | [] => []
  | c :: r =>
    match _h : DurationPart.read (c :: r) with
    | none => search (place + 1) r
    | some (p, rest) =>
      let stop := place + ((c :: r).length - rest.length)
      ⟨place, stop, p⟩ :: search stop rest
termination_by cs.length
decreasing_by
  · exact Nat.lt_succ_self _
  · exact DurationPart.read_shorter _h

/-- A turn of the scan: it gives up at a part that does not start where the one before ended. -/
def scanOne (so : Nat × List DurationPart) (found : Found) : Option (Nat × List DurationPart) :=
  if found.start = so.1 then some (found.stop, so.2 ++ [found.part]) else none

/-- Where the last part ends, and the parts on the way there. -/
def scan (cs : List Char) : Option (Nat × List DurationPart) :=
  (search 0 cs).foldlM scanOne (0, [])

def totalSeconds (parts : List DurationPart) : Float := parts.foldl (fun t p => t + p.seconds) 0

/-- The seconds of a duration: none if the text is no duration or the seconds are not positive. -/
def readDuration (s : String) : Option Double :=
  match durationParts s.toList with
  | none => none
  | some parts =>
    let total := totalSeconds parts
    if total > 0 then some (Double.ofFloat total) else none

end PodInstrumentation.Net
