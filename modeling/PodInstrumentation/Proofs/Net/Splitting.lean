import Mathlib.Data.List.Basic
import Mathlib.Data.List.TakeWhile
import PodInstrumentation.Net.Url
/-!
How a URL is taken apart that was put together from a user, a password, a host and a port. Each of
them comes out as it went in, if it has none of the characters that part it from the others. -/
namespace PodInstrumentation.Net

section Cut

variable {c : Char} {before after : List Char}

theorem unlike_of_notMem (free : c ∉ before) : ∀ x ∈ before, (x != c) = true :=
  fun _ hx => bne_iff_ne.mpr (ne_of_mem_of_not_mem hx free)

theorem cutFirst_of_notMem (free : c ∉ before) : cutFirst c before = (before, none) := by
  rw [cutFirst, List.dropWhile_eq_nil_iff.mpr (unlike_of_notMem free)]

theorem cutFirst_append (free : c ∉ before) :
    cutFirst c (before ++ c :: after) = (before, some after) := by
  have all := unlike_of_notMem free
  have stops : (c :: after).dropWhile (· != c) = c :: after ∧
      (c :: after).takeWhile (· != c) = [] := by simp
  rw [cutFirst, List.dropWhile_append_of_pos all, List.takeWhile_append_of_pos all, stops.1,
    stops.2, List.append_nil]

theorem cutLast_append (free : c ∉ after) :
    cutLast c (before ++ c :: after) = (some before, after) := by
  have turned : (before ++ c :: after).reverse = after.reverse ++ c :: before.reverse := by simp
  rw [cutLast, turned, cutFirst_append (by simpa using free)]
  simp

end Cut

def Plain (c : Char) : Prop :=
  0x20 < c.toNat ∧ c.toNat < 0x7F ∧ isAuthorityEnd c = false ∧ c ≠ '[' ∧ c ≠ ']'

instance (c : Char) : Decidable (Plain c) := inferInstanceAs (Decidable (_ ∧ _))

theorem clean_of_printable {cs : List Char} (printable : ∀ c ∈ cs, 0x20 < c.toNat) :
    clean cs = cs := by
  have kept : ∀ c ∈ cs, (c != '\t' && c != '\r' && c != '\n') = true := by
    intro c hc
    have above := printable c hc
    have unlike : ∀ d : Char, d.toNat ≤ 0x20 → (c != d) = true := by
      rintro d low
      refine bne_iff_ne.mpr ?_
      rintro rfl
      omega
    rw [unlike '\t' (by decide), unlike '\r' (by decide), unlike '\n' (by decide)]
    rfl
  have begins : cs.dropWhile (·.toNat ≤ 0x20) = cs := by
    cases cs with
    | nil => rfl
    | cons c r =>
      have above := printable c List.mem_cons_self
      exact List.dropWhile_cons_of_neg (by simpa using above)
  rw [clean, begins, List.filter_eq_self.mpr kept]

section Plain

variable {auth : List Char} (plain : ∀ c ∈ auth, Plain c)
include plain

theorem authority_plain : authority (clean ("http://".toList ++ auth)) = auth := by
  have start : "http://".toList.all (0x20 < ·.toNat) = true := by decide
  have printable : ∀ c ∈ "http://".toList ++ auth, 0x20 < c.toNat := List.forall_mem_append.mpr
    ⟨fun c hc => of_decide_eq_true (List.all_eq_true.mp start c hc), fun c hc => (plain c hc).1⟩
  have scheme : afterScheme ("http://".toList ++ auth) = '/' :: '/' :: auth := by
    have cut : cutFirst ':' ("http".toList ++ ':' :: ('/' :: '/' :: auth)) =
        ("http".toList, some ('/' :: '/' :: auth)) := cutFirst_append (by decide)
    have shape : "http://".toList ++ auth = "http".toList ++ ':' :: ('/' :: '/' :: auth) := rfl
    rw [afterScheme, shape, cut]
    rfl
  have open' : ∀ c ∈ auth, (!isAuthorityEnd c) = true := fun c hc => by
    rw [(plain c hc).2.2.1]
    rfl
  rw [clean_of_printable printable, authority, scheme]
  exact List.takeWhile_eq_self_iff.mpr open'

theorem bracketsOk_plain : bracketsOk auth = true := by
  have opening : auth.contains '[' = false := by
    simpa using fun there => (plain '[' there).2.2.2.1 rfl
  have closing : auth.contains ']' = false := by
    simpa using fun there => (plain ']' there).2.2.2.2 rfl
  rw [bracketsOk, opening, closing]

theorem isDisguised_plain : auth.any isDisguised = false := by
  refine List.any_eq_false.mpr fun c hc => ?_
  have low := (plain c hc).2.1
  simp only [isDisguised, disguisedDelimiters, List.contains_iff_mem, List.mem_cons,
    List.not_mem_nil, or_false]
  omega

theorem authorityOk_plain (inRange : portOk (portText auth) = true) : authorityOk auth = true := by
  rw [authorityOk, bracketsOk_plain plain, isDisguised_plain plain, inRange]
  rfl

end Plain

section Parts

variable (user password : List Char) {host port : List Char} (noUser : '@' ∉ host ++ ':' :: port)
include noUser

theorem hostPart_written :
    hostPart (user ++ ':' :: (password ++ '@' :: (host ++ ':' :: port))) = host ++ ':' :: port := by
  have shape : user ++ ':' :: (password ++ '@' :: (host ++ ':' :: port)) =
      (user ++ ':' :: password) ++ '@' :: (host ++ ':' :: port) := by simp
  rw [hostPart, shape, cutLast_append noUser]

theorem portText_written (open' : '[' ∉ host ++ ':' :: port) (named : ':' ∉ host) :
    portText (user ++ ':' :: (password ++ '@' :: (host ++ ':' :: port))) = port := by
  rw [portText, hostPart_written user password noUser, cutFirst_of_notMem open']
  simp only [cutFirst_append named, Option.getD_some]

theorem passwordText_written {user : List Char} (named : ':' ∉ user) :
    passwordText (user ++ ':' :: (password ++ '@' :: (host ++ ':' :: port))) = password := by
  have shape : user ++ ':' :: (password ++ '@' :: (host ++ ':' :: port)) =
      (user ++ ':' :: password) ++ '@' :: (host ++ ':' :: port) := by simp
  rw [passwordText, shape, cutLast_append noUser]
  simp only [cutFirst_append named, Option.getD_some]

end Parts

theorem isAsciiDigit_of_mem_toDigits {n : Nat} {c : Char} (h : c ∈ Nat.toDigits 10 n) :
    Text.isAsciiDigit c = true := Nat.isDigit_of_mem_toDigits (by decide) (by decide) h

theorem digitValue?_ascii {c : Char} (digit : Text.isAsciiDigit c = true) :
    Text.digitValue? c = some (c.toNat - 48) := by
  simp only [Text.isAsciiDigit, Bool.and_eq_true, decide_eq_true_eq] at digit
  have low : 0x30 ≤ c.toNat := digit.1
  have high : c.toNat ≤ 0x39 := digit.2
  have within : (fun z => decide (z ≤ c.toNat) && decide (c.toNat < z + 10)) 0x30 = true := by
    simp only [Bool.and_eq_true, decide_eq_true_eq]
    omega
  have first : (Text.zeros.find? fun z => z ≤ c.toNat && c.toNat < z + 10) = some 0x30 :=
    List.find?_cons_of_pos within
  rw [Text.digitValue?, first]
  rfl

theorem digitsValue_toDigits (n : Nat) : Text.digitsValue (Nat.toDigits 10 n) = n := by
  have value := Nat.ofDigitChars_ten_toDigits (n := n)
  rw [Nat.ofDigitChars_eq_foldl] at value
  refine Eq.trans (List.foldl_ext _ _ 0 fun m c hc => ?_) value
  rw [digitValue?_ascii (isAsciiDigit_of_mem_toDigits hc)]
  rfl

theorem portOk_toDigits {port : Nat} (small : port ≤ 65535) :
    portOk (Nat.toDigits 10 port) = true := by
  have digits : (Nat.toDigits 10 port).all Text.isAsciiDigit = true :=
    List.all_eq_true.mpr fun _ hc => isAsciiDigit_of_mem_toDigits hc
  rw [portOk, digits, digitsValue_toDigits, decide_eq_true small]
  simp

end PodInstrumentation.Net
