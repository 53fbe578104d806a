import PodInstrumentation.Config.Webhook
import PodInstrumentation.Proofs.Net.Splitting
import PodInstrumentation.Proofs.Text.Escaping
/-!
The ruling on a URL with a password. It depends on the password that is meant, and not on how the
URL spells it: escapes neither hide a forbidden character nor make a URL unreadable. -/
namespace PodInstrumentation.Config

open Net Text.Percent

def InName (c : Char) : Prop := c.isAlphanum = true ∨ c = '-' ∨ c = '_'

/-- A character that a password may have as it is: printable ASCII, not a blank, and none that parts
a URL or begins an escape. -/
def Literal (c : Char) : Prop :=
  0x20 < c.toNat ∧ c.toNat < 0x7F ∧ c ∉ ['/', '?', '#', '@', '[', ']', '%']

/-- The password has one of the characters that `eval` would not leave alone. -/
def Breaks (password : String) : Prop := '\'' ∈ password.toList ∨ '\x60' ∈ password.toList

instance (c : Char) : Decidable (InName c) := inferInstanceAs (Decidable (_ ∨ _))

instance (c : Char) : Decidable (Literal c) := inferInstanceAs (Decidable (_ ∧ _))

instance (password : String) : Decidable (Breaks password) :=
  inferInstanceAs (Decidable (_ ∨ _))

theorem ne_of_isAlphanum {c d : Char} (other : d.isAlphanum = false) (h : c.isAlphanum = true) :
    c ≠ d := by
  rintro rfl
  rw [other] at h
  cases h

theorem inName_of_all {cs : List Char} (all : cs.all (InName ·) = true) : ∀ c ∈ cs, InName c :=
  fun c hc => of_decide_eq_true (List.all_eq_true.mp all c hc)

theorem InName.ne {c d : Char} (h : InName c) (other : d.isAlphanum = false) (dash : d ≠ '-')
    (line : d ≠ '_') : c ≠ d := by
  rcases h with h | rfl | rfl
  · exact ne_of_isAlphanum other h
  · exact dash.symm
  · exact line.symm

theorem notMem_of_inName {cs : List Char} (named : ∀ c ∈ cs, InName c) {d : Char}
    (other : d.isAlphanum = false) (dash : d ≠ '-') (line : d ≠ '_') : d ∉ cs :=
  fun there => (named d there).ne other dash line rfl

theorem plain_of_isAlphanum {c : Char} (h : c.isAlphanum = true) : Plain c := by
  have range := isAlphanum_iff.mp h
  have inside : isAuthorityEnd c = false := by
    simp only [isAuthorityEnd, Bool.or_eq_false_iff, beq_eq_false_iff_ne]
    exact ⟨⟨ne_of_isAlphanum rfl h, ne_of_isAlphanum rfl h⟩, ne_of_isAlphanum rfl h⟩
  exact ⟨by omega, by omega, inside, ne_of_isAlphanum rfl h, ne_of_isAlphanum rfl h⟩

theorem InName.plain {c : Char} (h : InName c) : Plain c := by
  rcases h with h | rfl | rfl
  · exact plain_of_isAlphanum h
  · decide
  · decide

theorem Literal.plain {c : Char} (h : Literal c) : Plain c := by
  obtain ⟨above, below, other⟩ := h
  simp only [List.mem_cons, List.not_mem_nil, or_false, not_or] at other
  obtain ⟨slash, query, fragment, -, opening, closing, -⟩ := other
  have inside : isAuthorityEnd c = false := by simp [isAuthorityEnd, slash, query, fragment]
  exact ⟨above, below, inside, opening, closing⟩

theorem Literal.ascii {c : Char} (h : Literal c) : c ≠ '%' ∧ c.toNat < 0x80 := by
  obtain ⟨-, below, other⟩ := h
  refine ⟨?_, by omega⟩
  rintro rfl
  simp at other

theorem plain_of_spells {text cs : List Char} (h : Spells Literal text cs) :
    ∀ c ∈ cs, Plain c := by
  intro c hc
  rcases h.chars c hc with allowed | rfl | digit
  · exact allowed.plain
  · decide
  · exact plain_of_isAlphanum digit

theorem any_isForbidden (password : String) :
    password.toList.any isForbidden = decide (Breaks password) := by
  rw [Bool.eq_iff_iff, List.any_eq_true, decide_eq_true_iff]
  simp only [isForbidden, Bool.or_eq_true, beq_iff_eq, Breaks]
  constructor
  · rintro ⟨c, there, rfl | rfl⟩
    · exact .inl there
    · exact .inr there
  · rintro (there | there)
    · exact ⟨_, there, .inl rfl⟩
    · exact ⟨_, there, .inr rfl⟩

theorem proxyPassword?_of_authority {url : String} {auth : List Char}
    (cut : authority (clean url.toList) = auth) (readable : authorityOk auth = true) :
    proxyPassword? url = some (decode (passwordText auth)) := by
  subst cut
  exact if_pos readable

theorem proxyFault?_of_password {url : String} {password : List Char}
    (read : proxyPassword? url = some password) : proxyFault? url =
      if password.any isForbidden then some .forbiddenPassword else none := by
  delta proxyFault?
  rw [read]

section Written

variable {user host : List Char} {port : Nat} (userNamed : ∀ c ∈ user, InName c)
  (hostNamed : ∀ c ∈ host, InName c)

theorem plain_toDigits : ∀ c ∈ Nat.toDigits 10 port, Plain c := by
  intro c hc
  have digit : c.isDigit = true := isAsciiDigit_of_mem_toDigits hc
  exact plain_of_isAlphanum (by simp [Char.isAlphanum, digit])

include hostNamed

theorem notMem_hostPort {d : Char} (other : d.isAlphanum = false) (dash : d ≠ '-') (line : d ≠ '_')
    (colon : d ≠ ':') : d ∉ host ++ ':' :: Nat.toDigits 10 port := by
  intro there
  rcases List.mem_append.mp there with there | there
  · exact notMem_of_inName hostNamed other dash line there
  · rcases List.mem_cons.mp there with same | there
    · exact colon same
    · have digit : d.isDigit = true := isAsciiDigit_of_mem_toDigits there
      simp [Char.isAlphanum, digit] at other

include userNamed

theorem proxyPassword?_written {password spelling : List Char} {url : String}
    (spelled : Spells Literal password spelling) (inRange : port ≤ 65535)
    (written : url.toList = "http://".toList ++
      (user ++ ':' :: (spelling ++ '@' :: (host ++ ':' :: Nat.toDigits 10 port)))) :
    proxyPassword? url = some password := by
  have plain : ∀ c ∈ user ++ ':' :: (spelling ++ '@' :: (host ++ ':' :: Nat.toDigits 10 port)),
      Plain c := by
    simp only [List.forall_mem_append, List.forall_mem_cons]
    exact ⟨fun c hc => (userNamed c hc).plain, by decide, plain_of_spells spelled, by decide,
      fun c hc => (hostNamed c hc).plain, by decide, plain_toDigits⟩
  have noUser : '@' ∉ host ++ ':' :: Nat.toDigits 10 port :=
    notMem_hostPort hostNamed rfl (by decide) (by decide) (by decide)
  have noAddress : '[' ∉ host ++ ':' :: Nat.toDigits 10 port :=
    notMem_hostPort hostNamed rfl (by decide) (by decide) (by decide)
  have inPort : portOk (portText
      (user ++ ':' :: (spelling ++ '@' :: (host ++ ':' :: Nat.toDigits 10 port)))) = true := by
    rw [portText_written user spelling noUser noAddress
      (notMem_of_inName hostNamed rfl (by decide) (by decide))]
    exact portOk_toDigits inRange
  have cut : authority (clean url.toList) =
      user ++ ':' :: (spelling ++ '@' :: (host ++ ':' :: Nat.toDigits 10 port)) :=
    written ▸ authority_plain plain
  rw [proxyPassword?_of_authority cut (authorityOk_plain plain inPort),
    passwordText_written spelling noUser (notMem_of_inName userNamed rfl (by decide) (by decide)),
    decode_spells (fun _ => Literal.ascii) spelled]

end Written

/-- However the password is spelled, a proxy URL with a user, a host and a port is allowed exactly
if the password has no forbidden character, and otherwise it is refused for the password. -/
theorem ruling_by_password (user password spelling host : String) (port : Nat)
    (userNamed : ∀ c ∈ user.toList, InName c) (hostNamed : ∀ c ∈ host.toList, InName c)
    (inRange : port ≤ 65535) (spelled : Spells Literal password.toList spelling.toList) :
    proxyFault? s!"http://{user}:{spelling}@{host}:{port}" =
        (if Breaks password then some .forbiddenPassword else none) ∧
      ∀ invalidUrl forbiddenPassword,
        urlRuling s!"http://{user}:{spelling}@{host}:{port}" invalidUrl forbiddenPassword =
          if Breaks password then .refused forbiddenPassword else .allowed := by
  have written : (s!"http://{user}:{spelling}@{host}:{port}").toList = "http://".toList ++
      (user.toList ++ ':' :: (spelling.toList ++ '@' ::
        (host.toList ++ ':' :: Nat.toDigits 10 port))) := by
    simp only [String.toList_append, Nat.toString_eq_repr, Nat.toList_repr, List.append_assoc]
    rfl
  have fault : proxyFault? s!"http://{user}:{spelling}@{host}:{port}" =
      if Breaks password then some .forbiddenPassword else none := by
    rw [proxyFault?_of_password
      (proxyPassword?_written userNamed hostNamed spelled inRange written)]
    simp only [any_isForbidden, decide_eq_true_eq]
  refine ⟨fault, fun invalidUrl forbiddenPassword => ?_⟩
  delta urlRuling
  rw [fault]
  split_ifs <;> rfl

/-- `p'é:a`, with the apostrophe hidden in an escape. -/
theorem ruling_by_password_hidden :
    (∀ c ∈ "us_er".toList, InName c) ∧ (∀ c ∈ "proxy-1".toList, InName c) ∧ 3128 ≤ 65535 ∧
    Spells Literal "p'é:a".toList "p%27%C3%a9:a".toList ∧ Breaks "p'é:a" ∧
    proxyFault? "http://us_er:p%27%C3%a9:a@proxy-1:3128" = some .forbiddenPassword := by
  have userNamed : ∀ c ∈ "us_er".toList, InName c := inName_of_all (by decide)
  have hostNamed : ∀ c ∈ "proxy-1".toList, InName c := inName_of_all (by decide)
  have spelled : Spells Literal "p'é:a".toList "p%27%C3%a9:a".toList := by
    refine .plain ?_ (.escaped (e := ['%', '2', '7']) (.cons ?_ ?_ .nil)
      (.escaped (e := ['%', 'C', '3', '%', 'a', '9']) (.cons ?_ ?_ (.cons ?_ ?_ .nil))
        (.plain ?_ (.plain ?_ .nil)))) <;> decide
  have breaks : Breaks "p'é:a" := by decide
  have ruling := (ruling_by_password "us_er" "p'é:a" "p%27%C3%a9:a" "proxy-1" 3128 userNamed
    hostNamed (by decide) spelled).1
  rw [if_pos breaks] at ruling
  exact ⟨userNamed, hostNamed, by decide, spelled, breaks, ruling⟩

end PodInstrumentation.Config
