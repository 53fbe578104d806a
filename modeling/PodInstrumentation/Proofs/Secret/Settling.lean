import PodInstrumentation.Cluster.Store
import PodInstrumentation.Proofs.Secret.Gathering
/-!
When a secret counts as ensured. It was found, or posted and created by somebody; but a conflict is
taken for the work of somebody else wherever it comes from, also from a secret that was only to be
read, and then nothing was posted. -/
namespace PodInstrumentation

/-- Whether an exchange shows that the secret is there: it was read, or it was posted and created by
somebody. -/
def Exchange.shows (ns name : String) : Exchange → Bool
  | ⟨.readSecret name' ns', .ok _⟩ => ns' == ns && name' == name
  | ⟨.createSecret m, .ok _⟩ => m.ns == ns && m.name == name
  | ⟨.createSecret m, .error f⟩ => m.ns == ns && m.name == name && f.isConflict
  | _ => false

namespace Demand

def Found (d : Demand) (t : List Exchange) : Prop :=
  ∃ e, t = [e] ∧ e.shows d.ns d.which.name = true

def Posted (d : Demand) (t : List Exchange) : Prop :=
  ∃ m a, t.getLast? = some ⟨.createSecret m, a⟩ ∧
    Exchange.shows d.ns d.which.name ⟨.createSecret m, a⟩ = true

/-- In the end a secret that this one is made from was refused with a conflict, and nothing was
posted. -/
def Misread (d : Demand) (t : List Exchange) : Prop :=
  ∃ looked reads name f, t = looked :: (reads ++ [d.sourceRefused name f]) ∧
    d.IsSource name ∧ f.isConflict = true ∧ ∀ e ∈ t, ∀ m, e.call ≠ .createSecret m

/-- The secret is there, or somebody is told that it could not be provided. -/
def Told (d : Demand) (r : Except Fault Unit) : Prop :=
  r = .ok () ∨ ∃ f, r = .error (.injection (.provisioning d.which.name d.ns (some (.failure f))))

/-- The secret was missing, and what it is made from could be read but not decoded. -/
def Garbled (d : Demand) (t : List Exchange) (e : Fault) : Prop :=
  ∃ f reads tokens proxy?, t = ⟨.readSecret d.which.name d.ns, .error f⟩ :: reads ∧
    f.isNotFound = true ∧ d.SourcesRead reads tokens proxy? ∧ d.decode tokens proxy? = .error e

section Outcomes

variable {d : Demand} {t : List Exchange} {r : Except Fault Unit}

theorem settle_eq_ok_iff {f : Failure} : d.settle f = .ok () ↔ f.isConflict = true := by
  unfold settle
  cases f.isConflict <;> simp

theorem posted_eq_ok_iff {data : List (String × String)} {a : Except Failure Unit} :
    d.posted a = .ok () ↔ Exchange.shows d.ns d.which.name
      ⟨.createSecret (Provisioner.manifest d.which d.ns data), a⟩ = true := by
  cases a with
  | ok v => simp [posted, Exchange.shows, Provisioner.manifest]
  | error f => simp [posted, settle_eq_ok_iff, Exchange.shows, Provisioner.manifest]

theorem getLast?_closed (first last : Exchange) (between : List Exchange) :
    (first :: (between ++ [last])).getLast? = some last :=
  List.getLast?_concat (l := first :: between)

theorem SourcesRead.getLast? {reads : List Exchange} {tokens : Secret} {proxy? : Option Secret}
    (h : d.SourcesRead reads tokens proxy?) (first : Exchange) :
    ∃ name secret, (first :: reads).getLast? = some (d.sourceRead name secret) := by
  cases h <;> exact ⟨_, _, rfl⟩

theorem Goes.accounted (h : d.Goes t r) (fine : r = .ok ()) :
    d.Found t ∨ d.Posted t ∨ d.Misread t := by
  cases h with
  | found => exact .inl ⟨_, rfl, by simp [Exchange.shows, look]⟩
  | lost | garbled => cases fine
  | @refused f g before name missing read source =>
    refine .inr (.inr ⟨_, before, name, g, rfl, source, settle_eq_ok_iff.mp fine, ?_⟩)
    intro e among m
    rcases List.mem_cons.mp among with rfl | among
    · exact nofun
    · rcases List.mem_append.mp among with early | late
      · obtain ⟨_, _, rfl⟩ := read e early
        exact nofun
      · rw [List.mem_singleton.mp late]
        exact nofun
  | made missing read decoded =>
    exact .inr (.inl ⟨_, _, getLast?_closed _ _ _, posted_eq_ok_iff.mp fine⟩)

theorem Goes.of_found (h : d.Goes t r) (found : d.Found t) : r = .ok () := by
  obtain ⟨e, is, shows⟩ := found
  cases h with
  | found => rfl
  | lost =>
    cases is
    cases shows
  | garbled missing read =>
    cases is
    cases read
  | refused | made => simp at is

theorem Goes.of_posted (h : d.Goes t r) (posted : d.Posted t) : r = .ok () := by
  obtain ⟨m, a, last, fine⟩ := posted
  cases h with
  | found => rfl
  | lost => cases last
  | refused =>
    rw [getLast?_closed] at last
    cases last
  | garbled missing read =>
    obtain ⟨_, _, other⟩ := read.getLast? _
    cases other.symm.trans last
  | made =>
    rw [getLast?_closed] at last
    cases last
    exact posted_eq_ok_iff.mpr fine

theorem Goes.of_misread (h : d.Goes t r) (misread : d.Misread t) : r = .ok () := by
  obtain ⟨looked, reads, name, f, rfl, -, conflict, -⟩ := misread
  have last := getLast?_closed looked (d.sourceRefused name f) reads
  generalize is : looked :: (reads ++ [d.sourceRefused name f]) = t at *
  cases h with
  | found => rfl
  | lost => cases reads <;> cases is
  | refused =>
    rw [getLast?_closed] at last
    cases last
    exact settle_eq_ok_iff.mpr conflict
  | garbled missing read =>
    obtain ⟨_, _, other⟩ := read.getLast? _
    cases other.symm.trans last
  | made =>
    rw [getLast?_closed] at last
    cases last

theorem told_giveUp {f : Failure} (known : f.isClusterError = true) :
    d.Told (.error (d.giveUp f)) := by
  rw [giveUp, if_pos known]
  exact .inr ⟨f, rfl⟩

theorem told_settle {f : Failure} (known : f.isClusterError = true) : d.Told (d.settle f) := by
  unfold settle
  split
  · exact .inl rfl
  · exact told_giveUp known

theorem told_posted {a : Except Failure Unit}
    (known : ∀ f, a = .error f → f.isClusterError = true) : d.Told (d.posted a) := by
  cases a with
  | ok v => exact .inl rfl
  | error f => exact told_settle (known f rfl)

theorem SourcesRead.unique {reads : List Exchange} {tokens tokens' : Secret}
    {proxy? proxy?' : Option Secret} (h : d.SourcesRead reads tokens proxy?)
    (h' : d.SourcesRead reads tokens' proxy?') : tokens' = tokens ∧ proxy?' = proxy? := by
  cases h with
  | tokens _ =>
    cases h' with
    | tokens _ => exact ⟨rfl, rfl⟩
  | both _ =>
    cases h' with
    | both _ => exact ⟨rfl, rfl⟩

theorem Goes.of_garbled (h : d.Goes t r) {e : Fault} (garbled : d.Garbled t e) :
    r = .error e := by
  obtain ⟨g, reads, tokens, proxy?, rfl, missing, read, bad⟩ := garbled
  obtain ⟨_, _, last⟩ := read.getLast? ⟨.readSecret d.which.name d.ns, .error g⟩
  generalize is : _ :: reads = t at *
  cases h with
  | found => cases is
  | lost => cases is; cases read
  | refused =>
    rw [getLast?_closed] at last
    cases last
  | garbled _ read' bad' =>
    cases is
    obtain ⟨rfl, rfl⟩ := read.unique read'
    rw [Except.error.inj (bad'.symm.trans bad)]
  | made =>
    rw [getLast?_closed] at last
    cases last

theorem Goes.told_or_garbled (h : d.Goes t r) (regular : ∀ e ∈ t, e.isRegular = true) :
    d.Told r ∨ ∃ e, d.Garbled t e := by
  cases h with
  | found => exact .inl (.inl rfl)
  | lost => exact .inl (told_giveUp (regular _ List.mem_cons_self))
  | @refused f g before name =>
    exact .inl (told_settle (regular (d.sourceRefused name g) (by simp)))
  | garbled missing read bad => exact .inr ⟨_, _, _, _, _, rfl, missing, read, bad⟩
  | @made f reads tokens proxy? token data a =>
    refine .inl (told_posted fun g failed => ?_)
    subst failed
    exact regular ⟨.createSecret (Provisioner.manifest d.which d.ns data), .error g⟩ (by simp)

theorem not_told_of_garbled {e : Fault} (bad : e.isDecoding = true) : ¬ d.Told (.error e) := by
  rintro (fine | ⟨f, failed⟩)
  · cases fine
  · rw [Except.error.inj failed] at bad
    cases bad

end Outcomes

/-- A secret counts as ensured exactly if it was found, if it was posted and created by somebody,
or if a conflict came from one of the secrets that it is made from. -/
theorem ensured_iff {σ : Type} (answer : σ → (c : ApiCall) → Except Failure c.Answer × σ) (s : σ)
    (d : Demand) : (d.talk.run answer s).1 = .ok () ↔ d.Found (d.talk.trace answer s) ∨
      d.Posted (d.talk.trace answer s) ∨ d.Misread (d.talk.trace answer s) := by
  have goes := ensure_goes (Interaction.transcript_trace answer d.talk s)
  constructor
  · exact goes.accounted
  · rintro (found | posted | misread)
    · exact goes.of_found found
    · exact goes.of_posted posted
    · exact goes.of_misread misread

def wanting : Demand := ⟨⟨"monitoring", "c1"⟩, plainConfig, "shop", .init⟩

def disputed : Store :=
  { Store.empty with secrets := [("monitoring/prod", .error (.status 409 (some "Conflict")))] }

/-- The secret counts as ensured although it was not created and nothing shows that it is there. -/
theorem unshown_disputed : (wanting.talk.run Store.answer disputed).1 = .ok () ∧
    (wanting.talk.trace Store.answer disputed).map (·.call) =
      [.readSecret Names.initSecret "shop", .readSecret "prod" "monitoring"] ∧
    ∀ e ∈ wanting.talk.trace Store.answer disputed, e.shows "shop" Names.initSecret = false := by
  decide +kernel

/-- As long as calls fail by the cluster only, a secret is ensured or somebody is told that it is
not, exactly if what it is made from could be decoded. Otherwise the fault of that comes out. -/
theorem told_iff_not_garbled {σ : Type}
    (answer : σ → (c : ApiCall) → Except Failure c.Answer × σ) (s : σ) (d : Demand)
    (regular : ∀ e ∈ d.talk.trace answer s, e.isRegular = true) :
    (d.Told (d.talk.run answer s).1 ↔ ¬ ∃ e, d.Garbled (d.talk.trace answer s) e) ∧
      ∀ e, d.Garbled (d.talk.trace answer s) e →
        (d.talk.run answer s).1 = .error e ∧ e.isDecoding = true := by
  have goes := ensure_goes (Interaction.transcript_trace answer d.talk s)
  have comesOut : ∀ e, d.Garbled (d.talk.trace answer s) e →
      (d.talk.run answer s).1 = .error e ∧ e.isDecoding = true := by
    intro e garbled
    obtain ⟨f, reads, tokens, proxy?, -, -, -, bad⟩ := id garbled
    exact ⟨goes.of_garbled garbled, decode_error bad⟩
  refine ⟨⟨?_, ?_⟩, comesOut⟩
  · rintro told ⟨e, garbled⟩
    obtain ⟨result, bad⟩ := comesOut e garbled
    rw [result] at told
    exact not_told_of_garbled bad told
  · intro fine
    exact (goes.told_or_garbled regular).resolve_right fine

def forbidding : Store :=
  { Store.empty with
    secrets := [("monitoring/prod", .ok ⟨[(Names.apiTokenKey, "YXBp")]⟩)]
    createErrors := [(Store.slot "shop" Names.initSecret, .status 403 (some "Forbidden"))] }

theorem told_forbidding : (∀ e ∈ wanting.talk.trace Store.answer forbidding, e.isRegular = true) ∧
    (wanting.talk.run Store.answer forbidding).1 = .error (.injection
      (.provisioning Names.initSecret "shop" (some (.failure (.status 403 (some "Forbidden")))))) ∧
    ¬ ∃ e, wanting.Garbled (wanting.talk.trace Store.answer forbidding) e := by
  have regular : ∀ e ∈ wanting.talk.trace Store.answer forbidding, e.isRegular = true := by
    decide +kernel
  have result : (wanting.talk.run Store.answer forbidding).1 = .error (.injection
      (.provisioning Names.initSecret "shop"
        (some (.failure (.status 403 (some "Forbidden")))))) := by decide +kernel
  have told := told_iff_not_garbled Store.answer forbidding wanting regular
  exact ⟨regular, result, told.1.mp (.inr ⟨_, result⟩)⟩

/-- The token is base64 of a byte that no text in UTF-8 begins with. -/
def spoilt : Store :=
  { Store.empty with secrets := [("monitoring/prod", .ok ⟨[(Names.apiTokenKey, "/w==")]⟩)] }

theorem untold_spoilt : (∀ e ∈ wanting.talk.trace Store.answer spoilt, e.isRegular = true) ∧
    ¬ wanting.Told (wanting.talk.run Store.answer spoilt).1 := by
  have result : (wanting.talk.run Store.answer spoilt).1 = .error .undecodable := by decide +kernel
  rw [result]
  exact ⟨by decide +kernel, not_told_of_garbled rfl⟩

end Demand

end PodInstrumentation
