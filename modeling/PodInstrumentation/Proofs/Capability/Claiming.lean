import PodInstrumentation.Capability.Registry
/-!
Which declarations a registry takes. It keeps exactly the claims that it took so far, and one claim
after the other is held against them; so declarations are taken if no two owners want one name, in
whatever order their names come. -/
namespace PodInstrumentation

def Declaration.Claims (d : Declaration) (kind name : String) : Prop :=
  kind = Registry.varKind ∧ name ∈ d.vars ∨ kind = Registry.volumeKind ∧ name ∈ d.volumes

namespace Registry

def OfCore (kind name : String) : Prop :=
  kind = varKind ∧ name ∈ coreVars ∨ kind = volumeKind ∧ name ∈ coreVolumes

/-- A variable named like those that describe containers. -/
def Reserved (kind name : String) : Prop :=
  kind = varKind ∧ Names.containerVarStart.toList <+: name.toList

structure Peaceful (ds : List Declaration) : Prop where
  core : ∀ d ∈ ds, d.name ≠ Names.core → ∀ kind name, d.Claims kind name →
    ¬ OfCore kind name ∧ ¬ Reserved kind name
  shared : ∀ d ∈ ds, ∀ e ∈ ds, ∀ kind name, d.Claims kind name → e.Claims kind name →
    d.name = e.name

def Owned (ds : List Declaration) (kind name owner : String) : Prop :=
  OfCore kind name ∧ owner = Names.core ∨ ∃ d ∈ ds, d.Claims kind name ∧ d.name = owner

section Claim

variable {r : Registry} {known : String → String → String → Prop}

def Records (r : Registry) (known : String → String → String → Prop) : Prop :=
  ∀ kind name owner, r.owner? kind name = some owner ↔ known kind name owner

/-- The name belongs to somebody other than who claims it. -/
def Clash (known : String → String → String → Prop) (kind name claimant owner : String) : Prop :=
  owner ≠ claimant ∧ (known kind name owner ∨ Reserved kind name ∧ owner = Names.core)

def With (known : String → String → String → Prop) (new : String → String → Prop)
    (claimant kind name owner : String) : Prop :=
  known kind name owner ∨ new kind name ∧ owner = claimant

inductive Settles (known : String → String → String → Prop) (new : String → String → Prop)
    (claimant : String) : Except InjectionError Registry → Prop
  | taken {r : Registry} (records : Records r (With known new claimant))
      (free : ∀ kind name, new kind name → ∀ owner, ¬ Clash known kind name claimant owner) :
      Settles known new claimant (.ok r)
  | refused {kind name owner : String} (wanted : new kind name)
      (clash : Clash known kind name claimant owner) :
      Settles known new claimant (.error (.nameCollision kind name owner claimant))

theorem isReserved_iff {kind name claimant : String} : isReserved kind name claimant = true ↔
    Reserved kind name ∧ claimant ≠ Names.core := by
  simp [isReserved, Reserved, and_right_comm]

theorem owner?_cons (kind name owner : String) (r : Registry) (kind' name' : String) :
    owner? (((kind, name), owner) :: r) kind' name' =
      if kind' = kind ∧ name' = name then some owner else r.owner? kind' name' := by
  unfold owner?
  by_cases same : kind' = kind ∧ name' = name
  · obtain ⟨rfl, rfl⟩ := same
    simp
  · have other : ((kind', name') == (kind, name)) = false := by
      simpa using fun first second => same ⟨first, second⟩
    rw [if_neg same, List.lookup_cons, other]

theorem Records.of_some {kind name owner other : String} (h : Records r known)
    (found : r.owner? kind name = some owner) (there : known kind name other) : other = owner :=
  Option.some.inj (((h kind name other).mpr there).symm.trans found)

theorem claimOne_settles (h : Records r known) (kind name claimant : String) :
    Settles known (fun k n => k = kind ∧ n = name) claimant (r.claimOne kind name claimant) := by
  unfold claimOne
  split
  · rename_i reserved
    obtain ⟨reserved, other⟩ := isReserved_iff.mp reserved
    exact .refused ⟨rfl, rfl⟩ ⟨other.symm, .inr ⟨reserved, rfl⟩⟩
  rename_i open'
  -- once the name is not kept for the core, only a recorded owner can clash
  have free : (∀ owner, known kind name owner → owner = claimant) →
      ∀ k n, k = kind ∧ n = name → ∀ owner, ¬ Clash known k n claimant owner := by
    rintro mine k n ⟨rfl, rfl⟩ owner ⟨other, there | ⟨reserved, rfl⟩⟩
    · exact other (mine owner there)
    · exact open' (isReserved_iff.mpr ⟨reserved, other.symm⟩)
  split
  · rename_i absent
    have unknown : ∀ owner, ¬ known kind name owner := fun owner there => by
      cases absent.symm.trans ((h kind name owner).mpr there)
    refine .taken (fun k n owner => ?_) (free fun owner there => absurd there (unknown owner))
    rw [owner?_cons]
    split
    · rename_i same
      obtain ⟨rfl, rfl⟩ := same
      simp [With, unknown, eq_comm]
    · rename_i other
      simp [With, h k n owner, other]
  · rename_i current found
    split
    · rename_i mine
      subst mine
      refine .taken (fun k n owner => ?_) (free fun owner there => h.of_some found there)
      rw [h k n owner, With, iff_self_or]
      rintro ⟨⟨rfl, rfl⟩, rfl⟩
      exact (h k n owner).mp found
    · rename_i other
      exact .refused ⟨rfl, rfl⟩ ⟨other, .inl ((h kind name current).mp found)⟩

theorem Settles.andThen {first second : String → String → Prop} {claimant : String}
    {x : Except InjectionError Registry} {f : Registry → Except InjectionError Registry}
    (hx : Settles known first claimant x)
    (hf : ∀ r, Records r (With known first claimant) →
      Settles (With known first claimant) second claimant (f r)) :
    Settles known (fun k n => first k n ∨ second k n) claimant (x >>= f) := by
  have own : ∀ {k n owner}, Clash (With known first claimant) k n claimant owner ↔
      Clash known k n claimant owner := by
    intro k n owner
    refine and_congr_right fun other => ?_
    simp [With, other]
  cases hx with
  | refused wanted clash => exact .refused (.inl wanted) clash
  | @taken r records free =>
    have step := hf r records
    show Settles known _ claimant (f r)
    cases fr : f r with
    | error e =>
      rw [fr] at step
      cases step with
      | refused wanted clash => exact .refused (.inr wanted) (own.mp clash)
    | ok r' =>
      rw [fr] at step
      cases step with
      | taken records' free' =>
        refine .taken (fun k n o => ?_) ?_
        · rw [records' k n o, With, With, With, or_assoc, or_and_right]
        · rintro k n (wanted | wanted) owner clash
          · exact free k n wanted owner clash
          · exact free' k n wanted owner (own.mpr clash)

theorem Settles.congr {new new' : String → String → Prop} {claimant : String}
    {x : Except InjectionError Registry} (h : Settles known new claimant x)
    (same : ∀ k n, new k n ↔ new' k n) : Settles known new' claimant x := by
  rwa [← show new = new' from funext fun k => funext fun n => propext (same k n)]

theorem claimAll_cons (r : Registry) (kind name : String) (names : List String)
    (claimant : String) : r.claimAll kind (name :: names) claimant =
      r.claimOne kind name claimant >>= fun r' => r'.claimAll kind names claimant := by
  simp only [claimAll, claim]
  cases r.claimOne kind name claimant <;> rfl

theorem claimAll_settles (h : Records r known) (kind : String) (names : List String)
    (claimant : String) : Settles known (fun k n => k = kind ∧ n ∈ names) claimant
      (r.claimAll kind names claimant) := by
  induction names generalizing r known with
  | nil => exact .taken (by simpa [Records, With] using h) (by simp)
  | cons name names ih =>
    rw [claimAll_cons]
    refine ((claimOne_settles h kind name claimant).andThen fun r' records => ih records).congr ?_
    simp [and_or_left]

theorem declare_settles (h : Records r known) (d : Declaration) :
    Settles known d.Claims d.name
      (r.claimAll varKind d.vars d.name >>= fun r => r.claimAll volumeKind d.volumes d.name) :=
  (claimAll_settles h varKind d.vars d.name).andThen fun _ records =>
    claimAll_settles records volumeKind d.volumes d.name

end Claim

section Declarations

variable {before : List Declaration} {d : Declaration}

theorem Peaceful.mono {ds : List Declaration} (h : Peaceful ds) (fewer : before ⊆ ds) :
    Peaceful before :=
  ⟨fun d hd => h.core d (fewer hd), fun d hd e he => h.shared d (fewer hd) e (fewer he)⟩

/-- One more declaration keeps the peace if none of its names clashes. -/
theorem peaceful_concat_iff : Peaceful (before ++ [d]) ↔ Peaceful before ∧
    ∀ kind name, d.Claims kind name → ∀ owner, ¬ Clash (Owned before) kind name d.name owner := by
  constructor
  · intro peace
    have last : d ∈ before ++ [d] := by simp
    refine ⟨peace.mono (List.subset_append_left before [d]), ?_⟩
    rintro kind name claims owner ⟨other, (⟨core, rfl⟩ | ⟨b, hb, earlier, rfl⟩) | ⟨reserved, rfl⟩⟩
    · exact (peace.core d last other.symm kind name claims).1 core
    · exact other (peace.shared b (List.mem_append_left _ hb) d last kind name earlier claims)
    · exact (peace.core d last other.symm kind name claims).2 reserved
  · rintro ⟨peace, free⟩
    have unowned : ∀ b ∈ before, ∀ kind name, b.Claims kind name → d.Claims kind name →
        b.name = d.name := fun b hb kind name earlier claims =>
      Decidable.byContradiction fun other =>
        free kind name claims b.name ⟨other, .inl (.inr ⟨b, hb, earlier, rfl⟩)⟩
    refine ⟨?_, ?_⟩
    · intro e he other kind name claims
      rcases List.mem_append.mp he with he | he
      · exact peace.core e he other kind name claims
      · rw [List.mem_singleton.mp he] at other claims
        exact ⟨fun core => free kind name claims _ ⟨other.symm, .inl (.inl ⟨core, rfl⟩)⟩,
          fun reserved => free kind name claims _ ⟨other.symm, .inr ⟨reserved, rfl⟩⟩⟩
    · intro e he e' he' kind name claims claims'
      rcases List.mem_append.mp he with he | he <;> rcases List.mem_append.mp he' with he' | he'
      · exact peace.shared e he e' he' kind name claims claims'
      · rw [List.mem_singleton.mp he'] at claims' ⊢
        exact unowned e he kind name claims claims'
      · rw [List.mem_singleton.mp he] at claims ⊢
        exact (unowned e' he' kind name claims' claims).symm
      · rw [List.mem_singleton.mp he, List.mem_singleton.mp he']

theorem owned_concat_iff {kind name owner : String} : Owned (before ++ [d]) kind name owner ↔
    Owned before kind name owner ∨ d.Claims kind name ∧ owner = d.name := by
  simp [Owned, or_assoc, or_and_right, exists_or, eq_comm]

theorem addAll_settles (ds : List Declaration) {r : Registry} (h : Records r (Owned before))
    (peace : Peaceful before) :
    (∃ r', r.addAll ds = .ok r' ∧ Peaceful (before ++ ds) ∧ Records r' (Owned (before ++ ds))) ∨
    ∃ passed d rest kind name owner, ds = passed ++ d :: rest ∧ Peaceful (before ++ passed) ∧
      d.Claims kind name ∧ Clash (Owned (before ++ passed)) kind name d.name owner ∧
      r.addAll ds = .error (.nameCollision kind name owner d.name) := by
  -- The invariant of the loop: the registry records what was declared so far, in peace.
  induction ds generalizing before r with
  | nil => exact .inl ⟨r, rfl, by simpa using peace, by simpa using h⟩
  | cons d ds ih =>
    have unfolded : r.addAll (d :: ds) = (r.claimAll varKind d.vars d.name >>= fun r =>
        r.claimAll volumeKind d.volumes d.name) >>= fun r => r.addAll ds := by
      rw [bind_assoc]
      rfl
    have step := declare_settles h d
    rw [unfolded]
    generalize (r.claimAll varKind d.vars d.name >>= fun r =>
      r.claimAll volumeKind d.volumes d.name) = x at step
    cases step with
    | @refused kind name owner claims clash =>
      exact .inr ⟨[], d, ds, kind, name, owner, rfl, by simpa using peace, claims,
        by simpa using clash, rfl⟩
    | @taken r' records free =>
      have records' : Records r' (Owned (before ++ [d])) := fun kind name owner =>
        (records kind name owner).trans owned_concat_iff.symm
      rcases ih records' (peaceful_concat_iff.mpr ⟨peace, free⟩) with
        ⟨r'', added, peace', all⟩ |
        ⟨passed, d', rest, kind, name, owner, rfl, peace', claims, clash, failed⟩
      · rw [List.append_assoc, List.singleton_append] at peace' all
        exact .inl ⟨r'', added, peace', all⟩
      · rw [List.append_assoc, List.singleton_append] at peace' clash
        exact .inr ⟨d :: passed, d', rest, kind, name, owner, rfl, peace', claims, clash, failed⟩

end Declarations

theorem lookup_map_const {keys : List (String × String)} {key : String × String}
    {owner claimant : String} : (keys.map (·, claimant)).lookup key = some owner ↔
      key ∈ keys ∧ owner = claimant := by
  induction keys with
  | nil => simp
  | cons k keys ih =>
    rw [List.map_cons, List.lookup_cons]
    cases same : key == k with
    | true => simp [eq_of_beq same, eq_comm]
    | false => simp [ih, ne_of_beq_false same]

theorem mem_map_kind {kind kind' name : String} {names : List String} :
    (kind, name) ∈ names.map (kind', ·) ↔ kind = kind' ∧ name ∈ names := by
  rw [List.mem_map]
  constructor
  · rintro ⟨n, there, same⟩
    obtain ⟨rfl, rfl⟩ := Prod.mk.inj same
    exact ⟨rfl, there⟩
  · rintro ⟨rfl, there⟩
    exact ⟨name, there, rfl⟩

theorem core_records : Records core (Owned []) := by
  intro kind name owner
  have keyed : core = (coreVars.map (varKind, ·) ++ coreVolumes.map (volumeKind, ·)).map
      (·, Names.core) := by
    rw [List.map_append, List.map_map, List.map_map]
    rfl
  rw [owner?, keyed, lookup_map_const]
  have owned : Owned [] kind name owner ↔ OfCore kind name ∧ owner = Names.core := by simp [Owned]
  rw [owned, List.mem_append, mem_map_kind, mem_map_kind, OfCore]

section Made

variable {ds : List Declaration} {r : Registry} {e : InjectionError}

theorem records_of_ok (made : ofDeclarations ds = .ok r) :
    Peaceful ds ∧ Records r (Owned ds) := by
  rcases addAll_settles ds core_records ⟨nofun, nofun⟩ with
    ⟨r', made', peace, records⟩ | ⟨_, _, _, _, _, _, _, _, _, _, failed⟩
  · obtain rfl : r' = r := Except.ok.inj (made'.symm.trans made)
    exact ⟨peace, records⟩
  · cases made.symm.trans failed

/-- The one who is refused wants a name that belongs to somebody else by then. -/
theorem clash_of_error (failed : ofDeclarations ds = .error e) :
    ∃ before d after kind name owner, ds = before ++ d :: after ∧ Peaceful before ∧
      d.Claims kind name ∧ Clash (Owned before) kind name d.name owner ∧
        e = .nameCollision kind name owner d.name := by
  rcases addAll_settles ds core_records ⟨nofun, nofun⟩ with
    ⟨r, made, -, -⟩ | ⟨before, d, after, kind, name, owner, split, peace, claims, clash, failed'⟩
  · cases failed.symm.trans made
  · exact ⟨before, d, after, kind, name, owner, split, peace, claims, clash,
      Except.error.inj (failed.symm.trans failed')⟩

theorem not_peaceful_of_clash {before : List Declaration} {d : Declaration}
    {kind name owner : String} (claims : d.Claims kind name)
    (clash : Clash (Owned before) kind name d.name owner) : ¬ Peaceful (before ++ [d]) :=
  fun peace => (peaceful_concat_iff.mp peace).2 kind name claims owner clash

theorem ok_of_peaceful (peace : Peaceful ds) : ∃ r, ofDeclarations ds = .ok r := by
  cases made : ofDeclarations ds with
  | ok r => exact ⟨r, rfl⟩
  | error e =>
    obtain ⟨before, d, after, kind, name, owner, rfl, -, claims, clash, -⟩ := clash_of_error made
    exact absurd (peace.mono (by simp)) (not_peaceful_of_clash claims clash)

theorem Records.unowned (records : Records r (Owned ds)) {kind name : String}
    (other : ¬ OfCore kind name) (unclaimed : ∀ d ∈ ds, ¬ d.Claims kind name) :
    r.owner? kind name = none := by
  refine Option.eq_none_iff_forall_ne_some.mpr fun owner found => ?_
  rcases (records kind name owner).mp found with ⟨core, -⟩ | ⟨d, hd, claims, -⟩
  · exact other core
  · exact unclaimed d hd claims

end Made

/-- Declarations make a registry exactly if they are peaceful. Then every declared name belongs to
who declared it, the names of the core to the core and all others to nobody. Otherwise the first
declaration is refused that clashes with the core or with those before it, for a name of its own
that belongs to somebody else. -/
theorem ofDeclarations_exact (ds : List Declaration) :
    ((∃ r, ofDeclarations ds = .ok r) ↔ Peaceful ds) ∧
    (∀ r, ofDeclarations ds = .ok r →
      (∀ d ∈ ds, ∀ kind name, d.Claims kind name → r.owner? kind name = some d.name) ∧
      (∀ kind name, OfCore kind name → r.owner? kind name = some Names.core) ∧
      ∀ kind name, ¬ OfCore kind name → (∀ d ∈ ds, ¬ d.Claims kind name) →
        r.owner? kind name = none) ∧
    ∀ e, ofDeclarations ds = .error e → ∃ before d after kind name owner,
      ds = before ++ d :: after ∧ Peaceful before ∧ ¬ Peaceful (before ++ [d]) ∧
        e = .nameCollision kind name owner d.name ∧ d.Claims kind name ∧ owner ≠ d.name ∧
        ((OfCore kind name ∨ Reserved kind name) ∧ owner = Names.core ∨
          ∃ b ∈ before, b.Claims kind name ∧ b.name = owner) := by
  refine ⟨⟨fun ⟨r, made⟩ => (records_of_ok made).1, ok_of_peaceful⟩, ?_, ?_⟩
  · intro r made
    have records := (records_of_ok made).2
    refine ⟨?_, ?_, fun kind name => records.unowned⟩
    · exact fun d hd kind name claims =>
        (records kind name d.name).mpr (.inr ⟨d, hd, claims, rfl⟩)
    · exact fun kind name core => (records kind name Names.core).mpr (.inl ⟨core, rfl⟩)
  · intro e failed
    obtain ⟨before, d, after, kind, name, owner, split, peace, claims, clash, told⟩ :=
      clash_of_error failed
    refine ⟨before, d, after, kind, name, owner, split, peace,
      not_peaceful_of_clash claims clash, told, claims, clash.1, ?_⟩
    rcases clash.2 with (⟨core, is⟩ | earlier) | ⟨reserved, is⟩
    · exact .inl ⟨.inl core, is⟩
    · exact .inr earlier
    · exact .inl ⟨.inr reserved, is⟩

/-- The name stays with the first of the two who want it. -/
example : ofDeclarations [⟨"one", [], ["data"]⟩, ⟨"two", ["A"], ["data"]⟩] =
    .error (.nameCollision "volume" "data" "one" "two") := by rfl

end Registry

end PodInstrumentation
