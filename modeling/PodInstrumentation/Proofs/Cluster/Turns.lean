import PodInstrumentation.Proofs.Cluster.Posting
/-!
Several conversations with one cluster. They take turns in any order, and a turn is one call:
between two calls of a conversation the others may have made any number of theirs. -/
namespace PodInstrumentation

structure Pool (σ α : Type) where
  state : σ
  talks : List (Interaction α)
  record : List Exchange

namespace Pool

variable {σ α : Type}

def start (s : σ) (talks : List (Interaction α)) : Pool σ α := ⟨s, talks, []⟩

section Turns

variable (answer : σ → (c : ApiCall) → Except Failure c.Answer × σ)

def turn (p : Pool σ α) (i : Nat) : Pool σ α :=
  match p.talks[i]? with
  | some (.call c next) =>
    let (r, s) := answer p.state c
    ⟨s, p.talks.set i (next r), p.record ++ [⟨c, r⟩]⟩
  | _ => p

def play (p : Pool σ α) (schedule : List Nat) : Pool σ α := schedule.foldl (turn answer) p

end Turns

variable {answer : σ → (c : ApiCall) → Except Failure c.Answer × σ}

inductive Turned (answer : σ → (c : ApiCall) → Except Failure c.Answer × σ) (p : Pool σ α)
    (i : Nat) : Pool σ α → Prop
  | idle (still : ∀ c next, p.talks[i]? ≠ some (.call c next)) : Turned answer p i p
  | spoke {c : ApiCall} {next : Except Failure c.Answer → Interaction α}
      (at_ : p.talks[i]? = some (.call c next)) :
      Turned answer p i ⟨(answer p.state c).2, p.talks.set i (next (answer p.state c).1),
        p.record ++ [⟨c, (answer p.state c).1⟩]⟩

theorem turned (answer : σ → (c : ApiCall) → Except Failure c.Answer × σ) (p : Pool σ α) (i : Nat) :
    Turned answer p i (p.turn answer i) := by
  unfold turn
  split
  · rename_i at_
    exact .spoke at_
  · rename_i still
    exact .idle still

/-- What each turn keeps is kept by a schedule. -/
theorem play_keeps {K : Pool σ α → Prop}
    (step : ∀ {p q : Pool σ α} {i}, Turned answer p i q → K p → K q) {p : Pool σ α}
    (holds : K p) (schedule : List Nat) : K (p.play answer schedule) := by
  induction schedule generalizing p with
  | nil => exact holds
  | cons i schedule ih => exact ih (step (turned answer p i) holds)

/-- What is known of a conversation that has at most so many calls left: its own calls use them up,
and whatever else is asked does not matter. -/
structure Steady (answer : σ → (c : ApiCall) → Except Failure c.Answer × σ)
    (left : Nat → σ → Interaction α → Prop) : Prop where
  own : ∀ {n s c next}, left n s (.call c next) →
    left (n - 1) (answer s c).2 (next (answer s c).1)
  ended : ∀ {n m s a}, left n s (.done a) → left m s (.done a)
  others : ∀ {n s x} (c : ApiCall), left n s x → left n (answer s c).2 x

/-- One turn, be it of this conversation or of another one. -/
theorem Turned.steady {left : Nat → σ → Interaction α → Prop} (steady : Steady answer left)
    {p q : Pool σ α} {i j n : Nat} {x : Interaction α} (turn : Turned answer p j q)
    (at_ : p.talks[i]? = some x) (known : left n p.state x) :
    ∃ x', q.talks[i]? = some x' ∧ left (n - [j].count i) q.state x' := by
  by_cases same : j = i
  · subst same
    rw [List.count_singleton_self]
    cases turn with
    | idle still =>
      cases x with
      | done a => exact ⟨_, at_, steady.ended known⟩
      | call c next => exact absurd at_ (still c next)
    | @spoke c next calls =>
      obtain rfl : x = .call c next := Option.some.inj (at_.symm.trans calls)
      have inside := (List.getElem?_eq_some_iff.mp at_).1
      exact ⟨_, List.getElem?_set_self inside, steady.own known⟩
  · -- A turn of another conversation changes only what is in the cluster.
    rw [List.count_singleton, if_neg (by simpa using same), Nat.sub_zero]
    cases turn with
    | idle _ => exact ⟨x, at_, known⟩
    | @spoke c next _ => exact ⟨x, (List.getElem?_set_ne same).trans at_, steady.others c known⟩

theorem play_steady {left : Nat → σ → Interaction α → Prop} (steady : Steady answer left)
    {p : Pool σ α} {i n : Nat} {x : Interaction α} (at_ : p.talks[i]? = some x)
    (known : left n p.state x) (schedule : List Nat) :
    ∃ x', (p.play answer schedule).talks[i]? = some x' ∧
      left (n - schedule.count i) (p.play answer schedule).state x' := by
  -- Only its own turns use up the calls that the conversation has left.
  induction schedule generalizing p n x with
  | nil => exact ⟨x, at_, known⟩
  | cons j schedule ih =>
    obtain ⟨x', at', known'⟩ := (turned answer p j).steady steady at_ known
    obtain ⟨x'', at'', known''⟩ := ih at' known'
    rw [← List.singleton_append, List.count_append, Nat.sub_add_eq]
    exact ⟨x'', at'', known''⟩

end Pool

end PodInstrumentation
