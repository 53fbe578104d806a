import PodInstrumentation.Proofs.Outcome
/-!
The calls that a conversation makes. Calls come in kinds, and that only some kinds are asked for is
seen part by part. -/
namespace PodInstrumentation

namespace ApiCall

inductive Kind where
  | space | config | secret | object | event | pod
deriving DecidableEq, Repr

def kind : ApiCall → Kind
  | readNamespace _ => .space
  | readConfig .. => .config
  | readSecret .. | createSecret _ => .secret
  | readObject _ => .object
  | createEvent _ => .event
  | readPod .. => .pod

@[simp] theorem kind_readNamespace (name : String) : (readNamespace name).kind = .space := rfl

@[simp] theorem kind_readConfig (name ns : String) : (readConfig name ns).kind = .config := rfl

@[simp] theorem kind_readSecret (name ns : String) : (readSecret name ns).kind = .secret := rfl

@[simp] theorem kind_createSecret (m : SecretManifest) : (createSecret m).kind = .secret := rfl

@[simp] theorem kind_readObject (path : String) : (readObject path).kind = .object := rfl

@[simp] theorem kind_createEvent (e : Event) : (createEvent e).kind = .event := rfl

@[simp] theorem kind_readPod (name ns : String) : (readPod name ns).kind = .pod := rfl

end ApiCall

namespace Interaction

variable {α β : Type} {ks ls : List ApiCall.Kind}

/-- Whatever is answered, only calls of the given kinds are made. -/
inductive Asks (ks : List ApiCall.Kind) : {α : Type} → Interaction α → Prop
  | done {α : Type} (a : α) : Asks ks (done a)
  | call {α : Type} (c : ApiCall) {next : Except Failure c.Answer → Interaction α}
      (within : c.kind ∈ ks) (rest : ∀ r, Asks ks (next r)) : Asks ks (call c next)

namespace Asks

theorem bind {x : Interaction α} {f : α → Interaction β} (hx : x.Asks ks)
    (hf : ∀ a, (f a).Asks ks) : (x.bind f).Asks ks := by
  induction hx with
  | done a => exact hf a
  | call c within _ ih => exact .call c within ih

theorem mono {x : Interaction α} (hx : x.Asks ks) (more : ks ⊆ ls) : x.Asks ls := by
  induction hx with
  | done a => exact .done a
  | call c within _ ih => exact .call c (more within) ih

end Asks

end Interaction

namespace Attempt

variable {α β : Type} {ks ls : List ApiCall.Kind}

def Asks (ks : List ApiCall.Kind) (x : Attempt α) : Prop := Interaction.Asks ks x.run

namespace Asks

theorem pure (a : α) : (Pure.pure a : Attempt α).Asks ks := .done _

theorem throw (e : Fault) : (MonadExcept.throw e : Attempt α).Asks ks := .done _

theorem fail (e : InjectionError) : (Attempt.fail e : Attempt α).Asks ks := .done _

theorem ofShaped (x : Shaped α) : (Attempt.ofShaped x).Asks ks := .done _

theorem ask (c : ApiCall) (within : c.kind ∈ ks) : (Attempt.ask c).Asks ks :=
  .call c within fun _ => .done _

theorem bind {x : Attempt α} {f : α → Attempt β} (hx : x.Asks ks) (hf : ∀ a, (f a).Asks ks) :
    (x >>= f).Asks ks :=
  Interaction.Asks.bind hx fun r => by
    cases r with
    | ok a => exact hf a
    | error e => exact .done _

theorem tryCatch {x : Attempt α} {f : Fault → Attempt α} (hx : x.Asks ks)
    (hf : ∀ e, (f e).Asks ks) : (MonadExcept.tryCatch x f).Asks ks :=
  Interaction.Asks.bind hx fun r => by
    cases r with
    | ok a => exact .done _
    | error e => exact hf e

theorem lift {x : Interaction α} (hx : x.Asks ks) : Attempt.Asks ks (ExceptT.lift x) :=
  Interaction.Asks.bind hx fun _ => .done _

theorem mono {x : Attempt α} (hx : x.Asks ks) (more : ks ⊆ ls) : x.Asks ls :=
  Interaction.Asks.mono hx more

end Asks

end Attempt

end PodInstrumentation
