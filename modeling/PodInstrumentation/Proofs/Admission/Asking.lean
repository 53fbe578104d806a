import PodInstrumentation.Admission.Handler
import PodInstrumentation.Proofs.Cluster.Asking
/-!
What an admission asks the cluster for: first the settings of the namespace, then the secrets and
the owners of the pod, and last it posts an event. -/
namespace PodInstrumentation

namespace Provisioner

variable (p : Provisioner) (config : MonitoringConfig)

theorem asks_readSecret (name ns : String) : (readSecret name ns).Asks [.secret] := by
  unfold readSecret
  refine .bind (.ask _ List.mem_cons_self) fun r => ?_
  split
  · exact .pure _
  · exact .throw _

theorem asks_data (which : SupportSecret) : (p.data config which).Asks [.secret] := by
  cases which with
  | init =>
    refine .bind (asks_readSecret _ _) fun tokens => ?_
    refine .bind ?_ fun proxy => .bind (.done _) fun token => .pure _
    unfold proxyText
    split
    · exact .pure _
    · dsimp only
      split
      · exact .pure _
      · exact .bind (asks_readSecret _ _) fun secret => .done _
  | endpoint => exact .bind (asks_readSecret _ _) fun tokens => .bind (.done _) fun token => .pure _

theorem asks_onFault {ks : List ApiCall.Kind} (which : SupportSecret) (ns : String) (e : Fault) :
    (onFault which ns e).Asks ks := by
  unfold onFault
  split
  · split
    · exact .pure _
    · split
      · exact .fail _
      · exact .throw _
  · exact .throw _

theorem asks_create (ns : String) (which : SupportSecret) :
    (p.create config ns which).Asks [.secret] := by
  unfold create
  refine .bind (asks_data p config which) fun data => .bind (.ask _ List.mem_cons_self) fun r => ?_
  split
  · exact .pure _
  · exact .throw _

theorem asks_ensure (ns : String) (which : SupportSecret) :
    (p.ensure config ns which).Asks [.secret] := by
  unfold ensure
  refine .bind (.ask _ List.mem_cons_self) fun r => ?_
  split
  · exact .pure _
  · split
    · exact .tryCatch (asks_create p config ns which) (asks_onFault which ns)
    · split
      · exact .fail _
      · exact .throw _

end Provisioner

namespace OwnerChain

theorem asks_readOwner (ns : String) (node : OwnerNode) (r : OwnerReference) :
    (readOwner ns node r).Asks [.object] := by
  unfold readOwner
  split
  · exact .throw _
  · refine .bind (.ask _ List.mem_cons_self) fun answer => ?_
    split
    · exact .ofShaped _
    · split
      · exact .fail _
      · exact .throw _

theorem asks_walk (ns : String) (limit : Int) (left : Nat)
    (visited : List (String × String × Json)) (node : OwnerNode) :
    (walk ns limit left visited node).Asks [.object] := by
  induction left generalizing visited node with
  | zero =>
    unfold walk
    refine .bind (.ofShaped _) fun r => ?_
    split
    · exact .pure _
    · split
      · exact .throw _
      · split
        · exact .fail _
        · exact .fail _
  | succ left ih =>
    unfold walk
    refine .bind (.ofShaped _) fun r => ?_
    split
    · exact .pure _
    · split
      · exact .throw _
      · split
        · exact .fail _
        · exact .bind (asks_readOwner ns node _) fun owner => ih _ owner

theorem asks_workload (j : Injector) (ns : String) (pod : Json) :
    (Enrichment.workload j ns pod).Asks [.object] := by
  refine .tryCatch (.bind (.ofShaped _) fun node => asks_walk _ _ _ _ _) fun e => ?_
  split
  · exact .pure _
  · exact .throw _

end OwnerChain

theorem Capability.asks_prepare (c : Capability) (j : Injector) (config : MonitoringConfig)
    (ns : String) (pod : Json) : (c.prepare j config ns pod).Asks [.secret, .object] := by
  have ensured : ∀ which, (j.provisioner.ensure config ns which).Asks [.secret, .object] :=
    fun which => (j.provisioner.asks_ensure config ns which).mono (by decide)
  cases c with
  | agent => exact .bind (ensured .init) fun _ => .pure _
  | enrichment =>
    refine .bind (ensured .init) fun _ => .bind (ensured .endpoint) fun _ => ?_
    exact .bind ((OwnerChain.asks_workload j ns pod).mono (by decide)) fun _ => .pure _

theorem asks_inject (j : Injector) (config : MonitoringConfig) (ns : String)
    (cs : List Capability) (d : Draft) : (inject j config ns cs d).Asks [.secret, .object] := by
  induction cs generalizing d with
  | nil => exact .done _
  | cons c cs ih =>
    unfold inject
    split
    · exact .done _
    · exact ih d
    · refine Interaction.Asks.bind (c.asks_prepare j config ns d.pod) fun prepared => ?_
      split
      · exact .done _
      · split
        · exact .done _
        · exact Interaction.Asks.bind (ih _) fun _ => .done _

namespace Admission.Handler

variable (h : Handler)

theorem asks_configName (ns : String) : (configName ns).Asks [.space] := by
  unfold configName
  refine .bind (.ask _ List.mem_cons_self) fun r => ?_
  split
  · exact .pure _
  · exact .pure _
  · split
    · exact .fail _
    · exact .throw _

theorem asks_post (involved : Json) (type reason message : String) :
    (post involved type reason message).Asks [.event] := by
  unfold post
  refine .bind (.ofShaped _) fun event => .bind (.ask _ List.mem_cons_self) fun r => ?_
  split
  · exact .pure _
  · split
    · exact .pure _
    · exact .throw _

theorem asks_readConfig (ns name : String) : (h.readConfig ns name).Asks [.config, .event] := by
  unfold readConfig
  refine .bind (.ask _ List.mem_cons_self) fun r => ?_
  split
  · split
    · exact .pure _
    · exact .throw _
    · exact .fail _
  · split
    · exact .bind ((asks_post _ _ _ _).mono (by decide)) fun _ => .fail _
    · split
      · exact .fail _
      · exact .throw _

theorem asks_course (request : Request) (pod : Json) :
    (h.course request pod).Asks [.space, .config, .event] := by
  unfold course
  refine .bind (.ofShaped _) fun ns => .bind ((asks_configName ns).mono (by decide)) fun name => ?_
  split
  · exact .pure _
  · refine .bind ((h.asks_readConfig ns name).mono (by decide)) fun config => ?_
    split
    · exact .pure _
    · refine .bind (.ofShaped _) fun injected => ?_
      split
      · exact .pure _
      · exact .pure _

theorem asks_injectedPod (ns : String) (config : MonitoringConfig) (pod : Json) :
    (h.injectedPod ns config pod).Asks [.secret, .object] := by
  unfold injectedPod
  refine .bind (.ofShaped _) fun installer => .bind (.ofShaped _) fun pod => ?_
  refine .bind (.lift (asks_inject _ _ _ _ _)) fun (result, draft) => ?_
  cases result with
  | error e => exact .throw e
  | ok names => exact .ofShaped _

end Admission.Handler

end PodInstrumentation
