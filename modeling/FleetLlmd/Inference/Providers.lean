import FleetLlmd.Inference.Forwarding
import FleetLlmd.Inference.Trail

/-!
# Targets and providers

A request goes to a provider of the model it is sent with, one that a view read for it
shows healthy: on a second attempt always, and on the first exactly if affinity does not
keep it on the cluster of its session. Affinity asks neither the list of providers nor
the health of the fleet.
-/

namespace FleetLlmd.Inference
open Go Effect Routing Sql

section Providers
variable {τ : Type} {tx : τ} {fc : FleetController} {r : Request}

theorem healthyProviders_provided {model cluster : String} {view : List ClusterHealth}
    (h : cluster ∈ fc.healthyProviders model view) : cluster ∈ fc.modelProviders model ∧
      ∃ c ∈ view, c.clusterID = cluster ∧ c.healthy = true := by
  obtain ⟨c, hc, rfl⟩ := List.mem_map.mp (mem_sortStrings.mp h)
  obtain ⟨hview, heligible⟩ := List.mem_filter.mp hc
  simp only [Bool.and_eq_true, List.contains_iff_mem] at heligible
  exact ⟨heligible.1.2, c, hview, rfl, heligible.2⟩

theorem Dispatched.provided_iff {t : Trail} {u : UpstreamRequest} (h : Dispatched fc r t u)
    (hsent : t.sent = []) :
    Provided fc t u ↔ fc.keeps (fc.requestedModelClass r.model) t = false := by
  obtain ⟨x, hlabelled, -, hchosen, htarget, hbody⟩ := h
  rw [← hlabelled.modelClass]
  cases hchosen with
  | kept _ keeps _ _ _ _ unread =>
    constructor
    · rintro ⟨model, -, -, view, hview, -⟩
      rw [unread hsent] at hview
      cases hview
    · intro hkeeps
      rw [keeps] at hkeeps
      cases hkeeps
  | picked view count keeps mem last providers target _ _ _ =>
    refine ⟨fun _ => keeps, fun _ => ⟨x.physicalModel, ?_, ?_⟩⟩
    · rw [hbody]
      exact forwarded_model _ _
    · have hmem := healthyProviders_provided (roundRobin_mem providers count)
      rw [← target, ← htarget] at hmem
      exact ⟨hmem.1, view, mem, hmem.2⟩

/-- Whatever the request is answered on its way, the cluster it is sent to is a provider that a
view read for it shows healthy, exactly if it is a second attempt or affinity does not keep it. -/
theorem target_provided_iff : (handleInference tx fc r).Meets
    (fun past c => ∀ u, c = Sum.inr (GatewayCall.upstream u) →
      (Provided fc (handlerTrail r.sessionID past) u ↔
        (handlerTrail r.sessionID past).sent ≠ [] ∨
          fc.keeps (fc.requestedModelClass r.model) (handlerTrail r.sessionID past) = false))
    (fun _ _ => True) [] := by
  refine (handleInference_attempts tx fc r).mono ?_ (fun _ _ _ => trivial)
  intro past c hattempts u heq
  have hattempt := hattempts u heq
  by_cases hsent : (handlerTrail r.sessionID past).sent = []
  · rw [(hattempt.first hsent).provided_iff hsent]
    exact ⟨.inr, fun h => h.resolve_left fun hne => hne hsent⟩
  · exact ⟨fun _ => .inl hsent, fun _ => hattempt.again hsent⟩

end Providers

def boundController : FleetController :=
  { sampleController with hasSessionTable := true }

def boundRequest : Request where
  chat := false
  body := some (utf8 "\x7b\"prompt\":\"hi\",\"session_id\":\"s\"\x7d")

def boundWorld : World
  | .lookup _ => some "west"
  | c => sampleWorld c

theorem boundRequest_unread :
    (firstUpstream ((handleInference () boundController boundRequest).trace
      (Handler.sum Database.execute answer) (⟨fun _ => none, fun _ => none, none⟩, boundWorld)) []).any
      (fun sent => sent.2.targetCluster == "west" &&
        (handlerTrail boundRequest.sessionID sent.1).views.isEmpty) = true := by
  decide +kernel

theorem bound_target_not_provided :
    ¬ ∀ r, (handleInference () boundController r).Meets
      (fun past c => ∀ u, c = Sum.inr (GatewayCall.upstream u) →
        Provided boundController (handlerTrail r.sessionID past) u) (fun _ _ => True) [] := by
  intro h
  obtain ⟨⟨past, u⟩, hsent, hunread⟩ := (Option.any_eq_true _ _).mp boundRequest_unread
  simp only [Bool.and_eq_true, List.isEmpty_iff] at hunread
  obtain ⟨before, response, after, htrace, hpast⟩ := firstUpstream_split hsent
  have hprovided := (h boundRequest).trace htrace u rfl
  rw [← hpast] at hprovided
  obtain ⟨model, -, -, view, hview, -⟩ := hprovided
  rw [hunread.2] at hview
  cases hview

end FleetLlmd.Inference
