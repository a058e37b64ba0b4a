import FleetLlmd.Drain.Status

/-!
# Sessions of a drained cluster

A drain ends by unbinding the sessions of its cluster. None is bound to it again if, at
that point, the cluster is drained and no other call holds a stale copy of its record or a
health view that shows it healthy. A routed request that has read its view before the drain
wrote and binds after the drain has returned breaks this.
-/

namespace FleetLlmd.Drain
open Go Json Effect Sql Clusters Routing
open Inference (gatewayCalls GatewayCall RouteRequest RouteResponse)

def Unbound (cluster : String) (t : SessionAffinityTable) : Prop :=
  ∀ b ∈ t, b.2.clusterID ≠ cluster

def returns (cluster : String) (t : Thread fleetCalls Outcome) : Bool :=
  match t.rest with
  | .call (.inl (.unbindCluster id)) k => id == cluster && succeeded ⟨t.past, k ()⟩
  | _ => false

theorem finished_of_succeeded {past past' : List (Event fleetCalls)} {p : Prog fleetCalls Outcome}
    (h : succeeded ⟨past, p⟩ = true) : finished ⟨past', p⟩ = true := by
  cases p with
  | done outcome => rfl
  | call c k => cases h

section Steps
variable {env : Environment} {ttl : Int} {cluster : String} {s : FleetState} {job : Job}
variable {past : List (Event fleetCalls)}

theorem Unbound.lookup {t : SessionAffinityTable} (h : Unbound cluster t) (now : Time)
    (sid : String) : t.lookup now sid ≠ some cluster := by
  intro hlookup
  have hbound := SessionAffinityTable.boundTo_of_lookup hlookup
  rw [SessionAffinityTable.boundTo, Option.map_eq_some_iff] at hbound
  obtain ⟨binding, hbinding, hcluster⟩ := hbound
  exact h _ (mem_of_lookupKey hbinding) hcluster

theorem Drained.view (h : Drained cluster s) (probe : String → Option Bool)
    (metrics : List ClusterMetrics) :
    (buildInferenceClusterHealth probe s.1.clusters.listClusters metrics).any
      (fun v => v.healthy && v.clusterID == cluster) = false := by
  rw [List.any_eq_false]
  intro v hv hshown
  rw [Bool.and_eq_true, beq_iff_eq] at hshown
  obtain ⟨r, hr, hid, hstatus⟩ := healthy_record hv hshown.1
  obtain ⟨r', hfind, hdraining⟩ := h
  have hsame : r = r' :=
    List.inj_on_of_nodup_map s.1.clusters.keys (ClusterTable.mem_listClusters.mp hr)
      (Table.mem_of_find hfind) ((hid.trans hshown.2).trans (Table.key_of_find hfind).symm)
  rw [← hsame, ClusterRecord.isDraining] at hdraining
  rcases hstatus with hstatus | hstatus
  · rw [hstatus] at hdraining
    revert hdraining
    decide
  · rw [hstatus] at hdraining
    revert hdraining
    decide

theorem seesHealthy_step (h : Drained cluster s) (c : fleetCalls.Call)
    (hunseen : seesHealthy cluster (rights past) = false) :
    seesHealthy cluster (rights (⟨c, (answer env ttl c s).1⟩ :: past)) = false := by
  cases c with
  | inl c => exact hunseen
  | inr c =>
    rw [rights_inr]
    cases c with
    | inferenceClusterHealth =>
      rw [seesHealthy, List.any_cons, ← seesHealthy, hunseen, Bool.or_false, answer]
      cases env.fault s.1.calls with
      | some err => rfl
      | none => exact h.view s.2.probe s.2.metrics
    | _ => exact hunseen

theorem Unbound.filter {t : SessionAffinityTable} (h : Unbound cluster t)
    (p : String × SessionBinding → Bool) : Unbound cluster (t.filter p) :=
  fun b hb => h b (List.mem_of_mem_filter hb)

theorem Unbound.step {c : fleetCalls.Call} (h : Unbound cluster s.1.sessions)
    (hallowed : Allowed job past c) (hunseen : seesHealthy cluster (rights past) = false) :
    Unbound cluster (answer env ttl c s).2.1.sessions := by
  cases c with
  | inl c =>
    cases c with
    | unbindCluster id => exact h.filter _
    | now => exact h
    | _ =>
      rw [answer, execute]
      cases env.fault s.1.calls <;> exact h
  | inr c =>
    cases c with
    | bind sid target =>
      intro b hb
      rcases mem_insertKey hb with rfl | hb
      · intro htarget
        have hseen : seesHealthy target (rights past) = true := hallowed
        rw [show target = cluster from htarget, hunseen] at hseen
        cases hseen
      · exact h b hb
    | unbind sid => exact h.filter _
    | inferenceClusterHealth =>
      rw [answer]
      cases env.fault s.1.calls <;> exact h
    | _ => exact h

end Steps

section Runs
variable {ι : Type} [DecidableEq ι] {fleet : Fleet} {env : Environment} {ttl : Int}
variable {jobs : ι → Job}

structure Withdrawn (jobs : ι → Job) (live : ι → Bool) (cluster : String)
    (pasts : ι → List (Event fleetCalls)) (s : FleetState) : Prop where
  drained : Drained cluster s
  unbound : Unbound cluster s.1.sessions
  fresh : ∀ i, live i = true → stale (jobs i) cluster (pasts i) = false
  unseen : ∀ i, live i = true → seesHealthy cluster (rights (pasts i)) = false

theorem Withdrawn.step {live : ι → Bool} {i : ι} {cluster : String}
    {pasts : ι → List (Event fleetCalls)} {s : FleetState} {c : fleetCalls.Call}
    (h : Withdrawn jobs live cluster pasts s) (hlive : live i = true)
    (hallowed : Allowed (jobs i) (pasts i) c) (hsync : resyncs cluster (jobs i) c = false)
    (hactive : activates cluster (jobs i) (pasts i) c = false) :
    Withdrawn jobs live cluster
      (Function.update pasts i (⟨c, (answer env ttl c s).1⟩ :: pasts i)) (answer env ttl c s).2 := by
  obtain ⟨hdrained, hfresh⟩ := h.drained.step env ttl (h.fresh i hlive) hallowed hsync hactive
  refine ⟨hdrained, h.unbound.step hallowed (h.unseen i hlive), fun j hj => ?_, fun j hj => ?_⟩
  · by_cases hji : j = i
    · subst hji
      rw [Function.update_self]
      exact hfresh
    · rw [Function.update_of_ne hji]
      exact h.fresh j hj
  · by_cases hji : j = i
    · subst hji
      rw [Function.update_self]
      exact seesHealthy_step h.drained c (h.unseen j hlive)
    · rw [Function.update_of_ne hji]
      exact h.unseen j hj

theorem withdrawn_of_returns {z : Calls ι} {d : ι} {cluster : String}
    (hreturns : returns cluster (z.1 d) = true) (hdrained : Drained cluster z.2)
    (hfresh : ∀ i, i ≠ d → finished (z.1 i) = false → stale (jobs i) cluster (z.pasts i) = false)
    (hunseen : ∀ i, i ≠ d → finished (z.1 i) = false →
      seesHealthy cluster (rights (z.pasts i)) = false) :
    Withdrawn jobs (fun i => !finished ((Pool.move (answer env ttl) surround (.thread d) z).1 i))
      cluster (Pool.move (answer env ttl) surround (.thread d) z).pasts
      (Pool.move (answer env ttl) surround (.thread d) z).2 := by
  rw [returns] at hreturns
  split at hreturns
  · next id k hrest =>
    have hmove : Pool.move (answer env ttl) surround (.thread d) z =
        Pool.advance (answer env ttl) d (.inl (.unbindCluster id)) k z := by
      rw [Pool.move, hrest]
    rw [Bool.and_eq_true, beq_iff_eq] at hreturns
    obtain ⟨rfl, hsucceeded⟩ := hreturns
    -- the drain has ended, so every unfinished thread is another one
    have hother (i : ι) (hlive : (!finished ((Pool.advance (answer env ttl) d
        (.inl (.unbindCluster id)) k z).1 i)) = true) : i ≠ d ∧ finished (z.1 i) = false := by
      by_cases hi : i = d
      · subst hi
        have hfinished : finished ((Pool.advance (answer env ttl) i (.inl (.unbindCluster id)) k z).1
            i) = true := by
          rw [Pool.advance]
          dsimp only
          rw [Function.update_self]
          exact finished_of_succeeded hsucceeded
        rw [hfinished] at hlive
        cases hlive
      · exact ⟨hi, by simpa [Pool.advance, hi] using hlive⟩
    rw [hmove, Pool.pasts_advance]
    refine ⟨hdrained, ?_, fun i hlive => ?_, fun i hlive => ?_⟩
    · intro b hb
      simpa using List.of_mem_filter hb
    · obtain ⟨hi, hunfinished⟩ := hother i hlive
      rw [Function.update_of_ne hi]
      exact hfresh i hi hunfinished
    · obtain ⟨hi, hunfinished⟩ := hother i hlive
      rw [Function.update_of_ne hi]
      exact hunseen i hi hunfinished
  · cases hreturns

/-- If, when a drain unbinds the sessions of its cluster and returns success, the cluster is
drained and no other call holds a stale copy of its record or a view that shows it healthy, then no
lookup returns the cluster as long as no SWIM pass finds a new phase of its site and nobody
activates it. -/
theorem drained_not_found (fleet : Fleet) (env : Environment) (ttl : Int) (jobs : ι → Job)
    (s : FleetState) (before after : List (Move ι Surroundings)) (d : ι) (cluster : String)
    (hreturns : returns cluster ((interleave env ttl before (start fleet jobs s)).1 d) = true)
    (hdrained : Drained cluster (interleave env ttl before (start fleet jobs s)).2)
    (hfresh : ∀ i, i ≠ d → finished ((interleave env ttl before (start fleet jobs s)).1 i) = false →
      stale (jobs i) cluster ((interleave env ttl before (start fleet jobs s)).pasts i) = false)
    (hunseen : ∀ i, i ≠ d → finished ((interleave env ttl before (start fleet jobs s)).1 i) = false →
      seesHealthy cluster (rights ((interleave env ttl before (start fleet jobs s)).pasts i)) = false)
    (hsync : Without env ttl jobs (fun job _ => resyncs cluster job) after
      (interleave env ttl (before ++ [.thread d]) (start fleet jobs s)))
    (hactive : Without env ttl jobs (activates cluster) after
      (interleave env ttl (before ++ [.thread d]) (start fleet jobs s))) (now : Time) (sid : String) :
    (interleave env ttl (before ++ .thread d :: after)
      (start fleet jobs s)).2.1.sessions.lookup now sid ≠ some cluster := by
  have hmeet := allMeet_interleave fleet env ttl jobs s (before ++ [.thread d])
  rw [interleave_append] at hsync hactive hmeet ⊢
  obtain ⟨-, hwithdrawn, -⟩ := Pool.exec_rule_each (answer env ttl) surround
    (R := fun _ _ => True) (fun _ => trivial) (fun _ _ _ _ _ => trivial)
    (fun pasts s i c h hG hC => ⟨h.step (congrArg not hG.1) hG.2 hC.1 hC.2, trivial⟩)
    (fun pasts s w h => ⟨⟨h.drained, h.unbound, h.fresh, h.unseen⟩, trivial⟩) after
    (allMeet_unfinished hmeet) (withdrawn_of_returns hreturns hdrained hfresh hunseen)
    (hsync.and _ _ hactive)
  exact hwithdrawn.unbound.lookup now sid

end Runs

def drainAndRoute : Bool → Job
  | false => .drain "east"
  | true => .route ⟨"hi", "request", "granite", "", "s", ""⟩

/-- The request reads its view after the drain has unbound the sessions. -/
theorem drained_not_found_route :
    let run := interleave quietEnvironment halfHour
      (reported 2 ++ drained 4 ++ .thread false :: reported 3)
      (start sampleFleet drainAndRoute sampleState)
    (∀ i, finished (run.1 i) = true) ∧
      run.2.1.sessions.lookup (quietEnvironment.clock run.2.1.calls) "s" ≠ some "east" := by
  refine ⟨by decide +kernel, ?_⟩
  exact drained_not_found sampleFleet quietEnvironment halfHour drainAndRoute sampleState
    (reported 2 ++ drained 4) (reported 3) false "east" (by decide +kernel) (by decide +kernel)
    (by decide +kernel) (by decide +kernel) (by decide +kernel) (by decide +kernel) _ _

/-- The request reads its view before the drain and binds its session after the drain has
succeeded. -/
theorem bound_after_drain :
    let run := interleave quietEnvironment halfHour (reported 4 ++ drained 5 ++ reported 1)
      (start sampleFleet drainAndRoute sampleState)
    succeeded (run.1 false) = true ∧
      run.2.1.sessions.lookup (quietEnvironment.clock run.2.1.calls) "s" = some "east" := by
  decide +kernel

end FleetLlmd.Drain
