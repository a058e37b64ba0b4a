import FleetLlmd.Clusters.Sessions
import FleetLlmd.Inference.Balance

/-!
# Session affinity

Requests of one session, served one after another over the session table. A request that
is sent leaves the session bound to the cluster it was sent to. The next one is found
bound there, and goes there if affinity keeps it, or if its GPU model has no other healthy
provider; otherwise the round robin moves it on and the binding with it.
-/

namespace FleetLlmd.Inference
open Go Effect Json Quota Sql Clusters

structure SessionState (ε : Type) where
  table : SessionAffinityTable
  tiers : List (String × String)
  env : ε

section Affinity
variable {τ ε : Type}

def withSessions (E : Handler (inferenceCalls τ) ε) (clock : ε → Time) (ttl : Int) :
    Handler (inferenceCalls τ) (SessionState ε)
  | .inr (.lookup id), s => (s.table.lookup (clock s.env) id, s)
  | .inr (.sessionTier id), s => (lookupKey id s.tiers, s)
  | .inr (.setSessionTier id tier), s => ((), { s with tiers := insertKey id tier s.tiers })
  | .inr (.bind id cluster), s =>
    ((), { s with table := s.table.bind (clock s.env) ttl id cluster })
  | .inr (.unbind id), s => ((), { s with table := s.table.unbind id })
  | c, s => ((E c s.env).1, { s with env := (E c s.env).2 })

structure Follows (sid : String) (initial : Option String) (t : Trail)
    (table : SessionAffinityTable) : Prop where
  current : table.boundTo sid = t.binding.getD initial
  found : ∀ cluster, t.bound = some cluster → initial = some cluster

variable {tx : τ} {fc : FleetController} {E : Handler (inferenceCalls τ) ε} {clock : ε → Time}
variable {ttl : Int} {sid : String} {initial : Option String} {r : Request}

theorem Follows.step {past : List (Event (inferenceCalls τ))} {s : SessionState ε}
    (h : Follows sid initial (handlerTrail sid past) s.table) (c : (inferenceCalls τ).Call) :
    Follows sid initial (handlerTrail sid (⟨c, (withSessions E clock ttl c s).1⟩ :: past))
      (withSessions E clock ttl c s).2.table := by
  cases c with
  | inl st => exact h
  | inr c =>
    rw [handlerTrail_inr]
    generalize handlerTrail sid past = t at h ⊢
    cases c
    case lookup id =>
      change Follows sid initial (if id = sid ∧ t.binding = none then
        { t with bound := s.table.lookup (clock s.env) id } else t) s.table
      split_ifs with hid
      · refine ⟨h.current, fun cluster hcluster => ?_⟩
        have hbound := SessionAffinityTable.boundTo_of_lookup hcluster
        rw [hid.1, h.current, hid.2] at hbound
        exact hbound
      · exact h
    case sessionTier id =>
      change Follows sid initial (if id = sid then { t with tier := lookupKey id s.tiers } else t)
        s.table
      split_ifs
      · exact ⟨h.current, h.found⟩
      · exact h
    case bind id cluster =>
      change Follows sid initial (if id = sid then { t with binding := some (some cluster) } else t)
        (s.table.bind (clock s.env) ttl id cluster)
      split_ifs with hid
      · refine ⟨?_, h.found⟩
        rw [SessionAffinityTable.boundTo_bind, if_pos hid]
        rfl
      · refine ⟨?_, h.found⟩
        rw [SessionAffinityTable.boundTo_bind, if_neg hid]
        exact h.current
    case unbind id =>
      change Follows sid initial (if id = sid then { t with binding := some none } else t)
        (s.table.unbind id)
      split_ifs with hid
      · refine ⟨?_, h.found⟩
        rw [SessionAffinityTable.boundTo_unbind, if_pos hid]
        rfl
      · refine ⟨?_, h.found⟩
        rw [SessionAffinityTable.boundTo_unbind, if_neg hid]
        exact h.current
    case routeCounter =>
      rw [Trail.after]
      split_ifs
      · exact ⟨h.current, h.found⟩
      · exact ⟨h.current, h.found⟩
    all_goals exact ⟨h.current, h.found⟩

def Anchored (fc : FleetController) (r : Request) (t : Trail) : Prop :=
  fc.keeps (fc.requestedModelClass r.model) t = true ∨
    ∀ view ∈ t.views, ∀ provider ∈ fc.healthyProviders fc.gpuPhysicalModel view,
      t.bound = some provider

def pass (tx : τ) (fc : FleetController) (E : Handler (inferenceCalls τ) ε) (clock : ε → Time)
    (ttl : Int) (r : Request) (s : SessionState ε) : Trail × SessionState ε :=
  (handlerTrail r.sessionID
      ((handleInference tx fc r).trace (withSessions E clock ttl) s).reverse,
    ((handleInference tx fc r).run (withSessions E clock ttl) s).2)

def passes (tx : τ) (fc : FleetController) (E : Handler (inferenceCalls τ) ε) (clock : ε → Time)
    (ttl : Int) : List Request → SessionState ε → List (Request × Trail)
  | [], _ => []
  | r :: requests, s => (r, (pass tx fc E clock ttl r s).1) ::
      passes tx fc E clock ttl requests (pass tx fc E clock ttl r s).2

theorem pass_follows (tx : τ) (fc : FleetController) (E : Handler (inferenceCalls τ) ε)
    (clock : ε → Time) (ttl : Int) (r : Request) (s : SessionState ε) :
    Follows r.sessionID (s.table.boundTo r.sessionID) (pass tx fc E clock ttl r s).1
        (pass tx fc E clock ttl r s).2.table ∧
      Explained fc r (pass tx fc E clock ttl r s).1 := by
  have hrun := (handleInference_attempts tx fc r).run (h := withSessions E clock ttl)
    (J := fun past z => Follows r.sessionID (s.table.boundTo r.sessionID)
      (handlerTrail r.sessionID past) z.table) (s := s) ⟨rfl, nofun⟩
    (fun past z c h _ => h.step c)
  rw [List.append_nil] at hrun
  exact hrun

theorem bound_of_sent (hused : fc.usesSession r.sessionID = true) {t : Trail} {u : UpstreamRequest}
    {table : SessionAffinityTable} (h : Follows r.sessionID initial t table)
    (hexplained : Explained fc r t) (hsent : t.sent = [u]) :
    table.boundTo r.sessionID = some u.targetCluster := by
  obtain ⟨x, hlabelled, -, hchosen, htarget, -⟩ := hexplained u hsent
  rw [h.current, htarget]
  cases hchosen with
  | kept _ _ bound _ binding _ _ =>
    rw [binding]
    exact h.found _ bound
  | picked _ _ _ _ _ _ _ binding _ _ =>
    rw [binding (by rw [hlabelled.sessionID, hused])]
    rfl

theorem sent_of_bound {t : Trail} {u : UpstreamRequest} {table : SessionAffinityTable}
    (h : Follows r.sessionID initial t table) (hexplained : Explained fc r t) (hsent : t.sent = [u])
    (hstays : t.stays = true) (hanchored : Anchored fc r t) : initial = some u.targetCluster := by
  obtain ⟨x, hlabelled, -, hchosen, htarget, -⟩ := hexplained u hsent
  rw [htarget]
  apply h.found
  cases hchosen with
  | kept _ _ bound _ _ _ _ => exact bound
  | picked view count keeps mem _ providers target _ _ escalated =>
    rw [hlabelled.modelClass] at keeps
    have honly := hanchored.resolve_left (by rw [keeps]; decide)
    rw [escalated hstays] at providers target
    rw [target]
    exact honly view mem _ (roundRobin_mem providers count)

/-- In a run of requests of one session, a request that was found bound, whose complexity has not
risen and that is anchored is sent to the cluster of the request before it. -/
theorem affinity_kept (tx : τ) (fc : FleetController) (E : Handler (inferenceCalls τ) ε)
    (clock : ε → Time) (ttl : Int) (sid : String) (hused : fc.usesSession sid = true)
    (requests : List Request) (hsession : ∀ r ∈ requests, r.sessionID = sid) (s : SessionState ε) :
    (passes tx fc E clock ttl requests s).IsChain fun a b =>
      ∀ u u', a.2.sent = [u] → b.2.sent = [u'] → b.2.stays = true → Anchored fc b.1 b.2 →
        u'.targetCluster = u.targetCluster := by
  induction requests generalizing s with
  | nil => exact .nil
  | cons r requests ih =>
    have hrest := ih (fun r' hr' => hsession r' (List.mem_cons_of_mem _ hr'))
      (pass tx fc E clock ttl r s).2
    cases requests with
    | nil => exact .singleton _
    | cons r' requests =>
      refine .cons_cons ?_ hrest
      intro u u' hsent hsent' hstays hanchored
      have hr : r.sessionID = sid := hsession r List.mem_cons_self
      have hr' : r'.sessionID = sid := hsession r' (List.mem_cons_of_mem _ List.mem_cons_self)
      obtain ⟨hfollows, hexplained⟩ := pass_follows tx fc E clock ttl r s
      obtain ⟨hfollows', hexplained'⟩ :=
        pass_follows tx fc E clock ttl r' (pass tx fc E clock ttl r s).2
      have hbound := bound_of_sent (hr ▸ hused) hfollows hexplained hsent
      have hgoes := sent_of_bound hfollows' hexplained' hsent' hstays hanchored
      rw [hr] at hbound
      rw [hr', hbound] at hgoes
      exact (Option.some.inj hgoes).symm

end Affinity

def threeController : FleetController where
  modelProviderClusters :=
    [(defaultCPUModel, ["a", "b", "c"]), (defaultGPUModel, ["a", "b", "c"])]
  praxisURL := "http://praxis"
  hasSessionTable := true

def threeWorld : World
  | .inferenceClusterHealth => [{ clusterID := "a", healthy := true },
      { clusterID := "b", healthy := true }, { clusterID := "c", healthy := true }]
  | c => sampleWorld c

def threeAnswers : Handler (inferenceCalls Unit) (Nat × Database Row Unit × Unit) :=
  counted (Handler.sum Database.execute fun c _ => (threeWorld c, ()))

def sessionRequest (model : String) : Request where
  chat := false
  body := some (utf8 ("\x7b\"prompt\":\"hi\",\"session_id\":\"s\",\"model\":\"" ++ model ++ "\"\x7d"))

def twoPasses (model : String) : List (Request × Trail) :=
  passes () threeController threeAnswers (fun _ => ⟨1767225600000000000, 0⟩) 1800000000000
    [sessionRequest model, sessionRequest model] ⟨[], [], 0, emptyDatabase, ()⟩

theorem affinity_kept_cpu :
    ((twoPasses defaultCPUModel).IsChain fun a b =>
      ∀ u u', a.2.sent = [u] → b.2.sent = [u'] → b.2.stays = true →
        Anchored threeController b.1 b.2 → u'.targetCluster = u.targetCluster) ∧
    (twoPasses defaultCPUModel).map (fun p => (p.2.stays, targets [p.2])) =
      [(false, ["a"]), (true, ["a"])] :=
  ⟨affinity_kept () threeController threeAnswers _ _ "s" (by decide) _ (by decide +kernel) _,
    by decide +kernel⟩

/-- A session that asks for the GPU model twice is moved although its cluster stays healthy. -/
theorem gpu_session_moved :
    ¬ (twoPasses defaultGPUModel).IsChain fun a b => a.1.model = b.1.model → Once a.2 → Once b.2 →
      b.2.stays = true →
      (b.2.views.all fun view =>
        view.any fun c => targets [a.2] == [c.clusterID] && c.healthy) = true →
      targets [b.2] = targets [a.2] := by
  decide +kernel

end FleetLlmd.Inference
