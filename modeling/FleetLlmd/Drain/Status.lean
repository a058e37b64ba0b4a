import FleetLlmd.Drain.Fleet

/-!
# A drain stays

The status a drain has written is kept as long as every copy of the record that may still
be written back was read while the cluster was drained already. The writers do not check
this: an agent report that has read the record before the drain wrote it takes the status
back, and so does a SWIM pass that finds a new phase of the site.
-/

namespace FleetLlmd.Drain
open Go Effect Sql Clusters Routing
open Inference (gatewayCalls GatewayCall RouteRequest RouteResponse)

def Drained (cluster : String) (s : FleetState) : Prop :=
  ∃ r, s.1.clusters.find cluster = some r ∧ r.isDraining = true

instance (cluster : String) (s : FleetState) : Decidable (Drained cluster s) :=
  decidable_of_iff ((s.1.clusters.find cluster).any (·.isDraining) = true) (by
    rw [Drained]
    cases s.1.clusters.find cluster <;> simp)

def Job.isSync : Job → Bool
  | .swimSync _ _ => true
  | _ => false

def stale (job : Job) (cluster : String) (past : List (Event fleetCalls)) : Bool :=
  (lastRead (lefts past)).any fun r => r.id == cluster && (job.isSync || !r.isDraining)

def activates (cluster : String) (job : Job) (past : List (Event fleetCalls)) :
    fleetCalls.Call → Bool
  | .inl (.update r) =>
    match job with
    | .activate _ => r.id == cluster && updates (lefts past) == 0
    | _ => false
  | _ => false

def resyncs (cluster : String) (job : Job) : fleetCalls.Call → Bool
  | .inl (.get id) => job.isSync && id == cluster
  | _ => false

def finished (t : Thread fleetCalls Outcome) : Bool :=
  match t.rest with
  | .done _ => true
  | .call _ _ => false

def succeeded (t : Thread fleetCalls Outcome) : Bool :=
  match t.rest with
  | .done (.reply r) => !r.isError
  | _ => false

section Steps
variable {env : Environment} {ttl : Int} {cluster : String} {s : FleetState} {job : Job}
variable {past : List (Event fleetCalls)}

theorem clusters_inr (c : GatewayCall) :
    (answer env ttl (.inr c) s).2.1.clusters = s.1.clusters := by
  cases c with
  | inferenceClusterHealth =>
    rw [answer]
    cases env.fault s.1.calls <;> rfl
  | _ => rfl

theorem clusters_get (id : String) :
    (answer env ttl (.inl (.get id)) s).2.1.clusters = s.1.clusters := by
  rw [answer, execute]
  cases env.fault s.1.calls <;> rfl

theorem clusters_recordDecision (d : Ledger.FleetDecision) :
    (answer env ttl (.inl (.recordDecision d)) s).2.1.clusters = s.1.clusters := by
  rw [answer, execute]
  cases env.fault s.1.calls <;> rfl

theorem find_of_get {id : String} {r : ClusterRecord}
    (h : (answer env ttl (.inl (.get id)) s).1 = .ok r) : s.1.clusters.find id = some r := by
  rw [answer, execute] at h
  cases hfault : env.fault s.1.calls with
  | some err =>
    rw [hfault] at h
    cases h
  | none =>
    rw [hfault] at h
    rcases s.1.clusters.getCluster_cases id with ⟨err, hget⟩ | ⟨r', hget, hfind⟩
    · exact absurd (hget.symm.trans h) (by simp)
    · rw [hfind, Except.ok.inj (hget.symm.trans h)]

theorem update_cases (env : Environment) (ttl : Int) (r : ClusterRecord) (s : FleetState) :
    ((∃ err, (answer env ttl (.inl (.update r)) s).1 = .error err) ∧
        (answer env ttl (.inl (.update r)) s).2.1.clusters = s.1.clusters) ∨
      ∃ written, written.id = r.id ∧ written.status = r.status ∧
        (answer env ttl (.inl (.update r)) s).2.1.clusters.find r.id = some written ∧
        ∀ id, id ≠ r.id → (answer env ttl (.inl (.update r)) s).2.1.clusters.find id =
          s.1.clusters.find id := by
  rw [answer, execute]
  cases env.fault s.1.calls with
  | some err => exact .inl ⟨⟨err, rfl⟩, rfl⟩
  | none =>
    rcases s.1.clusters.updateCluster_cases r (env.clock s.1.calls) with
      ⟨err, hupdate⟩ | ⟨old, t, hupdate, hfind, hreplace⟩
    · dsimp only
      rw [hupdate]
      exact .inl ⟨⟨err, rfl⟩, rfl⟩
    · dsimp only
      rw [hupdate]
      refine .inr ⟨{ r with registeredAt := old.registeredAt, updatedAt := env.clock s.1.calls },
        rfl, rfl, ?_, ?_⟩
      · exact (Table.find_replace hreplace r.id).trans (by rw [if_pos rfl, hfind]; rfl)
      · exact fun id hid => (Table.find_replace hreplace id).trans (if_neg (Ne.symm hid))

theorem Drained.update {r : ClusterRecord} (h : Drained cluster s)
    (hr : r.id = cluster → r.isDraining = true) :
    Drained cluster (answer env ttl (.inl (.update r)) s).2 := by
  rcases update_cases env ttl r s with ⟨-, hsame⟩ | ⟨written, hid, hstatus, hfind, hothers⟩
  · rw [Drained, hsame]
    exact h
  · by_cases hcluster : r.id = cluster
    · refine ⟨written, hcluster ▸ hfind, ?_⟩
      rw [ClusterRecord.isDraining, hstatus]
      exact hr hcluster
    · rw [Drained, hothers cluster (Ne.symm hcluster)]
      exact h

theorem Drained.other {c : ClusterCall} (h : Drained cluster s) (hc : isUpdate c = false)
    (hallowed : Writes job (lefts past) c) : Drained cluster (answer env ttl (.inl c) s).2 := by
  cases c with
  | create r => exact hallowed.elim
  | delete id => exact hallowed.elim
  | update r => cases hc
  | get id =>
    rw [Drained, clusters_get]
    exact h
  | recordDecision d =>
    rw [Drained, clusters_recordDecision]
    exact h
  | unbindCluster id => exact h
  | now => exact h

theorem drains_of_writes {r : ClusterRecord} (hfresh : stale job cluster past = false)
    (hwrites : Writes job (lefts past) (.update r))
    (hactive : activates cluster job past (.inl (.update r)) = false) (hid : r.id = cluster) :
    r.isDraining = true := by
  obtain ⟨read, hread, hsame, hfollows⟩ := hwrites
  rw [stale, hread, Option.any_some, ← hsame, hid] at hfresh
  have hkept : job.isSync = false ∧ read.isDraining = true := by simpa using hfresh
  have hstatus (h : r.status = read.status) : r.isDraining = true := by
    rw [ClusterRecord.isDraining, h]
    exact hkept.2
  cases job with
  | drain id => exact absurd (hfollows.1.symm.trans hkept.2) Bool.false_ne_true
  | activate id =>
    apply hstatus
    apply hfollows
    simpa [activates, hid] using hactive
  | agentStatus body => exact hstatus (hfollows hkept.2)
  | swimSync sites lastPhases => exact absurd hkept.1.symm Bool.false_ne_true
  | route req => exact hfollows.elim

theorem stale_get {id : String} (h : Drained cluster s)
    (hsync : resyncs cluster job (.inl (.get id)) = false)
    (hfresh : stale job cluster past = false) :
    stale job cluster (⟨.inl (.get id), (answer env ttl (.inl (.get id)) s).1⟩ :: past) = false := by
  rw [stale, lefts_inl]
  cases hget : (answer env ttl (.inl (.get id)) s).1 with
  | error err => exact hfresh
  | ok r =>
    have hfind := find_of_get hget
    rw [lastRead, Option.any_some]
    by_cases hid : r.id = cluster
    · obtain ⟨r', hfind', hdraining⟩ := h
      have hsame : id = cluster := (Table.key_of_find hfind).symm.trans hid
      rw [hsame, hfind'] at hfind
      rw [← Option.some.inj hfind, hdraining]
      have hjob : job.isSync = false := by simpa [resyncs, hsame] using hsync
      simp [hjob]
    · simp [hid]

theorem Drained.step (env : Environment) (ttl : Int) {c : fleetCalls.Call} (h : Drained cluster s)
    (hfresh : stale job cluster past = false) (hallowed : Allowed job past c)
    (hsync : resyncs cluster job c = false) (hactive : activates cluster job past c = false) :
    Drained cluster (answer env ttl c s).2 ∧
      stale job cluster (⟨c, (answer env ttl c s).1⟩ :: past) = false := by
  cases c with
  | inr c =>
    refine ⟨?_, hfresh⟩
    rw [Drained, clusters_inr]
    exact h
  | inl c =>
    have hother (hc : isUpdate c = false) : Drained cluster (answer env ttl (.inl c) s).2 :=
      h.other hc hallowed
    cases c with
    | get id => exact ⟨hother rfl, stale_get h hsync hfresh⟩
    | update r => exact ⟨h.update (drains_of_writes hfresh hallowed hactive), hfresh⟩
    | create r => exact hallowed.elim
    | delete id => exact hallowed.elim
    | recordDecision d => exact ⟨hother rfl, hfresh⟩
    | unbindCluster id => exact ⟨hother rfl, hfresh⟩
    | now => exact ⟨hother rfl, hfresh⟩

end Steps

/-! ## Runs -/

section Runs
variable {ι : Type} [DecidableEq ι] {fleet : Fleet} {env : Environment} {ttl : Int}
variable {jobs : ι → Job}

def interleave (env : Environment) (ttl : Int) (moves : List (Move ι Surroundings)) :
    Calls ι → Calls ι :=
  Pool.exec (answer env ttl) surround moves

theorem interleave_append (before moves : List (Move ι Surroundings)) (d : ι) (z : Calls ι) :
    interleave env ttl (before ++ .thread d :: moves) z =
      interleave env ttl moves
        (Pool.move (answer env ttl) surround (.thread d) (interleave env ttl before z)) := by
  rw [interleave, Pool.exec_append, Pool.exec_cons]
  rfl

def Without (env : Environment) (ttl : Int) (jobs : ι → Job)
    (p : Job → List (Event fleetCalls) → fleetCalls.Call → Bool) :
    List (Move ι Surroundings) → Calls ι → Prop :=
  Pool.ObservesEach (answer env ttl) surround fun i past c _ => p (jobs i) past c = false

instance (p : Job → List (Event fleetCalls) → fleetCalls.Call → Bool)
    (moves : List (Move ι Surroundings)) (z : Calls ι) :
    Decidable (Without env ttl jobs p moves z) :=
  inferInstanceAs (Decidable (Pool.ObservesEach _ _ _ _ _))

theorem allMeet_interleave (fleet : Fleet) (env : Environment) (ttl : Int) (jobs : ι → Job)
    (s : FleetState) (moves : List (Move ι Surroundings)) :
    Pool.AllMeet (fun i => Allowed (jobs i)) (fun i => Ends (jobs i))
      (interleave env ttl moves (start fleet jobs s)) :=
  (Pool.exec_invariant (answer env ttl) surround (I := fun _ _ => True)
    (fun _ _ _ _ _ _ => trivial) (fun _ _ _ _ => trivial) moves
    (fun i => program_meets fleet (jobs i)) trivial).1

omit [DecidableEq ι] in
theorem allMeet_unfinished {z : Calls ι}
    (h : Pool.AllMeet (fun i => Allowed (jobs i)) (fun i => Ends (jobs i)) z) :
    Pool.AllMeet (fun i past c => finished (z.1 i) = false ∧ Allowed (jobs i) past c)
      (fun i => Ends (jobs i)) z := by
  intro i
  have hi := h i
  cases hrest : (z.1 i).rest with
  | done a =>
    rw [hrest] at hi
    exact hi
  | call c k =>
    rw [hrest] at hi
    exact hi.mono (fun _ _ hc => ⟨by rw [finished, hrest], hc⟩) fun _ _ hq => hq

def drains (env : Environment) (ttl : Int) (cluster : String) (t : Thread fleetCalls Outcome)
    (s : FleetState) : Bool :=
  match t.rest with
  | .call (.inl (.update r)) _ => r.id == cluster && updates (lefts t.past) == 0 &&
      Except.isOk (answer env ttl (.inl (.update r)) s).1
  | _ => false

structure Kept (jobs : ι → Job) (live : ι → Bool) (d : ι) (cluster : String)
    (pasts : ι → List (Event fleetCalls)) (s : FleetState) : Prop where
  written : 1 ≤ updates (lefts (pasts d))
  kept : 2 ≤ updates (lefts (pasts d)) ∨ Drained cluster s ∧
    ∀ i, i ≠ d → live i = true → stale (jobs i) cluster (pasts i) = false

theorem updates_cons {c : fleetCalls.Call} (x : fleetCalls.Answer c)
    (past : List (Event fleetCalls)) :
    updates (lefts past) ≤ updates (lefts (⟨c, x⟩ :: past)) := by
  cases c with
  | inl c =>
    rw [lefts_inl, updates, updates, List.countP_cons]
    omega
  | inr c => exact le_refl _

theorem Kept.step {live : ι → Bool} {d i : ι} {cluster : String}
    {pasts : ι → List (Event fleetCalls)} {s : FleetState} {c : fleetCalls.Call}
    (h : Kept jobs live d cluster pasts s) (hlive : live i = true)
    (hallowed : Allowed (jobs i) (pasts i) c) (hsync : resyncs cluster (jobs i) c = false)
    (hactive : activates cluster (jobs i) (pasts i) c = false) :
    Kept jobs live d cluster
      (Function.update pasts i (⟨c, (answer env ttl c s).1⟩ :: pasts i)) (answer env ttl c s).2 := by
  have hgrows : updates (lefts (pasts d)) ≤ updates (lefts
      (Function.update pasts i (⟨c, (answer env ttl c s).1⟩ :: pasts i) d)) := by
    by_cases hd : d = i
    · subst hd
      rw [Function.update_self]
      exact updates_cons _ _
    · rw [Function.update_of_ne hd]
  refine ⟨h.written.trans hgrows, ?_⟩
  rcases h.kept with htwice | ⟨hdrained, hfresh⟩
  · exact .inl (htwice.trans hgrows)
  · by_cases hd : i = d
    · subst hd
      -- the drain itself writes a second time only to take its status back
      cases c with
      | inr c =>
        refine .inr ⟨?_, fun j hj hjlive => ?_⟩
        · rw [Drained, clusters_inr]
          exact hdrained
        · rw [Function.update_of_ne hj]
          exact hfresh j hj hjlive
      | inl c =>
        cases hc : isUpdate c with
        | true =>
          left
          rw [Function.update_self, lefts_inl, updates, List.countP_cons, if_pos hc, ← updates]
          exact Nat.succ_le_succ h.written
        | false =>
          refine .inr ⟨hdrained.other hc hallowed, fun j hj hjlive => ?_⟩
          rw [Function.update_of_ne hj]
          exact hfresh j hj hjlive
    · obtain ⟨hdrained', hfresh'⟩ :=
        hdrained.step env ttl (hfresh i hd hlive) hallowed hsync hactive
      refine .inr ⟨hdrained', fun j hj hjlive => ?_⟩
      by_cases hji : j = i
      · subst hji
        rw [Function.update_self]
        exact hfresh'
      · rw [Function.update_of_ne hji]
        exact hfresh j hj hjlive

theorem kept_of_drains {z : Calls ι} {d : ι} {cluster : String}
    (hmeet : Pool.AllMeet (fun i => Allowed (jobs i)) (fun i => Ends (jobs i)) z)
    (hjob : jobs d = .drain cluster) (hwrite : drains env ttl cluster (z.1 d) z.2 = true)
    (hfresh : ∀ i, i ≠ d → finished (z.1 i) = false → stale (jobs i) cluster (z.pasts i) = false) :
    Kept jobs (fun i => !finished ((Pool.move (answer env ttl) surround (.thread d) z).1 i)) d cluster
      (Pool.move (answer env ttl) surround (.thread d) z).pasts
      (Pool.move (answer env ttl) surround (.thread d) z).2 := by
  have hd : (z.1 d).rest.Meets (Allowed (jobs d)) (Ends (jobs d)) (z.pasts d) := hmeet d
  rw [drains] at hwrite
  split at hwrite
  · next r k hrest =>
    rw [hrest, hjob] at hd
    have hmove : Pool.move (answer env ttl) surround (.thread d) z =
        Pool.advance (answer env ttl) d (.inl (.update r)) k z := by
      rw [Pool.move, hrest]
    simp only [Bool.and_eq_true, beq_iff_eq] at hwrite
    obtain ⟨⟨hid, hcount⟩, hok⟩ := hwrite
    obtain ⟨read, -, -, -, hdraining⟩ := hd.1
    rw [hmove, Pool.pasts_advance]
    refine ⟨?_, .inr ⟨?_, ?_⟩⟩
    · rw [Function.update_self, lefts_inl, updates_update]
      omega
    · rcases update_cases env ttl r z.2 with ⟨⟨err, herr⟩, -⟩ | ⟨written, -, hstatus, hfind, -⟩
      · rw [herr] at hok
        cases hok
      · refine ⟨written, hid ▸ hfind, ?_⟩
        rw [ClusterRecord.isDraining, hstatus]
        exact hdraining hcount
    · intro i hi hlive
      rw [Function.update_of_ne hi]
      apply hfresh i hi
      simpa [Pool.advance, hi] using hlive
  · cases hwrite

theorem once_of_succeeded {G : List (Event fleetCalls) → fleetCalls.Call → Prop} {cluster : String}
    {job : Job} {t : Thread fleetCalls Outcome} (hjob : job = .drain cluster)
    (h : t.rest.Meets G (Ends job) t.past) (hsucceeded : succeeded t = true) : updates
    (lefts t.past) = 1 := by
  rw [succeeded] at hsucceeded
  split at hsucceeded
  · next r hrest =>
    rw [hrest, hjob] at h
    exact h (by simpa using hsucceeded)
  · cases hsucceeded

/-- If no other call holds a stale copy of the record when a drain writes it, no SWIM pass finds a
new phase of the site and nobody activates the cluster, then the cluster is drained in every state
in which the drain has succeeded. -/
theorem drain_kept (fleet : Fleet) (env : Environment) (ttl : Int) (jobs : ι → Job)
    (s : FleetState) (before after : List (Move ι Surroundings)) (d : ι) (cluster : String)
    (hjob : jobs d = .drain cluster)
    (hwrite : drains env ttl cluster ((interleave env ttl before (start fleet jobs s)).1 d)
      (interleave env ttl before (start fleet jobs s)).2 = true)
    (hfresh : ∀ i, i ≠ d → finished ((interleave env ttl before (start fleet jobs s)).1 i) = false →
      stale (jobs i) cluster ((interleave env ttl before (start fleet jobs s)).pasts i) = false)
    (hsync : Without env ttl jobs (fun job _ => resyncs cluster job) after
      (interleave env ttl (before ++ [.thread d]) (start fleet jobs s)))
    (hactive : Without env ttl jobs (activates cluster) after
      (interleave env ttl (before ++ [.thread d]) (start fleet jobs s)))
    (hsucceeded : succeeded ((interleave env ttl (before ++ .thread d :: after)
      (start fleet jobs s)).1 d) = true) :
    Drained cluster (interleave env ttl (before ++ .thread d :: after) (start fleet jobs s)).2 := by
  have hmeet := allMeet_interleave fleet env ttl jobs s (before ++ [.thread d])
  rw [interleave_append] at hsucceeded hsync hactive hmeet ⊢
  have hkept := kept_of_drains (allMeet_interleave fleet env ttl jobs s before) hjob hwrite hfresh
  obtain ⟨hends, hkept, -⟩ := Pool.exec_rule_each (answer env ttl) surround (R := fun _ _ => True)
    (fun _ => trivial) (fun _ _ _ _ _ => trivial)
    (fun pasts s i c h hG hC => ⟨h.step (congrArg not hG.1) hG.2 hC.1 hC.2, trivial⟩)
    (fun pasts s w h => ⟨⟨h.written, h.kept⟩, trivial⟩) after (allMeet_unfinished hmeet) hkept
    (hsync.and _ _ hactive)
  have honce := once_of_succeeded hjob (hends d) hsucceeded
  exact (hkept.kept.resolve_left fun htwice => absurd (htwice.trans_eq honce) (by decide)).1

end Runs

def drainAndReport : Bool → Job
  | false => .drain "east"
  | true => .agentStatus (some (utf8 "\x7b\"cluster_id\":\"east\",\"healthy\":true\x7d"))

def drained (n : Nat) : List (Move Bool Surroundings) := List.replicate n (.thread false)
def reported (n : Nat) : List (Move Bool Surroundings) := List.replicate n (.thread true)

/-- The report reads the record between the drain's write and its end. -/
theorem drain_kept_report :
    let run := interleave quietEnvironment halfHour
      (drained 2 ++ .thread false :: (reported 1 ++ drained 2 ++ reported 1))
      (start sampleFleet drainAndReport sampleState)
    (∀ i, finished (run.1 i) = true) ∧ Drained "east" run.2 := by
  refine ⟨by decide +kernel, ?_⟩
  exact drain_kept sampleFleet quietEnvironment halfHour drainAndReport sampleState (drained 2)
    (reported 1 ++ drained 2 ++ reported 1) false "east" rfl (by decide +kernel)
    (by decide +kernel) (by decide +kernel) (by decide +kernel) (by decide +kernel)

/-- The report reads the record before the drain and writes it after the drain has succeeded. -/
theorem report_undoes_drain :
    let run := interleave quietEnvironment halfHour (reported 1 ++ drained 5 ++ reported 1)
      (start sampleFleet drainAndReport sampleState)
    succeeded (run.1 false) = true ∧
      (run.2.1.clusters.find "east").map (·.status) = some clusterStatusRunning := by
  decide +kernel

end FleetLlmd.Drain
