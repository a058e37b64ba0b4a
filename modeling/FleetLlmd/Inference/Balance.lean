import FleetLlmd.Inference.Providers
import FleetLlmd.Rotation.Stride

/-!
# How evenly requests are spread

Requests without a session that name the same model, served one after another while the
healthy providers of that model stay the same. One counter, shared by all selections,
says whose turn it is. A request for the CPU model takes one turn. A request for the GPU
model takes two, since it is given a provider twice, so over an even number of providers
every other one is left out.
-/

namespace FleetLlmd.Inference
open Go Effect Quota Sql Rotation

section Balance
variable {τ ε : Type}

def counted (E : Handler (inferenceCalls τ) ε) : Handler (inferenceCalls τ) (Nat × ε)
  | .inr .routeCounter, s => ((s.1 % 2 ^ 64 : Nat), (s.1 + 1, s.2))
  | c, s => ((E c s.2).1, (s.1, (E c s.2).2))

def trails (tx : τ) (fc : FleetController) (E : Handler (inferenceCalls τ) ε) :
    List Request → Nat × ε → List Trail
  | [], _ => []
  | r :: requests, s =>
    handlerTrail r.sessionID ((handleInference tx fc r).trace (counted E) s).reverse ::
      trails tx fc E requests ((handleInference tx fc r).run (counted E) s).2

def targets (ts : List Trail) : List String :=
  ts.flatMap fun t => t.sent.map (·.targetCluster)

structure Once (t : Trail) : Prop where
  sent : t.sent.length = 1
  late : t.late = 0

instance (t : Trail) : Decidable (Once t) :=
  decidable_of_iff (t.sent.length = 1 ∧ t.late = 0)
    ⟨fun h => ⟨h.1, h.2⟩, fun h => ⟨h.sent, h.late⟩⟩

def turnsOf (modelClass : ModelClass) : Nat := if modelClass = .gpu then 2 else 1

structure Turned (fc : FleetController) (model : String) (providers : List String) (start : Nat)
    (t : Trail) (count : Nat) : Prop where
  count : count = start + t.turns + t.late
  late : t.sent = [] → t.late = 0
  last : ∀ n, t.count = some n → n = (start + t.turns - 1) % 2 ^ 64
  views : ∀ view ∈ t.views, fc.healthyProviders model view = providers

variable {tx : τ} {fc : FleetController} {E : Handler (inferenceCalls τ) ε} {model : String}
variable {providers : List String} {start : Nat}

theorem Turned.step {past : List (Event (inferenceCalls τ))} {s : Nat × ε} {sid : String}
    (hviews : ∀ e, fc.healthyProviders model (E (.inr .inferenceClusterHealth) e).1 = providers)
    (h : Turned fc model providers start (handlerTrail sid past) s.1)
    (c : (inferenceCalls τ).Call) :
    Turned fc model providers start (handlerTrail sid (⟨c, (counted E c s).1⟩ :: past))
      (counted E c s).2.1 := by
  have hsession (c : GatewayCall) (hc : isSession c = true) (x : gatewayCalls.Answer c) :
      Turned fc model providers start (handlerTrail sid (⟨.inr c, x⟩ :: past)) s.1 := by
    obtain ⟨bound, tier, binding, hafter⟩ := Trail.after_session sid (handlerTrail sid past) hc x
    rw [handlerTrail_inr, hafter]
    exact ⟨h.count, h.late, h.last, h.views⟩
  cases c with
  | inl st => exact h
  | inr c =>
    cases c
    case inferenceClusterHealth =>
      refine ⟨h.count, h.late, h.last, fun view hview => ?_⟩
      rcases List.mem_cons.mp hview with rfl | hview
      · exact hviews s.2
      · exact h.views view hview
    case routeCounter =>
      by_cases hsent : (handlerTrail sid past).sent = []
      · have htrail : handlerTrail sid
            (⟨.inr .routeCounter, (counted E (.inr .routeCounter) s).1⟩ :: past) =
            { handlerTrail sid past with
              count := some (s.1 % 2 ^ 64), turns := (handlerTrail sid past).turns + 1 } :=
          if_pos (List.isEmpty_iff.mpr hsent)
        have hcount := h.count
        have hlate := h.late hsent
        rw [htrail]
        refine ⟨?_, h.late, fun n hn => ?_, h.views⟩
        · change s.1 + 1 = start + ((handlerTrail sid past).turns + 1) + (handlerTrail sid past).late
          omega
        · cases hn
          change s.1 % 2 ^ 64 = (start + ((handlerTrail sid past).turns + 1) - 1) % 2 ^ 64
          congr 1
          omega
      · have htrail : handlerTrail sid
            (⟨.inr .routeCounter, (counted E (.inr .routeCounter) s).1⟩ :: past) =
            { handlerTrail sid past with late := (handlerTrail sid past).late + 1 } :=
          if_neg fun hnil => hsent (List.isEmpty_iff.mp hnil)
        have hcount := h.count
        rw [htrail]
        refine ⟨?_, fun hnil => absurd hnil hsent, h.last, h.views⟩
        change s.1 + 1 = start + (handlerTrail sid past).turns + ((handlerTrail sid past).late + 1)
        omega
    case upstream u => exact ⟨h.count, nofun, h.last, h.views⟩
    case lookup | sessionTier | bind | unbind => exact hsession _ rfl _
    all_goals exact ⟨h.count, h.late, h.last, h.views⟩

theorem selectedModel_named {modelClass : ModelClass} (h : modelClass ≠ .unspecified)
    (label cluster : String) :
    fc.selectedModel modelClass label cluster = fc.selectedModel modelClass "" "" := by
  cases modelClass with
  | unspecified => exact absurd rfl h
  | cpu => rfl
  | gpu => rfl

theorem request_turns (hclass : fc.requestedModelClass model ≠ .unspecified)
    (hviews : ∀ e, fc.healthyProviders (fc.selectedModel (fc.requestedModelClass model) "" "")
      (E (.inr .inferenceClusterHealth) e).1 = providers)
    {r : Request} (hmodel : r.model = model) (hsession : r.sessionID = "") (s : Nat × ε)
    (honce : Once
      (handlerTrail r.sessionID ((handleInference tx fc r).trace (counted E) s).reverse)) :
    providers ≠ [] ∧
    ((handleInference tx fc r).run (counted E) s).2.1 =
      s.1 + turnsOf (fc.requestedModelClass model) ∧
    targets [handlerTrail r.sessionID ((handleInference tx fc r).trace (counted E) s).reverse] =
      [roundRobin providers ((s.1 + turnsOf (fc.requestedModelClass model) - 1) % 2 ^ 64)] := by
  have hrun := (handleInference_attempts tx fc r).run (h := counted E)
    (J := fun past z => Turned fc (fc.selectedModel (fc.requestedModelClass model) "" "") providers
      s.1 (handlerTrail r.sessionID past) z.1) (s := s)
    ⟨rfl, fun _ => rfl, nofun, nofun⟩
    (fun past z c h _ => h.step hviews c)
  rw [List.append_nil] at hrun
  generalize handlerTrail r.sessionID ((handleInference tx fc r).trace (counted E) s).reverse = t
    at hrun honce
  obtain ⟨hturned, hexplained⟩ := hrun
  obtain ⟨u, hu⟩ := List.length_eq_one_iff.mp honce.sent
  obtain ⟨x, hlabelled, ⟨cluster, hphysical⟩, hchosen, htarget, -⟩ := hexplained u hu
  have hmodelClass : x.modelClass = fc.requestedModelClass model := by
    rw [hlabelled.modelClass, hmodel]
  rw [hmodelClass, selectedModel_named hclass] at hphysical
  cases hchosen with
  | kept used _ _ _ _ _ _ =>
    rw [hlabelled.sessionID, hsession] at used
    cases used
  | picked view count _ mem last nonempty target _ turns _ =>
    have hproviders := hturned.views view mem
    rw [hphysical, hproviders] at nonempty target
    rw [hmodelClass] at turns
    have hcount := hturned.count
    rw [honce.late, turns] at hcount
    have hlast := hturned.last count last
    rw [turns] at hlast
    refine ⟨nonempty, hcount, ?_⟩
    rw [targets, List.flatMap_singleton, hu, List.map_singleton, htarget, target, hlast]
    rfl

theorem roundRobin_wrapped {count : Nat} (h : count < 2 ^ 64 ∨ providers.length ∣ 2 ^ 64) :
    roundRobin providers (count % 2 ^ 64) = providers.getD (count % providers.length) "" := by
  rw [roundRobin]
  rcases h with hlt | hdvd
  · rw [Nat.mod_eq_of_lt hlt]
  · rw [Nat.mod_mod_of_dvd _ hdvd]

theorem targets_trails (hclass : fc.requestedModelClass model ≠ .unspecified)
    (hviews : ∀ e, fc.healthyProviders (fc.selectedModel (fc.requestedModelClass model) "" "")
      (E (.inr .inferenceClusterHealth) e).1 = providers)
    {requests : List Request} {s : Nat × ε} (hmodel : ∀ r ∈ requests, r.model = model)
    (hsession : ∀ r ∈ requests, r.sessionID = "") (honce : ∀ t ∈ trails tx fc E requests s, Once t)
    (hwrap : s.1 + turnsOf (fc.requestedModelClass model) * requests.length ≤ 2 ^ 64 ∨
      providers.length ∣ 2 ^ 64) :
    (requests = [] ∨ providers ≠ []) ∧ targets (trails tx fc E requests s) =
      stride providers "" (s.1 + turnsOf (fc.requestedModelClass model) - 1)
        (turnsOf (fc.requestedModelClass model)) requests.length := by
  have hturns : 0 < turnsOf (fc.requestedModelClass model) := by
    rw [turnsOf]
    split_ifs <;> decide
  induction requests generalizing s with
  | nil => exact ⟨.inl rfl, rfl⟩
  | cons r requests ih =>
    rw [List.length_cons, Nat.mul_succ] at hwrap
    obtain ⟨hne, hcount, htarget⟩ := request_turns hclass hviews (hmodel r List.mem_cons_self)
      (hsession r List.mem_cons_self) s (honce _ List.mem_cons_self)
    obtain ⟨-, hrest⟩ := ih (fun r' hr' => hmodel r' (List.mem_cons_of_mem _ hr'))
      (fun r' hr' => hsession r' (List.mem_cons_of_mem _ hr'))
      (fun t ht => honce t (List.mem_cons_of_mem _ ht))
      (by rw [hcount]; exact hwrap.imp_left fun h => by omega)
    refine ⟨.inr hne, ?_⟩
    have hcons : targets (trails tx fc E (r :: requests) s) =
        targets [handlerTrail r.sessionID ((handleInference tx fc r).trace (counted E) s).reverse] ++
          targets (trails tx fc E requests ((handleInference tx fc r).run (counted E) s).2) := by
      rw [trails, targets, targets, targets, List.flatMap_cons, List.flatMap_singleton]
    rw [hcons, htarget, hrest, hcount, List.length_cons, stride_succ,
      roundRobin_wrapped (hwrap.imp_left fun h => by omega), List.singleton_append]
    congr 2
    omega

/-- Requests for the CPU model are spread evenly, and requests for the GPU model exactly if the
number of providers is odd or at least twice that of the requests, as long as the counter does not
wrap around in the middle of a round. -/
theorem evenly_spread_iff (model : String) (hclass : fc.requestedModelClass model ≠ .unspecified)
    (hviews : ∀ e, fc.healthyProviders (fc.selectedModel (fc.requestedModelClass model) "" "")
      (E (.inr .inferenceClusterHealth) e).1 = providers) (hnodup : providers.Nodup)
    {requests : List Request} {s : Nat × ε} (hmodel : ∀ r ∈ requests, r.model = model)
    (hsession : ∀ r ∈ requests, r.sessionID = "") (honce : ∀ t ∈ trails tx fc E requests s, Once t)
    (hwrap : s.1 + turnsOf (fc.requestedModelClass model) * requests.length ≤ 2 ^ 64 ∨
      providers.length ∣ 2 ^ 64) :
    Evenly providers (targets (trails tx fc E requests s)) ↔
      fc.requestedModelClass model = .cpu ∨ Odd providers.length ∨
        2 * requests.length ≤ providers.length := by
  obtain ⟨hne, htargets⟩ := targets_trails hclass hviews hmodel hsession honce hwrap
  rw [htargets]
  cases hnamed : fc.requestedModelClass model with
  | unspecified => exact absurd hnamed hclass
  | cpu =>
    refine ⟨fun _ => .inl rfl, fun _ => ?_⟩
    exact evenly_stride hnodup "" _ (Nat.coprime_one_left _) _
  | gpu =>
    rcases hne with rfl | hne
    · exact ⟨fun _ => .inr (.inr (Nat.zero_le _)), fun _ x _ => .inl (Nat.zero_div _).symm⟩
    · rw [show turnsOf .gpu = 2 from rfl, stride_two_iff hnodup hne]
      exact ⟨.inr, fun h => h.resolve_left nofun⟩

end Balance

def pairController : FleetController where
  modelProviderClusters := [(defaultCPUModel, ["east", "west"]), (defaultGPUModel, ["east", "west"])]
  praxisURL := "http://praxis"

def pairWorld : World
  | .inferenceClusterHealth =>
    [{ clusterID := "west", healthy := true }, { clusterID := "east", healthy := true }]
  | c => sampleWorld c

def pairAnswers : Handler (inferenceCalls Unit) (Database Row Unit × Unit) :=
  Handler.sum Database.execute fun c _ => (pairWorld c, ())

def pairRequest (model : String) : Request where
  chat := false
  body := some (utf8 ("\x7b\"prompt\":\"hi\",\"model\":\"" ++ model ++ "\"\x7d"))

def emptyDatabase : Database Row Unit := ⟨fun _ => none, fun _ => none, none⟩

theorem pair_providers : pairController.healthyProviders (pairController.selectedModel
    (pairController.requestedModelClass defaultCPUModel) "" "")
    (pairWorld .inferenceClusterHealth) = ["east", "west"] := by
  decide +kernel

theorem evenly_spread_cpu : Evenly ["east", "west"] (targets (trails () pairController pairAnswers
    [pairRequest defaultCPUModel, pairRequest defaultCPUModel] (0, emptyDatabase, ()))) :=
  (evenly_spread_iff defaultCPUModel (by decide +kernel) (fun _ => pair_providers) (by decide)
    (by decide +kernel) (by decide +kernel) (by decide +kernel) (.inr (by decide))).mpr
    (.inl (by decide +kernel))

/-- Both of two requests for the GPU model go to the second of its two providers. -/
theorem gpu_requests_not_spread :
    (∀ t ∈ trails () pairController pairAnswers
      [pairRequest defaultGPUModel, pairRequest defaultGPUModel] (0, emptyDatabase, ()), Once t) ∧
    targets (trails () pairController pairAnswers
      [pairRequest defaultGPUModel, pairRequest defaultGPUModel] (0, emptyDatabase, ())) =
        ["west", "west"] ∧
    ¬ Evenly ["east", "west"] ["west", "west"] := by
  refine ⟨?_, ?_, ?_⟩ <;> decide +kernel

end FleetLlmd.Inference
