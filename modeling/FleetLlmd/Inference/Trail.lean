import FleetLlmd.Inference.InFlight
import FleetLlmd.Json.Members
import Mathlib.Data.List.GetD

/-!
# How a request comes to its cluster

What a request has been told and what it has done up to some point, as one record folded
over its past. Of a routed request this record says everything: either affinity has kept
it on the cluster its session is bound to, or it went to the healthy provider at which
the round robin stood, and the session, if any, followed it there.
-/

namespace FleetLlmd.Inference
open Go Effect Json Routing

structure Trail where
  result : Option ClassifyResult := none
  /-- The cluster the session was found bound to before the request bound it, and the tier found
  recorded. -/
  bound : Option String := none
  tier : Option String := none
  views : List (List ClusterHealth) := []
  /-- The last value of the route counter and the number of its turns, up to the first attempt. -/
  count : Option Nat := none
  turns : Nat := 0
  /-- Turns of the counter since the first attempt. -/
  late : Nat := 0
  /-- What the session was bound to, or unbound, last. -/
  binding : Option (Option String) := none
  sent : List UpstreamRequest := []

namespace Trail
variable (t : Trail)

def after (sessionID : String) (t : Trail) : Event gatewayCalls → Trail
  | ⟨.classifyPrompt _ _, result⟩ => { t with result := result }
  | ⟨.lookup id, bound⟩ =>
    if id = sessionID ∧ t.binding = none then { t with bound := bound } else t
  | ⟨.sessionTier id, tier⟩ => if id = sessionID then { t with tier := tier } else t
  | ⟨.inferenceClusterHealth, view⟩ => { t with views := view :: t.views }
  | ⟨.routeCounter, count⟩ =>
    if t.sent.isEmpty then { t with count := some count, turns := t.turns + 1 }
    else { t with late := t.late + 1 }
  | ⟨.bind id cluster, _⟩ =>
    if id = sessionID then { t with binding := some (some cluster) } else t
  | ⟨.unbind id, _⟩ => if id = sessionID then { t with binding := some none } else t
  | ⟨.upstream u, _⟩ => { t with sent := u :: t.sent }
  | _ => t

def stays : Bool :=
  t.bound.isSome &&
    (t.result.all fun r => !((t.tier.map tierRank).getD (-1) < tierRank r.topLabel))

def label : String := (t.result.map (·.topLabel)).getD ""

def turned (view : List ClusterHealth) (count : Nat) : Trail :=
  { t with views := view :: t.views, count := some count, turns := t.turns + 1 }

def rebound (used : Bool) (cluster : String) : Trail :=
  if used then { t with binding := some (some cluster) } else t

end Trail

def trail (sessionID : String) (past : List (Event gatewayCalls)) : Trail :=
  past.foldr (fun e t => t.after sessionID e) {}

@[simp] theorem trail_cons (sessionID : String) (e : Event gatewayCalls)
    (past : List (Event gatewayCalls)) :
    trail sessionID (e :: past) = (trail sessionID past).after sessionID e := rfl

def isSession : GatewayCall → Bool
  | .lookup _ | .sessionTier _ | .bind _ _ | .unbind _ => true
  | _ => false

theorem Trail.after_session (sid : String) (t : Trail) {c : GatewayCall} (h : isSession c = true)
    (x : gatewayCalls.Answer c) : ∃ bound tier binding, t.after sid ⟨c, x⟩ =
      { t with bound := bound, tier := tier, binding := binding } := by
  cases c
  case lookup | sessionTier | bind | unbind =>
    simp only [Trail.after]
    split_ifs <;> exact ⟨_, _, _, rfl⟩
  all_goals cases h

namespace FleetController
variable (fc : FleetController)

def healthyProviders (model : String) (view : List ClusterHealth) : List String :=
  sortStrings ((view.filter fun c =>
    c.clusterID != "" && (fc.modelProviders model).contains c.clusterID && c.healthy).map
      (·.clusterID))

def selectedModel (modelClass : ModelClass) (label cluster : String) : String :=
  if modelClass = .gpu || (modelClass = .unspecified &&
    (label == "COMPLEX" || label == "REASONING" ||
      fc.providerServesModel cluster fc.gpuPhysicalModel))
  then fc.gpuPhysicalModel else fc.cpuPhysicalModel

def keeps (modelClass : ModelClass) (t : Trail) : Bool :=
  t.stays && modelClass ≠ .gpu &&
    fc.selectedModel modelClass t.label (t.bound.getD "") == fc.cpuPhysicalModel

end FleetController

def roundRobin (providers : List String) (count : Nat) : String :=
  providers.getD (count % providers.length) ""

theorem roundRobin_mem {providers : List String} (h : providers ≠ []) (count : Nat) :
    roundRobin providers count ∈ providers := by
  have hlt : count % providers.length < providers.length :=
    Nat.mod_lt _ (List.length_pos_iff.mpr h)
  rw [roundRobin, List.getD_eq_getElem _ _ hlt]
  exact List.getElem_mem hlt

inductive Chosen (fc : FleetController) (x : Routed) (t : Trail) : Prop
  | kept (used : fc.usesSession x.envelope.sessionID = true)
      (keeps : fc.keeps x.modelClass t = true) (bound : t.bound = some x.decision.targetCluster)
      (model : x.physicalModel = fc.cpuPhysicalModel) (binding : t.binding = none)
      (turns : t.turns = 0) (unread : t.sent = [] → t.views = [])
  | picked (view : List ClusterHealth) (count : Nat) (keeps : fc.keeps x.modelClass t = false)
      (mem : view ∈ t.views) (last : t.count = some count)
      (providers : fc.healthyProviders x.physicalModel view ≠ [])
      (target : x.decision.targetCluster =
        roundRobin (fc.healthyProviders x.physicalModel view) count)
      (binding : fc.usesSession x.envelope.sessionID = true →
        t.binding = some (some x.decision.targetCluster))
      (turns : t.turns = if x.modelClass = .gpu then 2 else 1)
      (escalated : t.stays = true → x.physicalModel = fc.gpuPhysicalModel)

def Request.sessionID (r : Request) : String :=
  match FleetController.decodeBody r with
  | .ok (envelope, _, _) => envelope.sessionID
  | .error _ => ""

def Request.model (r : Request) : String :=
  match FleetController.decodeBody r with
  | .ok (envelope, _, _) => envelope.model
  | .error _ => ""

structure Labelled (fc : FleetController) (r : Request) (x : Routed) : Prop where
  sessionID : x.envelope.sessionID = r.sessionID
  modelClass : x.modelClass = fc.requestedModelClass r.model

/-! ## Routing -/

section Routes
variable {fc : FleetController} {r : Request} {sid : String} {past : List (Event gatewayCalls)}

abbrev Routes {α : Type} (sid : String) (R : Trail → α → Prop) (p : Prog gatewayCalls α)
    (past : List (Event gatewayCalls)) : Prop :=
  p.Meets (fun _ c => isRouting c = true) (fun past a => R (trail sid past) a) past

theorem Routes.andThen {α β : Type} {R : Trail → α → Prop} {R' : Trail → β → Prop}
    {p : Prog gatewayCalls (Except Reply α)} {next : α → Prog gatewayCalls (Except Reply β)}
    (hp : Routes sid (fun t => Keeps (R t)) p past)
    (hnext : ∀ a past, R (trail sid past) a → Routes sid (fun t => Keeps (R' t)) (next a) past) :
    Routes sid (fun t => Keeps (R' t)) (FleetController.andThen p next) past := by
  apply (Prog.meets_bind _ _ _).mpr
  refine hp.imp ?_
  intro past result hresult
  cases result with
  | error reply => trivial
  | ok a => exact hnext a past hresult

theorem Trail.sent_after {c : GatewayCall} (h : isRouting c = true) (t : Trail) (x : c.Answer) :
    (t.after sid ⟨c, x⟩).sent = t.sent := by
  cases c <;> first | rfl | (simp only [Trail.after]; split_ifs <;> rfl) | cases h

theorem Routes.unsent {α : Type} {R : Trail → α → Prop} {p : Prog gatewayCalls (Except Reply α)}
    (hp : Routes sid (fun t => Keeps (R t)) p past) (hsent : (trail sid past).sent = []) :
    Routes sid (fun t => Keeps fun a => t.sent = [] ∧ R t a) p past := by
  have hkeep := hp.keep (J := fun past => (trail sid past).sent = [])
    (fun _ _ _ h hrouting => (Trail.sent_after hrouting _ _).trans h) hsent
  refine hkeep.imp ?_
  intro past result hresult
  cases result with
  | error reply => trivial
  | ok a => exact hresult

theorem nextHealthyProvider_routes (model : String) (hsent : (trail sid past).sent = []) :
    Routes sid (fun t provider => provider ≠ "" → ∃ view count,
      fc.healthyProviders model view ≠ [] ∧
      provider = roundRobin (fc.healthyProviders model view) count ∧
      t = (trail sid past).turned view count) (fc.nextHealthyProvider model) past := by
  refine ⟨rfl, fun view => ?_⟩
  change Prog.Meets _ _ (if (fc.healthyProviders model view).isEmpty then Prog.done ""
    else Prog.call (S := gatewayCalls) .routeCounter fun (count : Nat) =>
      .done (roundRobin (fc.healthyProviders model view) count)) _
  split_ifs with hempty
  · exact fun hne => absurd rfl hne
  · refine ⟨rfl, fun count _ => ⟨view, count, ?_, rfl, ?_⟩⟩
    · exact fun hnil => hempty (by rw [hnil]; rfl)
    · exact if_pos (congrArg List.isEmpty hsent)

def Routed.moved (x : Routed) (cluster reason : String) : Routed :=
  { x with decision := { x.decision with targetCluster := cluster, reason := reason } }

theorem moveToProvider_routes (x : Routed) (model missing reason : String)
    (hsid : x.envelope.sessionID = sid) (hsent : (trail sid past).sent = []) :
    Routes sid (fun t => Keeps fun y => ∃ view count,
      fc.healthyProviders model view ≠ [] ∧
      y = x.moved (roundRobin (fc.healthyProviders model view) count) reason ∧
      t = ((trail sid past).turned view count).rebound
        (fc.usesSession x.envelope.sessionID) (roundRobin (fc.healthyProviders model view) count))
      (fc.moveToProvider x model missing reason) past := by
  subst hsid
  apply (Prog.meets_bind _ _ _).mpr
  refine (nextHealthyProvider_routes model hsent).imp ?_
  intro past' provider hprovider
  split_ifs with hnone
  · trivial
  · obtain ⟨view, count, hview, rfl, htrail⟩ := hprovider (by simpa using hnone)
    rw [FleetController.rebind]
    split_ifs with hsession
    · refine ⟨rfl, fun _ => ⟨rfl, fun _ => ⟨view, count, hview, rfl, ?_⟩⟩⟩
      rw [trail_cons, trail_cons, htrail, hsession]
      simp only [Trail.after, Trail.rebound, if_true]
    · refine ⟨view, count, hview, rfl, ?_⟩
      rw [htrail, Trail.rebound, if_neg hsession]

structure Decided (used : Bool) (t : Trail) (resp : RouteResponse) : Prop where
  turns : t.turns = 0
  label : resp.semanticLabel = t.label
  affinity : resp.reason = "session-affinity" ∧ used = true ∧ t.stays = true ∧
      t.bound = some resp.targetCluster ∧ t.views = [] ∧ t.binding = none ∨
    resp.reason ≠ "session-affinity" ∧ t.stays = false

def Decides (used : Bool) (t : Trail) : Except Error RouteResponse → Prop
  | .ok resp => Decided used t resp
  | .error _ => True

theorem append_ne_affinity (head tail : String)
    (h : head.toList.isPrefixOf "session-affinity".toList = false) :
    head ++ tail ≠ "session-affinity" := by
  intro heq
  have hprefix : head.toList <+: "session-affinity".toList := by
    rw [← heq, String.toList_append]
    exact List.prefix_append _ _
  rw [List.isPrefixOf_iff_prefix.mpr hprefix] at h
  cases h

theorem ne_affinity_of_reasoned {d : RouteDecision} (h : Reasoned d) :
    d.reason ≠ "session-affinity" := by
  rcases h with hmem | ⟨tier, htier⟩
  · intro heq
    rw [heq] at hmem
    revert hmem
    decide
  · rw [htier]
    exact append_ne_affinity _ _ (by decide)

theorem trail_bind (cluster : String) (u : gatewayCalls.Answer (.bind sid cluster)) :
    trail sid (⟨.bind sid cluster, u⟩ :: past) =
      { trail sid past with binding := some (some cluster) } := if_pos rfl

theorem trail_unbind (u : gatewayCalls.Answer (.unbind sid)) :
    trail sid (⟨.unbind sid, u⟩ :: past) = { trail sid past with binding := some none } :=
  if_pos rfl

theorem routeByPolicy_routes (req : RouteRequest) (result : Option ClassifyResult)
    (escalated : Bool) (hresult : (trail req.sessionID past).result = result)
    (hturns : (trail req.sessionID past).turns = 0)
    (hstays : (trail req.sessionID past).stays = false) :
    Routes req.sessionID (Decides (fc.usesSession req.sessionID))
      (fc.routeByPolicy req result escalated) past := by
  refine ⟨rfl, fun view => ⟨rfl, fun policy => ?_⟩⟩
  dsimp only
  cases hevaluate : evaluate (fc.routingRequest req result) view (policy.getD {}) with
  | error err => trivial
  | ok decision =>
    dsimp only
    generalize hreason : (if escalated then "escalated:" ++ decision.reason else decision.reason) =
      reason
    have hne : reason ≠ "session-affinity" := by
      rw [← hreason]
      split_ifs
      · exact append_ne_affinity _ _ (by decide)
      · exact ne_affinity_of_reasoned (evaluate_reasoned hevaluate)
    have hdecided (resp : RouteResponse) (hlabel : resp.semanticLabel = "")
        (hresp : resp.reason = reason) (binding : Option (Option String)) :
        Decided (fc.usesSession req.sessionID) { trail req.sessionID past with
          views := view :: (trail req.sessionID past).views, binding := binding }
          (resp.classified result) := by
      refine ⟨hturns, ?_, .inr ⟨?_, hstays⟩⟩
      · rw [Trail.label, hresult]
        cases result with
        | none => exact hlabel
        | some label => rfl
      · cases result with
        | none => exact hresp ▸ hne
        | some label => exact hresp ▸ hne
    split_ifs with hsession
    · cases result with
      | none =>
        refine ⟨rfl, fun bound => ?_⟩
        change Decided _ (trail req.sessionID (⟨.bind req.sessionID _, bound⟩ :: _)) _
        rw [trail_bind]
        exact hdecided _ rfl rfl _
      | some label =>
        refine ⟨rfl, fun bound => ⟨rfl, fun _ => ?_⟩⟩
        change Decided _ (trail req.sessionID (⟨.bind req.sessionID _, bound⟩ :: _)) _
        rw [trail_bind]
        exact hdecided _ rfl rfl _
    · exact hdecided _ rfl rfl (trail req.sessionID past).binding

theorem routeBound_routes (req : RouteRequest) (result : Option ClassifyResult)
    (boundCluster : String) (hused : fc.usesSession req.sessionID = true)
    (hpast : trail req.sessionID past = { result := result, bound := some boundCluster }) :
    Routes req.sessionID (Decides (fc.usesSession req.sessionID))
      (fc.routeBound req result boundCluster) past := by
  cases result with
  | none =>
    change Decided _ _ _
    rw [hpast]
    exact ⟨rfl, rfl, .inl ⟨rfl, hused, rfl, rfl, rfl, rfl⟩⟩
  | some label =>
    refine ⟨rfl, fun (tier : Option String) => ?_⟩
    have htier : trail req.sessionID (⟨.sessionTier req.sessionID, tier⟩ :: past) =
        { result := some label, bound := some boundCluster, tier := tier } := by
      rw [trail_cons, hpast]
      exact if_pos rfl
    have hstays : ({ result := some label, bound := some boundCluster, tier := tier } : Trail).stays =
        !decide ((tier.map tierRank).getD (-1) < tierRank label.topLabel) := rfl
    dsimp only
    split_ifs with hrisen
    · refine ⟨rfl, fun unbound => ?_⟩
      have hunbound : trail req.sessionID (⟨.unbind req.sessionID, unbound⟩ ::
          ⟨.sessionTier req.sessionID, tier⟩ :: past) =
          { result := some label, bound := some boundCluster, tier := tier
            binding := some none } := by
        rw [trail_unbind, htier]
      apply routeByPolicy_routes req (some label) true
      · rw [hunbound]
      · rw [hunbound]
      · rw [hunbound]
        exact hstays.trans (by rw [decide_eq_true hrisen]; rfl)
    · change Decided _ _ _
      rw [htier]
      refine ⟨rfl, rfl, .inl ⟨rfl, hused, hstays.trans ?_, rfl, rfl, rfl⟩⟩
      rw [decide_eq_false hrisen]
      rfl

theorem classifyAndRoute_routes (req : RouteRequest) (hpast : trail req.sessionID past = {}) :
    Routes req.sessionID (Decides (fc.usesSession req.sessionID)) (fc.classifyAndRoute req) past := by
  refine ⟨rfl, fun result => ?_⟩
  have hclassified : trail req.sessionID
      (⟨.classifyPrompt req.text req.requestID, result⟩ :: past) = { result := result } := by
    rw [trail_cons, hpast]
    rfl
  dsimp only
  split_ifs with hused
  · refine ⟨rfl, fun bound => ?_⟩
    have hfound : trail req.sessionID (⟨.lookup req.sessionID, bound⟩ ::
        ⟨.classifyPrompt req.text req.requestID, result⟩ :: past) =
        { result := result, bound := bound } := by
      rw [trail_cons, hclassified]
      exact if_pos ⟨rfl, rfl⟩
    cases bound with
    | none =>
      apply routeByPolicy_routes req result false
      · rw [hfound]
      · rw [hfound]
      · rw [hfound]
        rfl
    | some boundCluster => exact routeBound_routes req result boundCluster hused hfound
  · apply routeByPolicy_routes req result false
    · rw [hclassified]
    · rw [hclassified]
    · rw [hclassified]
      rfl

theorem requestID_routes (sid : String) : Routes sid (fun t _ => t = trail sid past)
    (requestID r) past := by
  rw [requestID]
  dsimp only
  split_ifs
  · rfl
  · exact ⟨rfl, fun _ => rfl⟩

theorem classify_routes (hpast : trail r.sessionID past = {}) :
    Routes r.sessionID
      (fun t => Keeps fun x =>
        Labelled fc r x ∧ Decided (fc.usesSession x.envelope.sessionID) t x.decision)
      (fc.classify r) past := by
  rw [FleetController.classify]
  cases hdecoded : FleetController.decodeBody r with
  | error reply => trivial
  | ok decoded =>
    obtain ⟨envelope, members, text⟩ := decoded
    have hsession : r.sessionID = envelope.sessionID := by rw [Request.sessionID, hdecoded]
    have hmodel : r.model = envelope.model := by rw [Request.model, hdecoded]
    apply (Prog.meets_bind _ _ _).mpr
    rw [hsession] at hpast ⊢
    refine (requestID_routes envelope.sessionID).imp ?_
    intro past' requestID htrail
    apply (Prog.meets_bind _ _ _).mpr
    refine (classifyAndRoute_routes ⟨text, requestID, envelope.model, r.tenantID envelope,
      envelope.sessionID, envelope.policy⟩ (htrail.trans hpast)).imp ?_
    intro past'' result hdecides
    cases result with
    | error err => trivial
    | ok decision => exact ⟨⟨hsession.symm, by rw [hmodel]⟩, hdecides⟩

structure Explicit (fc : FleetController) (r : Request) (t : Trail) (x : Routed) : Prop where
  labelled : Labelled fc r x
  sent : t.sent = []
  label : x.decision.semanticLabel = t.label
  decided : x.modelClass = .gpu ∧ t.turns = 1 ∧ x.decision.reason ≠ "session-affinity" ∨
    x.modelClass ≠ .gpu ∧ Decided (fc.usesSession x.envelope.sessionID) t x.decision

theorem FleetController.keeps_moved (cls : ModelClass) (t : Trail) (view : List ClusterHealth)
    (count : Nat) (used : Bool) (cluster : String) :
    fc.keeps cls ((t.turned view count).rebound used cluster) = fc.keeps cls t := by
  cases used <;> rfl

variable {x : Routed}

theorem chosen_of_move {t : Trail} {view : List ClusterHealth} (count : Nat)
    (reason : String) (hkeeps : fc.keeps x.modelClass t = false)
    (hturns : t.turns + 1 = if x.modelClass = .gpu then 2 else 1)
    (hview : fc.healthyProviders x.physicalModel view ≠ [])
    (hescalated : t.stays = true → x.physicalModel = fc.gpuPhysicalModel) :
    Chosen fc (x.moved (roundRobin (fc.healthyProviders x.physicalModel view) count) reason)
      ((t.turned view count).rebound (fc.usesSession x.envelope.sessionID)
        (roundRobin (fc.healthyProviders x.physicalModel view) count)) := by
  refine .picked view count ?_ ?_ ?_ hview rfl ?_ ?_ ?_
  · rw [FleetController.keeps_moved]
    exact hkeeps
  · cases fc.usesSession x.envelope.sessionID <;> exact List.mem_cons_self
  · cases fc.usesSession x.envelope.sessionID <;> rfl
  · intro (hsession : fc.usesSession x.envelope.sessionID = true)
    rw [hsession]
    rfl
  · cases fc.usesSession x.envelope.sessionID <;> exact hturns
  · cases fc.usesSession x.envelope.sessionID <;> exact hescalated

theorem Explicit.not_kept {t : Trail} (h : Explicit fc r t x)
    (hmoved : x.decision.reason ≠ "session-affinity" ∨
      fc.selectedModel x.modelClass x.decision.semanticLabel x.decision.targetCluster ≠
        fc.cpuPhysicalModel) : fc.keeps x.modelClass t = false := by
  rw [FleetController.keeps]
  rcases h.decided with ⟨hgpu, -, -⟩ | ⟨-, hdecided⟩
  · simp [hgpu]
  · rcases hdecided.affinity with ⟨hreason, -, -, hbound, -, -⟩ | ⟨-, hstays⟩
    · have hmodel := hmoved.resolve_left (fun hne => hne hreason)
      rw [h.label] at hmodel
      rw [hbound, Option.getD_some, beq_eq_false_iff_ne.mpr hmodel, Bool.and_false]
    · rw [hstays, Bool.false_and, Bool.false_and]

theorem FleetController.selectedModel_of_ne {cls : ModelClass} {label cluster : String}
    (h : fc.selectedModel cls label cluster ≠ fc.cpuPhysicalModel) :
    fc.selectedModel cls label cluster = fc.gpuPhysicalModel := by
  rw [FleetController.selectedModel] at h ⊢
  split_ifs at h ⊢
  · rfl
  · exact absurd rfl h

theorem Explicit.escalated {t : Trail} (h : Explicit fc r t x)
    (hmoved : x.decision.reason ≠ "session-affinity" ∨
      fc.selectedModel x.modelClass x.decision.semanticLabel x.decision.targetCluster ≠
        fc.cpuPhysicalModel) (hstays : t.stays = true) :
    fc.selectedModel x.modelClass x.decision.semanticLabel x.decision.targetCluster =
      fc.gpuPhysicalModel := by
  rcases h.decided with ⟨hgpu, -, -⟩ | ⟨-, hdecided⟩
  · rw [hgpu]
    rfl
  · rcases hdecided.affinity with ⟨hreason, -⟩ | ⟨-, hunbound⟩
    · exact FleetController.selectedModel_of_ne (hmoved.resolve_left fun hne => hne hreason)
    · rw [hstays] at hunbound
      cases hunbound

theorem Explicit.turns {t : Trail} (h : Explicit fc r t x) :
    t.turns + 1 = if x.modelClass = .gpu then 2 else 1 := by
  rcases h.decided with ⟨hgpu, hturns, -⟩ | ⟨hgpu, hdecided⟩
  · rw [if_pos hgpu, hturns]
  · rw [if_neg hgpu, hdecided.turns]

structure Headed (fc : FleetController) (r : Request) (t : Trail) (x : Routed) : Prop where
  labelled : Labelled fc r x
  sent : t.sent = []
  model : ∃ cluster, x.physicalModel = fc.selectedModel x.modelClass t.label cluster
  chosen : Chosen fc x t

theorem selectExplicit_routes (hlabelled : Labelled fc r x)
    (hsent : (trail r.sessionID past).sent = [])
    (hdecided : Decided (fc.usesSession x.envelope.sessionID) (trail r.sessionID past)
      x.decision) :
    Routes r.sessionID (fun t => Keeps (Explicit fc r t)) (fc.selectExplicit x) past := by
  rw [FleetController.selectExplicit]
  split_ifs with hgpu
  · refine (moveToProvider_routes x _ _ _ hlabelled.sessionID hsent).imp ?_
    intro past' result hmoved
    cases result with
    | error reply => trivial
    | ok y =>
      obtain ⟨view, count, -, rfl, htrail⟩ := hmoved
      rw [htrail]
      refine ⟨⟨hlabelled.sessionID, hlabelled.modelClass⟩, ?_, ?_, .inl ⟨hgpu, ?_, ?_⟩⟩
      · cases fc.usesSession x.envelope.sessionID <;> exact hsent
      · cases fc.usesSession x.envelope.sessionID <;> exact hdecided.label
      · cases fc.usesSession x.envelope.sessionID <;> exact congrArg (· + 1) hdecided.turns
      · exact (by decide : "explicit-model" ≠ "session-affinity")
  · exact ⟨hlabelled, hsent, hdecided.label, .inr ⟨hgpu, hdecided⟩⟩

theorem Explicit.move (h : Explicit fc r (trail r.sessionID past) x)
    {model : String} (missing reason : String)
    (hmodel : model = fc.selectedModel x.modelClass x.decision.semanticLabel
      x.decision.targetCluster)
    (hmoved : x.decision.reason ≠ "session-affinity" ∨ model ≠ fc.cpuPhysicalModel) :
    Routes r.sessionID (fun t => Keeps fun y => Headed fc r t y ∧ y.physicalModel = model)
      (fc.moveToProvider { x with physicalModel := model } model missing reason) past := by
  have hkeeps := h.not_kept (hmodel ▸ hmoved)
  refine (moveToProvider_routes { x with physicalModel := model } _ _ _ h.labelled.sessionID
    h.sent).imp ?_
  intro past' result hmove
  cases result with
  | error reply => trivial
  | ok y =>
    obtain ⟨view, count, hview, rfl, htrail⟩ := hmove
    rw [htrail]
    refine ⟨⟨⟨h.labelled.sessionID, h.labelled.modelClass⟩, ?_, ⟨x.decision.targetCluster, ?_⟩, ?_⟩,
      rfl⟩
    · cases fc.usesSession x.envelope.sessionID <;> exact h.sent
    · rw [hmodel, h.label] at *
      cases fc.usesSession x.envelope.sessionID <;> rfl
    · exact chosen_of_move (x := { x with physicalModel := model }) count reason hkeeps h.turns hview
        fun hstays => hmodel.trans (h.escalated (hmodel ▸ hmoved) hstays)

/-- Once its explicit model has a provider, a request goes to one of its selected model, or stays
where its session is bound. -/
theorem Explicit.select (h : Explicit fc r (trail r.sessionID past) x) :
    Routes r.sessionID (fun t => Keeps (Headed fc r t))
      (FleetController.andThen (fc.selectGPU (fc.selectModel x)) fc.selectCPU) past := by
  obtain ⟨model, hmodel⟩ : ∃ model, model = fc.selectedModel x.modelClass
      x.decision.semanticLabel x.decision.targetCluster := ⟨_, rfl⟩
  have hselected : fc.selectModel x = { x with physicalModel := model } := by
    rw [hmodel]
    rfl
  rw [hselected]
  by_cases hcpu : model = fc.cpuPhysicalModel
  · have hgpu : fc.selectGPU { x with physicalModel := model } =
        .done (.ok { x with physicalModel := model }) :=
      if_neg (by simpa using hcpu)
    rw [hgpu]
    change Routes r.sessionID _ (fc.selectCPU { x with physicalModel := model }) past
    rw [FleetController.selectCPU]
    by_cases hreason : x.decision.reason = "session-affinity"
    · rw [if_neg (by simp [hreason])]
      obtain ⟨hclass, hdecided⟩ := h.decided.resolve_left fun hexplicit => hexplicit.2.2 hreason
      obtain ⟨-, hused, hstays, hbound, hviews, hbinding⟩ :=
        hdecided.affinity.resolve_right fun hpolicy => hpolicy.1 hreason
      refine ⟨⟨h.labelled.sessionID, h.labelled.modelClass⟩, h.sent, ⟨x.decision.targetCluster, ?_⟩,
        .kept hused ?_ hbound hcpu hbinding hdecided.turns fun _ => hviews⟩
      · rw [hmodel, h.label]
      · rw [FleetController.keeps, hstays, hbound, Option.getD_some, ← h.label, ← hmodel, hcpu]
        simpa using hclass
    · rw [if_pos (by simp [hcpu, hreason])]
      refine (h.move _ _ hmodel (.inl hreason)).imp ?_
      intro past' result hresult
      cases result with
      | error reply => trivial
      | ok y => exact hresult.1
  · apply Routes.andThen (R := fun t y => Headed fc r t y ∧ y.physicalModel = model)
    · rw [FleetController.selectGPU, if_pos (by simpa using hcpu)]
      exact h.move _ _ hmodel (.inr hcpu)
    · intro y past' hy
      rw [FleetController.selectCPU, if_neg (by simp [hy.2, hcpu])]
      exact hy.1

theorem route_headed (hpast : trail r.sessionID past = {}) :
    Routes r.sessionID (fun t => Keeps (Headed fc r t)) (fc.route r) past := by
  apply ((classify_routes hpast).unsent (by rw [hpast])).andThen
  intro x past hclassified
  obtain ⟨hsent, hlabelled, hdecided⟩ := hclassified
  exact (selectExplicit_routes hlabelled hsent hdecided).andThen fun x past h => h.select

end Routes

/-! ## Serving -/

def Dispatched (fc : FleetController) (r : Request) (t : Trail) (u : UpstreamRequest) : Prop :=
  ∃ x, Labelled fc r x ∧
    (∃ cluster, x.physicalModel = fc.selectedModel x.modelClass t.label cluster) ∧
    Chosen fc x t ∧ u.targetCluster = x.decision.targetCluster ∧
    u.body = forwardedBody x.members x.physicalModel

def Provided (fc : FleetController) (t : Trail) (u : UpstreamRequest) : Prop :=
  ∃ model, lookupKey "model" u.body = some (.string (goEscaping.body model)) ∧
    u.targetCluster ∈ fc.modelProviders model ∧
    ∃ view ∈ t.views, ∃ c ∈ view, c.clusterID = u.targetCluster ∧ c.healthy = true

structure Attempt (fc : FleetController) (r : Request) (t : Trail) (u : UpstreamRequest) : Prop where
  first : t.sent = [] → Dispatched fc r t u
  again : t.sent ≠ [] → Provided fc t u

def Explained (fc : FleetController) (r : Request) (t : Trail) : Prop :=
  ∀ u, t.sent = [u] → Dispatched fc r t u

section Serves
variable {fc : FleetController} {r : Request} {past : List (Event gatewayCalls)}

theorem Chosen.later {x : Routed} {t : Trail} (h : Chosen fc x t)
    {views : List (List ClusterHealth)} {sent : List UpstreamRequest} (late : Nat)
    (hviews : t.views ⊆ views) (hsent : sent ≠ []) :
    Chosen fc x { t with views := views, late := late, sent := sent } := by
  cases h with
  | kept used keeps bound model binding turns unread =>
    exact .kept used keeps bound model binding turns fun hnil => absurd hnil hsent
  | picked view count keeps mem last providers target binding turns escalated =>
    exact .picked view count keeps (hviews mem) last providers target binding turns escalated

theorem forwarded_model (members : List (String × Raw)) (physicalModel : String) :
    lookupKey "model" (forwardedBody members physicalModel) =
      some (.string (goEscaping.body physicalModel)) := by
  rw [forwardedBody, lookupKey_filter, lookupKey_insertKey, if_pos rfl]
  intro e he
  rw [he]
  decide

theorem nextHealthyProviderExcluding_late {sid : String} (model excluded : String)
    (hsent : (trail sid past).sent ≠ []) :
    Routes sid (fun t provider => ∃ view late,
      t = { trail sid past with views := view :: (trail sid past).views, late := late } ∧
      (provider ≠ "" → provider ∈ fc.modelProviders model ∧
        ∃ c ∈ view, c.clusterID = provider ∧ c.healthy = true))
      (fc.nextHealthyProviderExcluding model excluded) past := by
  refine ⟨rfl, fun (view : List ClusterHealth) => ?_⟩
  dsimp only
  generalize hproviders : sortStrings _ = providers
  split_ifs with hempty
  · exact ⟨view, (trail sid past).late, rfl, fun hne => absurd rfl hne⟩
  · refine ⟨rfl, fun count => ⟨view, (trail sid past).late + 1, ?_, fun _ => ?_⟩⟩
    · exact if_neg fun hnil => hsent (List.isEmpty_iff.mp hnil)
    · have hmem : roundRobin providers count ∈ providers :=
        roundRobin_mem (by simpa using hempty) count
      change roundRobin providers count ∈ _ ∧ ∃ c ∈ view, c.clusterID = roundRobin providers count ∧ _
      generalize roundRobin providers count = provider at hmem ⊢
      rw [← hproviders, mem_sortStrings] at hmem
      obtain ⟨c, hc, rfl⟩ := List.mem_map.mp hmem
      obtain ⟨hview, heligible⟩ := List.mem_filter.mp hc
      simp only [Bool.and_eq_true, List.contains_iff_mem] at heligible
      exact ⟨heligible.1.2, c, hview, rfl, heligible.2⟩

def Attempts (fc : FleetController) (r : Request) (past : List (Event gatewayCalls))
    (c : GatewayCall) : Prop :=
  ∀ u, c = .upstream u → Attempt fc r (trail r.sessionID past) u

theorem attempts_of_isRouting {c : GatewayCall} (h : isRouting c = true) :
    Attempts fc r past c := by
  intro u heq
  rw [heq] at h
  cases h

theorem explained_of_length {t : Trail} (h : t.sent.length ≠ 1) : Explained fc r t := by
  intro u hu
  rw [hu] at h
  exact absurd rfl h

theorem retry_attempts (x : Routed) (target : InferenceTarget)
    (first : Except UpstreamError UpstreamResponse) {t : Trail} {u : UpstreamRequest}
    (ht : trail r.sessionID past = { t with sent := [u] })
    (hexplained : ∀ views late, t.views ⊆ views →
      Explained fc r { t with views := views, late := late, sent := [u] }) :
    (fc.retry r x target first).Meets (Attempts fc r)
      (fun past _ => Explained fc r (trail r.sessionID past)) past := by
  have hsent : (trail r.sessionID past).sent ≠ [] := by
    rw [ht]
    exact List.cons_ne_nil _ _
  apply (Prog.meets_bind _ _ _).mpr
  refine (nextHealthyProviderExcluding_late x.physicalModel x.decision.targetCluster hsent).mono
    (fun _ _ h => attempts_of_isRouting h) ?_
  rintro past' provider ⟨view, late, htrail, hprovider⟩
  rw [ht] at htrail
  split_ifs with hnone
  · change Explained fc r (trail r.sessionID past')
    rw [htrail]
    exact hexplained _ late (List.subset_cons_self _ _)
  · refine ⟨?_, fun _ => ?_⟩
    · intro u' heq
      cases heq
      obtain ⟨hlisted, c, hc, hid, hhealthy⟩ := hprovider (by simpa using hnone)
      rw [htrail]
      refine ⟨fun hnil => absurd hnil (List.cons_ne_nil _ _), fun _ => ⟨x.physicalModel,
        forwarded_model _ _, hlisted, view, List.mem_cons_self, c, hc, hid, hhealthy⟩⟩
    · apply explained_of_length
      rw [trail_cons, htrail]
      exact (by decide : 2 ≠ 1)

theorem serve_attempts {x : Routed} (h : Headed fc r (trail r.sessionID past) x) :
    (fc.serve r x).Meets (Attempts fc r)
      (fun past _ => Explained fc r (trail r.sessionID past)) past := by
  have hunsent : Explained fc r (trail r.sessionID past) :=
    explained_of_length (by rw [h.sent]; decide)
  rw [FleetController.serve]
  cases fc.inferenceTarget x.physicalModel with
  | error err => exact hunsent
  | ok target =>
    refine ⟨attempts_of_isRouting rfl, fun created => ?_⟩
    dsimp only
    split_ifs with hcreated
    · exact hunsent
    · generalize hu : FleetController.upstreamRequest r x target = u
      have hdispatched (t : Trail) (ht : Chosen fc x t)
          (hlabel : t.label = (trail r.sessionID past).label) : Dispatched fc r t u := by
        obtain ⟨cluster, hmodel⟩ := h.model
        exact ⟨x, h.labelled, ⟨cluster, by rw [hmodel, hlabel]⟩, ht, by rw [← hu]; rfl,
          by rw [← hu]; rfl⟩
      have hexplained (views : List (List ClusterHealth)) (late : Nat)
          (hviews : (trail r.sessionID past).views ⊆ views) :
          Explained fc r
            { trail r.sessionID past with views := views, late := late, sent := [u] } := by
        intro u' hu'
        cases hu'
        exact hdispatched _ (h.chosen.later late hviews (List.cons_ne_nil _ _)) rfl
      refine ⟨?_, fun first => ⟨attempts_of_isRouting rfl, fun canceled => ?_⟩⟩
      · intro u' heq
        cases heq
        exact ⟨fun _ => hdispatched _ h.chosen rfl, fun hne => absurd h.sent hne⟩
      · have hsent : trail r.sessionID (⟨.contextDone, canceled⟩ :: ⟨.upstream u, first⟩ ::
            ⟨.newRequest (target.baseURL ++ r.path), created⟩ :: past) =
            { trail r.sessionID past with sent := [u] } := by
          rw [← h.sent]
          rfl
        dsimp only
        split_ifs
        · exact retry_attempts x target first hsent hexplained
        · change Explained fc r (trail r.sessionID _)
          rw [hsent]
          exact hexplained _ _ (List.Subset.refl _)

end Serves

/-! ## The handler -/

section Handles
variable {τ : Type} {tx : τ} {fc : FleetController} {r : Request} {sid : String}
variable {past : List (Event (inferenceCalls τ))}

def handlerTrail (sid : String) (past : List (Event (inferenceCalls τ))) : Trail :=
  trail sid (rights past)

theorem handlerTrail_inr (c : GatewayCall) (x : gatewayCalls.Answer c) :
    handlerTrail sid (⟨.inr c, x⟩ :: past) = (handlerTrail sid past).after sid ⟨c, x⟩ := rfl

theorem handlerTrail_charging {c : (inferenceCalls τ).Call} (x : (inferenceCalls τ).Answer c)
    (h : isCharging c = true) : handlerTrail sid (⟨c, x⟩ :: past) = handlerTrail sid past := by
  cases c with
  | inl st => rfl
  | inr c => cases c <;> first | rfl | cases h

def HandlerAttempts (fc : FleetController) (r : Request) (past : List (Event (inferenceCalls τ)))
    (c : (inferenceCalls τ).Call) : Prop :=
  ∀ u, c = .inr (.upstream u) → Attempt fc r (handlerTrail r.sessionID past) u

theorem handlerAttempts_charging {c : (inferenceCalls τ).Call} (h : isCharging c = true) :
    HandlerAttempts fc r past c := by
  intro u heq
  rw [heq] at h
  cases h

theorem handlerAttempts_inr {c : GatewayCall} (h : Attempts fc r (rights past) c) :
    HandlerAttempts fc r past (.inr c) :=
  fun u heq => h u (Sum.inr.inj heq)

theorem Charging.keeps {α : Type} {P : Trail → Prop} {p : Prog (inferenceCalls τ) α}
    (hp : p.Meets (fun _ c => isCharging c = true) (fun _ _ => True) past)
    (hpast : P (handlerTrail sid past)) :
    p.Meets (HandlerAttempts fc r) (fun past _ => P (handlerTrail sid past)) past := by
  have hkeep := hp.keep (J := fun past => P (handlerTrail sid past)) ?_ hpast
  · exact hkeep.mono (fun _ _ h => handlerAttempts_charging h) fun _ _ h => h.1
  · intro past c x h hcharging
    rw [handlerTrail_charging x hcharging]
    exact h

theorem handleInference_attempts (tx : τ) (fc : FleetController) (r : Request) :
    (handleInference tx fc r).Meets (HandlerAttempts fc r)
      (fun past _ => Explained fc r (handlerTrail r.sessionID past)) [] := by
  apply handleInference_ends (A := fun past => handlerTrail r.sessionID past = {})
    (Q := fun past => Explained fc r (handlerTrail r.sessionID past))
    (J := fun x past => Headed fc r (handlerTrail r.sessionID past) x)
    (K := fun x past => Headed fc r (handlerTrail r.sessionID past) x) (B := fun _ => True)
  · exact ⟨rfl, fun _ => rfl⟩
  · exact fun past => ⟨handlerAttempts_inr (attempts_of_isRouting rfl),
      handlerAttempts_inr (attempts_of_isRouting rfl),
      handlerAttempts_inr (attempts_of_isRouting rfl)⟩
  · exact fun slot =>
      ⟨explained_of_length Nat.zero_ne_one, fun _ => explained_of_length Nat.zero_ne_one⟩
  · intro past hpast
    have hunsent : (handlerTrail r.sessionID past).sent = [] := by rw [hpast]
    refine Prog.Meets.inr (J := fun past => (handlerTrail r.sessionID past).sent = [])
      (fun past c x hrouting h => (Trail.sent_after hrouting _ _).trans h) (route_headed hpast)
      hunsent (fun _ _ _ h => handlerAttempts_inr (attempts_of_isRouting h)) ?_
    exact fun past result hsent h => ⟨explained_of_length (by rw [hsent]; decide), h⟩
  · intro x past hx
    refine (Charging.keeps (P := fun t => Headed fc r t x) (reserve_charging _ _ _) hx).mono
      (fun _ _ h => h) ?_
    exact fun past result h => ⟨explained_of_length (by rw [h.sent]; decide), fun _ _ _ => h⟩
  · intro x past hx
    exact Prog.Meets.inr (J := fun _ => True) (fun _ _ _ _ _ => trivial) (serve_attempts hx)
      trivial (fun _ _ _ h => handlerAttempts_inr h) (fun _ _ _ h => h)
  · exact fun x past _ hpast => Charging.keeps (P := Explained fc r) (release_charging _ _) hpast
  · exact fun _ _ _ => trivial
  · exact fun past x hpast => hpast

end Handles
end FleetLlmd.Inference
