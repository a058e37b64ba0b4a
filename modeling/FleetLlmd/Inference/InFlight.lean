import FleetLlmd.Inference.Handler
import Mathlib.Algebra.BigOperators.Ring.Finset
import Mathlib.Algebra.Order.BigOperators.Group.Finset
import Mathlib.Data.Fintype.BigOperators

/-!
# Requests in flight

Any number of requests to any number of replicas, interleaved call by call, over the
shared quota tables. Every answer the gateway gets from elsewhere may be anything at any
time. The stored number of active requests of a tenant is the number of its requests
that were granted and not yet released.
-/

namespace FleetLlmd.Inference
open Go Effect Quota Sql Database

def answer : Handler gatewayCalls World := fun c w => (w c, w)

inductive Outside where
  | fault (err : Error)
  | world (w : World)

section Handler
variable {τ : Type} [DecidableEq τ]

def outside : Outside → Database Row τ × World → Database Row τ × World
  | .fault err, s => ({ s.1 with fault := some err }, s.2)
  | .world w, s => (s.1, w)

def Proceeds (st : Statement Row τ) (db : Database Row τ) : Prop :=
  Ready st db ∧
    match st with
    | .update key f => Except.isOk (execute (.update key f) db).1 = true
    | _ => True

instance (st : Statement Row τ) (db : Database Row τ) : Decidable (Proceeds st db) :=
  match st with
  | .update _ _ => inferInstanceAs (Decidable (_ ∧ _))
  | .begin _ | .insertDefault _ _ | .selectForUpdate _ _ | .add _ _ _ | .commit _ | .rollback _ =>
    inferInstanceAs (Decidable (_ ∧ True))

def Request.chargedTo (r : Request) : String :=
  match FleetController.decodeBody r with
  | .ok (envelope, _, _) => r.tenantID envelope
  | .error _ => ""

theorem FromBody.chargedTo {r : Request} {x : Routed} (h : FromBody r x) :
    x.tenantID = r.chargedTo := by
  obtain ⟨text, hdecoded⟩ := h.decoded
  rw [h.tenant, Request.chargedTo, hdecoded]

def flight (tenantID : String) : Guarantee (statements Row τ) (Database Row τ) :=
  fun past db e db' =>
    (∃ limits amount, (∀ id, amount (.concurrency id) = if id = tenantID then 1 else 0) ∧
      CounterStep limits amount tenantID past db e db') ∧
    (updated e = true → granted past = true ∧ releases past = 0)

def Sends (tenantID : String) (past : List (Event (statements Row τ))) (c : GatewayCall) : Prop :=
  isUpstream c = true → tenantID ≠ "" → granted past = true ∧ releases past = 0

abbrev Serves {α : Type} (tx : τ) (tenantID : String)
    (Q : List (Event (inferenceCalls τ)) → α → Database Row τ × World → Prop)
    (p : Prog (inferenceCalls τ) α) (past : List (Event (inferenceCalls τ)))
    (s : Database Row τ × World) : Prop :=
  p.Ensures (Handler.sum execute answer) (Prog.readyLeft Proceeds)
    (fun s s' => Undisturbed tx s.1 s'.1)
    (Prog.guaranteeBoth (alone tx (flight tenantID)) (Sends tenantID)) Q past s

variable {tx : τ} {tenantID : String} {fc : FleetController} {r : Request}
variable {past : List (Event (inferenceCalls τ))} {s : Database Row τ × World}

omit [DecidableEq τ] in
theorem isUpdate_of_updated {e : Event (statements Row τ)} (h : updated e = true) :
    isUpdate e.1 = true := by
  obtain ⟨st, x⟩ := e
  cases st <;> first | rfl | cases h

theorem reserveQuota_flight {db : Database Row τ} (hfree : ∀ k, db.own tx k = none)
    (windowStart : Time) (tokens tokenLimit concurrentLimit budgetCost budgetLimit : Int) :
    (PGTenantRepository.reserveQuota tx tenantID windowStart tokens tokenLimit concurrentLimit
      budgetCost budgetLimit).Ensures execute Proceeds (Undisturbed tx)
        (alone tx (flight tenantID)) (Told 0) [] db := by
  have htold : Transacts tx (CounterStep (fun _ => ⟨tokenLimit, concurrentLimit, budgetLimit⟩)
      (reserved tenantID windowStart tokens budgetCost) tenantID) (Told 0)
      (PGTenantRepository.reserveQuota tx tenantID windowStart tokens tokenLimit concurrentLimit
        budgetCost budgetLimit) [] db :=
    reserveQuota_told rfl rfl rfl rfl hfree
  have hcalls : Reserves tokens isAllowed (PGTenantRepository.reserveQuota tx tenantID windowStart
      tokens tokenLimit concurrentLimit budgetCost budgetLimit) [] :=
    reserveQuota_reserves tx tenantID windowStart tokens _ _ _ _ rfl
  refine (htold.calls hcalls).weaken (fun _ _ h => h.1) ?_
  rintro past db e db' ⟨hguar, hcall⟩
  refine ⟨hguar.1, ⟨_, _, fun _ => rfl, hguar.2⟩, fun hupdated => ?_⟩
  rw [isUpdate_of_updated hupdated] at hcall
  cases hcall

theorem releaseQuota_flight {past : List (Event (statements Row τ))} {db : Database Row τ}
    (hgranted : granted past = true) (hreleases : releases past = 0) :
    (PGTenantRepository.releaseQuota tenantID).Ensures execute Proceeds (Undisturbed tx)
      (alone tx (flight tenantID))
      (fun past' _ _ => granted past' = true ∧ releases past' = 1) past db := by
  have htransacts : Transacts tx (CounterStep (fun _ => ⟨0, 0, 0⟩)
      (reserved tenantID Time.zero 0 0) tenantID) (fun past' r _ => granted past' = granted past ∧
        releases past' = releases past + if r.isOk then 1 else 0)
      (PGTenantRepository.releaseQuota tenantID) past db :=
    releaseQuota_ensures tenantID
  intro db₁ hu hproceeds
  obtain ⟨hguar, hrest⟩ := htransacts db₁ hu hproceeds.1
  refine ⟨⟨hguar.1, ⟨_, _, fun _ => rfl, hguar.2⟩, fun _ => ⟨hgranted, hreleases⟩⟩, ?_⟩
  have hok := hproceeds.2
  dsimp only at hok
  cases hanswer : (execute (.update (.concurrency tenantID) PGTenantRepository.oneLess) db₁).1 with
  | error err =>
    rw [hanswer] at hok
    cases hok
  | ok u =>
    rw [hanswer] at hrest
    intro db₂ hu₂
    obtain ⟨hgranted', hreleases'⟩ := hrest db₂ hu₂
    rw [hgranted] at hgranted'
    rw [hreleases] at hreleases'
    exact ⟨hgranted', hreleases'⟩

def Settled (past : List (Event (inferenceCalls τ))) : Prop :=
  releases (lefts past) = if granted (lefts past) then 1 else 0

theorem reserveShared_serves (hfree : ∀ k, s.1.own tx k = none) (hpast : lefts past = [])
    (tokens : Int) :
    Serves tx tenantID (fun past' result _ => releases (lefts past') = 0 ∧
      granted (lefts past') = match result with
        | .ok r => r.allowed
        | .error _ => false) (reserveShared tx tenantID tokens) past s := by
  intro s₁ hu₁ _
  refine ⟨⟨rfl, nofun⟩, ?_⟩
  intro s₂ hu₂ _
  refine ⟨⟨rfl, nofun⟩, ?_⟩
  have hu : Undisturbed tx s.1 s₂.1 := hu₁.trans hu₂
  have hfree₂ (k : Row) : s₂.1.own tx k = none := by rw [hu.own, hfree]
  refine Prog.Ensures.bind (fun s => Undisturbed.refl tx s.1)
    (Prog.Ensures.inl (Q := Told 0) ?_) ?_
  · change Prog.Ensures execute Proceeds _ _ _ _ (lefts past) s₂.1
    rw [hpast]
    exact reserveQuota_flight hfree₂ _ _ _ _ _ _
  · intro past' result s' htold
    cases result with
    | error err => exact fun _ _ => ⟨htold.2, htold.1⟩
    | ok reservation =>
      intro _ _
      exact ⟨htold.2, htold.1.trans (reservationResult_allowed _ _ _).symm⟩

theorem serve_serves (x : Routed) (hsends : ∀ c, Sends tenantID (lefts past) c) :
    Serves tx tenantID (fun past' (_ : Reply) _ => lefts past' = lefts past)
      (fc.serve r x).inr past s := by
  refine Prog.Ensures.mono (Prog.Ensures.inr (R := fun _ => True) (Undisturbed.refl tx)
    (fun _ _ _ => Undisturbed.trans) (.of_forall (fun _ => hsends) (fun _ _ => trivial) _ [])) ?_
  exact fun _ _ _ h => h.1

theorem release_serves (htenant : tenantID ≠ "") (hgranted : granted (lefts past) = true)
    (hreleases : releases (lefts past) = 0) :
    Serves tx tenantID (fun past' (_ : Unit) _ =>
      granted (lefts past') = true ∧ releases (lefts past') = 1)
      (release .shared tenantID) past s := by
  unfold release
  rw [if_pos (by simp [htenant])]
  refine Prog.Ensures.bind (fun s => Undisturbed.refl tx s.1)
    (Prog.Ensures.inl (releaseQuota_flight hgranted hreleases)) ?_
  exact fun _ _ _ h _ _ => h

theorem granted_serves {x : Routed} (htenant : x.tenantID ≠ "")
    (hgranted : granted (lefts past) = true) (hreleases : releases (lefts past) = 0) :
    Serves tx x.tenantID (fun past' (_ : Reply) _ => Settled past')
      ((fc.serve r x).inr.bind fun reply =>
        (release .shared x.tenantID).bind fun _ => .done reply) past s := by
  refine Prog.Ensures.bind (fun s => Undisturbed.refl tx s.1)
    (serve_serves x fun _ _ _ => ⟨hgranted, hreleases⟩) ?_
  intro past₁ reply s₁ hpast₁
  refine Prog.Ensures.bind (fun s => Undisturbed.refl tx s.1)
    (release_serves htenant (by rw [hpast₁, hgranted]) (by rw [hpast₁, hreleases])) ?_
  intro past₂ _ s₂ hreleased _ _
  unfold Settled
  rw [hreleased.1, hreleased.2]
  rfl

theorem reserved_serves (hkind : fc.quotaEnforcer = .shared) (x : Routed)
    (hfree : ∀ k, s.1.own tx k = none) (hpast : lefts past = []) :
    Serves tx x.tenantID (fun past' (_ : Reply) _ => Settled past') (handleReserved tx fc r x) past
      s := by
  unfold handleReserved reserve
  by_cases htenant : x.tenantID = ""
  · rw [if_pos (by simp [htenant])]
    change Serves tx x.tenantID _ ((fc.serve r x).inr.bind fun reply =>
      (release fc.quotaEnforcer x.tenantID).bind fun _ => .done reply) past s
    have hrelease : release fc.quotaEnforcer x.tenantID =
        (.done () : Prog (inferenceCalls τ) Unit) := by
      unfold release
      rw [if_neg (by simp [htenant])]
    rw [hrelease]
    refine Prog.Ensures.bind (fun s => Undisturbed.refl tx s.1)
      (serve_serves x fun _ _ hne => absurd htenant hne) ?_
    intro past₁ reply s₁ hpast₁ _ _
    unfold Settled
    rw [hpast₁, hpast]
    rfl
  · rw [if_neg (by simp [htenant]), hkind]
    refine Prog.Ensures.bind (fun s => Undisturbed.refl tx s.1)
      (reserveShared_serves hfree hpast _) ?_
    rintro past₁ result s₁ ⟨hreleases, hgranted⟩
    have hdenied (hnot : granted (lefts past₁) = false) : Settled past₁ := by
      unfold Settled
      rw [hreleases, hnot]
      rfl
    cases result with
    | error err => exact fun _ _ => hdenied hgranted
    | ok result =>
      cases hallowed : result.allowed with
      | false =>
        simp only [hallowed, Bool.not_false, if_true]
        exact fun _ _ => hdenied (hgranted.trans hallowed)
      | true =>
        simp only [hallowed, Bool.not_true, Bool.false_eq_true, if_false]
        exact granted_serves htenant (hgranted.trans hallowed) hreleases

theorem handleAcquired_serves (hkind : fc.quotaEnforcer = .shared)
    (hfree : ∀ k, s.1.own tx k = none) (hpast : lefts past = []) :
    Serves tx r.chargedTo (fun past' (_ : Reply) _ => Settled past') (handleAcquired tx fc r)
      past s := by
  have hroute : (fc.route r).Meets (fun _ c => Sends r.chargedTo (lefts past) c)
      (fun _ a => Keeps (FromBody r) a) [] := by
    refine route_quiet.mono ?_ fun _ _ h => h
    intro _ c hquiet hupstream
    rw [not_isUpstream_of_isRouting hquiet] at hupstream
    cases hupstream
  refine Prog.Ensures.bind (fun s => Undisturbed.refl tx s.1)
    (Prog.Ensures.inr (Undisturbed.refl tx) (fun _ _ _ => Undisturbed.trans) hroute) ?_
  intro past₁ result s₁ ⟨hpast₁, hu, hkeeps⟩
  have hempty : lefts past₁ = [] := hpast₁.trans hpast
  cases result with
  | error reply =>
    intro _ _
    unfold Settled
    rw [hempty]
    rfl
  | ok x =>
    have hbody : FromBody r x := hkeeps
    rw [← hbody.chargedTo]
    exact reserved_serves hkind x (fun k => by rw [hu.own, hfree]) hempty

theorem handleInference_serves (hkind : fc.quotaEnforcer = .shared)
    (hfree : ∀ k, s.1.own tx k = none) :
    Serves tx r.chargedTo (fun past' (_ : Reply) _ => Settled past') (handleInference tx fc r)
      [] s := by
  unfold handleInference
  split_ifs
  · exact handleAcquired_serves hkind hfree rfl
  · intro s₁ hu₁ _
    refine ⟨⟨rfl, nofun⟩, ?_⟩
    have hfree₁ (k : Row) : s₁.1.own tx k = none := by rw [hu₁.own, hfree]
    cases (Handler.sum execute answer (.inr .acquireSlot) s₁).1 with
    | acquired =>
      refine Prog.Ensures.bind (fun s => Undisturbed.refl tx s.1)
        (handleAcquired_serves hkind hfree₁ rfl) ?_
      intro past₂ reply s₂ hsettled s₃ _ _
      exact ⟨⟨rfl, nofun⟩, fun _ _ => hsettled⟩
    | canceled => exact fun _ _ => rfl
    | full =>
      have hquiet : (requestID r).Meets (fun _ c => Sends (τ := τ) r.chargedTo [] c)
          (fun _ _ => True) [] := by
        refine requestID_quiet.mono ?_ fun _ _ h => h
        intro _ c hquiet hupstream
        rw [not_isUpstream_of_isRouting hquiet] at hupstream
        cases hupstream
      refine Prog.Ensures.bind (fun s => Undisturbed.refl tx s.1) (Prog.Ensures.inr
        (Undisturbed.refl tx) (fun _ _ _ => Undisturbed.trans) hquiet) ?_
      intro past₂ id s₂ ⟨hpast₂, _, _⟩ _ _
      unfold Settled
      rw [hpast₂]
      rfl

end Handler

section Runs
variable {ι : Type} [Fintype ι] [DecidableEq ι] {requests : ι → Request}

instance (c : (inferenceCalls ι).Call) (s : Database Row ι × World) :
    Decidable (Prog.readyLeft Proceeds c s) :=
  match c with
  | .inl st => inferInstanceAs (Decidable (Proceeds st s.1))
  | .inr _ => isTrue trivial

abbrev Gateways (ι : Type) := Pool (inferenceCalls ι) Reply ι (Database Row ι × World)

def gateways (servers : ι → FleetController) (requests : ι → Request) (db : Database Row ι)
    (w : World) : Gateways ι :=
  (fun i => .start (handleInference i (servers i) (requests i)), (db, w))

def requestGuarantee (requests : ι → Request) (i : ι) :
    Guarantee (inferenceCalls ι) (Database Row ι × World) :=
  Prog.guaranteeBoth (alone i (flight (requests i).chargedTo)) (Sends (requests i).chargedTo)

omit [Fintype ι] in
theorem requests_compatible (requests : ι → Request) :
    Pool.Compatible outside (fun i s s' => Undisturbed i s.1 s'.1) (requestGuarantee requests) where
  refl i s := Undisturbed.refl i s.1
  trans _ _ _ _ := Undisturbed.trans
  others i j past s e s' hne hguar := by
    obtain ⟨c, x⟩ := e
    cases c with
    | inl st => exact hguar.1 j (Ne.symm hne)
    | inr c =>
      have hsame : s'.1 = s.1 := hguar.1
      rw [hsame]
      exact Undisturbed.refl j s.1
  outside w i s := by
    cases w with
    | fault err => exact ⟨fun _ => rfl, fun _ _ => rfl, fun _ h => h⟩
    | world w => exact Undisturbed.refl i s.1

def InFlight (past : List (Event (inferenceCalls ι))) : Prop :=
  granted (lefts past) = true ∧ releases (lefts past) = 0

instance (past : List (Event (inferenceCalls ι))) : Decidable (InFlight past) :=
  inferInstanceAs (Decidable (_ ∧ _))

def active (past : List (Event (inferenceCalls ι))) : Int :=
  (if granted (lefts past) then 1 else 0) - releases (lefts past)

variable {past : List (Event (inferenceCalls ι))}

omit [Fintype ι] [DecidableEq ι] in
theorem active_of_inFlight (h : InFlight past) :
    active past = 1 := by
  unfold active
  rw [h.1, h.2]
  rfl

omit [Fintype ι] [DecidableEq ι] in
theorem active_eq (h : 0 ≤ active past) :
    active past = if InFlight past then 1 else 0 := by
  by_cases hflight : InFlight past
  · rw [if_pos hflight, active_of_inFlight hflight]
  · rw [if_neg hflight]
    unfold active at *
    split_ifs at * with hgranted
    · have hne : releases (lefts past) ≠ 0 := fun hzero => hflight ⟨hgranted, hzero⟩
      omega
    · omega

def UpstreamInFlight (past : List (Event (inferenceCalls ι))) : Prop :=
  ∀ after before request response,
    past = after ++ ⟨.inr (.upstream request), response⟩ :: before → InFlight before

variable {e : Event (inferenceCalls ι)}

omit [Fintype ι] [DecidableEq ι] in
theorem UpstreamInFlight.cons (h : UpstreamInFlight past)
    (he : ∀ request response, e = ⟨.inr (.upstream request), response⟩ → InFlight past) :
    UpstreamInFlight (e :: past) := by
  intro after before request response heq
  cases after with
  | nil =>
    cases heq
    exact he request response rfl
  | cons e' after =>
    obtain ⟨-, rfl⟩ := List.cons.inj heq
    exact h after before request response rfl

def activeOf (requests : ι → Request) (pasts : ι → List (Event (inferenceCalls ι)))
    (tenantID : String) : Int :=
  ∑ i, if (requests i).chargedTo = tenantID then active (pasts i) else 0

theorem activeOf_update (pasts : ι → List (Event (inferenceCalls ι))) (i : ι)
    (past : List (Event (inferenceCalls ι))) (tenantID : String) :
    activeOf requests (Function.update pasts i past) tenantID = activeOf requests pasts tenantID +
      if (requests i).chargedTo = tenantID then active past - active (pasts i) else 0 := by
  have hupdate (j : ι) : (if (requests j).chargedTo = tenantID
      then active (Function.update pasts i past j) else 0) =
      (if (requests j).chargedTo = tenantID then active (pasts j) else 0) +
        if j = i then (if (requests i).chargedTo = tenantID then active past - active (pasts i)
          else 0) else 0 := by
    by_cases hj : j = i
    · subst hj
      simp only [Function.update_self, if_true]
      split_ifs <;> omega
    · simp only [Function.update_of_ne hj, if_neg hj, Int.add_zero]
  unfold activeOf
  rw [Finset.sum_congr rfl fun j _ => hupdate j, Finset.sum_add_distrib, Finset.sum_ite_eq']
  simp only [Finset.mem_univ, if_true]

structure Accounted (requests : ι → Request) (pasts : ι → List (Event (inferenceCalls ι)))
    (s : Database Row ι × World) : Prop where
  counted : ∀ t, s.1.value (.concurrency t) = activeOf requests pasts t
  nonneg : ∀ i, 0 ≤ active (pasts i)
  upstream : ∀ i, (requests i).chargedTo ≠ "" → UpstreamInFlight (pasts i)

variable {pasts : ι → List (Event (inferenceCalls ι))} {s s' : Database Row ι × World} {i : ι}

theorem Accounted.event (h : Accounted requests pasts s)
    (hvalue : ∀ t, s'.1.value (.concurrency t) = s.1.value (.concurrency t) +
      if (requests i).chargedTo = t then active (e :: pasts i) - active (pasts i) else 0)
    (hnonneg : 0 ≤ active (e :: pasts i))
    (hsent : ∀ request response, e = ⟨.inr (.upstream request), response⟩ →
      (requests i).chargedTo ≠ "" → InFlight (pasts i)) :
    Accounted requests (Function.update pasts i (e :: pasts i)) s' where
  counted t := by rw [hvalue, h.counted, activeOf_update]
  nonneg j := by
    by_cases hj : j = i
    · rw [hj, Function.update_self]
      exact hnonneg
    · rw [Function.update_of_ne hj]
      exact h.nonneg j
  upstream j hne := by
    by_cases hj : j = i
    · rw [hj] at hne ⊢
      rw [Function.update_self]
      exact (h.upstream i hne).cons fun request response heq => hsent request response heq hne
    · rw [Function.update_of_ne hj]
      exact h.upstream j hne

theorem Accounted.gateway (h : Accounted requests pasts s) {c : GatewayCall} {x : c.Answer}
    (hsame : s'.1 = s.1) (hsends : Sends (requests i).chargedTo (lefts (pasts i)) c) :
    Accounted requests (Function.update pasts i (⟨.inr c, x⟩ :: pasts i)) s' := by
  have hactive : active (⟨.inr c, x⟩ :: pasts i) = active (pasts i) := rfl
  apply h.event
  · intro t
    rw [hsame, hactive]
    split_ifs <;> omega
  · rw [hactive]
    exact h.nonneg i
  · intro request response heq hne
    obtain ⟨hcall, -⟩ := Sigma.mk.inj heq
    apply hsends _ hne
    rw [Sum.inr.inj hcall]
    rfl

omit [DecidableEq ι] in
theorem Accounted.le_value (h : Accounted requests pasts s) (i : ι) :
    active (pasts i) ≤ s.1.value (.concurrency (requests i).chargedTo) := by
  rw [h.counted, activeOf]
  have hle := Finset.single_le_sum (s := Finset.univ) (a := i) (f := fun j =>
      if (requests j).chargedTo = (requests i).chargedTo then active (pasts j) else 0)
    (fun j _ => by split_ifs; exacts [h.nonneg j, le_refl _]) (Finset.mem_univ i)
  simpa only [if_true] using hle

theorem Accounted.statement (h : Accounted requests pasts s) {st : Statement Row ι} {x : st.Answer}
    (hflight : flight (requests i).chargedTo (lefts (pasts i)) s.1 ⟨st, x⟩ s'.1) :
    Accounted requests (Function.update pasts i (⟨.inl st, x⟩ :: pasts i)) s' := by
  obtain ⟨⟨limits, amount, hamount, hstep⟩, hreleases⟩ := hflight
  have hcons : active (⟨.inl st, x⟩ :: pasts i) =
      (if granted (⟨st, x⟩ :: lefts (pasts i)) then 1 else 0) -
        releases (⟨st, x⟩ :: lefts (pasts i)) := rfl
  have hnonneg := h.nonneg i
  have hnotUpstream : ∀ request response, (⟨.inl st, x⟩ : Event (inferenceCalls ι)) =
      ⟨.inr (.upstream request), response⟩ → (requests i).chargedTo ≠ "" → InFlight (pasts i) := by
    intro request response heq
    cases (Sigma.mk.inj heq).1
  have hcount (hupdated : updated ⟨st, x⟩ = false) :
      releases (⟨st, x⟩ :: lefts (pasts i)) = releases (lefts (pasts i)) := by
    rw [releases, List.countP_cons_of_neg (by rw [hupdated]; exact Bool.false_ne_true)]
    rfl
  cases hstep with
  | quiet hgranted hupdated hvalue =>
    have hactive : active (⟨.inl st, x⟩ :: pasts i) = active (pasts i) := by
      rw [hcons, hgranted, hcount hupdated]
      rfl
    apply h.event _ _ hnotUpstream
    · intro t
      rw [hvalue, hactive]
      split_ifs <;> omega
    · rw [hactive]
      exact hnonneg
  | grant hbefore hafter hupdated hvalue _ =>
    have hactive : active (⟨.inl st, x⟩ :: pasts i) = active (pasts i) + 1 := by
      rw [hcons, hafter, hcount hupdated, active, hbefore]
      simp only [if_true, Bool.false_eq_true, if_false]
      omega
    apply h.event _ _ hnotUpstream
    · intro t
      rw [hvalue, hamount, hactive]
      by_cases ht : t = (requests i).chargedTo
      · rw [if_pos ht, if_pos ht.symm]
        omega
      · rw [if_neg ht, if_neg (Ne.symm ht)]
    · rw [hactive]
      omega
  | release hgranted hupdated hvalue =>
    obtain ⟨hbefore, hnone⟩ := hreleases hupdated
    have hone : active (pasts i) = 1 := active_of_inFlight ⟨hbefore, hnone⟩
    have hcount : releases (⟨st, x⟩ :: lefts (pasts i)) = 1 := by
      rw [releases, List.countP_cons_of_pos hupdated]
      exact congrArg (· + 1) hnone
    have hactive : active (⟨.inl st, x⟩ :: pasts i) = 0 := by
      rw [hcons, hgranted, hbefore, hcount]
      rfl
    have hle := h.le_value i
    apply h.event _ _ hnotUpstream
    · intro t
      rw [hvalue, hactive, hone]
      by_cases ht : t = (requests i).chargedTo
      · subst ht
        simp only [if_true]
        omega
      · rw [if_neg (by simp [ht]), if_neg (Ne.symm ht)]
        omega
    · rw [hactive]

theorem Accounted.step (h : Accounted requests pasts s)
    (hguar : requestGuarantee requests i (pasts i) s e s') :
    Accounted requests (Function.update pasts i (e :: pasts i)) s' := by
  obtain ⟨c, x⟩ := e
  cases c with
  | inl st => exact h.statement hguar.2
  | inr c => exact h.gateway hguar.1 hguar.2

omit [DecidableEq ι] in
theorem Accounted.outside (h : Accounted requests pasts s) (w : Outside) :
    Accounted requests pasts (outside w s) := by
  cases w with
  | fault err => exact ⟨h.counted, h.nonneg, h.upstream⟩
  | world w => exact ⟨h.counted, h.nonneg, h.upstream⟩

omit [DecidableEq ι] in
theorem gateways_accounted (servers : ι → FleetController) (requests : ι → Request)
    {db : Database Row ι} (w : World) (hidle : ∀ t, db.value (.concurrency t) = 0) :
    Accounted requests (Pool.pasts (gateways servers requests db w))
      (gateways servers requests db w).2 where
  counted t := by
    refine (hidle t).trans (Finset.sum_eq_zero fun i _ => ?_).symm
    exact ite_self 0
  nonneg _ := le_refl _
  upstream _ _ after _ _ _ heq := by
    have hlength := congrArg List.length heq
    simp [Pool.pasts, gateways, Thread.start] at hlength

/-- For any number of requests and replicas, interleaved in any way and whatever the other calls
answer, the active requests stored for a tenant are those granted and not yet released; a handler
that has returned has released once if it was granted; and nothing was sent upstream for a tenant
before the grant or after the release. -/
theorem in_flight_exact {ι : Type} [Fintype ι] [DecidableEq ι] (servers : ι → FleetController)
    (requests : ι → Request) (hshared : ∀ i, (servers i).quotaEnforcer = .shared)
    (db : Database Row ι) (w : World) (hidle : ∀ t, db.value (.concurrency t) = 0)
    (hfree : ∀ k, db.held k = none) (moves : List (Move ι Outside))
    (hproceeds : Pool.Observes (Handler.sum execute answer) outside
      (fun _ => Prog.readyLeft Proceeds) moves (gateways servers requests db w)) :
    let z := Pool.exec (Handler.sum execute answer) outside moves (gateways servers requests db w)
    (∀ t, z.2.1.value (.concurrency t) =
      (Finset.univ.filter fun i => (requests i).chargedTo = t ∧ InFlight (Pool.pasts z i)).card) ∧
    (∀ i reply, (z.1 i).rest = .done reply → releases (lefts (Pool.pasts z i)) =
      if granted (lefts (Pool.pasts z i)) then 1 else 0) ∧
    ∀ i, (requests i).chargedTo ≠ "" → UpstreamInFlight (Pool.pasts z i) := by
  intro z
  have hensure : Pool.AllEnsure (Handler.sum execute answer) (Prog.readyLeft Proceeds)
      (fun i s s' => Undisturbed i s.1 s'.1) (requestGuarantee requests)
      (fun _ past _ _ => Settled past) (gateways servers requests db w) := by
    intro i
    refine handleInference_serves (hshared i) fun k => ?_
    change db.own i k = none
    rw [own, hfree]
  obtain ⟨hend, hI⟩ := Pool.exec_ensures (requests_compatible requests)
    (I := Accounted requests) (fun _ _ _ _ _ h hguar => h.step hguar)
    (fun _ _ w h => h.outside w) moves hensure (gateways_accounted servers requests w hidle)
    hproceeds
  refine ⟨fun t => ?_, fun i reply hdone => ?_, hI.upstream⟩
  · rw [hI.counted, Finset.card_filter, activeOf]
    push_cast
    refine Finset.sum_congr rfl fun i _ => ?_
    rw [active_eq (hI.nonneg i), ite_and]
  · have hsettled := hend i
    rw [hdone] at hsettled
    exact hsettled _ (Undisturbed.refl i _)

def sampleController : FleetController where
  modelProviderClusters := [("granite-2b-cpu", ["east"])]
  praxisURL := "http://praxis"
  quotaEnforcer := .shared

def sampleRequest : Request where
  chat := false
  body := some (utf8 "\x7b\"prompt\":\"hi\",\"tenant_id\":\"t\"\x7d")

def sampleMoves : List (Move Bool Outside) :=
  List.replicate 19 (.thread true) ++ List.replicate 23 (.thread false) ++
    List.replicate 2 (.thread true)

theorem in_flight_exact_sample :
    let z := Pool.exec (Handler.sum execute answer) outside sampleMoves
      (gateways (fun _ : Bool => sampleController) (fun _ => sampleRequest)
        ⟨fun _ => none, fun _ => none, none⟩ sampleWorld)
    ∀ t, z.2.1.value (.concurrency t) = (Finset.univ.filter fun i =>
      sampleRequest.chargedTo = t ∧ InFlight (Pool.pasts z i)).card :=
  (in_flight_exact (fun _ : Bool => sampleController) (fun _ => sampleRequest) (fun _ => rfl)
    ⟨fun _ => none, fun _ => none, none⟩ sampleWorld (fun _ => rfl) (fun _ => rfl) sampleMoves
    (by decide +kernel)).1

end Runs
end FleetLlmd.Inference
