import FleetLlmd.Inference.Handler

/-!
# Who is charged

The quota calls of `handleInference` all name one tenant, and nothing is sent upstream
before that tenant has been charged for it.
-/

namespace FleetLlmd.Sql

def Statement.key? {κ τ : Type} : Statement κ τ → Option κ
  | .insertDefault _ key | .selectForUpdate _ key | .add _ key _ | .update key _ => some key
  | .begin _ | .commit _ | .rollback _ => none

end FleetLlmd.Sql

namespace FleetLlmd.Quota
open Go Effect Sql PGTenantRepository

def Row.tenantID : Row → String
  | .window tenantID _ | .concurrency tenantID | .budget tenantID _ => tenantID

section Statements
variable {τ : Type} {tx : τ} {tenantID : String} {past : List (Event (statements Row τ))}

def Concerns (tenantID : String) (st : Statement Row τ) : Prop :=
  ∀ row, st.key? = some row → row.tenantID = tenantID

def adds (tenantID : String) : Event (statements Row τ) → Prop
  | ⟨.add _ row _, .ok ()⟩ => row.tenantID = tenantID
  | _ => False

abbrev Settles (tenantID : String) (p : Prog (statements Row τ) (Except Error QuotaReservation))
    (past : List (Event (statements Row τ))) : Prop :=
  p.Meets (fun _ st => Concerns tenantID st)
    (fun past a => isAllowed a = true → ∃ e ∈ past, adds tenantID e) past

theorem concerns_some {st : Statement Row τ} {row : Row} (hkey : st.key? = some row)
    (hrow : row.tenantID = tenantID) : Concerns tenantID st := by
  intro other hother
  rw [← hrow, Option.some.inj (hkey.symm.trans hother)]

theorem concerns_none {st : Statement Row τ} (hkey : st.key? = none) : Concerns tenantID st := by
  intro row hrow
  rw [hkey] at hrow
  cases hrow

theorem attempt_settles {β : Type} {message : String}
    {p : Prog (statements Row τ) (Except Error β)} {R : List (Event (statements Row τ)) → Prop}
    {next : β → Prog (statements Row τ) (Except Error QuotaReservation)}
    (hp : p.Meets (fun _ st => Concerns tenantID st) (fun past a => a.isOk = true → R past) past)
    (hnext : ∀ x past, R past → Settles tenantID (next x) past) :
    Settles tenantID (attempt tx (wrap message) p next) past := by
  apply attempt_meets hp
  · exact fun past err _ => ⟨concerns_none rfl, nofun⟩
  · exact fun past x hR => hnext x past (hR rfl)

theorem commitGranted_settles {result : QuotaReservation} (h : ∃ e ∈ past, adds tenantID e) :
    Settles tenantID (commitGranted tx result) past := by
  obtain ⟨e, hmem, hadds⟩ := h
  refine ⟨concerns_none rfl, fun answer => ?_⟩
  cases answer with
  | error err => exact nofun
  | ok _ => exact fun _ => ⟨e, List.mem_cons_of_mem _ hmem, hadds⟩

theorem commitDenied_settles {result : QuotaReservation} (h : result.allowed = false) :
    Settles tenantID (commitDenied tx result) past := by
  refine ⟨concerns_none rfl, fun answer => ?_⟩
  cases answer with
  | error err => exact nofun
  | ok _ =>
    intro hallowed
    rw [isAllowed, h] at hallowed
    cases hallowed

variable (windowStart : Time) (tokens tokenLimit concurrentLimit budgetCost budgetLimit : Int)

theorem reserveLocked_settles (tokensReserved activeRequests budgetSpent : Int) :
    Settles tenantID (reserveLocked tx tenantID windowStart tokens tokenLimit concurrentLimit
      budgetCost budgetLimit tokensReserved activeRequests budgetSpent) past := by
  have hadd (row : Row) (hrow : row.tenantID = tenantID) (n : Int)
      (past : List (Event (statements Row τ))) :
      (add tx row n).Meets (fun _ st => Concerns tenantID st)
        (fun past a => a.isOk = true → ∃ e ∈ past, adds tenantID e) past := by
    refine ⟨concerns_some rfl hrow, fun answer => ?_⟩
    cases answer with
    | error err => exact nofun
    | ok _ => exact fun _ => ⟨_, List.mem_cons_self, hrow⟩
  rw [reserveLocked]
  split_ifs
  · exact commitDenied_settles rfl
  · apply attempt_settles (hadd _ rfl tokens past)
    intro _ past _
    apply attempt_settles (hadd _ rfl 1 past)
    intro _ past _
    apply attempt_settles (hadd _ rfl budgetCost past)
    intro _ past hadds
    exact commitGranted_settles hadds

theorem reserveQuota_settles :
    Settles tenantID (reserveQuota tx tenantID windowStart tokens tokenLimit concurrentLimit
      budgetCost budgetLimit) past := by
  refine ⟨concerns_none rfl, fun answer => ?_⟩
  cases answer with
  | error err => exact nofun
  | ok _ =>
    iterate 6
      refine attempt_settles (R := fun _ => True) ⟨concerns_some rfl rfl, fun _ _ => trivial⟩ ?_
      intro _ past _
    exact reserveLocked_settles _ _ _ _ _ _ _ _ _

end Statements
end FleetLlmd.Quota

namespace FleetLlmd.Inference
open Go Effect Quota Sql

section Bills
variable {τ : Type} {tx : τ} {fc : FleetController} {r : Request} {tenantID : String}
variable {past : List (Event (inferenceCalls τ))}

def billed : (inferenceCalls τ).Call → Option String
  | .inl st => st.key?.map Row.tenantID
  | .inr (.profile tenantID) | .inr (.reserveLocal tenantID _) | .inr (.checkQuota tenantID _) =>
    some tenantID
  | .inr _ => none

def charges (tenantID : String) : Event (inferenceCalls τ) → Prop
  | ⟨.inl st, answer⟩ => adds tenantID ⟨st, answer⟩
  | ⟨.inr (.reserveLocal id _), result⟩ => id = tenantID ∧ result.allowed = true
  | ⟨.inr (.checkQuota id _), .ok result⟩ => id = tenantID ∧ result.allowed = true
  | _ => False

structure BillsOnly (fc : FleetController) (tenantID : String)
    (past : List (Event (inferenceCalls τ))) (c : (inferenceCalls τ).Call) : Prop where
  billed : ∀ id, billed c = some id → id = tenantID
  charged : ∀ u, c = .inr (.upstream u) → tenantID ≠ "" → fc.quotaEnforcer ≠ .absent →
    ∃ e ∈ past, charges tenantID e

theorem billsOnly_inr {c : GatewayCall} (hbilled : billed (τ := τ) (.inr c) = none)
    (hupstream : isUpstream c = false) : BillsOnly fc tenantID past (.inr c) := by
  refine ⟨fun id h => ?_, fun u h => ?_⟩
  · rw [hbilled] at h
    cases h
  · rw [Sum.inr.inj h] at hupstream
    cases hupstream

theorem billsOnly_inl {st : Statement Row τ} (h : Concerns tenantID st) :
    BillsOnly fc tenantID past (.inl st) := by
  refine ⟨fun id hid => ?_, nofun⟩
  obtain ⟨row, hrow, rfl⟩ := Option.map_eq_some_iff.mp hid
  exact h row hrow

theorem billsOnly_of_isSelecting {c : GatewayCall} (h : isSelecting c = true) :
    BillsOnly fc tenantID past (.inr c) := by
  apply billsOnly_inr
  · cases c <;> first | rfl | cases h
  · exact not_isUpstream_of_isRouting (isRouting_of_isSelecting h)

theorem mem_of_mem_lefts {e : Event (statements Row τ)} (h : e ∈ lefts past) :
    (⟨.inl e.1, e.2⟩ : Event (inferenceCalls τ)) ∈ past := by
  obtain ⟨⟨call, answer⟩, hmem, he⟩ := List.mem_filterMap.mp h
  cases call with
  | inl st =>
    cases he
    exact hmem
  | inr c => cases he

theorem reserve_bills (check : QuotaCheckRequest) :
    (reserve tx fc.quotaEnforcer tenantID check).Meets (BillsOnly fc tenantID)
      (fun past result => ∀ granted, result = .ok granted → granted.allowed = true →
        tenantID ≠ "" → fc.quotaEnforcer ≠ .absent → ∃ e ∈ past, charges tenantID e) past := by
  rw [reserve.eq_def]
  split_ifs with hempty
  · exact fun _ _ _ hne => absurd (eq_of_beq hempty) hne
  · cases hkind : fc.quotaEnforcer with
    | absent => exact fun _ _ _ _ h => absurd rfl h
    | unshared =>
      refine ⟨⟨fun id h => (Option.some.inj h).symm, by simp⟩, fun result => ?_⟩
      intro granted heq hallowed _ _
      cases heq
      exact ⟨_, List.mem_cons_self, rfl, hallowed⟩
    | other =>
      refine ⟨⟨fun id h => (Option.some.inj h).symm, by simp⟩, fun result => ?_⟩
      intro granted heq hallowed _ _
      obtain rfl : result = .ok granted := heq
      exact ⟨_, List.mem_cons_self, rfl, hallowed⟩
    | shared =>
      refine ⟨⟨fun id h => (Option.some.inj h).symm, by simp⟩, fun profile => ?_⟩
      refine ⟨billsOnly_inr rfl rfl, fun now => ?_⟩
      apply (Prog.meets_bind _ _ _).mpr
      refine Prog.Meets.inl (J := fun _ => True) (fun _ _ _ h => h)
        (reserveQuota_settles _ _ _ _ _ _ : Settles tenantID _ _) trivial
        (fun _ _ _ h => billsOnly_inl h) ?_
      intro past result _ hsettled
      cases result with
      | error err => rintro _ ⟨⟩
      | ok reservation =>
        intro granted heq hallowed _ _
        cases heq
        obtain ⟨e, hmem, hadds⟩ := hsettled ((reservationResult_allowed _ _ _).symm.trans hallowed)
        exact ⟨_, mem_of_mem_lefts hmem, hadds⟩

theorem release_bills :
    (release fc.quotaEnforcer tenantID).Meets (BillsOnly fc tenantID) (fun _ _ => True) past := by
  rw [release]
  split_ifs
  · refine ⟨billsOnly_inl (concerns_some rfl rfl), fun answer => ?_⟩
    cases answer <;> trivial
  · trivial

theorem serve_bills {x : Routed}
    (h : tenantID ≠ "" → fc.quotaEnforcer ≠ .absent → ∃ e ∈ past, charges tenantID e) :
    (fc.serve r x).inr.Meets (BillsOnly fc tenantID) (fun _ _ => True) past := by
  have hsends : (fc.serve r x).Meets
      (fun _ c => billed (τ := τ) (.inr c) = none) (fun _ _ => True) (rights past) :=
    serve_meets (fun _ => rfl) rfl (fun c hc => by cases c <;> first | rfl | cases hc)
      fun _ _ => rfl
  refine Prog.Meets.inr (J := fun past => tenantID ≠ "" → fc.quotaEnforcer ≠ .absent →
    ∃ e ∈ past, charges tenantID e) ?_ hsends h ?_ (fun _ _ _ _ => trivial)
  · intro past c answer _ hcharged hne hkind
    obtain ⟨e, hmem, hcharges⟩ := hcharged hne hkind
    exact ⟨e, List.mem_cons_of_mem _ hmem, hcharges⟩
  · intro past c hcharged hbilled
    refine ⟨fun id hid => ?_, fun u _ => hcharged⟩
    rw [hbilled] at hid
    cases hid

theorem handleInference_bills (htenant : ∀ e, r.tenantID e = tenantID) :
    (handleInference tx fc r).Meets (BillsOnly fc tenantID) (fun _ _ => True) [] := by
  apply handleInference_ends (A := fun _ => True) (Q := fun _ => True)
    (J := fun x _ => x.tenantID = tenantID)
    (K := fun _ past => tenantID ≠ "" → fc.quotaEnforcer ≠ .absent → ∃ e ∈ past, charges tenantID e)
    (B := fun x => x.tenantID = tenantID)
  · exact ⟨trivial, fun _ => trivial⟩
  · exact fun past => ⟨billsOnly_inr rfl rfl, billsOnly_inr rfl rfl, billsOnly_inr rfl rfl⟩
  · exact fun _ => ⟨trivial, fun _ => trivial⟩
  · intro past _
    refine Prog.Meets.inr (J := fun _ => True) (fun _ _ _ _ _ => trivial) route_selects trivial
      (fun _ _ _ h => billsOnly_of_isSelecting h) ?_
    intro past result _ hkeeps
    refine ⟨trivial, ?_⟩
    cases result with
    | error reply => trivial
    | ok x => exact hkeeps.tenant.trans (htenant x.envelope)
  · intro x past hx
    rw [hx]
    exact (reserve_bills _).imp fun _ _ h => ⟨trivial, h⟩
  · exact fun x past h => serve_bills h
  · intro x past hx _
    rw [hx]
    exact release_bills
  · exact fun _ _ h => h
  · exact fun _ _ _ => trivial

end Bills
end FleetLlmd.Inference
