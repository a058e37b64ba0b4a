import FleetLlmd.Quota.Enforcer
import FleetLlmd.Sql.Transaction

/-!
# Quotas shared between replicas

`PGTenantRepository.ReserveQuota` and `ReleaseQuota` statement by statement. A
reservation reads and locks the tenant's counters of the minute, of the requests in
flight and of the month, checks them in Go's wrapping arithmetic, and adds to them
in the database. It is granted when its transaction commits with those additions.
-/

namespace FleetLlmd.Quota
open Go Effect Sql

inductive Row where
  | window (tenantID : String) (start : Time)
  | concurrency (tenantID : String)
  | budget (tenantID : String) (month : Time)
  deriving DecidableEq

structure QuotaReservation where
  allowed : Bool
  tokensReserved : Int
  activeRequests : Int
  budgetSpent : Int
  deriving DecidableEq

namespace PGTenantRepository
variable {τ : Type}

def wrap (message : String) (err : Error) : Error := .wrapf (message ++ ": %w") [] err

def denies (tokensReserved activeRequests budgetSpent tokens tokenLimit concurrentLimit budgetCost
    budgetLimit : Int) : Bool :=
  int64 (tokensReserved + tokens) > tokenLimit || activeRequests ≥ concurrentLimit ||
    int64 (budgetSpent + budgetCost) > budgetLimit

def commitDenied (tx : τ) (result : QuotaReservation) :
    Prog (statements Row τ) (Except Error QuotaReservation) :=
  (commit tx).bind fun
    | .error err => .done (.error (wrap "commit denied tenant quota reservation" err))
    | .ok () => .done (.ok result)

def commitGranted (tx : τ) (result : QuotaReservation) :
    Prog (statements Row τ) (Except Error QuotaReservation) :=
  (commit tx).bind fun
    | .error err => .done (.error (wrap "commit tenant quota reservation" err))
    | .ok () => .done (.ok result)

variable (tx : τ) (tenantID : String) (windowStart : Time)
variable (tokens tokenLimit concurrentLimit budgetCost budgetLimit : Int)

def reserveLocked (tokensReserved activeRequests budgetSpent : Int) :
    Prog (statements Row τ) (Except Error QuotaReservation) :=
  if denies tokensReserved activeRequests budgetSpent tokens tokenLimit concurrentLimit budgetCost
      budgetLimit then
    commitDenied tx ⟨false, tokensReserved, activeRequests, budgetSpent⟩
  else
    attempt tx (wrap "reserve tenant tokens") (add tx (.window tenantID windowStart) tokens) fun _ =>
    attempt tx (wrap "reserve tenant concurrency") (add tx (.concurrency tenantID) 1) fun _ =>
    attempt tx (wrap "reserve tenant budget")
      (add tx (.budget tenantID windowStart.monthStart) budgetCost) fun _ =>
    commitGranted tx ⟨true, int64 (tokensReserved + tokens), int64 (activeRequests + 1),
      int64 (budgetSpent + budgetCost)⟩

def reserveQuota : Prog (statements Row τ) (Except Error QuotaReservation) :=
  (begin tx).bind fun
  | .error err => .done (.error (wrap "begin tenant quota reservation" err))
  | .ok () =>
    let windowStart := windowStart.utc
    let monthStart := windowStart.monthStart
    attempt tx (wrap "initialize tenant quota window")
      (insertDefault tx (.window tenantID windowStart)) fun _ =>
    attempt tx (wrap "initialize tenant quota concurrency")
      (insertDefault tx (.concurrency tenantID)) fun _ =>
    attempt tx (wrap "initialize tenant quota budget")
      (insertDefault tx (.budget tenantID monthStart)) fun _ =>
    attempt tx (wrap "lock tenant quota window")
      (selectForUpdate tx (.window tenantID windowStart)) fun tokensReserved =>
    attempt tx (wrap "lock tenant quota concurrency")
      (selectForUpdate tx (.concurrency tenantID)) fun activeRequests =>
    attempt tx (wrap "lock tenant quota budget")
      (selectForUpdate tx (.budget tenantID monthStart)) fun budgetSpent =>
    reserveLocked tx tenantID windowStart tokens tokenLimit concurrentLimit budgetCost budgetLimit
      tokensReserved activeRequests budgetSpent

/-- `GREATEST(active_requests - 1, 0)`. -/
def oneLess (n : Int) : Option Int := if InInt64 (n - 1) then some (max (n - 1) 0) else none

def releaseQuota (tenantID : String) : Prog (statements Row τ) (Except Error Unit) :=
  (update (.concurrency tenantID) oneLess).bind fun
    | .error err => .done (.error (wrap "release tenant quota" err))
    | .ok () => .done (.ok ())

end PGTenantRepository

/-! ## What a call does to the counters -/

structure Limits where
  tokens : Int
  concurrent : Int
  budget : Int

def limitOf (limits : String → Limits) : Row → Int
  | .window tenantID _ => (limits tenantID).tokens
  | .concurrency tenantID => (limits tenantID).concurrent
  | .budget tenantID _ => (limits tenantID).budget

def reserved (tenantID : String) (windowStart : Time) (tokens budgetCost : Int) : Row → Int
  | .window id start => if id = tenantID ∧ start = windowStart.utc then tokens else 0
  | .concurrency id => if id = tenantID then 1 else 0
  | .budget id month => if id = tenantID ∧ month = windowStart.utc.monthStart then budgetCost else 0

section Events
variable {τ : Type}

def committed : Event (statements Row τ) → Bool
  | ⟨.commit _, .ok ()⟩ => true
  | _ => false

def added : Event (statements Row τ) → Bool
  | ⟨.add _ _ _, .ok ()⟩ => true
  | _ => false

def updated : Event (statements Row τ) → Bool
  | ⟨.update _ _, .ok ()⟩ => true
  | _ => false

def granted (past : List (Event (statements Row τ))) : Bool := past.any committed && past.any added

def releases (past : List (Event (statements Row τ))) : Nat := past.countP updated

def isUpdate : Statement Row τ → Bool
  | .update _ _ => true
  | _ => false

def windowAddition : Event (statements Row τ) → Int
  | ⟨.add _ (.window _ _) n, .ok ()⟩ => n
  | _ => 0

def tokensAdded (past : List (Event (statements Row τ))) : Int := (past.map windowAddition).sum

inductive CounterStep (limits : String → Limits) (amount : Row → Int) (tenantID : String)
    (past : List (Event (statements Row τ))) (db : Database Row τ) (e : Event (statements Row τ))
    (db' : Database Row τ) : Prop
  | quiet (hgranted : granted (e :: past) = granted past) (hupdated : updated e = false)
      (hvalue : ∀ k, db'.value k = db.value k)
  | grant (hbefore : granted past = false) (hafter : granted (e :: past) = true)
      (hupdated : updated e = false) (hvalue : ∀ k, db'.value k = db.value k + amount k)
      (hlimit : ∀ k, db'.value k ≤ limitOf limits k ∨ db'.value k = db.value k)
  | release (hgranted : granted (e :: past) = granted past) (hupdated : updated e = true)
      (hvalue : ∀ k, db'.value k =
        if k = .concurrency tenantID then max (db.value k - 1) 0 else db.value k)

def isAllowed : Except Error QuotaReservation → Bool
  | .ok r => r.allowed
  | .error _ => false

end Events

section Meets
open PGTenantRepository
variable {τ : Type} {tx : τ} {past : List (Event (statements Row τ))}

abbrev Reserves {α : Type} (tokens : Int) (allowed : α → Bool) (p : Prog (statements Row τ) α)
    (past : List (Event (statements Row τ))) : Prop :=
  p.Meets (fun _ st => isUpdate st = false)
    (fun past a => allowed a = true → tokensAdded past = tokens) past

theorem tokensAdded_cons (e : Event (statements Row τ)) :
    tokensAdded (e :: past) = windowAddition e + tokensAdded past := by
  simp [tokensAdded]

theorem attempt_reserves {β : Type} {tokens : Int} {message : String}
    {p : Prog (statements Row τ) (Except Error β)}
    (event : Except Error β → Event (statements Row τ))
    {next : β → Prog (statements Row τ) (Except Error QuotaReservation)}
    (hp : p.Meets (fun _ st => isUpdate st = false) (fun past' r => past' = event r :: past) past)
    (hnext : ∀ x, Reserves tokens isAllowed (next x) (event (.ok x) :: past)) :
    Reserves tokens isAllowed (attempt tx (wrap message) p next) past := by
  apply attempt_meets hp
  · intro past' err _
    exact ⟨rfl, nofun⟩
  · intro past' x heq
    rw [heq]
    exact hnext x

theorem commit_reserves {tokens : Int} {result : QuotaReservation} {message : String}
    (htokens : result.allowed = true → tokensAdded past = tokens) :
    Reserves tokens isAllowed ((commit tx).bind fun
      | .error err => .done (.error (wrap message err))
      | .ok () => .done (.ok result)) past := by
  refine ⟨rfl, fun r => ?_⟩
  cases r with
  | error err => exact nofun
  | ok u =>
    intro hallowed
    rw [tokensAdded_cons, htokens hallowed]
    exact Int.zero_add tokens

theorem reserveLocked_reserves (tx : τ) (tenantID : String) (windowStart : Time)
    {tokens : Int} (tokenLimit concurrentLimit budgetCost budgetLimit : Int)
    (tokensReserved activeRequests budgetSpent : Int) (hadded : tokensAdded past = 0) :
    Reserves tokens isAllowed (reserveLocked tx tenantID windowStart tokens tokenLimit
      concurrentLimit budgetCost budgetLimit tokensReserved activeRequests budgetSpent) past := by
  unfold reserveLocked
  split_ifs
  · exact commit_reserves nofun
  · refine attempt_reserves (fun r => ⟨.add tx (.window tenantID windowStart) tokens, r⟩)
      ⟨rfl, fun _ => rfl⟩ fun _ => ?_
    refine attempt_reserves (fun r => ⟨.add tx (.concurrency tenantID) 1, r⟩)
      ⟨rfl, fun _ => rfl⟩ fun _ => ?_
    refine attempt_reserves
      (fun r => ⟨.add tx (.budget tenantID windowStart.monthStart) budgetCost, r⟩)
      ⟨rfl, fun _ => rfl⟩ fun _ => ?_
    apply commit_reserves
    intro _
    simp only [tokensAdded_cons, windowAddition, hadded]
    omega

theorem reserveQuota_reserves (tx : τ) (tenantID : String) (windowStart : Time)
    (tokens tokenLimit concurrentLimit budgetCost budgetLimit : Int)
    (hadded : tokensAdded past = 0) :
    Reserves tokens isAllowed (reserveQuota tx tenantID windowStart tokens tokenLimit
      concurrentLimit budgetCost budgetLimit) past := by
  refine ⟨rfl, fun r => ?_⟩
  cases r with
  | error err => exact nofun
  | ok u =>
    iterate 3
      refine attempt_reserves (fun r => ⟨.insertDefault tx _, r⟩)
        ⟨rfl, fun _ => rfl⟩ fun _ => ?_
    iterate 3
      refine attempt_reserves (fun r => ⟨.selectForUpdate tx _, r⟩)
        ⟨rfl, fun _ => rfl⟩ fun _ => ?_
    apply reserveLocked_reserves
    simp only [tokensAdded_cons, windowAddition, hadded]
    rfl

end Meets

section Ensures
open Database
variable {τ : Type} [DecidableEq τ] {limits : String → Limits} {amount : Row → Int}
variable {tenantID : String} {past : List (Event (statements Row τ))} {tx : τ}
variable {db : Database Row τ} {delta : Row → Int} {reads : List (Row × Int)}

variable {e : Event (statements Row τ)} {wrap : Error → Error}
variable {next : Unit → Prog (statements Row τ) (Except Error QuotaReservation)}
variable {tokensReserved activeRequests : Int}

omit [DecidableEq τ] in
theorem not_committed_of_quiet (h : e.1.publishes = false) :
    committed e = false ∧ updated e = false := by
  obtain ⟨st, r⟩ := e
  cases st <;> first | exact ⟨rfl, rfl⟩ | cases h

omit [DecidableEq τ] in
theorem allowsQuiet (hopen : past.any committed = false) :
    Database.AllowsQuiet (CounterStep limits amount tenantID) past := by
  intro db e db' hquiet hvalue
  obtain ⟨hcommitted, hupdated⟩ := not_committed_of_quiet hquiet
  refine .quiet ?_ hupdated hvalue
  simp only [granted, List.any_cons, hcommitted, hopen, Bool.false_or, Bool.false_and]

omit [DecidableEq τ] in
theorem any_committed_cons (h : e.1.publishes = false)
    (hopen : past.any committed = false) : (e :: past).any committed = false := by
  rw [List.any_cons, hopen, (not_committed_of_quiet h).1, Bool.or_false]

omit [DecidableEq τ] in
theorem releases_cons (h : e.1.publishes = false) :
    releases (e :: past) = releases past := by
  rw [releases, releases, List.countP_cons_of_neg]
  rw [(not_committed_of_quiet h).2]
  exact Bool.false_ne_true

def Told (n : Nat) (past : List (Event (statements Row τ))) (r : Except Error QuotaReservation)
    (_ : Database Row τ) : Prop :=
  granted past = isAllowed r ∧ releases past = n

omit [DecidableEq τ] in
theorem granted_of_open (hopen : past.any committed = false) : granted past = false := by
  rw [granted, hopen, Bool.false_and]

/-- Nothing is committed yet, and `n` releases have been made. -/
structure Pending (n : Nat) (past : List (Event (statements Row τ))) : Prop where
  opened : past.any committed = false
  releases : releases past = n

theorem attempt_told {β : Type} {p : Prog (statements Row τ) (Except Error β)}
    {next : β → Prog (statements Row τ) (Except Error QuotaReservation)}
    {A : β → Database Row τ → Prop} {n : Nat} (b : Bool) (h : Pending n past)
    (hp : Transacts tx (CounterStep limits amount tenantID) (fun past' r db' =>
      ∃ e, past' = e :: past ∧ e.1.publishes = false ∧ ∀ u, r = .ok u → added e = b ∧ A u db')
      p past db)
    (hnext : ∀ past' u db', Pending n past' → past'.any added = (b || past.any added) → A u db' →
      Transacts tx (CounterStep limits amount tenantID) (Told n) (next u) past' db') :
    Transacts tx (CounterStep limits amount tenantID) (Told n) (attempt tx wrap p next) past db := by
  refine attempt_ensures hp ?_ ?_
  · intro past' err db' hfailed
    obtain ⟨e, hpast, hquiet, -⟩ := hfailed
    have hopen' := any_committed_cons hquiet h.opened
    have hrollback : (Statement.rollback tx : Statement Row τ).publishes = false := rfl
    rw [hpast]
    refine ⟨allowsQuiet hopen', fun _ => ⟨?_, ?_⟩⟩
    · exact granted_of_open (any_committed_cons hrollback hopen')
    · rw [releases_cons hrollback, releases_cons hquiet, h.releases]
  · intro past' u db' hdone
    obtain ⟨e, rfl, hquiet, hok⟩ := hdone
    obtain ⟨hadded, hA⟩ := hok u rfl
    refine hnext _ u db' ⟨any_committed_cons hquiet h.opened, ?_⟩ (by rw [List.any_cons, hadded]) hA
    rw [releases_cons hquiet, h.releases]

variable {windowStart : Time} {tokens tokenLimit concurrentLimit budgetCost budgetLimit : Int}
variable {n : Nat}

theorem insertDefault_told {row : Row} (h : Pending n past) (hadded : past.any added = false)
    (hview : View tx delta reads db)
    (hnext : ∀ past' db', Pending n past' →
      past'.any added = false → View tx delta reads db' →
      Transacts tx (CounterStep limits amount tenantID) (Told n) (next ()) past' db') :
    Transacts tx (CounterStep limits amount tenantID) (Told n)
      (attempt tx wrap (insertDefault tx row) next) past db := by
  refine attempt_told false h
    ((insertDefault_ensures (allowsQuiet h.opened) hview row).mono ?_)
    fun past' _ db' h' hadded' => hnext past' db' h' (hadded'.trans hadded)
  exact fun past' r db' h => ⟨_, h.1, rfl, fun u hu => ⟨rfl, h.2 u hu⟩⟩

theorem selectForUpdate_told {next : Int → Prog (statements Row τ) (Except Error QuotaReservation)}
    {row : Row} (h : Pending n past) (hadded : past.any added = false)
    (hview : View tx (fun _ => 0) reads db)
    (hnext : ∀ past' v db', Pending n past' →
      past'.any added = false → View tx (fun _ => 0) ((row, v) :: reads) db' →
      Transacts tx (CounterStep limits amount tenantID) (Told n) (next v) past' db') :
    Transacts tx (CounterStep limits amount tenantID) (Told n)
      (attempt tx wrap (selectForUpdate tx row) next) past db := by
  refine attempt_told false h
    ((selectForUpdate_ensures (allowsQuiet h.opened) hview rfl).mono ?_)
    fun past' v db' h' hadded' => hnext past' v db' h' (hadded'.trans hadded)
  exact fun past' r db' h => ⟨_, h.1, rfl, fun v hv => ⟨rfl, h.2 v hv⟩⟩

theorem add_told {row : Row} {v m : Int} (h : Pending n past) (hview : View tx delta reads db)
    (hread : (row, v) ∈ reads)
    (hdelta : delta row = 0)
    (hnext : ∀ past' db', Pending n past' →
      past'.any added = true → InInt64 (v + m) →
      View tx (fun k => if k = row then delta k + m else delta k) reads db' →
      Transacts tx (CounterStep limits amount tenantID) (Told n) (next ()) past' db') :
    Transacts tx (CounterStep limits amount tenantID) (Told n)
      (attempt tx wrap (add tx row m) next) past db := by
  refine attempt_told true h (A := fun _ db' => InInt64 (v + m) ∧
      View tx (fun k => if k = row then delta k + m else delta k) reads db')
    ((add_ensures (allowsQuiet h.opened) hview hread hdelta m).mono ?_) ?_
  · exact fun past' r db' h => ⟨_, h.1, rfl, fun u hu => ⟨hu ▸ rfl, h.2 u hu⟩⟩
  · exact fun past' _ db' h' hadded' hA => hnext past' db' h' hadded' hA.1 hA.2

open PGTenantRepository

theorem commit_told (h : Pending n past) (hview : View tx delta reads db) {result : QuotaReservation}
    {message : String} (hgranted : granted (⟨.commit tx, .ok ()⟩ :: past) = result.allowed)
    (hstep : ∀ db₁ db₂, View tx delta reads db₁ → (∀ k, db₂.value k = db₁.value k + delta k) →
      CounterStep limits amount tenantID past db₁ ⟨.commit tx, .ok ()⟩ db₂) :
    Transacts tx (CounterStep limits amount tenantID) (Told n) ((commit tx).bind fun
      | .error err => .done (.error (PGTenantRepository.wrap message err))
      | .ok () => .done (.ok result)) past db := by
  have hfailed (err : Error) : granted (⟨.commit tx, .error err⟩ :: past) = false := by
    rw [granted, List.any_cons, h.opened]
    rfl
  refine (commit_ensures hview hstep fun db err db' hvalue => ?_).bind (Undisturbed.refl tx) ?_
  · exact .quiet (by rw [hfailed, granted_of_open h.opened]) rfl hvalue
  · intro past' r db' hpast
    rw [hpast]
    cases r with
    | error err => exact fun _ _ => ⟨hfailed err, h.releases⟩
    | ok u => exact fun _ _ => ⟨hgranted, h.releases⟩

theorem commitDenied_told (h : Pending n past)
    (hadded : past.any added = false) (hview : View tx (fun _ => 0) reads db)
    {result : QuotaReservation} (hresult : result.allowed = false) :
    Transacts tx (CounterStep limits amount tenantID) (Told n) (commitDenied tx result) past db := by
  have hnot : granted (⟨.commit tx, .ok ()⟩ :: past) = false := by
    rw [granted, List.any_cons (f := added), hadded]
    exact Bool.and_false _
  refine commit_told h hview (hnot.trans hresult.symm) fun db₁ db₂ _ hvalue => ?_
  refine .quiet (by rw [hnot, granted_of_open h.opened]) rfl fun k => ?_
  rw [hvalue, Int.add_zero]

/-- The commit of a reservation publishes the additions, which the checks have found to be within
the limits. -/
theorem commitGranted_told (h : Pending n past)
    (hadded : past.any added = true) (hview : View tx amount reads db)
    (hlimit : ∀ db, View tx amount reads db → ∀ k,
      db.value k + amount k ≤ limitOf limits k ∨ amount k = 0)
    {result : QuotaReservation} (hresult : result.allowed = true) :
    Transacts tx (CounterStep limits amount tenantID) (Told n) (commitGranted tx result) past db := by
  have hgranted : granted (⟨.commit tx, .ok ()⟩ :: past) = true := by
    rw [granted, List.any_cons (f := added), hadded]
    rfl
  refine commit_told h hview (hgranted.trans hresult.symm) fun db₁ db₂ hview₁ hvalue => ?_
  refine .grant (granted_of_open h.opened) hgranted rfl hvalue fun k => ?_
  rw [hvalue]
  rcases hlimit db₁ hview₁ k with hle | hzero
  · exact Or.inl hle
  · exact Or.inr (by rw [hzero, Int.add_zero])

theorem within_of_not_denies {budgetSpent : Int}
    (h : denies tokensReserved activeRequests budgetSpent tokens tokenLimit concurrentLimit budgetCost
      budgetLimit = false) (htokens : InInt64 (tokensReserved + tokens))
    (hbudget : InInt64 (budgetSpent + budgetCost)) :
    tokensReserved + tokens ≤ tokenLimit ∧ activeRequests + 1 ≤ concurrentLimit ∧
      budgetSpent + budgetCost ≤ budgetLimit := by
  simp only [denies, int64_eq_self htokens, int64_eq_self hbudget, Bool.or_eq_false_iff,
    decide_eq_false_iff_not] at h
  omega

abbrev readCounters (tenantID : String) (windowStart : Time)
    (tokensReserved activeRequests budgetSpent : Int) : List (Row × Int) :=
  [(.budget tenantID windowStart.utc.monthStart, budgetSpent), (.concurrency tenantID,
    activeRequests), (.window tenantID windowStart.utc, tokensReserved)]

theorem reserved_within {budgetSpent : Int}
    (hlimits : limits tenantID = ⟨tokenLimit, concurrentLimit, budgetLimit⟩)
    (hwithin : tokensReserved + tokens ≤ tokenLimit ∧ activeRequests + 1 ≤ concurrentLimit ∧
      budgetSpent + budgetCost ≤ budgetLimit)
    (hview : View tx delta
      (readCounters tenantID windowStart tokensReserved activeRequests budgetSpent) db) (k : Row) :
    db.value k + reserved tenantID windowStart tokens budgetCost k ≤ limitOf limits k ∨
      reserved tenantID windowStart tokens budgetCost k = 0 := by
  have hbudget := (hview.locked (.budget tenantID windowStart.utc.monthStart, budgetSpent)
    (by simp)).value
  have hactive := (hview.locked (.concurrency tenantID, activeRequests) (by simp)).value
  have htokens := (hview.locked (.window tenantID windowStart.utc, tokensReserved) (by simp)).value
  dsimp only at hbudget hactive htokens
  cases k <;> simp only [reserved, limitOf] <;> split_ifs with hrow <;>
    first | exact .inr rfl | skip
  · obtain ⟨rfl, rfl⟩ := hrow
    simp only [hlimits]
    omega
  · subst hrow
    simp only [hlimits]
    omega
  · obtain ⟨rfl, rfl⟩ := hrow
    simp only [hlimits]
    omega

theorem reserveLocked_told {budgetSpent : Int}
    (hlimits : limits tenantID = ⟨tokenLimit, concurrentLimit, budgetLimit⟩)
    (h : Pending n past)
    (hadded : past.any added = false) (hview : View tx (fun _ => 0)
      (readCounters tenantID windowStart tokensReserved activeRequests budgetSpent) db) :
    Transacts tx (CounterStep limits (reserved tenantID windowStart tokens budgetCost) tenantID)
      (Told n)
      (reserveLocked tx tenantID windowStart.utc tokens tokenLimit concurrentLimit budgetCost
        budgetLimit tokensReserved activeRequests budgetSpent) past db := by
  unfold reserveLocked
  split_ifs with hdenied
  · exact commitDenied_told h hadded hview rfl
  · refine add_told (v := tokensReserved) h hview (by simp) rfl ?_
    intro past₁ db₁ h₁ hadded₁ htokens hview₁
    refine add_told (v := activeRequests) h₁ hview₁ (by simp) rfl ?_
    intro past₂ db₂ h₂ hadded₂ hactive hview₂
    refine add_told (v := budgetSpent) h₂ hview₂ (by simp) rfl ?_
    intro past₃ db₃ h₃ hadded₃ hbudget hview₃
    have hwithin := within_of_not_denies (Bool.eq_false_iff.mpr hdenied) htokens hbudget
    have hdelta : (fun k => if k = .budget tenantID windowStart.utc.monthStart
        then (if k = .concurrency tenantID then (if k = .window tenantID windowStart.utc
            then 0 + tokens else 0) + 1
          else if k = .window tenantID windowStart.utc then 0 + tokens else 0) + budgetCost
        else if k = .concurrency tenantID then (if k = .window tenantID windowStart.utc
            then 0 + tokens else 0) + 1
          else if k = .window tenantID windowStart.utc then 0 + tokens else 0) =
        reserved tenantID windowStart tokens budgetCost := by
      funext k
      cases k <;> simp [reserved]
    rw [hdelta] at hview₃
    exact commitGranted_told h₃ hadded₃ hview₃
      (fun _ hview => reserved_within hlimits hwithin hview) rfl

/-- A reservation changes the counters by what it reserves or not at all, stays within the limits,
and tells its caller which. -/
theorem reserveQuota_told (hlimits : limits tenantID = ⟨tokenLimit, concurrentLimit, budgetLimit⟩)
    (hopen : past.any committed = false) (hreleases : releases past = n)
    (hadded : past.any added = false) (hfree : ∀ k, db.own tx k = none) :
    Transacts tx (CounterStep limits (reserved tenantID windowStart tokens budgetCost) tenantID)
      (Told n)
      (reserveQuota tx tenantID windowStart tokens tokenLimit concurrentLimit budgetCost budgetLimit)
      past db := by
  intro db₁ hu hready
  refine ⟨(allowsQuiet hopen).guarantee rfl rfl hready, ?_⟩
  have hbegin : (Statement.begin tx : Statement Row τ).publishes = false := rfl
  have hview : View tx (fun _ => 0) [] db₁ :=
    ⟨changes_zero fun k => by rw [hu.own, hfree], fun _ h => (List.not_mem_nil h).elim⟩
  cases hfault : db₁.fault with
  | some err =>
    simp only [execute, hfault]
    exact fun _ _ => ⟨granted_of_open (any_committed_cons hbegin hopen), hreleases⟩
  | none =>
    simp only [execute, hfault]
    refine insertDefault_told ⟨any_committed_cons hbegin hopen, hreleases⟩ hadded hview ?_
    intro past₁ db₁ h₁ hadded₁ hview₁
    refine insertDefault_told h₁ hadded₁ hview₁ ?_
    intro past₂ db₂ h₂ hadded₂ hview₂
    refine insertDefault_told h₂ hadded₂ hview₂ ?_
    intro past₃ db₃ h₃ hadded₃ hview₃
    refine selectForUpdate_told h₃ hadded₃ hview₃ ?_
    intro past₄ tokensReserved db₄ h₄ hadded₄ hview₄
    refine selectForUpdate_told h₄ hadded₄ hview₄ ?_
    intro past₅ activeRequests db₅ h₅ hadded₅ hview₅
    refine selectForUpdate_told h₅ hadded₅ hview₅ ?_
    intro past₆ budgetSpent db₆ h₆ hadded₆ hview₆
    exact reserveLocked_told hlimits h₆ hadded₆ hview₆

theorem releaseQuota_ensures (tenantID : String) :
    Transacts tx (CounterStep limits amount tenantID)
      (fun past' r _ => granted past' = granted past ∧
        releases past' = releases past + if r.isOk then 1 else 0)
      (releaseQuota tenantID) past db := by
  intro db₁ hu hready
  have hothers (other : τ) (_ : other ≠ tx) : Undisturbed other db₁
      (execute (.update (.concurrency tenantID) oneLess) db₁).2 :=
    execute_undisturbed hready (Option.some_ne_none _).symm
  have herror (err : Error) : granted (⟨.update (.concurrency tenantID) oneLess, .error err⟩ :: past)
      = granted past := rfl
  have hok : granted (⟨.update (.concurrency tenantID) oneLess, .ok ()⟩ :: past) = granted past := rfl
  refine ⟨⟨hothers, ?_⟩, ?_⟩
  · cases hfault : db₁.fault with
    | some err =>
      simp only [execute, hfault]
      exact .quiet (herror err) rfl fun _ => rfl
    | none =>
      cases hrow : db₁.rows (.concurrency tenantID) with
      | none =>
        simp only [execute, hfault, hrow]
        refine .release hok rfl fun k => ?_
        split_ifs with hk
        · rw [hk, value, hrow]
          rfl
        · rfl
      | some v =>
        cases hless : oneLess v with
        | none =>
          simp only [execute, hfault, hrow, hless]
          exact .quiet (herror _) rfl fun _ => rfl
        | some m =>
          simp only [execute, hfault, hrow, hless]
          refine .release hok rfl fun k => ?_
          rw [set_value]
          split_ifs with hk
          · unfold oneLess at hless
            split_ifs at hless
            rw [hk, value, hrow]
            exact (Option.some.inj hless).symm
          · rfl
  · cases hanswer : (execute (.update (.concurrency tenantID) oneLess) db₁).1 with
    | error err => exact fun _ _ => ⟨rfl, rfl⟩
    | ok u => exact fun _ _ => ⟨rfl, List.countP_cons_of_pos rfl⟩

end Ensures
end FleetLlmd.Quota
