import FleetLlmd.Controller.Leader
import FleetLlmd.Effect.Pool
import FleetLlmd.Json.Numbers

/-!
# Electors that share a lease

Any number of electors run against one API server, their requests in any order and each of
them failing or not. The server stores one lease, gives every stored lease a version of its
own and refuses a `PUT` that carries another version than the current one. What an elector
writes follows from what it has read, and what it has read is still stored when its write is
accepted.
-/

namespace FleetLlmd.Controller
open Go Effect Json

/-! ## What an elector writes -/

section Writes
variable (le : LeaderElector)

def ReadLast (past : List ElectorEvent) (lease : K8sLease) : Prop :=
  ∃ answer rest, past = ⟨.getLease, answer⟩ :: rest ∧ leaseRead answer = .ok lease

def JudgedExpired (past : List ElectorEvent) (lease : K8sLease) : Prop :=
  match parseLeaseTime lease.spec.renewTime with
  | none => ReadLast past lease
  | some renewTime => ∃ now rest, past = ⟨.now, now⟩ :: rest ∧ ReadLast rest lease ∧
      LeaderElector.runOut lease renewTime now = true

/-- `createLease` writes `lease` next, after a read that found none. -/
def Creates (past : List ElectorEvent) (lease : K8sLease) : Prop :=
  ∃ now answer err rest, past = ⟨.now, now⟩ :: ⟨.getLease, answer⟩ :: rest ∧
    leaseRead answer = .error err ∧ err.is errLeaseNotFound = true ∧ lease = le.newLease now

/-- `acquireLease` writes `lease` next, over the lease `existing` of another elector that its own
read judged expired. -/
def Acquires (past : List ElectorEvent) (existing lease : K8sLease) : Prop :=
  ∃ now rest, past = ⟨.now, now⟩ :: rest ∧ JudgedExpired rest existing ∧
    le.isHeldByMe existing = false ∧ lease = le.acquired existing now

/-- `renewLease` writes `lease` next, over its own lease `existing` that it has read. -/
def Renews (past : List ElectorEvent) (existing lease : K8sLease) : Prop :=
  ∃ now rest, past = ⟨.now, now⟩ :: rest ∧ ReadLast rest existing ∧
    existing.spec.holderIdentity = le.identity ∧ lease = LeaderElector.renewed existing now

def LeaseCalls (past : List ElectorEvent) : ElectorCall → Prop
  | .postLease lease => Creates le past lease
  | .putLease lease => ∃ existing, Acquires le past existing lease ∨ Renews le past existing lease
  | _ => True

def Seen (past : List ElectorEvent) : Point → Prop
  | .absent => ∃ answer err rest, past = ⟨.getLease, answer⟩ :: rest ∧
      leaseRead answer = .error err ∧ err.is errLeaseNotFound = true
  | .creating lease => Creates le past lease
  | .judging lease renewTime => ReadLast past lease ∧ le.isHeldByMe lease = false ∧
      parseLeaseTime lease.spec.renewTime = some renewTime
  | .expired lease => JudgedExpired past lease ∧ le.isHeldByMe lease = false
  | .acquiring existing lease => Acquires le past existing lease
  | .renewable lease => ReadLast past lease ∧ lease.spec.holderIdentity = le.identity
  | .renewing existing lease => Renews le past existing lease
  | _ => True

variable {le} {past : List ElectorEvent}

theorem Seen.calls {p q : Point} {c : ElectorCall} {x : c.Answer} (hp : Seen le past p)
    (h : ElectorStep le p ⟨c, x⟩ q) : LeaseCalls le past c := by
  cases h with
  | created | notCreated => exact hp
  | acquired | notAcquired => exact ⟨_, .inl hp⟩
  | renewed | notRenewed => exact ⟨_, .inr hp⟩
  | _ => trivial

theorem Seen.step {p q : Point} {c : ElectorCall} {x : c.Answer} (hp : Seen le past p)
    (h : ElectorStep le p ⟨c, x⟩ q) : Seen le (⟨c, x⟩ :: past) q := by
  cases h with
  | notFound hread herr => exact ⟨_, _, past, rfl, hread, herr⟩
  | undated hread hother htime =>
    refine ⟨?_, hother⟩
    simpa only [JudgedExpired, htime] using ⟨_, past, rfl, hread⟩
  | dated hread hother htime => exact ⟨⟨_, past, rfl, hread⟩, hother, htime⟩
  | create =>
    obtain ⟨answer, err, rest, rfl, hread, herr⟩ := hp
    exact ⟨_, answer, err, rest, rfl, hread, herr, rfl⟩
  | expire hout =>
    obtain ⟨hread, hother, htime⟩ := hp
    refine ⟨?_, hother⟩
    simpa only [JudgedExpired, htime] using ⟨_, past, rfl, hread, hout⟩
  | acquire => exact ⟨_, past, rfl, hp.1, hp.2, rfl⟩
  | mine hread hholder => exact ⟨⟨_, past, rfl, hread⟩, hholder⟩
  | renew => exact ⟨_, past, rfl, hp.1, hp.2, rfl⟩
  | _ => trivial

theorem electorCalls_answer (c : electorCalls.Call) : Nonempty (electorCalls.Answer c) := by
  cases c with
  | getLease => exact ⟨.error contextCanceled⟩
  | postLease | putLease | patchLabel => exact ⟨.error contextCanceled⟩
  | now => exact ⟨.zero⟩
  | ctxDone | retryTimer | renewTicker | loadLeader => exact ⟨true⟩
  | storeLeader => exact ⟨()⟩

theorem LeaderElector.run_meets (le : LeaderElector) (rounds : Nat) :
    (le.run rounds).Meets (LeaseCalls le) (fun _ _ => True) [] := by
  have hstart : Seen le [] (.rest .top) := trivial
  have hmeets := (@run_follows le rounds).meets (J := fun p past => Seen le past p)
    electorCalls_answer hstart (fun _ _ _ _ _ hp h => hp.calls h)
    (fun _ _ _ _ _ hp h => hp.step h)
  exact hmeets.imp fun _ _ _ => trivial

end Writes

/-! ## The API server -/

/-- `version` is that of the stored lease; `replaced` lists the versions that a `PUT` has replaced,
the latest first. -/
structure LeaseServer where
  stored : Option K8sLease
  version : Nat
  replaced : List Nat := []

def versionText (version : Nat) : String := String.ofList (natText version)

theorem versionText_injective : Function.Injective versionText := by
  intro v w h
  have htext := congrArg String.toList h
  simp only [versionText, String.toList_ofList] at htext
  rw [← digitsValue_natText v, htext, digitsValue_natText]

def K8sLease.withVersion (lease : K8sLease) (version : String) : K8sLease :=
  { lease with metadata := { lease.metadata with resourceVersion := version } }

namespace LeaseServer
variable (s : LeaseServer)

def current : Option K8sLease := s.stored.map (·.withVersion (versionText s.version))

def holder : Option String := s.stored.map (·.spec.holderIdentity)

def store (lease : K8sLease) (replaced : List Nat) : LeaseServer :=
  ⟨some lease, s.version + 1, replaced⟩

@[simp] theorem store_holder (lease : K8sLease) (replaced : List Nat) :
    (s.store lease replaced).holder = some lease.spec.holderIdentity := rfl

def respond (status : Nat) : Except Error Response := .ok ⟨status, []⟩

def get : Except Error LeaseResponse :=
  match s.current with
  | some lease => .ok ⟨⟨200, []⟩, .ok lease⟩
  | none => .ok ⟨⟨404, []⟩, .error (.sentinel "not a lease")⟩

def post (lease : K8sLease) : Except Error Response × LeaseServer :=
  if s.stored.isSome then (respond 409, s) else (respond 201, s.store lease s.replaced)

def put (lease : K8sLease) : Except Error Response × LeaseServer :=
  if s.stored.isNone then (respond 404, s)
  else if lease.metadata.resourceVersion ≠ versionText s.version then (respond 409, s)
  else (respond 200, s.store lease (s.version :: s.replaced))

end LeaseServer

structure Surroundings where
  failure : Option (Except Error LeaseResponse)
  label : Except Error Response
  time : Time
  bool : Bool

def Surroundings.readFails (w : Surroundings) : Option (Except Error LeaseResponse) :=
  w.failure.filter fun answer => (leaseRead answer).toOption.isNone

def Surroundings.writeFails (w : Surroundings) : Option (Except Error Response) :=
  (w.failure.map (·.map (·.toResponse))).filter fun answer => (writeFailure "" [] answer).isSome

def leaseSystem : Handler electorCalls (LeaseServer × Surroundings)
  | .getLease, (s, w) => (w.readFails.getD s.get, s, w)
  | .postLease lease, (s, w) =>
    match w.writeFails with
    | some answer => (answer, s, w)
    | none => ((s.post lease).1, (s.post lease).2, w)
  | .putLease lease, (s, w) =>
    match w.writeFails with
    | some answer => (answer, s, w)
    | none => ((s.put lease).1, (s.put lease).2, w)
  | .patchLabel _ _ _, (s, w) => (w.label, s, w)
  | .now, (s, w) => (w.time, s, w)
  | .ctxDone, (s, w) | .retryTimer, (s, w) | .renewTicker, (s, w) | .loadLeader, (s, w) =>
    (w.bool, s, w)
  | .storeLeader _, (s, w) => ((), s, w)

section Requests
variable {s : LeaseServer} {w : Surroundings} {lease : K8sLease}

theorem leaseRead_get (h : leaseRead s.get = .ok lease) : s.current = some lease := by
  rw [LeaseServer.get] at h
  cases hcurrent : s.current with
  | none => simp [hcurrent, leaseRead] at h
  | some stored =>
    simp only [hcurrent, leaseRead] at h
    exact congrArg some (Except.ok.inj h)

theorem read_getLease (h : leaseRead (leaseSystem .getLease (s, w)).1 = .ok lease) :
    s.current = some lease := by
  change leaseRead (w.readFails.getD s.get) = .ok lease at h
  cases hfails : w.readFails with
  | none =>
    rw [hfails, Option.getD_none] at h
    exact leaseRead_get h
  | some answer =>
    -- an answer that counts as a failure reads as an error
    have hfailed := (Option.filter_eq_some_iff.mp hfails).2
    rw [hfails, Option.getD_some] at h
    simp [h, Except.toOption] at hfailed

def LeaseServer.Replaces (s : LeaseServer) (lease : K8sLease) (s' : LeaseServer) : Prop :=
  s.stored.isSome ∧ lease.metadata.resourceVersion = versionText s.version ∧
    s' = s.store lease (s.version :: s.replaced)

theorem put_cases (s : LeaseServer) (lease : K8sLease) :
    (accepted (s.put lease).1 = false ∧ (s.put lease).2 = s) ∨ s.Replaces lease
    (s.put lease).2 := by
  unfold LeaseServer.put
  split_ifs with hnone hversion
  · exact .inl ⟨rfl, rfl⟩
  · exact .inl ⟨rfl, rfl⟩
  · exact .inr ⟨by simpa [Option.isSome_iff_ne_none] using hnone, not_not.mp hversion, rfl⟩

theorem putLease_cases (s : LeaseServer) (w : Surroundings) (lease : K8sLease) :
    (accepted (leaseSystem (.putLease lease) (s, w)).1 = false ∧
      (leaseSystem (.putLease lease) (s, w)).2.1 = s) ∨
    s.Replaces lease (leaseSystem (.putLease lease) (s, w)).2.1 := by
  rw [leaseSystem]
  cases hfails : w.writeFails with
  | none => exact put_cases s lease
  | some answer =>
    have hfailed := (Option.filter_eq_some_iff.mp hfails).2
    refine .inl ⟨?_, rfl⟩
    obtain ⟨err, herr⟩ := Option.isSome_iff_exists.mp hfailed
    exact not_accepted_of_some herr

theorem leaseSystem_cases (c : ElectorCall) (s : LeaseServer) (w : Surroundings) :
    (leaseSystem c (s, w)).2.1 = s ∨
    (∃ lease, c = .postLease lease ∧ s.stored = none ∧
      (leaseSystem c (s, w)).2.1 = s.store lease s.replaced) ∨
    (∃ lease, c = .putLease lease ∧ s.Replaces lease (leaseSystem c (s, w)).2.1) := by
  cases c with
  | postLease lease =>
    rw [leaseSystem]
    cases w.writeFails with
    | some answer => exact .inl rfl
    | none =>
      cases hstored : s.stored with
      | some stored => exact .inl (by simp [LeaseServer.post, hstored])
      | none => exact .inr (.inl ⟨lease, rfl, rfl, by simp [LeaseServer.post, hstored]⟩)
  | putLease lease =>
    rcases putLease_cases s w lease with ⟨-, hstay⟩ | hreplaces
    · exact .inl hstay
    · exact .inr (.inr ⟨lease, rfl, hreplaces⟩)
  | _ => exact .inl rfl

end Requests

/-! ## Mutual exclusion -/

section Exclusion
variable {ι : Type}

def LeaseServer.Knows (s : LeaseServer) (lease : K8sLease) : Prop :=
  ∃ v ≤ s.version, lease.metadata.resourceVersion = versionText v ∧
    (v = s.version → s.current = some lease)

theorem LeaseServer.Knows.later {s s' : LeaseServer} {lease : K8sLease} (h : s.Knows lease)
    (hlater : s.version < s'.version) : s'.Knows lease := by
  obtain ⟨v, hv, htext, -⟩ := h
  exact ⟨v, by omega, htext, fun _ => by omega⟩

theorem LeaseServer.knows_current {s : LeaseServer} {lease : K8sLease}
    (h : s.current = some lease) : s.Knows lease := by
  refine ⟨s.version, le_refl _, ?_, fun _ => h⟩
  obtain ⟨stored, -, rfl⟩ := Option.map_eq_some_iff.mp h
  rfl

theorem LeaseServer.Knows.current {s : LeaseServer} {lease : K8sLease} (h : s.Knows lease)
    (hversion : lease.metadata.resourceVersion = versionText s.version) :
    s.current = some lease := by
  obtain ⟨v, -, htext, hcurrent⟩ := h
  exact hcurrent (versionText_injective (htext.symm.trans hversion))

structure Consistent (pasts : ι → List ElectorEvent) (s : LeaseServer) : Prop where
  reads : ∀ i answer lease, ⟨.getLease, answer⟩ ∈ pasts i → leaseRead answer = .ok lease →
    s.Knows lease
  replaced_lt : ∀ v ∈ s.replaced, v < s.version
  nodup : s.replaced.Nodup

variable {pasts : ι → List ElectorEvent} {s : LeaseServer}

theorem Consistent.later (h : Consistent pasts s) {lease : K8sLease} :
    Consistent pasts (s.store lease s.replaced) ∧
      Consistent pasts (s.store lease (s.version :: s.replaced)) := by
  have hlt : s.version < s.version + 1 := Nat.lt_succ_self _
  have hreads := fun i answer read hmem hread =>
    @LeaseServer.Knows.later s (s.store lease s.replaced) read
      (h.reads i answer read hmem hread) hlt
  refine ⟨⟨hreads, fun v hv => (h.replaced_lt v hv).trans hlt, h.nodup⟩, hreads, ?_, ?_⟩
  · intro v hv
    rcases List.mem_cons.mp hv with rfl | hv
    · exact hlt
    · exact (h.replaced_lt v hv).trans hlt
  · exact List.nodup_cons.mpr ⟨fun hmem => (h.replaced_lt _ hmem).ne rfl, h.nodup⟩

variable [DecidableEq ι]

theorem Consistent.record (h : Consistent pasts s) {i : ι} {e : ElectorEvent}
    (he : ∀ answer lease, e = ⟨.getLease, answer⟩ → leaseRead answer = .ok lease → s.Knows lease) :
    Consistent (Function.update pasts i (e :: pasts i)) s := by
  refine ⟨fun j answer lease hmem hread => ?_, h.replaced_lt, h.nodup⟩
  by_cases hj : j = i
  · subst hj
    rw [Function.update_self] at hmem
    rcases List.mem_cons.mp hmem with he' | hmem
    · exact he answer lease he'.symm hread
    · exact h.reads j answer lease hmem hread
  · rw [Function.update_of_ne hj] at hmem
    exact h.reads j answer lease hmem hread

theorem Consistent.step (h : Consistent pasts s) (w : Surroundings) (i : ι) (c : ElectorCall) :
    Consistent (Function.update pasts i (⟨c, (leaseSystem c (s, w)).1⟩ :: pasts i))
      (leaseSystem c (s, w)).2.1 := by
  by_cases hget : c = .getLease
  · subst hget
    exact h.record fun answer lease he hread =>
      LeaseServer.knows_current (read_getLease (eq_of_heq (Sigma.mk.inj he).2 ▸ hread))
  · have hrecord : ∀ s', Consistent pasts s' →
        Consistent (Function.update pasts i (⟨c, (leaseSystem c (s, w)).1⟩ :: pasts i)) s' :=
      fun s' hs' => hs'.record fun answer lease he _ => absurd (Sigma.mk.inj he).1 hget
    rcases leaseSystem_cases c s w with hstay | ⟨lease, -, -, hstore⟩ | ⟨lease, -, -, -, hstore⟩
    · exact hrecord _ (hstay.symm ▸ h)
    · exact hrecord _ (hstore ▸ h.later.1)
    · exact hrecord _ (hstore ▸ h.later.2)

def Calls (z : Pool electorCalls (Option Error) ι (LeaseServer × Surroundings)) (i : ι)
    (c : ElectorCall) : Prop := ∃ k, (z.1 i).rest = .call c k

def electing (ns : String) (identity : ι → String) (rounds : ι → Nat) (stored : Option K8sLease)
    (version : Nat) (w : Surroundings) :
    Pool electorCalls (Option Error) ι (LeaseServer × Surroundings) :=
  (fun i => .start ((LeaderElector.mk ns (identity i)).run (rounds i)), ⟨stored, version, []⟩, w)

def elected (ns : String) (identity : ι → String) (rounds : ι → Nat) (stored : Option K8sLease)
    (version : Nat) (w : Surroundings) (moves : List (Move ι Surroundings)) :
    Pool electorCalls (Option Error) ι (LeaseServer × Surroundings) :=
  Pool.exec leaseSystem (fun w s => (s.1, w)) moves (electing ns identity rounds stored version w)

def Electing (ns : String) (identity : ι → String)
    (z : Pool electorCalls (Option Error) ι (LeaseServer × Surroundings)) : Prop :=
  Pool.AllMeet (fun i => LeaseCalls ⟨ns, identity i⟩) (fun _ _ _ => True) z ∧
    Consistent (Pool.pasts z) z.2.1

theorem elected_electing (ns : String) (identity : ι → String) (rounds : ι → Nat)
    (stored : Option K8sLease) (version : Nat) (w : Surroundings)
    (moves : List (Move ι Surroundings)) :
    Electing ns identity (elected ns identity rounds stored version w moves) := by
  refine Pool.exec_invariant leaseSystem (fun w s => (s.1, w))
    (I := fun pasts s => Consistent pasts s.1) (fun _ s i c h _ => h.step s.2 i c)
    (fun _ _ _ h => h) moves ?_ ?_
  · exact fun i => (LeaderElector.mk ns (identity i)).run_meets (rounds i)
  · exact Consistent.mk nofun nofun List.nodup_nil

variable {ns : String} {identity : ι → String}
variable {z : Pool electorCalls (Option Error) ι (LeaseServer × Surroundings)}

omit [DecidableEq ι] in
theorem Electing.leaseCalls (h : Electing ns identity z) {i : ι} {c : ElectorCall}
    (hc : Calls z i c) : LeaseCalls ⟨ns, identity i⟩ (Pool.pasts z i) c := by
  obtain ⟨k, hk⟩ := hc
  have hmeets := h.1 i
  rw [hk] at hmeets
  exact hmeets.1

omit [DecidableEq ι] in
theorem Electing.renews (h : Electing ns identity z) {i : ι} {existing lease : K8sLease}
    {s' : LeaseServer} (hrenews : Renews ⟨ns, identity i⟩ (Pool.pasts z i) existing lease)
    (hreplaces : z.2.1.Replaces lease s') :
    z.2.1.current = some existing ∧ existing.spec.holderIdentity = identity i ∧
      s'.holder = some (identity i) := by
  obtain ⟨now, rest, hpast, ⟨answer, rest', rfl, hread⟩, hholder, rfl⟩ := hrenews
  obtain ⟨-, hversion, rfl⟩ := hreplaces
  rw [LeaderElector.renewed_metadata] at hversion
  have hmem : (⟨.getLease, answer⟩ : ElectorEvent) ∈ Pool.pasts z i := by
    rw [hpast]
    simp
  refine ⟨(h.2.reads i answer existing hmem hread).current hversion, hholder, ?_⟩
  rw [LeaseServer.store_holder, LeaderElector.renewed_holderIdentity, hholder]

/-- Whatever the order of the requests of any number of electors and whichever of them fail: the
stored holder changes only by a `createLease`, or by an `acquireLease` over a lease that its own
read judged expired; no version is replaced twice; and a `renewLease` that succeeds replaces the
version it has read, of which its elector is the holder before and after. -/
theorem lease_mutual_exclusion (ns : String) (identity : ι → String) (rounds : ι → Nat)
    (stored : Option K8sLease) (version : Nat) (w : Surroundings)
    (moves : List (Move ι Surroundings)) :
    let z := elected ns identity rounds stored version w moves
    (∀ m, (Pool.move leaseSystem (fun w s => (s.1, w)) m z).2.1.holder ≠ z.2.1.holder →
      ∃ i lease, m = .thread i ∧
        ((Calls z i (.postLease lease) ∧ Creates ⟨ns, identity i⟩ (Pool.pasts z i) lease) ∨
          (Calls z i (.putLease lease) ∧
            ∃ existing, Acquires ⟨ns, identity i⟩ (Pool.pasts z i) existing lease))) ∧
    z.2.1.replaced.Nodup ∧
    (∀ i existing lease, Calls z i (.putLease lease) →
      Renews ⟨ns, identity i⟩ (Pool.pasts z i) existing lease →
      accepted (leaseSystem (.putLease lease) z.2).1 = true →
      z.2.1.current = some existing ∧ existing.spec.holderIdentity = identity i ∧
        (Pool.move leaseSystem (fun w s => (s.1, w)) (.thread i) z).2.1.holder =
          some (identity i)) := by
  intro z
  have hz : Electing ns identity z := elected_electing ns identity rounds stored version w moves
  refine ⟨fun m hholder => ?_, hz.2.nodup, fun i existing lease hc hrenews hok => ?_⟩
  · cases m with
    | outside w => exact absurd rfl hholder
    | thread i =>
      cases hrest : (z.1 i).rest with
      | done a => simp only [Pool.move, hrest, ne_eq, not_true_eq_false] at hholder
      | call c k =>
        simp only [Pool.move, hrest, Pool.advance] at hholder
        have hcalls : Calls z i c := ⟨k, hrest⟩
        have hlease := hz.leaseCalls hcalls
        rcases leaseSystem_cases c z.2.1 z.2.2 with hstay | ⟨lease, rfl, -⟩ | ⟨lease, rfl, hput⟩
        · exact absurd (congrArg LeaseServer.holder hstay) hholder
        · exact ⟨i, lease, rfl, .inl ⟨hcalls, hlease⟩⟩
        · obtain ⟨existing, hacquires | hrenews⟩ := hlease
          · exact ⟨i, lease, rfl, .inr ⟨hcalls, existing, hacquires⟩⟩
          · -- a renewal leaves the holder as it is
            obtain ⟨hcurrent, hmine, hafter⟩ := hz.renews hrenews hput
            refine absurd (hafter.trans ?_) hholder
            obtain ⟨before, hbefore, rfl⟩ := Option.map_eq_some_iff.mp hcurrent
            rw [LeaseServer.holder, hbefore]
            exact congrArg some hmine.symm
  · obtain ⟨k, hrest⟩ := hc
    rcases putLease_cases z.2.1 z.2.2 lease with ⟨hrefused, -⟩ | hreplaces
    · exact absurd (hok.symm.trans hrefused) Bool.true_eq_false.mp
    · obtain ⟨hcurrent, hmine, hafter⟩ := hz.renews hrenews hreplaces
      refine ⟨hcurrent, hmine, ?_⟩
      simpa only [Pool.move, hrest, Pool.advance] using hafter

end Exclusion

end FleetLlmd.Controller
