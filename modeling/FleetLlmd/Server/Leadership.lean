import FleetLlmd.Controller.Leader

/-!
# Serving while leader

The flag behind `IsLeader`, which `leaderGate` of `pkg/server/run.go` asks before a mutating
request, and the label of the elector's pod. Both change only when the label patch of
`setLeader` succeeds, so that the flag outlives a renewal that fails; it is cleared without a patch
when the context is done.
-/

namespace FleetLlmd.Server
open Go Effect Controller Prog

/-! ## The flag -/

section Flag

def leaderFlag : List ElectorEvent → Bool
  | [] => false
  | ⟨.storeLeader leader, _⟩ :: _ => leader
  | _ :: past => leaderFlag past

def renewalUnderWay : List ElectorEvent → Bool
  | [] => false
  | ⟨.renewTicker, ticked⟩ :: _ => ticked
  | ⟨.ctxDone, _⟩ :: _ | ⟨.retryTimer, _⟩ :: _ => false
  | _ :: past => renewalUnderWay past

variable (le : LeaderElector)

def lost : List ElectorEvent → Bool
  | [] => false
  | ⟨.getLease, answer⟩ :: past =>
    match leaseRead answer with
    | .ok lease => !le.isHeldByMe lease
    | .error _ => renewalUnderWay past || lost past
  | ⟨.postLease _, answer⟩ :: past => !accepted answer && lost past
  | ⟨.putLease _, answer⟩ :: past => !accepted answer && (renewalUnderWay past || lost past)
  | _ :: past => lost past

/-- The lease is not renewed while the elector serves. -/
def renewalFails : ElectorEvent → List ElectorEvent → Bool
  | ⟨.getLease, answer⟩, past =>
    renewalUnderWay past && !(leaseRead answer).toOption.any le.isHeldByMe
  | ⟨.putLease _, answer⟩, past => renewalUnderWay past && !accepted answer
  | _, _ => false

def FlagLoaded (past : List ElectorEvent) : (c : ElectorCall) → c.Answer → Prop
  | .loadLeader, leader => leader = leaderFlag past
  | _, _ => True

def electorHistory : Behaviour electorCalls (List ElectorEvent) := fun c past x past' =>
  past' = ⟨c, x⟩ :: past ∧ FlagLoaded past c x

def StandsDown (past : List ElectorEvent) : Prop :=
  ∀ before, before <:+ past → lost le before = true → leaderFlag before = false

/-- No renewal has failed. -/
def renews : List ElectorEvent → Bool
  | [] => true
  | e :: past => !renewalFails le e past && renews past

/-- What holds at a point as long as no renewal has failed. -/
def FlagAt (past : List ElectorEvent) : Point → Prop
  | .won _ | .publishing => lost le past = false
  | .serving => lost le past = false ∧ leaderFlag past = true
  | .ticked | .renewable _ | .renewing _ _ =>
    lost le past = false ∧ leaderFlag past = true ∧ renewalUnderWay past = true
  | .withdrawing _ _ => False
  | .clearing _ => lost le past = false ∨ leaderFlag past = false
  | .rest _ => leaderFlag past = false
  | _ => leaderFlag past = false ∧ renewalUnderWay past = false

variable {le} {past : List ElectorEvent}

theorem standsDown_cons {e : ElectorEvent} : StandsDown le (e :: past) ↔
    (lost le (e :: past) = true → leaderFlag (e :: past) = false) ∧ StandsDown le past := by
  simp [StandsDown, List.suffix_cons_iff, or_imp, forall_and]

theorem FlagAt.standsDown {p : Point} (h : FlagAt le past p) (hlost : lost le past = true) :
    leaderFlag past = false := by
  cases p with
  | won | publishing => exact absurd (hlost.symm.trans h) Bool.true_eq_false.mp
  | serving | ticked | renewable | renewing =>
    exact absurd (hlost.symm.trans h.1) Bool.true_eq_false.mp
  | withdrawing => exact h.elim
  | clearing => exact h.resolve_left fun hno => absurd (hlost.symm.trans hno) Bool.true_eq_false.mp
  | rest => exact h
  | _ => exact h.1

/-- A step fails a renewal and leaves an elector that leads without its lease, or it does not. -/
theorem FlagAt.step {p q : Point} {c : ElectorCall} {x : c.Answer} (hp : FlagAt le past p)
    (h : ElectorStep le p ⟨c, x⟩ q) (hx : FlagLoaded past c x) :
    (renewalFails le ⟨c, x⟩ past = true ∧ lost le (⟨c, x⟩ :: past) = true ∧
      leaderFlag (⟨c, x⟩ :: past) = true) ∨
    (renewalFails le ⟨c, x⟩ past = false ∧ FlagAt le (⟨c, x⟩ :: past) q) := by
  cases h with
  | renewalUnread hread =>
    refine .inl ⟨?_, ?_, hp.2.1⟩
    · simp [renewalFails, hp.2.2, hread, Except.toOption]
    · simp [lost, hread, hp.2.2]
  | taken hread hholder =>
    refine .inl ⟨?_, ?_, hp.2.1⟩
    · simp [renewalFails, hp.2.2, hread, Except.toOption, LeaderElector.isHeldByMe, hholder]
    · simp [lost, hread, LeaderElector.isHeldByMe, hholder]
  | notRenewed hno =>
    refine .inl ⟨?_, ?_, hp.2.1⟩
    · simp [renewalFails, hp.2.2, hno]
    · simp [lost, hno, hp.2.2]
  | unread | notAcquired => exact .inr ⟨by simp [renewalFails, hp.2], hp.1⟩
  | notFound | undated | dated => exact .inr ⟨by simp [renewalFails, hp.2], hp⟩
  | held hread hheld =>
    exact .inr ⟨by simp [renewalFails, hp.2], by simp [FlagAt, lost, hread, hheld]⟩
  | created hok => exact .inr ⟨rfl, by simp [FlagAt, lost, hok]⟩
  | acquired hok => exact .inr ⟨by simp [renewalFails, hp.2], by simp [FlagAt, lost, hok]⟩
  | mine hread hholder =>
    refine .inr ⟨?_, ?_, hp.2⟩
    · simp [renewalFails, hread, Except.toOption, LeaderElector.isHeldByMe, hholder]
    · simp [lost, hread, LeaderElector.isHeldByMe, hholder]
  | renewed hok =>
    refine .inr ⟨?_, ?_, hp.2.1⟩
    · simp [renewalFails, hok]
    · simp [lost, hok]
  | stillLeader => exact absurd (hx.trans hp.1) Bool.true_eq_false.mp
  | leaving => exact absurd (hx.trans hp) Bool.true_eq_false.mp
  | withdrawn | notWithdrawn => exact hp.elim
  | cancelled => exact .inr ⟨rfl, .inr hp⟩
  | live => exact .inr ⟨rfl, hp, rfl⟩
  | notLabelled => exact .inr ⟨rfl, .inl hp⟩
  | publish => exact .inr ⟨rfl, hp, rfl⟩
  | tick => exact .inr ⟨rfl, hp.1, hp.2, rfl⟩
  | stop => exact .inr ⟨rfl, .inl hp.1⟩
  | clear => exact .inr ⟨rfl, rfl⟩
  | notCreated | standby => exact .inr ⟨rfl, hp.1⟩
  | _ => exact .inr ⟨rfl, hp⟩

theorem run_standsDown_iff {rounds : Nat} (h : (le.run rounds).Partly electorHistory [] past) :
    StandsDown le past ↔ renews le past = true := by
  have hguards := (@LeaderElector.run_follows le rounds).guards (E := electorHistory)
    (J := fun p past => (StandsDown le past ↔ renews le past = true) ∧
      (renews le past = true → FlagAt le past p))
    (s := []) ⟨iff_of_true (by simp [StandsDown, lost]) rfl, fun _ => rfl⟩ (by
      rintro p c x q past _ ⟨hiff, hp⟩ hstep ⟨rfl, hx⟩
      rw [standsDown_cons, hiff]
      by_cases hrenews : renews le past = true
      · rcases (hp hrenews).step hstep hx with ⟨hfails, hlost, hflag⟩ | ⟨hno, hq⟩
        · simp [renews, hfails, hlost, hflag]
        · have hstands := fun hlost => hq.standsDown hlost
          exact ⟨by simpa [renews, hno, hrenews] using hstands, fun _ => hq⟩
      · simp [renews, hrenews])
  obtain ⟨p, hiff, -⟩ := hguards.partly h
  exact hiff

end Flag

/-! ## The gate -/

structure Standby where
  retryAfter : String
  status : Nat
  error : String
  deriving DecidableEq

def standby : Standby :=
  ⟨"3", 503, "standby: mutating requests are handled by the elected leader"⟩

def leaderGate {ρ : Type} (isLeader : Option Bool) (method : String) (next : ρ) :
    Except Standby ρ :=
  if isLeader.isSome ∧ method ≠ "GET" ∧ method ≠ "HEAD" ∧ method ≠ "OPTIONS" ∧
      isLeader = some false then
    .error standby
  else .ok next

def mutating (method : String) : Bool := method != "GET" && method != "HEAD" && method != "OPTIONS"

theorem leaderGate_standby {ρ : Type} {method : String} (h : mutating method = true) (next : ρ) :
    leaderGate (some false) method next = .error standby := by
  simp only [mutating, Bool.and_eq_true, bne_iff_ne, ne_eq] at h
  simp [leaderGate, h]

section Samples

def podA : LeaderElector := ⟨"fleet-llm-d", "pod-a"⟩

def leaseOfA : K8sLease := podA.newLease .zero

def answered (status : Nat) : Except Error Controller.Response := .ok ⟨status, []⟩

def leaseOfB : K8sLease :=
  { leaseOfA with spec := { leaseOfA.spec with holderIdentity := "pod-b", renewTime := "" } }

/-- An elector that fails to take the lease of another, and then wins it and renews it. -/
def wonAndRenewed : List ElectorEvent :=
  [⟨.putLease (LeaderElector.renewed leaseOfA .zero), answered 200⟩, ⟨.now, .zero⟩,
    ⟨.getLease, .ok ⟨⟨200, []⟩, .ok leaseOfA⟩⟩, ⟨.renewTicker, true⟩, ⟨.storeLeader true, ()⟩,
    ⟨.patchLabel .ctx "pod-a" "true", answered 200⟩,
    ⟨.getLease, .ok ⟨⟨200, []⟩, .ok leaseOfA⟩⟩, ⟨.ctxDone, false⟩, ⟨.retryTimer, true⟩,
    ⟨.putLease (podA.acquired leaseOfB .zero), answered 409⟩, ⟨.now, .zero⟩,
    ⟨.getLease, .ok ⟨⟨200, []⟩, .ok leaseOfB⟩⟩, ⟨.ctxDone, false⟩]

def servedAndLost : List ElectorEvent :=
  [⟨.getLease, .error (.sentinel "connection refused")⟩, ⟨.renewTicker, true⟩,
    ⟨.storeLeader true, ()⟩, ⟨.patchLabel .ctx "pod-a" "true", answered 200⟩,
    ⟨.getLease, .ok ⟨⟨200, []⟩, .ok leaseOfA⟩⟩, ⟨.ctxDone, false⟩]

end Samples

/-- `label` is the value last written to the label of the pod; `cancelled` is none while the
context is live, and then the label at the moment it was cancelled. -/
structure PodWorld where
  isLeader : Bool := false
  label : Option String := none
  cancelled : Option (Option String) := none

namespace PodWorld

def cancel (w : PodWorld) : PodWorld := { w with cancelled := some (w.cancelled.getD w.label) }

def answers : (c : ElectorCall) → PodWorld → c.Answer → PodWorld → Prop
  | .getLease, w, x, w' => (w.cancelled.isSome → ∃ err, x = .error err) ∧ w' = w
  | .postLease _, w, x, w' | .putLease _, w, x, w' =>
    (w.cancelled.isSome → ∃ err, x = .error err) ∧ w' = w
  | .patchLabel context _ value, w, x, w' =>
    if context = .ctx ∧ w.cancelled.isSome then (∃ err, x = .error err) ∧ w' = w
    else accepted x = true ∧ w' = { w with label := some value }
  | .now, w, _, w' => w' = w
  | .ctxDone, w, x, w' => x = w.cancelled.isSome ∧ w' = w
  | .retryTimer, w, x, w' | .renewTicker, w, x, w' => (x = false → w.cancelled.isSome) ∧ w' = w
  | .loadLeader, w, x, w' => x = w.isLeader ∧ w' = w
  | .storeLeader leader, w, _, w' => w' = { w with isLeader := leader }

end PodWorld

def podSystem : Behaviour electorCalls PodWorld := fun c w x w' =>
  ∃ v, (v = w ∨ v = w.cancel) ∧ v.answers c x w'

section Label
variable {le : LeaderElector} {w v w' : PodWorld}

def Untouched (w : PodWorld) : Prop := ∀ label ∈ w.cancelled, w.label = label

def LabelAt (w : PodWorld) : Point → Prop
  | .rest .top => w.isLeader = false ∨ w.cancelled.isSome
  | .rest (.returning _) => w.isLeader = false ∧ w.cancelled.isSome
  | .rest (.ended _) => w.cancelled.isSome
  | .serving | .ticked | .renewable _ | .renewing _ _ => True
  | .withdrawing context after => context = .ctx ∧ after = .top
  | .clearing after => after = .top ∨ ∃ err, after = .returning err ∧ w.cancelled.isSome
  | _ => w.isLeader = false

theorem Untouched.cancel (h : Untouched w) : Untouched w.cancel := by
  intro label hlabel
  cases hcancelled : w.cancelled with
  | none => simpa [PodWorld.cancel, hcancelled] using hlabel
  | some first =>
    have hfirst := h first hcancelled
    simp only [PodWorld.cancel, hcancelled, Option.getD_some, Option.mem_def,
      Option.some.injEq] at hlabel ⊢
    exact hfirst.trans hlabel

theorem LabelAt.cancel {p : Point} (h : LabelAt w p) : LabelAt w.cancel p := by
  cases p with
  | rest r =>
    cases r with
    | top => exact .inr rfl
    | retrying => exact h
    | returning err => exact ⟨h.1, rfl⟩
    | ended err => rfl
  | clearing after =>
    rcases h with htop | ⟨err, herr, -⟩
    · exact .inl htop
    · exact .inr ⟨err, herr, rfl⟩
  | _ => exact h

theorem Untouched.answers {p q : Point} {c : ElectorCall} {x : c.Answer} (h : Untouched v)
    (hp : LabelAt v p) (hstep : ElectorStep le p ⟨c, x⟩ q) (hx : v.answers c x w') :
    Untouched w' := by
  have hpatch : ∀ value, w' = { v with label := some value } → ¬ v.cancelled.isSome →
      Untouched w' := by
    rintro value rfl hlive label hlabel
    exact absurd (Option.isSome_of_mem hlabel) hlive
  cases hstep with
  | labelled | notLabelled =>
    simp only [PodWorld.answers, true_and] at hx
    split_ifs at hx with hcancelled
    · exact hx.2 ▸ h
    · exact hpatch _ hx.2 hcancelled
  | withdrawn | notWithdrawn =>
    simp only [PodWorld.answers, hp.1, true_and] at hx
    split_ifs at hx with hcancelled
    · exact hx.2 ▸ h
    · exact hpatch _ hx.2 hcancelled
  | create | expire | unexpired | acquire | renew => exact (show w' = v from hx) ▸ h
  | publish | clear =>
    obtain rfl : w' = { v with isLeader := _ } := hx
    exact h
  | _ => exact hx.2 ▸ h

theorem patch_refused {pod value : String} {x : Except Error Controller.Response}
    (hx : v.answers (.patchLabel .ctx pod value) x w') (hno : accepted x = false) :
    v.cancelled.isSome ∧ w' = v := by
  simp only [PodWorld.answers, true_and] at hx
  split_ifs at hx with hcancelled
  · exact ⟨hcancelled, hx.2⟩
  · exact absurd (hx.1.symm.trans hno) Bool.true_eq_false.mp

theorem LabelAt.answers {p q : Point} {c : ElectorCall} {x : c.Answer} (hp : LabelAt v p)
    (hstep : ElectorStep le p ⟨c, x⟩ q) (hx : v.answers c x w') : LabelAt w' q := by
  cases hstep with
  | cancelled => exact .inr ⟨_, rfl, hx.2 ▸ hx.1.symm⟩
  | live =>
    rcases hp with hflag | hcancelled
    · exact hx.2 ▸ hflag
    · exact absurd (hx.1.trans hcancelled) Bool.false_ne_true
  | create | expire | unexpired | acquire => exact (show w' = v from hx) ▸ hp
  | stillLeader => exact absurd (hx.1.trans hp) Bool.true_eq_false.mp
  | retry => exact .inl (hx.2 ▸ hp)
  | retryCancelled => exact ⟨hx.2 ▸ hp, hx.2 ▸ hx.1 rfl⟩
  | labelled =>
    simp only [PodWorld.answers, true_and] at hx
    split_ifs at hx with hcancelled
    · exact hx.2 ▸ hp
    · exact hx.2.symm ▸ hp
  | notLabelled herr =>
    obtain ⟨hcancelled, rfl⟩ := patch_refused hx (not_accepted_of_some herr)
    exact .inr ⟨_, rfl, hcancelled⟩
  | stop => exact .inl rfl
  | renewalUnread | taken | notRenewed => exact ⟨rfl, rfl⟩
  | publish | tick | mine | renew | renewed => trivial
  | withdrawn => exact .inl hp.2
  | notWithdrawn hno =>
    obtain ⟨rfl, rfl⟩ := hp
    obtain ⟨hcancelled, rfl⟩ := patch_refused hx hno
    exact .inr hcancelled
  | clear =>
    obtain rfl : w' = { v with isLeader := false } := hx
    rcases hp with rfl | ⟨err, rfl, hcancelled⟩
    · exact .inl rfl
    · exact ⟨rfl, hcancelled⟩
  | leaving => exact absurd (hx.1.trans hp.1) Bool.true_eq_false.mp
  | left => exact hx.2 ▸ hp.2
  | _ => exact hx.2 ▸ hp

/-- A run of `Run` whose label patches with a live context succeed returns only when the context
is cancelled, and the label is then what it was at that moment. -/
theorem run_untouched {rounds : Nat} {err : Error}
    (h : (le.run rounds).Ends podSystem {} (some err) w) :
    ∃ label, w.cancelled = some label ∧ w.label = label := by
  have hguards := (@LeaderElector.run_follows le rounds).guards (E := podSystem)
    (J := fun p w => Untouched w ∧ LabelAt w p) (s := {}) ⟨nofun, .inl rfl⟩ (by
      rintro p c x q w w' ⟨huntouched, hp⟩ hstep ⟨v, rfl | rfl, hx⟩
      · exact ⟨huntouched.answers hp hstep hx, hp.answers hstep hx⟩
      · exact ⟨huntouched.cancel.answers hp.cancel hstep hx, hp.cancel.answers hstep hx⟩)
  obtain ⟨p, hfinal, huntouched, hp⟩ := hguards.ends h
  obtain rfl := hfinal err rfl
  obtain ⟨label, hlabel⟩ := Option.isSome_iff_exists.mp hp
  exact ⟨label, hlabel, huntouched label hlabel⟩

end Label

/-- When `Run` returns because its context was cancelled, the last value written to the label is
not true exactly if it was not true when the context was cancelled. -/
theorem label_withdrawn_iff (le : LeaderElector) (rounds : Nat) (err : Error) (w : PodWorld)
    (hrun : (le.run rounds).Ends podSystem {} (some err) w) :
    w.label ≠ some "true" ↔ w.cancelled ≠ some (some "true") := by
  obtain ⟨label, hcancelled, rfl⟩ := run_untouched hrun
  rw [hcancelled, ne_eq, ne_eq, Option.some.injEq]

/-- A context that is cancelled before the elector serves. -/
theorem label_unset_when_cancelled_first :
    (podA.run 1).Ends podSystem {} (some contextCanceled) { cancelled := some none } ∧
      (none : Option String) ≠ some "true" := by
  have hrun : (podA.run 1).Ends podSystem {} (some contextCanceled)
      { cancelled := some none } := by
    refine ⟨true, _, ⟨_, .inr rfl, rfl, rfl⟩, ?_⟩
    refine ⟨(), _, ⟨_, .inl rfl, rfl⟩, ?_⟩
    exact ⟨false, _, ⟨_, .inl rfl, rfl, rfl⟩, rfl, rfl⟩
  exact ⟨hrun, (label_withdrawn_iff podA 1 _ _ hrun).mpr nofun⟩

/-- A leader whose context is cancelled while it waits for the next renewal: both loops clear the
flag, so the deferred function does not withdraw the label. -/
theorem label_true_after_cancellation : ∃ w,
    (podA.run 2).Ends podSystem {} (some contextCanceled) w ∧ w.label = some "true" := by
  refine ⟨{ label := some "true", cancelled := some (some "true") }, ?_, rfl⟩
  refine ⟨false, _, ⟨_, .inl rfl, rfl, rfl⟩, ?_⟩
  refine ⟨.ok ⟨⟨200, []⟩, .ok leaseOfA⟩, _, ⟨_, .inl rfl, nofun, rfl⟩, ?_⟩
  refine ⟨answered 200, _, ⟨_, .inl rfl, rfl, rfl⟩, ?_⟩
  refine ⟨(), _, ⟨_, .inl rfl, rfl⟩, ?_⟩
  refine ⟨false, _, ⟨_, .inr rfl, fun _ => rfl, rfl⟩, ?_⟩
  refine ⟨(), _, ⟨_, .inl rfl, rfl⟩, ?_⟩
  refine ⟨true, _, ⟨_, .inl rfl, rfl, rfl⟩, ?_⟩
  refine ⟨(), _, ⟨_, .inl rfl, rfl⟩, ?_⟩
  exact ⟨false, _, ⟨_, .inl rfl, rfl, rfl⟩, rfl, rfl⟩

end FleetLlmd.Server
