import FleetLlmd.Intents.StepEvidence

/-!
# Acceptance and expiry

`Submit` checks an intent's expiry against its first clock reading and journals the
admission at a second one; `Approve` and `Transition` take an operation out of
`DEFERRED` into `ACCEPTED` without looking at the intent. An operation is accepted
before its intent expires in every run whose approvals, and whose second readings,
are in time, and not otherwise.
-/

namespace FleetLlmd.Intents
open Go Effect Prog

def FleetOperation.entries (operation : FleetOperation) : List (OperationState × Time) :=
  operation.transitions.map fun t => (t.state, t.atTime)

@[simp] theorem FleetOperation.attach_entries (operation : FleetOperation)
    (receipt : OperationLedgerReceipt) (now : Time) :
    (operation.attach receipt now).entries = operation.entries :=
  map_markLast _ (fun _ _ => rfl) _ _

@[simp] theorem FleetOperation.extend_entries (operation : FleetOperation) (next : OperationState)
    (reason actor : String) (now : Time) :
    (operation.extend next reason actor now).entries = operation.entries ++ [(next, now)] := by
  simp [entries, extend]

def OnTime (intents : String → Option FleetIntent) (operation : FleetOperation) : Prop :=
  ∃ intent, intents operation.intentID = some intent ∧ ∀ expiresAt,
    intent.expiresAt = some expiresAt →
      ∀ entry ∈ operation.entries, entry.1 = .accepted → entry.2.before expiresAt = true

theorem OnTime.update {intents : String → Option FleetIntent} {operation : FleetOperation}
    (h : OnTime intents operation) {id : String} (hfresh : intents id = none)
    (intent : FleetIntent) : OnTime (Function.update intents id (some intent)) operation := by
  obtain ⟨stored, hstored, hentries⟩ := h
  have hne : operation.intentID ≠ id := by
    intro hid
    rw [hid, hfresh] at hstored
    cases hstored
  exact ⟨stored, by rw [Function.update_of_ne hne, hstored], hentries⟩

section Runs
variable {ρ ε : Type} {R : Repository ρ} (E : Environment ε) (s : Service) (F : Faithful R)

structure InTime (w : World ρ ε) (r : Request) : Prop where
  submission : ∀ given expiresAt now later, r.scope.submits given →
    given.expiresAt = some expiresAt →
    ⟨.now, now⟩ ∈ (r.action s).trace (serve R E) w → expiresAt.after now = true →
    ⟨.timeNow, later⟩ ∈ (r.action s).trace (serve R E) w → later.before expiresAt = true
  approval : ∀ id operation intent expiresAt later, r.scope.target id .accepted →
    F.stored w.repository id = some operation →
    allowedTransition operation.state .accepted = true →
    F.intents w.repository operation.intentID = some intent →
    intent.expiresAt = some expiresAt →
    ⟨.timeNow, later⟩ ∈ (r.action s).trace (serve R E) w → later.before expiresAt = true

def RunInTime : List Step → World ρ ε → Prop
  | [], _ => True
  | step :: steps, w =>
    (∀ r, step = .request r → InTime E s F w r) ∧ RunInTime steps (step.perform R E s w)

variable {E s F}

def AllOnTime (F : Faithful R) (w : World ρ ε) : Prop :=
  ∀ id operation, F.stored w.repository id = some operation →
    OnTime (F.intents w.repository) operation

variable {w : World ρ ε}

theorem admitted_onTime {r : Request} (hin : InTime E s F w r)
    {given intent : FleetIntent} {operation : FleetOperation} (hscope : r.scope.submits given)
    (hadmits : Admits s given ((r.action s).trace (serve R E) w) intent operation) :
    OnTime (Function.update (F.intents w.repository) intent.id (some intent)) operation := by
  obtain ⟨id, operationID, now, later, next, reason, rfl, -, -, hnow, hlater, hadm, rfl⟩ := hadmits
  refine ⟨Service.complete given id now.utc, Function.update_self _ _ _, ?_⟩
  intro expiresAt hexpires entry hentry haccepted
  -- the first entry is the receipt; only the second can be an acceptance
  simp only [FleetOperation.extend_entries, List.mem_append, List.mem_singleton] at hentry
  rcases hentry with hfirst | rfl
  · simp only [Service.received, FleetOperation.entries, List.map_cons, List.map_nil,
      List.mem_singleton] at hfirst
    subst hfirst
    cases haccepted
  · cases (show next = .accepted from haccepted)
    refine hin.submission given expiresAt now later hscope hexpires hnow ?_ hlater
    unfold Service.admission at hadm
    split_ifs at hadm with hexpired
    · cases hadm
    · have hlive : given.expiresAt = some expiresAt := hexpires
      simp only [Service.expiredAt, Service.complete, hlive, Bool.not_eq_true',
        Bool.not_eq_false] at hexpired
      exact hexpired

theorem updated_onTime {r : Request} (hin : InTime E s F w r) {id : String}
    {old new : FleetOperation} (hstored : F.stored w.repository id = some old)
    (hold : OnTime (F.intents w.repository) old)
    (hnew : Appends (r.scope.target id) ((r.action s).trace (serve R E) w) old new ∨
      Attaches ((r.action s).trace (serve R E) w) old new) :
    OnTime (F.intents w.repository) new := by
  obtain ⟨intent, hintent, hentries⟩ := hold
  rcases hnew with ⟨next, reason, actor, later, rfl, htarget, hlater, hedge, -⟩ |
    ⟨receipt, now, rfl, -⟩
  · refine ⟨intent, hintent, fun expiresAt hexpires entry hentry haccepted => ?_⟩
    simp only [FleetOperation.extend_entries, List.mem_append, List.mem_singleton] at hentry
    rcases hentry with hbefore | rfl
    · exact hentries expiresAt hexpires entry hbefore haccepted
    · cases (show next = .accepted from haccepted)
      exact hin.approval id old intent expiresAt later htarget hstored hedge hintent hexpires hlater
  · refine ⟨intent, hintent, fun expiresAt hexpires entry hentry haccepted => ?_⟩
    rw [FleetOperation.attach_entries] at hentry
    exact hentries expiresAt hexpires entry hentry haccepted

theorem AllOnTime.step (h : AllOnTime F w) {step : Step}
    (hin : ∀ r, step = .request r → InTime E s F w r) : AllOnTime F (step.perform R E s w) := by
  cases step with
  | request r =>
    have hr := hin r rfl
    unfold AllOnTime
    simp only [Step.perform]
    cases request_effect (E := E) (s := s) F r w with
    | unchanged hs hi => rwa [hs, hi]
    | admitted given intent operation hscope hadmits hs hi hfresh =>
      rw [hs, hi]
      exact forall_update (fun id op hop => (h id op hop).update hfresh intent)
        (admitted_onTime hr hscope hadmits)
    | updated id old new hold hnew hs hi =>
      rw [hs, hi]
      exact forall_update h (updated_onTime hr hold (h id old hold) hnew)
  | write e =>
    unfold AllOnTime
    simp only [Step.perform]
    obtain ⟨-, hi, hs | ⟨old, hold, hs⟩⟩ := writeEvidence_stored F e w
    · rwa [hs, hi]
    · rw [hs, hi]
      exact forall_update h (h e.id old hold)

theorem AllOnTime.run {steps : List Step} (h : AllOnTime F w)
    (hin : RunInTime E s F steps w) : AllOnTime F (runSteps R E s steps w) := by
  induction steps generalizing w with
  | nil => exact h
  | cons step steps ih => exact ih (h.step hin.1) hin.2

/-- In a run whose requests are in time no operation enters `ACCEPTED` at or after the expiry of
its intent. -/
theorem accepted_before_expiry (steps : List Step) (w : World ρ ε)
    (hempty : ∀ id, F.stored w.repository id = none) (hin : RunInTime E s F steps w)
    (id : String) (operation : FleetOperation)
    (hop : F.stored (runSteps R E s steps w).repository id = some operation) (intent : FleetIntent)
    (hintent : F.intents (runSteps R E s steps w).repository operation.intentID = some intent)
    (expiresAt : Time) (hexpires : intent.expiresAt = some expiresAt)
    (t : OperationTransition) (ht : t ∈ operation.transitions) (haccepted : t.state = .accepted) :
    t.atTime.before expiresAt = true := by
  have hstart : AllOnTime F w := fun id op hop => by simp [hempty id] at hop
  obtain ⟨stored, hstored, hentries⟩ := hstart.run hin id operation hop
  rw [hintent] at hstored
  cases hstored
  exact hentries expiresAt hexpires (t.state, t.atTime) (List.mem_map.mpr ⟨t, ht, rfl⟩) haccepted

end Runs

section Sample

def sampleAlert (expiresAt : Time) : FleetIntent :=
  { sampleIntent with type := .alert, severity := "critical", expiresAt := some expiresAt }

def sampleApproval (expiresAt : Time) : List Step :=
  [.request (.submit (sampleAlert expiresAt)), .request (.approve sampleID "operator")]

def SampleExpiry (expiresAt : Time) (w : World MemoryRepository Unit) : Prop :=
  ∀ id intent, w.repository.intents id = some intent → intent.expiresAt = some expiresAt

theorem sample_inTime (w : World MemoryRepository Unit) (r : Request) (expiresAt : Time)
    (hexpires : (⟨1000000000, 0⟩ : Time).before expiresAt = true)
    (hsubmits : ∀ given, r.scope.submits given → given.expiresAt = some expiresAt)
    (hintents : SampleExpiry expiresAt w) :
    InTime sampleEnvironment sampleService MemoryRepository.faithful w r := by
  have hclock {later : Time} (h : (⟨.timeNow, later⟩ : ServiceEvent) ∈
      (r.action sampleService).trace (serve memory sampleEnvironment) w) :
      later = ⟨1000000000, 0⟩ := by
    obtain ⟨w', hw'⟩ := mem_trace h
    exact hw'
  constructor
  · intro given e now later hscope he _ _ hlater
    rw [hsubmits given hscope, Option.some.injEq] at he
    rw [hclock hlater, ← he]
    exact hexpires
  · intro id operation intent e later _ _ _ hintent he hlater
    rw [hintents _ intent hintent, Option.some.injEq] at he
    rw [hclock hlater, ← he]
    exact hexpires

theorem SampleExpiry.request {expiresAt : Time} {w : World MemoryRepository Unit} {r : Request}
    (h : SampleExpiry expiresAt w)
    (hsubmits : ∀ given, r.scope.submits given → given.expiresAt = some expiresAt) :
    SampleExpiry expiresAt
      ((r.action sampleService).run (serve memory sampleEnvironment) w).2 := by
  intro id intent hintent
  cases request_effect (E := sampleEnvironment) (s := sampleService)
    MemoryRepository.faithful r w with
  | unchanged hs hi => exact h id intent ((congrFun hi id).symm.trans hintent)
  | updated _ _ _ _ _ hs hi => exact h id intent ((congrFun hi id).symm.trans hintent)
  | admitted given new operation hscope hadmits hs hi hfresh =>
    have hnew := (congrFun hi id).symm.trans hintent
    by_cases hid : id = new.id
    · subst hid
      rw [Function.update_self, Option.some.injEq] at hnew
      obtain ⟨_, _, _, _, _, _, rfl, -⟩ := hadmits
      rw [← hnew]
      exact hsubmits given hscope
    · rw [Function.update_of_ne hid] at hnew
      exact h id intent hnew

theorem sample_runInTime : RunInTime sampleEnvironment sampleService MemoryRepository.faithful
    (sampleApproval ⟨2000000000, 0⟩) sampleWorld := by
  have hempty : SampleExpiry ⟨2000000000, 0⟩ sampleWorld := fun id intent h => by cases h
  have hsubmits (given : FleetIntent)
      (h : (Request.submit (sampleAlert ⟨2000000000, 0⟩)).scope.submits given) :
      given.expiresAt = some ⟨2000000000, 0⟩ := by
    cases h
    rfl
  refine ⟨?_, ?_, trivial⟩
  · rintro r ⟨⟩
    exact sample_inTime _ _ ⟨2000000000, 0⟩ (by decide) hsubmits hempty
  · rintro r ⟨⟩
    exact sample_inTime _ _ ⟨2000000000, 0⟩ (by decide) (fun given h => h.elim)
      (hempty.request hsubmits)

def sampleEntries {ε : Type} (w : World MemoryRepository ε) :
    Option (String × List (OperationState × Time)) :=
  (MemoryRepository.faithful.stored w.repository sampleID).map fun operation =>
    (operation.intentID, operation.entries)

set_option maxRecDepth 20000 in
theorem accepted_before_expiry_sample : ∃ operation t,
    MemoryRepository.faithful.stored (runSteps memory sampleEnvironment sampleService
        (sampleApproval ⟨2000000000, 0⟩) sampleWorld).repository sampleID = some operation ∧
      t ∈ operation.transitions ∧ t.state = .accepted ∧
      t.atTime.before ⟨2000000000, 0⟩ = true := by
  have hentries : sampleEntries (runSteps memory sampleEnvironment sampleService
      (sampleApproval ⟨2000000000, 0⟩) sampleWorld) = some ("i", [(.received, ⟨1000000000, 0⟩),
        (.deferred, ⟨1000000000, 0⟩), (.accepted, ⟨1000000000, 0⟩)]) := by decide +kernel
  have hexpires : (MemoryRepository.faithful.intents (runSteps memory sampleEnvironment
      sampleService (sampleApproval ⟨2000000000, 0⟩) sampleWorld).repository "i").map
        (·.expiresAt) = some (some ⟨2000000000, 0⟩) := by decide +kernel
  obtain ⟨operation, hop, hentry⟩ := Option.map_eq_some_iff.mp hentries
  obtain ⟨intent, hintent, hexpires⟩ := Option.map_eq_some_iff.mp hexpires
  injection hentry with hid htimes
  rw [← hid] at hintent
  obtain ⟨t, ht, hpair⟩ := List.mem_map.mp
    (show (OperationState.accepted, (⟨1000000000, 0⟩ : Time)) ∈ operation.entries by simp [htimes])
  injection hpair with hstate
  exact ⟨operation, t, hop, ht, hstate, accepted_before_expiry (sampleApproval ⟨2000000000, 0⟩)
    sampleWorld (fun _ => rfl) sample_runInTime sampleID operation hop intent hintent _ hexpires t
    ht hstate⟩

structure ClockForward {ε : Type} (E : Environment ε) (time : ε → Int) : Prop where
  now : ∀ e, time e ≤ (E.now e).1.nanos ∧ (E.now e).1.nanos ≤ time (E.now e).2
  timeNow : ∀ e, time e ≤ (E.timeNow e).1.nanos ∧ (E.timeNow e).1.nanos ≤ time (E.timeNow e).2
  randRead : ∀ e, time e ≤ time (E.randRead e).2
  verifyProof : ∀ entryHash entryType e, time e ≤ time (E.verifyProof entryHash entryType e).2
  recordProof : ∀ decision e, time e ≤ time (E.recordProof decision e).2

def tickingEnvironment : Environment Int where
  now e := (⟨e, 0⟩, e + 1)
  timeNow e := (⟨e, 0⟩, e + 1)
  randRead e := (some [], e)
  verifyProof _ _ e := (.ok none, e)
  recordProof _ e := (.ok none, e)

theorem tickingEnvironment_forward : ClockForward tickingEnvironment id where
  now e := ⟨le_refl e, Int.le_of_lt (Int.lt_succ e)⟩
  timeNow e := ⟨le_refl e, Int.le_of_lt (Int.lt_succ e)⟩
  randRead e := le_refl e
  verifyProof _ _ e := le_refl e
  recordProof _ e := le_refl e

def lateApproval : World MemoryRepository Int :=
  runSteps memory tickingEnvironment sampleService (sampleApproval ⟨2, 0⟩) ⟨.empty, 0⟩

set_option maxRecDepth 20000 in
/-- An alert that expires at 2 is deferred at 1 and approved into `ACCEPTED` at 2. -/
theorem approval_after_expiry : ClockForward tickingEnvironment id ∧ ∃ operation intent t,
    MemoryRepository.faithful.stored lateApproval.repository sampleID = some operation ∧
      MemoryRepository.faithful.intents lateApproval.repository operation.intentID = some intent ∧
      intent.expiresAt = some ⟨2, 0⟩ ∧ t ∈ operation.transitions ∧ t.state = .accepted ∧
      t.atTime.before ⟨2, 0⟩ = false := by
  have hentries : sampleEntries lateApproval = some ("i", [(.received, ⟨0, 0⟩),
      (.deferred, ⟨1, 0⟩), (.accepted, ⟨2, 0⟩)]) := by decide +kernel
  have hexpires : (MemoryRepository.faithful.intents lateApproval.repository "i").map
      (·.expiresAt) = some (some ⟨2, 0⟩) := by decide +kernel
  obtain ⟨operation, hop, hentry⟩ := Option.map_eq_some_iff.mp hentries
  obtain ⟨intent, hintent, hexpires⟩ := Option.map_eq_some_iff.mp hexpires
  injection hentry with hid htimes
  obtain ⟨t, ht, hpair⟩ := List.mem_map.mp
    (show (OperationState.accepted, (⟨2, 0⟩ : Time)) ∈ operation.entries by simp [htimes])
  injection hpair with hstate htime
  refine ⟨tickingEnvironment_forward, operation, intent, t, hop, hid ▸ hintent, hexpires, ht, hstate,
    ?_⟩
  rw [htime]
  rfl

end Sample
end FleetLlmd.Intents
