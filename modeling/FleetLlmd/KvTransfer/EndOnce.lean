import FleetLlmd.KvTransfer.Coordinator

/-!
# How often a job ends

The task of a transfer sets its job to `InProgress` without looking at it. A
cancellation that comes before that step is undone by it; one that comes later is
final, since the last step of the task looks at the job.
-/

namespace FleetLlmd.KvTransfer
open Effect Prog
variable {ε ι : Type} [DecidableEq ι] {T : Transport ε} {tasks : ι → Task} {e : ε}

section Statement

def Timed (job : TransferJob) : Prop := job.finishedAt.isSome = job.status.ended

structure EndsOnce (T : Transport ε) (tasks : ι → Task) (e : ε) (moves : Schedule ι) : Prop where
  final : ∀ first second rest, moves = first ++ second ++ rest → ∀ id job,
    jobAfter T tasks e first id = some job → job.status.ended = true →
    ∃ job', jobAfter T tasks e (first ++ second) id = some job' ∧
      job'.status = job.status ∧ job'.finishedAt = job.finishedAt
  timed : ∀ first rest, moves = first ++ rest → ∀ id job,
    jobAfter T tasks e first id = some job → Timed job

def BeginsLive (_past : List (Event transferCalls)) (c : TransferCall) (w : Coordinator ε) : Prop :=
  match c with
  | .job (.beginJob id) => ∀ job ∈ w.jobs.lookup id, job.status.ended = false
  | _ => True

instance (past : List (Event transferCalls)) (c : TransferCall) (w : Coordinator ε) :
    Decidable (BeginsLive past c w) :=
  match c with
  | .job (.beginJob id) =>
    inferInstanceAs (Decidable (∀ job ∈ w.jobs.lookup id, job.status.ended = false))
  | .job .utcNow | .job (.insertJob _) | .job (.finishJob _ _ _) | .job (.cancelJob _)
  | .connect _ | .sendBlocks _ | .close => isTrue trivial

theorem not_beginsLive {past : List (Event transferCalls)} {c : TransferCall} {w : Coordinator ε}
    (h : ¬BeginsLive past c w) : ∃ id job, c = .job (.beginJob id) ∧
      w.jobs.lookup id = some job ∧ job.status.ended = true := by
  unfold BeginsLive at h
  split at h
  · next id =>
    push Not at h
    obtain ⟨job, hlookup, hended⟩ := h
    exact ⟨id, job, rfl, hlookup, by simpa using hended⟩
  · exact absurd trivial h

def AllBeginLive (T : Transport ε) (tasks : ι → Task) (e : ε) (moves : Schedule ι) : Prop :=
  Pool.Observes T.serve Empty.elim BeginsLive moves (start tasks e)

instance (moves : Schedule ι) : Decidable (AllBeginLive T tasks e moves) :=
  inferInstanceAs (Decidable (Pool.Observes _ _ _ _ _))

end Statement

section Steps

structure Advances (job job' : TransferJob) : Prop where
  kept : job.status.ended = true → job'.status = job.status ∧ job'.finishedAt = job.finishedAt
  timed : Timed job'

variable {job : TransferJob}

theorem Advances.refl (h : Timed job) : Advances job job :=
  ⟨fun _ => ⟨rfl, rfl⟩, h⟩

theorem begun_advances (h : Timed job) (hlive : job.status.ended = false) :
    Advances job job.begun := by
  refine ⟨fun hended => ?_, ?_⟩
  · rw [hlive] at hended
    cases hended
  · rw [Timed, hlive] at h
    rw [Timed, TransferJob.begun, h]
    rfl

theorem finished_advances (h : Timed job) {status : TransferStatus}
    (hended : status.ended = true) (bytes : Nat) (now : DateTime) :
    Advances job (job.finished status bytes now) := by
  rw [TransferJob.finished]
  split_ifs with hprogress
  · refine ⟨fun hended' => ?_, by rw [Timed, hended]; rfl⟩
    rw [hprogress] at hended'
    cases hended'
  · exact .refl h

theorem cancelled_advances (hlive : job.status.ended = false)
    (now : DateTime) : Advances job { job with status := .cancelled, finishedAt := some now } := by
  refine ⟨fun hended => ?_, rfl⟩
  rw [hlive] at hended
  cases hended

def JobsAdvance (jobs jobs' : Jobs) : Prop :=
  ∀ id job, jobs.lookup id = some job → ∃ job', jobs'.lookup id = some job' ∧ Advances job job'

def AllTimed (jobs : Jobs) : Prop := ∀ id job, jobs.lookup id = some job → Timed job

theorem modify_advances {jobs : Jobs} (h : AllTimed jobs) {id : Uuid}
    {f : TransferJob → TransferJob} (hf : ∀ job, jobs.lookup id = some job → Advances job (f job)) :
    JobsAdvance jobs (jobs.modify id f) := by
  intro other job hlookup
  by_cases hid : other = id
  · subst hid
    exact ⟨f job, by rw [Jobs.lookup_modify_self, hlookup]; rfl, hf job hlookup⟩
  · exact ⟨job, by rw [Jobs.lookup_modify_of_ne hid, hlookup], .refl (h other job hlookup)⟩

theorem cancel_advances {jobs : Jobs} (h : AllTimed jobs) (id : Uuid) (now : DateTime) :
    JobsAdvance jobs (jobs.cancel id now).2 := by
  intro other job hlookup
  rcases jobs.cancel_lookup id now other with hsame | ⟨job', rfl, hjob, hlive, hcancelled⟩
  · exact ⟨job, hsame.trans hlookup, .refl (h other job hlookup)⟩
  · rw [hlookup] at hjob
    cases hjob
    exact ⟨_, hcancelled, cancelled_advances hlive now⟩

def NoNewJobs (jobs jobs' : Jobs) : Prop := ∀ id, jobs.lookup id = none → jobs'.lookup id = none

theorem modify_noNewJobs (jobs : Jobs) (id : Uuid) (f : TransferJob → TransferJob) :
    NoNewJobs jobs (jobs.modify id f) := by
  intro other hnone
  by_cases hid : other = id
  · rw [hid, Jobs.lookup_modify_self, ← hid, hnone]
    rfl
  · rw [Jobs.lookup_modify_of_ne hid, hnone]

theorem cancel_noNewJobs (jobs : Jobs) (id : Uuid) (now : DateTime) :
    NoNewJobs jobs (jobs.cancel id now).2 := by
  intro other hnone
  rcases jobs.cancel_lookup id now other with hsame | ⟨job, rfl, hjob, -⟩
  · rw [hsame, hnone]
  · rw [hnone] at hjob
    cases hjob

theorem JobsAdvance.allTimed {jobs jobs' : Jobs} (h : JobsAdvance jobs jobs')
    (hnew : NoNewJobs jobs jobs') : AllTimed jobs' := by
  intro id job' hlookup'
  cases hlookup : jobs.lookup id with
  | none =>
    rw [hnew id hlookup] at hlookup'
    cases hlookup'
  | some job =>
    obtain ⟨job'', hjob'', hadvances⟩ := h id job hlookup
    rw [hlookup', Option.some.injEq] at hjob''
    exact hjob'' ▸ hadvances.timed

end Steps

section Programs

def Discipline (task : Task) (past : List (Event transferCalls)) (c : TransferCall) : Prop :=
  match c with
  | .job (.insertJob job) => past.length = 1 ∧ task.newID = some job.id ∧ job.status.ended = false ∧
      job.finishedAt = none
  | .job (.finishJob _ status _) => status.ended = true
  | _ => True

theorem transferData_disciplined (task : Task) (endpoint : String)
    (past : List (Event transferCalls)) :
    (transferData endpoint).Meets (Discipline task)
      (fun _ outcome => outcome.1.ended = true) past := by
  refine ⟨trivial, fun (connected : Except String Unit) => ?_⟩
  cases connected with
  | error err => exact rfl
  | ok u =>
    refine ⟨trivial, fun (sent : Except String Nat) => ?_⟩
    cases sent with
    | ok bytes => exact ⟨trivial, fun _ => rfl⟩
    | error err => exact ⟨trivial, fun _ => rfl⟩

theorem transferTask_disciplined (task : Task) (id : Uuid) (targetCluster : String)
    (past : List (Event transferCalls)) :
    (transferTask id targetCluster).Meets (Discipline task) (fun _ _ => True) past := by
  refine ⟨trivial, fun _ => ?_⟩
  rw [meets_bind]
  apply (transferData_disciplined task _ _).imp
  exact fun past outcome hended => ⟨hended, fun _ => trivial⟩

theorem program_disciplined (task : Task) :
    task.program.Meets (Discipline task) (fun _ _ => True) [] := by
  cases task with
  | cancel transferId => exact ⟨trivial, fun _ => trivial⟩
  | transfer id sourceCluster targetCluster model transferType =>
    rw [Task.program, meets_bind]
    refine ⟨trivial, fun startedAt => ⟨⟨rfl, rfl, rfl, rfl⟩, fun _ => ?_⟩⟩
    rw [meets_done, meets_bind]
    exact (transferTask_disciplined _ id targetCluster _).imp
      fun _ _ _ => trivial

end Programs

section Run

structure Invariant (tasks : ι → Task) (pasts : ι → List (Event transferCalls))
    (w : Coordinator ε) : Prop where
  timed : AllTimed w.jobs
  fresh : ∀ i id, (tasks i).newID = some id → (pasts i).length ≤ 1 → w.jobs.lookup id = none

def EndsKept (w w' : Coordinator ε) : Prop :=
  ∀ id job, w.jobs.lookup id = some job → job.status.ended = true →
    ∃ job', w'.jobs.lookup id = some job' ∧ job'.status = job.status ∧
      job'.finishedAt = job.finishedAt

theorem EndsKept.refl (w : Coordinator ε) : EndsKept w w :=
  fun _ job hlookup _ => ⟨job, hlookup, rfl, rfl⟩

theorem EndsKept.trans {w₁ w₂ w₃ : Coordinator ε} (h₁ : EndsKept w₁ w₂) (h₂ : EndsKept w₂ w₃) :
    EndsKept w₁ w₃ := by
  intro id job hlookup hended
  obtain ⟨job', hlookup', hstatus, hfinished⟩ := h₁ id job hlookup hended
  obtain ⟨job'', hlookup'', hstatus', hfinished'⟩ :=
    h₂ id job' hlookup' (by rw [hstatus, hended])
  exact ⟨job'', hlookup'', hstatus'.trans hstatus, hfinished'.trans hfinished⟩

theorem JobsAdvance.endsKept {w w' : Coordinator ε} (h : JobsAdvance w.jobs w'.jobs) :
    EndsKept w w' := by
  intro id job hlookup hended
  obtain ⟨job', hlookup', hadvances⟩ := h id job hlookup
  exact ⟨job', hlookup', hadvances.kept hended⟩

variable {pasts : ι → List (Event transferCalls)} {w w' : Coordinator ε}

theorem Invariant.step (h : Invariant tasks pasts w) (hjobs : JobsAdvance w.jobs w'.jobs)
    (hnew : NoNewJobs w.jobs w'.jobs) (i : ι) (event : Event transferCalls) :
    Invariant tasks (Function.update pasts i (event :: pasts i)) w' ∧ EndsKept w w' := by
  refine ⟨⟨hjobs.allTimed hnew, fun j id hid hlength => hnew id ?_⟩, hjobs.endsKept⟩
  by_cases hij : j = i
  · subst hij
    rw [Function.update_self, List.length_cons] at hlength
    exact h.fresh j id hid (by omega)
  · rw [Function.update_of_ne hij] at hlength
    exact h.fresh j id hid hlength

theorem Invariant.quiet (h : Invariant tasks pasts w) (hjobs : w'.jobs = w.jobs) (i : ι)
    (event : Event transferCalls) :
    Invariant tasks (Function.update pasts i (event :: pasts i)) w' ∧ EndsKept w w' := by
  apply h.step
  · rw [hjobs]
    exact fun id job hlookup => ⟨job, hlookup, .refl (h.timed id job hlookup)⟩
  · rw [hjobs]
    exact fun _ => id

theorem Invariant.insert (hids : DistinctIDs tasks) (h : Invariant tasks pasts w) {i : ι}
    {job : TransferJob} (hdiscipline : Discipline (tasks i) (pasts i) (.job (.insertJob job)))
    (event : Event transferCalls) :
    let w' : Coordinator ε := { w with jobs := w.jobs.insert job.id job }
    Invariant tasks (Function.update pasts i (event :: pasts i)) w' ∧ EndsKept w w' := by
  obtain ⟨hlength, hid, hlive, hunfinished⟩ := hdiscipline
  have hnone : w.jobs.lookup job.id = none := h.fresh i job.id hid (by omega)
  have hothers {id : Uuid} (hne : id ≠ job.id) :
      (w.jobs.insert job.id job).lookup id = w.jobs.lookup id := AList.lookup_insert_ne hne
  refine ⟨⟨fun id job' hlookup => ?_, fun j id hj hshort => ?_⟩, fun id job' hlookup _ => ?_⟩
  · by_cases hne : id = job.id
    · rw [hne, AList.lookup_insert, Option.some.injEq] at hlookup
      rw [← hlookup, Timed, hunfinished, hlive]
      rfl
    · rw [hothers hne] at hlookup
      exact h.timed id job' hlookup
  · by_cases hij : j = i
    · subst hij
      rw [Function.update_self, List.length_cons, hlength] at hshort
      omega
    · rw [Function.update_of_ne hij] at hshort
      have hne : id ≠ job.id := fun hsame => hij (hids j i id hj (hsame ▸ hid))
      rw [hothers hne]
      exact h.fresh j id hj hshort
  · have hne : id ≠ job.id := by
      intro hsame
      rw [hsame, hnone] at hlookup
      cases hlookup
    exact ⟨job', (hothers hne).trans hlookup, rfl, rfl⟩

theorem call_keeps (hids : DistinctIDs tasks) (h : Invariant tasks pasts w) (i : ι)
    (c : TransferCall) (hdiscipline : Discipline (tasks i) (pasts i) c)
    (hlive : BeginsLive (pasts i) c w) :
    Invariant tasks (Function.update pasts i (⟨c, (T.serve c w).1⟩ :: pasts i)) (T.serve c w).2 ∧
      EndsKept w (T.serve c w).2 := by
  cases c with
  | connect endpoint | sendBlocks blocks | close =>
    apply h.quiet
    rfl
  | job c =>
    cases c with
    | insertJob job => exact h.insert hids hdiscipline _
    | utcNow =>
      apply h.quiet
      rfl
    | beginJob id =>
      apply h.step _ (modify_noNewJobs _ _ _)
      exact modify_advances h.timed fun job hlookup =>
        begun_advances (h.timed id job hlookup) (hlive job hlookup)
    | finishJob id status bytes =>
      apply h.step _ (modify_noNewJobs _ _ _)
      exact modify_advances h.timed fun job hlookup =>
        finished_advances (h.timed id job hlookup) hdiscipline bytes _
    | cancelJob id => exact h.step (cancel_advances h.timed id _) (cancel_noNewJobs _ id _) i _

theorem run_keeps (hids : DistinctIDs tasks) {z : Pool transferCalls (Except FleetError Unit) ι
      (Coordinator ε)}
    (hz : Pool.AllMeet (fun i => Discipline (tasks i)) (fun _ _ _ => True) z)
    (h : Invariant tasks (Pool.pasts z) z.2) {moves : Schedule ι}
    (hobs : Pool.Observes T.serve Empty.elim BeginsLive moves z) :
    Pool.AllMeet (fun i => Discipline (tasks i)) (fun _ _ _ => True)
        (Pool.exec T.serve Empty.elim moves z) ∧
      Invariant tasks (Pool.pasts (Pool.exec T.serve Empty.elim moves z))
        (Pool.exec T.serve Empty.elim moves z).2 ∧
      EndsKept z.2 (Pool.exec T.serve Empty.elim moves z).2 :=
  Pool.exec_rule T.serve Empty.elim EndsKept.refl (fun _ _ _ => EndsKept.trans)
    (fun _ _ i c hinv hG hC => call_keeps hids hinv i c hG hC) (fun _ _ w => w.elim) moves hz h hobs

omit [DecidableEq ι] in
theorem start_invariant (tasks : ι → Task) (e : ε) :
    Pool.AllMeet (fun i => Discipline (tasks i)) (fun _ _ _ => True) (start tasks e) ∧
      Invariant tasks (Pool.pasts (start tasks e)) (start tasks e).2 :=
  ⟨fun i => program_disciplined (tasks i), ⟨fun _ _ h => (nomatch h), fun _ _ _ _ => rfl⟩⟩

/-- In every run, jobs end once exactly if every task takes its first step before its job ends. -/
theorem ends_once_iff (T : Transport ε) (tasks : ι → Task) (hids : DistinctIDs tasks) (e : ε)
    (moves : Schedule ι) : EndsOnce T tasks e moves ↔ AllBeginLive T tasks e moves := by
  obtain ⟨hmeet, hinv⟩ := start_invariant tasks e
  constructor
  · intro hends
    rw [AllBeginLive, Pool.observes_iff]
    rintro first m rest hmoves
    cases m with
    | outside w => exact w.elim
    | thread i =>
      rw [Pool.Permits]
      cases hnext : ((Pool.exec T.serve Empty.elim first (start tasks e)).1 i).rest with
      | done a => trivial
      | call c k =>
        rw [Pool.PermitsNext]
        by_contra hnot
        obtain ⟨id, job, rfl, hlookup, hended⟩ := not_beginsLive hnot
        -- the step would take the job back to `InProgress`
        obtain ⟨job', hlookup', hstatus, -⟩ := hends.final first [.thread i] rest
          (by rw [hmoves, List.append_assoc]; rfl) id job hlookup hended
        have hbegun : jobAfter T tasks e (first ++ [.thread i]) id = some job.begun := by
          rw [jobAfter, after, Pool.exec_append, Pool.exec_cons, Pool.exec_nil, Pool.move, hnext]
          change (Jobs.modify _ id TransferJob.begun).lookup id = _
          rw [Jobs.lookup_modify_self, hlookup]
          rfl
        rw [hbegun, Option.some.injEq] at hlookup'
        rw [← hstatus, ← hlookup'] at hended
        cases hended
  · intro hlive
    constructor
    · rintro first second rest rfl id job hlookup hended
      obtain ⟨hfirst, -⟩ :=
        (Pool.observes_append T.serve Empty.elim (first ++ second) rest _).mp hlive
      obtain ⟨hfirst, hsecond⟩ := (Pool.observes_append T.serve Empty.elim first second _).mp hfirst
      obtain ⟨hmeet₁, hinv₁, -⟩ := run_keeps hids hmeet hinv hfirst
      obtain ⟨-, -, hkept⟩ := run_keeps hids hmeet₁ hinv₁ hsecond
      rw [jobAfter, after, Pool.exec_append]
      exact hkept id job hlookup hended
    · rintro first rest rfl id job hlookup
      obtain ⟨hfirst, -⟩ := (Pool.observes_append T.serve Empty.elim first rest _).mp hlive
      obtain ⟨-, hinv₁, -⟩ := run_keeps hids hmeet hinv hfirst
      exact hinv₁.timed id job hlookup

end Run

section Sample

def sampleTasks : Bool → Task
  | true => .transfer 1 "s" "t" "m" .hotFailover
  | false => .cancel 1

def sampleTransport : Transport Nat where
  utcNow e := (e, e + 1)
  connect _ e := (.ok (), e)
  sendBlocks blocks e := (.ok (blocks.map (·.data.length)).sum, e)
  close e := (.ok (), e)

theorem sampleTasks_distinct : DistinctIDs sampleTasks := by
  intro i j id hi hj
  cases i with
  | false => cases hi
  | true =>
    cases j with
    | false => cases hj
    | true => rfl

/-- The cancellation comes between the first step of the task and its last. -/
theorem late_cancel_ends_once : EndsOnce sampleTransport sampleTasks 0
    [.thread true, .thread true, .thread true, .thread false, .thread true, .thread true,
      .thread true, .thread true] :=
  (ends_once_iff sampleTransport sampleTasks sampleTasks_distinct 0 _).mpr (by decide +kernel)

/-- A job that was cancelled before the task began is in progress again, with a time. -/
theorem early_cancel_undone :
    (jobAfter sampleTransport sampleTasks 0
      [.thread true, .thread true, .thread false] 1).map (fun job => (job.status, job.finishedAt)) =
      some (.cancelled, some 1) ∧
    (jobAfter sampleTransport sampleTasks 0
      [.thread true, .thread true, .thread false, .thread true] 1).map
        (fun job => (job.status, job.finishedAt)) = some (.inProgress, some 1) ∧
    ¬EndsOnce sampleTransport sampleTasks 0
      [.thread true, .thread true, .thread false, .thread true] := by
  have hcancelled : (jobAfter sampleTransport sampleTasks 0
      [.thread true, .thread true, .thread false] 1).map (fun job => (job.status, job.finishedAt)) =
      some (.cancelled, some 1) := by decide +kernel
  have hbegun : (jobAfter sampleTransport sampleTasks 0
      [.thread true, .thread true, .thread false, .thread true] 1).map
        (fun job => (job.status, job.finishedAt)) = some (.inProgress, some 1) := by decide +kernel
  refine ⟨hcancelled, hbegun, fun hends => ?_⟩
  obtain ⟨job, hjob, hfields⟩ := Option.map_eq_some_iff.mp hbegun
  have htimed := hends.timed _ [] (List.append_nil _).symm 1 job hjob
  rw [Prod.mk.injEq] at hfields
  rw [Timed, hfields.1, hfields.2] at htimed
  cases htimed

end Sample
end FleetLlmd.KvTransfer
