import FleetLlmd.Data.Map
import FleetLlmd.Effect.Pool
import Mathlib.Algebra.GroupWithZero.Nat

/-!
# Transfers of key-value caches

`crates/kv-transfer/src/coordinator.rs`. A transfer makes the calls of
`initiate_transfer` and then those of the task it spawns; every section under the lock
of the job table is one call. The transport and the clock are parameters.
-/

namespace FleetLlmd.KvTransfer
open Effect Prog

abbrev Uuid := Nat
abbrev DateTime := Int

inductive TransferType where
  | hotFailover | warmMigration | prefixTreeSync
  deriving DecidableEq

inductive TransferStatus where
  | pending
  | inProgress
  | completed
  | failed (message : String)
  | cancelled
  deriving DecidableEq

structure TransferJob where
  id : Uuid
  sourceCluster : String
  targetCluster : String
  model : String
  transferType : TransferType
  status : TransferStatus
  bytesTransferred : Nat
  startedAt : DateTime
  finishedAt : Option DateTime
  deriving DecidableEq

def TransferStatus.ended : TransferStatus → Bool
  | .pending | .inProgress => false
  | .completed | .failed _ | .cancelled => true

structure KvBlock where
  sequence : Nat
  data : List UInt8
  isFinal : Bool
  deriving DecidableEq

inductive FleetError where
  | notFound (transferId : Uuid)
  | cannotCancel (status : TransferStatus)
  deriving DecidableEq

inductive JobCall where
  | utcNow
  | insertJob (job : TransferJob)
  | beginJob (id : Uuid)
  | finishJob (id : Uuid) (status : TransferStatus) (bytes : Nat)
  | cancelJob (id : Uuid)

abbrev JobCall.Answer : JobCall → Type
  | .utcNow => DateTime
  | .insertJob _ | .beginJob _ | .finishJob _ _ _ => Unit
  | .cancelJob _ => Except FleetError Unit

inductive TransferCall where
  | job (c : JobCall)
  | connect (remoteEndpoint : String)
  | sendBlocks (blocks : List KvBlock)
  | close

abbrev TransferCall.Answer : TransferCall → Type
  | .job c => c.Answer
  | .connect _ | .close => Except String Unit
  | .sendBlocks _ => Except String Nat

abbrev transferCalls : Signature := ⟨TransferCall, TransferCall.Answer⟩

abbrev TransferAction (α : Type) := Prog transferCalls α

section Programs

def initiateTransfer (id : Uuid) (sourceCluster targetCluster model : String)
    (transferType : TransferType) : TransferAction Uuid :=
  .call (.job .utcNow) fun (startedAt : DateTime) =>
  .call (.job (.insertJob
    { id := id
      sourceCluster := sourceCluster
      targetCluster := targetCluster
      model := model
      transferType := transferType
      status := .pending
      bytesTransferred := 0
      startedAt := startedAt
      finishedAt := none })) fun _ =>
  .done id

def endpointOf (targetCluster : String) : String := targetCluster ++ ":9100"

def transferBlocks : List KvBlock := [⟨0, [], true⟩]

def transferData (endpoint : String) : TransferAction (TransferStatus × Nat) :=
  .call (.connect endpoint) fun (connected : Except String Unit) =>
    match connected with
    | .error err => .done (.failed err, 0)
    | .ok () =>
      .call (.sendBlocks transferBlocks) fun (sent : Except String Nat) =>
        match sent with
        | .ok bytes => .call .close fun _ => .done (.completed, bytes)
        | .error err => .call .close fun _ => .done (.failed err, 0)

def transferTask (id : Uuid) (targetCluster : String) : TransferAction Unit :=
  .call (.job (.beginJob id)) fun _ =>
  (transferData (endpointOf targetCluster)).bind fun outcome =>
  .call (.job (.finishJob id outcome.1 outcome.2)) fun _ =>
  .done ()

def cancelTransfer (transferId : Uuid) : TransferAction (Except FleetError Unit) :=
  .call (.job (.cancelJob transferId)) fun (answer : Except FleetError Unit) => .done answer

inductive Task where
  | transfer (id : Uuid) (sourceCluster targetCluster model : String) (transferType : TransferType)
  | cancel (transferId : Uuid)

def Task.program : Task → TransferAction (Except FleetError Unit)
  | .transfer id sourceCluster targetCluster model transferType =>
    (initiateTransfer id sourceCluster targetCluster model transferType).bind fun id =>
    (transferTask id targetCluster).bind fun _ => .done (.ok ())
  | .cancel transferId => cancelTransfer transferId

def Task.newID : Task → Option Uuid
  | .transfer id _ _ _ _ => some id
  | .cancel _ => none

end Programs

section Table

abbrev Jobs := Map Uuid TransferJob

def Jobs.modify (jobs : Jobs) (id : Uuid) (f : TransferJob → TransferJob) : Jobs :=
  match jobs.lookup id with
  | none => jobs
  | some job => jobs.insert id (f job)

def TransferJob.begun (job : TransferJob) : TransferJob := { job with status := .inProgress }

def TransferJob.finished (job : TransferJob) (status : TransferStatus) (bytes : Nat)
    (now : DateTime) : TransferJob :=
  if job.status = .inProgress then
    { job with status := status, bytesTransferred := bytes, finishedAt := some now }
  else job

def Jobs.cancel (jobs : Jobs) (id : Uuid) (now : DateTime) : Except FleetError Unit × Jobs :=
  match jobs.lookup id with
  | none => (.error (.notFound id), jobs)
  | some job =>
    match job.status with
    | .pending | .inProgress =>
      (.ok (), jobs.insert id { job with status := .cancelled, finishedAt := some now })
    | status => (.error (.cannotCancel status), jobs)

@[simp] theorem Jobs.lookup_modify_self (jobs : Jobs) (id : Uuid) (f : TransferJob → TransferJob) :
    (jobs.modify id f).lookup id = (jobs.lookup id).map f := by
  rw [Jobs.modify]
  cases hlookup : jobs.lookup id with
  | none => exact hlookup
  | some job => exact AList.lookup_insert jobs

theorem Jobs.lookup_modify_of_ne {jobs : Jobs} {id other : Uuid} (h : other ≠ id)
    (f : TransferJob → TransferJob) : (jobs.modify id f).lookup other = jobs.lookup other := by
  rw [Jobs.modify]
  cases jobs.lookup id with
  | none => rfl
  | some job => exact AList.lookup_insert_ne h

theorem Jobs.cancel_lookup (jobs : Jobs) (id : Uuid) (now : DateTime) (other : Uuid) :
    (jobs.cancel id now).2.lookup other = jobs.lookup other ∨
      ∃ job, other = id ∧ jobs.lookup id = some job ∧ job.status.ended = false ∧
        (jobs.cancel id now).2.lookup other =
          some { job with status := .cancelled, finishedAt := some now } := by
  by_cases hid : other = id
  · subst hid
    rw [Jobs.cancel]
    cases hlookup : jobs.lookup other with
    | none => exact .inl hlookup
    | some job =>
      dsimp only
      split
      · next hstatus => exact .inr ⟨job, rfl, rfl, by rw [hstatus]; rfl, AList.lookup_insert jobs⟩
      · next hstatus => exact .inr ⟨job, rfl, rfl, by rw [hstatus]; rfl, AList.lookup_insert jobs⟩
      · exact .inl hlookup
  · left
    rw [Jobs.cancel]
    cases jobs.lookup id with
    | none => rfl
    | some job =>
      dsimp only
      split
      · exact AList.lookup_insert_ne hid
      · exact AList.lookup_insert_ne hid
      · rfl

end Table

section Server

def JobCall.serve {ε : Type} (utcNow : ε → DateTime × ε) :
    (c : JobCall) → Jobs → ε → c.Answer × Jobs × ε
  | .utcNow, jobs, e => let r := utcNow e; (r.1, jobs, r.2)
  | .insertJob job, jobs, e => ((), jobs.insert job.id job, e)
  | .beginJob id, jobs, e => ((), jobs.modify id TransferJob.begun, e)
  | .finishJob id status bytes, jobs, e =>
    let r := utcNow e
    ((), jobs.modify id fun job => job.finished status bytes r.1, r.2)
  | .cancelJob id, jobs, e =>
    let r := utcNow e
    let c := jobs.cancel id r.1
    (c.1, c.2, r.2)

structure Transport (ε : Type) where
  utcNow : ε → DateTime × ε
  connect : String → ε → Except String Unit × ε
  sendBlocks : List KvBlock → ε → Except String Nat × ε
  close : ε → Except String Unit × ε

structure Coordinator (ε : Type) where
  jobs : Jobs
  transport : ε

variable {ε : Type}

def Transport.serve (T : Transport ε) : Handler transferCalls (Coordinator ε)
  | .job c, w =>
    let r := c.serve T.utcNow w.jobs w.transport
    (r.1, ⟨r.2.1, r.2.2⟩)
  | .connect endpoint, w =>
    let r := T.connect endpoint w.transport
    (r.1, { w with transport := r.2 })
  | .sendBlocks blocks, w =>
    let r := T.sendBlocks blocks w.transport
    (r.1, { w with transport := r.2 })
  | .close, w => let r := T.close w.transport; (r.1, { w with transport := r.2 })

end Server

section Interleavings
variable {ε ι : Type} [DecidableEq ι]

abbrev Schedule (ι : Type) := List (Move ι Empty)

def start (tasks : ι → Task) (e : ε) : Pool transferCalls (Except FleetError Unit) ι
    (Coordinator ε) :=
  (fun i => .start (tasks i).program, ⟨∅, e⟩)

def after (T : Transport ε) (tasks : ι → Task) (e : ε) (moves : Schedule ι) :
    Pool transferCalls (Except FleetError Unit) ι (Coordinator ε) :=
  Pool.exec T.serve Empty.elim moves (start tasks e)

def jobAfter (T : Transport ε) (tasks : ι → Task) (e : ε) (moves : Schedule ι) (id : Uuid) :
    Option TransferJob := (after T tasks e moves).2.jobs.lookup id

def DistinctIDs (tasks : ι → Task) : Prop :=
  ∀ i j id, (tasks i).newID = some id → (tasks j).newID = some id → i = j

end Interleavings
end FleetLlmd.KvTransfer
