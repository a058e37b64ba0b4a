import FleetLlmd.Go.Text
import FleetLlmd.KvTransfer.Coordinator
import Mathlib.Data.Fintype.Basic

/-!
# The TCP transport

`crates/kv-transfer/src/tcp_transport.rs`: one slot for a connection, shared by all the
transfers of a coordinator. A transfer writes to the connection it finds in the slot
when it sends, which is its own if no transfer to another target has connected since
it did. `send_blocks` holds the lock of the slot from reading it to the flush; leaving
the lock out only adds interleavings.
-/

namespace FleetLlmd.KvTransfer
open Effect Prog Go

structure Connection where
  number : Nat
  endpoint : String
  deriving DecidableEq

section Frames

def bigEndian : Nat → Nat → Bytes
  | 0, _ => []
  | width + 1, n => bigEndian width (n / 256) ++ [UInt8.ofNat n]

def headerSize : Nat := 13

def encodeBlock (block : KvBlock) : Bytes :=
  bigEndian 4 (headerSize - 4 + block.data.length) ++ bigEndian 8 block.sequence ++
    [if block.isFinal then 1 else 0] ++ block.data

end Frames

inductive TcpCall where
  | job (c : JobCall)
  | dial (endpoint : String)
  | setWriter (slot : Option Connection)
  | setReader (slot : Option Connection)
  | setRemoteEndpoint (slot : Option String)
  | getWriter
  | writeAll (connection : Connection) (frame : Bytes)
  | flush (connection : Connection)

abbrev TcpCall.Answer : TcpCall → Type
  | .job c => c.Answer
  | .dial _ => Except String Nat
  | .setWriter _ | .setReader _ | .setRemoteEndpoint _ => Unit
  | .getWriter => Option Connection
  | .writeAll _ _ | .flush _ => Except String Unit

abbrev tcpCalls : Signature := ⟨TcpCall, TcpCall.Answer⟩

abbrev TcpAction (α : Type) := Prog tcpCalls α

namespace TcpTransferProtocol

def connect (remoteEndpoint : String) : TcpAction (Except String Unit) :=
  .call (.dial remoteEndpoint) fun (answer : Except String Nat) =>
    match answer with
    | .error err => .done (.error err)
    | .ok number =>
      .call (.setWriter (some ⟨number, remoteEndpoint⟩)) fun _ =>
      .call (.setReader (some ⟨number, remoteEndpoint⟩)) fun _ =>
      .call (.setRemoteEndpoint (some remoteEndpoint)) fun _ =>
      .done (.ok ())

def sendFrames (connection : Connection) : List KvBlock → Nat → TcpAction (Except String Nat)
  | [], total =>
    .call (.flush connection) fun (answer : Except String Unit) => .done (answer.map fun _ => total)
  | block :: blocks, total =>
    .call (.writeAll connection (encodeBlock block)) fun (answer : Except String Unit) =>
      match answer with
      | .error err => .done (.error err)
      | .ok () => sendFrames connection blocks (total + block.data.length)

def sendBlocks (blocks : List KvBlock) : TcpAction (Except String Nat) :=
  .call .getWriter fun (writer : Option Connection) =>
    match writer with
    | none => .done (.error "TCP transport not connected")
    | some connection => sendFrames connection blocks 0

def close : TcpAction (Except String Unit) :=
  .call (.setWriter none) fun _ =>
  .call (.setReader none) fun _ =>
  .call (.setRemoteEndpoint none) fun _ =>
  .done (.ok ())

def carryOut : (c : TransferCall) → TcpAction c.Answer
  | .job c => .call (.job c) .done
  | .connect endpoint => connect endpoint
  | .sendBlocks blocks => sendBlocks blocks
  | .close => close

end TcpTransferProtocol

section Server

structure Network (ε : Type) where
  utcNow : ε → DateTime × ε
  dial : String → ε → Except String Nat × ε
  writeAll : Connection → Bytes → ε → Except String Unit × ε
  flush : Connection → ε → Except String Unit × ε

structure TcpCoordinator (ε : Type) where
  jobs : Jobs
  writer : Option Connection
  reader : Option Connection
  remoteEndpoint : Option String
  network : ε

variable {ε : Type}

def Network.serve (N : Network ε) : Handler tcpCalls (TcpCoordinator ε)
  | .job c, w =>
    let r := c.serve N.utcNow w.jobs w.network
    (r.1, { w with jobs := r.2.1, network := r.2.2 })
  | .dial endpoint, w => let r := N.dial endpoint w.network; (r.1, { w with network := r.2 })
  | .setWriter slot, w => ((), { w with writer := slot })
  | .setReader slot, w => ((), { w with reader := slot })
  | .setRemoteEndpoint slot, w => ((), { w with remoteEndpoint := slot })
  | .getWriter, w => (w.writer, w)
  | .writeAll connection frame, w =>
    let r := N.writeAll connection frame w.network
    (r.1, { w with network := r.2 })
  | .flush connection, w => let r := N.flush connection w.network; (r.1, { w with network := r.2 })

end Server

section Statement

def Task.endpoint : Task → Option String
  | .transfer _ _ targetCluster _ _ => some (endpointOf targetCluster)
  | .cancel _ => none

def attempted : List (Event tcpCalls) → List (Connection × Bytes)
  | [] => []
  | ⟨.writeAll connection frame, _⟩ :: past => (connection, frame) :: attempted past
  | _ :: past => attempted past

def written : List (Event tcpCalls) → List (Connection × Bytes)
  | [] => []
  | ⟨.writeAll connection frame, .ok _⟩ :: past => (connection, frame) :: written past
  | _ :: past => written past

def Delivered (endpoint : String) (past : List (Event tcpCalls)) : Prop :=
  ∃ connection : Connection, connection.endpoint = endpoint ∧
    ∀ block ∈ transferBlocks, (connection, encodeBlock block) ∈ written past

variable {ε ι : Type}

structure SentHome (tasks : ι → Task) (pasts : ι → List (Event tcpCalls)) (jobs : Jobs) : Prop where
  own : ∀ i, ∀ write ∈ attempted (pasts i), (tasks i).endpoint = some write.1.endpoint
  complete : ∀ i id endpoint job, (tasks i).newID = some id → (tasks i).endpoint = some endpoint →
    jobs.lookup id = some job → job.status = .completed → Delivered endpoint (pasts i)

def armed : List (Event tcpCalls) → Bool
  | [] => false
  | ⟨.setWriter slot, _⟩ :: _ => slot.isSome
  | ⟨.getWriter, _⟩ :: _ => false
  | _ :: past => armed past

def TakesNone (tasks : ι → Task) (pasts : ι → List (Event tcpCalls)) (i : ι) (c : TcpCall)
    (_w : TcpCoordinator ε) : Prop :=
  match c with
  | .setWriter (some _) => ∀ j, j ≠ i → armed (pasts j) = true →
      (tasks j).endpoint = (tasks i).endpoint
  | _ => True

instance [DecidableEq ι] [Fintype ι] (tasks : ι → Task) (pasts : ι → List (Event tcpCalls)) (i : ι)
    (c : TcpCall) (w : TcpCoordinator ε) : Decidable (TakesNone tasks pasts i c w) :=
  match c with
  | .setWriter (some _) => inferInstanceAs (Decidable (∀ j, j ≠ i → armed (pasts j) = true →
      (tasks j).endpoint = (tasks i).endpoint))
  | .setWriter none | .job _ | .dial _ | .setReader _ | .setRemoteEndpoint _ | .getWriter
  | .writeAll _ _ | .flush _ => isTrue trivial

def startTcp (tasks : ι → Task) (e : ε) : Pool tcpCalls (Except FleetError Unit) ι
    (TcpCoordinator ε) :=
  (fun i => .start ((tasks i).program.interpret TcpTransferProtocol.carryOut),
    ⟨∅, none, none, none, e⟩)

end Statement

section Programs

theorem written_suffix {past past' : List (Event tcpCalls)} (h : past <:+ past')
    {write : Connection × Bytes} (hwrite : write ∈ written past) : write ∈ written past' := by
  obtain ⟨front, rfl⟩ := h
  induction front with
  | nil => exact hwrite
  | cons event front ih =>
    rw [List.cons_append]
    unfold written
    split
    · next heq => cases heq
    · next heq =>
      obtain ⟨-, rfl⟩ := List.cons.inj heq
      exact List.mem_cons_of_mem _ ih
    · next heq =>
      obtain ⟨-, rfl⟩ := List.cons.inj heq
      exact ih

def Handed (past : List (Event tcpCalls)) : Prop :=
  ∃ connection, (⟨.getWriter, some connection⟩ : Event tcpCalls) ∈ past ∧
    ∀ block ∈ transferBlocks, (connection, encodeBlock block) ∈ written past

theorem Handed.suffix {past past' : List (Event tcpCalls)} (h : Handed past) (hs : past <:+ past') :
    Handed past' := by
  obtain ⟨connection, hwriter, hblocks⟩ := h
  exact ⟨connection, hs.subset hwriter,
    fun block hblock => written_suffix hs (hblocks block hblock)⟩

def TcpDiscipline (task : Task) (past : List (Event tcpCalls)) (c : TcpCall) : Prop :=
  match c with
  | .setWriter (some connection) => task.endpoint = some connection.endpoint
  | .getWriter => armed past = true
  | .writeAll connection _ => (⟨.getWriter, some connection⟩ : Event tcpCalls) ∈ past
  | .job (.insertJob job) => job.status ≠ .completed
  | .job (.finishJob id status _) => status = .completed → task.newID = some id ∧ Handed past
  | _ => True

variable {task : Task} {past : List (Event tcpCalls)}

theorem sendFrames_disciplined {connection : Connection}
    (hwriter : (⟨.getWriter, some connection⟩ : Event tcpCalls) ∈ past) (blocks : List KvBlock)
    (total : Nat) :
    (TcpTransferProtocol.sendFrames connection blocks total).Meets (TcpDiscipline task)
      (fun past' sent => past <:+ past' ∧ (sent.isOk = true →
        ∀ block ∈ blocks, (connection, encodeBlock block) ∈ written past')) past := by
  induction blocks generalizing past total with
  | nil => exact ⟨trivial, fun _ => ⟨List.suffix_cons _ _, nofun⟩⟩
  | cons block blocks ih =>
    refine ⟨hwriter, fun (answer : Except String Unit) => ?_⟩
    cases answer with
    | error err => exact ⟨List.suffix_cons _ _, nofun⟩
    | ok u =>
      refine (ih (List.mem_cons_of_mem _ hwriter) _).imp ?_
      rintro past' sent ⟨hsuffix, hsent⟩
      refine ⟨(List.suffix_cons _ _).trans hsuffix, fun hok block' hblock => ?_⟩
      rcases List.mem_cons.mp hblock with rfl | htail
      · exact written_suffix hsuffix List.mem_cons_self
      · exact hsent hok block' htail

theorem connect_disciplined {endpoint : String} (hendpoint : task.endpoint = some endpoint) :
    (TcpTransferProtocol.connect endpoint).Meets (TcpDiscipline task)
      (fun past' connected => connected.isOk = true → armed past' = true) past := by
  refine ⟨trivial, fun (answer : Except String Nat) => ?_⟩
  cases answer with
  | error err => exact nofun
  | ok number => exact ⟨hendpoint, fun _ => ⟨trivial, fun _ => ⟨trivial, fun _ _ => rfl⟩⟩⟩

theorem sendBlocks_disciplined (harmed : armed past = true) :
    (TcpTransferProtocol.sendBlocks transferBlocks).Meets (TcpDiscipline task)
      (fun past' sent => sent.isOk = true → Handed past') past := by
  refine ⟨harmed, fun (writer : Option Connection) => ?_⟩
  cases writer with
  | none => exact nofun
  | some connection =>
    refine (sendFrames_disciplined List.mem_cons_self transferBlocks 0).imp ?_
    rintro past' sent ⟨hsuffix, hsent⟩ hok
    exact ⟨connection, hsuffix.subset List.mem_cons_self, hsent hok⟩

theorem close_disciplined :
    TcpTransferProtocol.close.Meets (TcpDiscipline task) (fun past' _ => past <:+ past') past :=
  ⟨trivial, fun _ => ⟨trivial, fun _ => ⟨trivial, fun _ =>
    ((List.suffix_cons _ _).trans (List.suffix_cons _ _)).trans (List.suffix_cons _ _)⟩⟩⟩

theorem transferData_tcp {endpoint : String} (hendpoint : task.endpoint = some endpoint) :
    ((transferData endpoint).interpret TcpTransferProtocol.carryOut).Meets (TcpDiscipline task)
      (fun past' outcome => outcome.1 = .completed → Handed past') past := by
  rw [transferData, interpret, meets_bind]
  refine (connect_disciplined hendpoint).imp ?_
  intro past₁ connected harmed
  cases connected with
  | error err => rintro ⟨⟩
  | ok u =>
    change Meets _ _ ((TcpTransferProtocol.sendBlocks transferBlocks).bind _) _
    rw [meets_bind]
    refine (sendBlocks_disciplined (harmed rfl)).imp ?_
    intro past₂ sent hsent
    have hclose (outcome : TransferStatus × Nat) (hend : outcome.1 = .completed → Handed past₂) :
        (TcpTransferProtocol.close.bind fun _ => .done outcome).Meets (TcpDiscipline task)
          (fun past' outcome => outcome.1 = .completed → Handed past') past₂ := by
      rw [meets_bind]
      refine close_disciplined.imp ?_
      exact fun past₃ _ hsuffix hcompleted => (hend hcompleted).suffix hsuffix
    cases sent with
    | ok bytes => exact hclose (.completed, bytes) fun _ => hsent rfl
    | error err => exact hclose (.failed err, 0) (by simp)

theorem program_tcp (task : Task) :
    (task.program.interpret TcpTransferProtocol.carryOut).Meets (TcpDiscipline task)
      (fun _ _ => True) [] := by
  cases task with
  | cancel transferId => exact ⟨trivial, fun _ => trivial⟩
  | transfer id sourceCluster targetCluster model transferType =>
    refine ⟨trivial, fun startedAt => ⟨fun h => (nomatch h), fun _ => ⟨trivial, fun _ => ?_⟩⟩⟩
    change Meets _ _ (interpret _ (((transferData _).bind _).bind _)) _
    rw [interpret_bind, meets_bind, interpret_bind, meets_bind]
    refine (transferData_tcp rfl).imp ?_
    intro past outcome hhanded
    exact ⟨fun hcompleted => ⟨rfl, hhanded hcompleted⟩, fun _ => trivial⟩

end Programs

section Run
variable {ε ι : Type} [DecidableEq ι] {N : Network ε} {tasks : ι → Task} {e : ε}

structure TcpInvariant (tasks : ι → Task) (pasts : ι → List (Event tcpCalls))
    (w : TcpCoordinator ε) : Prop where
  slot : ∀ i, armed (pasts i) = true → ∀ connection ∈ w.writer,
    (tasks i).endpoint = some connection.endpoint
  taken : ∀ i connection, (⟨.getWriter, some connection⟩ : Event tcpCalls) ∈ pasts i →
    (tasks i).endpoint = some connection.endpoint
  own : ∀ i, ∀ write ∈ attempted (pasts i), (tasks i).endpoint = some write.1.endpoint
  complete : ∀ i id job, (tasks i).newID = some id → w.jobs.lookup id = some job →
    job.status = .completed → Handed (pasts i)

omit [DecidableEq ι] in
theorem TcpInvariant.sentHome {pasts : ι → List (Event tcpCalls)} {w : TcpCoordinator ε}
    (h : TcpInvariant tasks pasts w) : SentHome tasks pasts w.jobs := by
  refine ⟨h.own, fun i id endpoint job hid hendpoint hlookup hcompleted => ?_⟩
  obtain ⟨connection, hwriter, hblocks⟩ := h.complete i id job hid hlookup hcompleted
  have hconnection := h.taken i connection hwriter
  rw [hendpoint, Option.some.injEq] at hconnection
  exact ⟨connection, hconnection.symm, hblocks⟩

theorem serve_completed {utcNow : ε → DateTime × ε} {c : JobCall} {jobs : Jobs}
    (hinsert : ∀ job, c = .insertJob job → job.status ≠ .completed) {id : Uuid} {job' : TransferJob}
    (hlookup' : (c.serve utcNow jobs e).2.1.lookup id = some job')
    (hcompleted : job'.status = .completed) :
    (∃ job, jobs.lookup id = some job ∧ job.status = .completed) ∨
      ∃ bytes, c = .finishJob id .completed bytes := by
  cases c with
  | utcNow => exact .inl ⟨job', hlookup', hcompleted⟩
  | insertJob job =>
    left
    by_cases hid : id = job.id
    · subst hid
      change (jobs.insert job.id job).lookup job.id = some job' at hlookup'
      rw [AList.lookup_insert, Option.some.injEq] at hlookup'
      exact absurd (hlookup' ▸ hcompleted) (hinsert job rfl)
    · change (jobs.insert job.id job).lookup id = some job' at hlookup'
      rw [AList.lookup_insert_ne hid] at hlookup'
      exact ⟨job', hlookup', hcompleted⟩
  | beginJob other =>
    left
    change (jobs.modify other TransferJob.begun).lookup id = some job' at hlookup'
    by_cases hid : id = other
    · subst hid
      rw [Jobs.lookup_modify_self, Option.map_eq_some_iff] at hlookup'
      obtain ⟨job, -, rfl⟩ := hlookup'
      cases hcompleted
    · rw [Jobs.lookup_modify_of_ne hid] at hlookup'
      exact ⟨job', hlookup', hcompleted⟩
  | finishJob other status bytes =>
    change (jobs.modify other _).lookup id = some job' at hlookup'
    by_cases hid : id = other
    · subst hid
      rw [Jobs.lookup_modify_self, Option.map_eq_some_iff] at hlookup'
      obtain ⟨job, hlookup, rfl⟩ := hlookup'
      rw [TransferJob.finished] at hcompleted
      split_ifs at hcompleted with hprogress
      · exact .inr ⟨bytes, by rw [← hcompleted]⟩
      · exact .inl ⟨job, hlookup, hcompleted⟩
    · rw [Jobs.lookup_modify_of_ne hid] at hlookup'
      exact .inl ⟨job', hlookup', hcompleted⟩
  | cancelJob other =>
    left
    change (jobs.cancel other _).2.lookup id = some job' at hlookup'
    rcases jobs.cancel_lookup other _ id with hsame | ⟨job, -, -, -, hcancelled⟩
    · rw [hsame] at hlookup'
      exact ⟨job', hlookup', hcompleted⟩
    · rw [hcancelled] at hlookup'
      cases hlookup'
      cases hcompleted

theorem attempted_cons (event : Event tcpCalls) (past : List (Event tcpCalls)) :
    attempted (event :: past) = attempted [event] ++ attempted past := by
  obtain ⟨c, answer⟩ := event
  cases c <;> rfl

variable {pasts : ι → List (Event tcpCalls)} {w w' : TcpCoordinator ε}

theorem TcpInvariant.extend (hids : DistinctIDs tasks) (h : TcpInvariant tasks pasts w) {i : ι}
    {event : Event tcpCalls}
    (hslot : ∀ j, armed (Function.update pasts i (event :: pasts i) j) = true →
      ∀ connection ∈ w'.writer, (tasks j).endpoint = some connection.endpoint)
    (htaken : ∀ connection, event = ⟨.getWriter, some connection⟩ →
      (tasks i).endpoint = some connection.endpoint)
    (hown : ∀ write ∈ attempted [event], (tasks i).endpoint = some write.1.endpoint)
    (hcomplete : ∀ id job', w'.jobs.lookup id = some job' → job'.status = .completed →
      (∃ job, w.jobs.lookup id = some job ∧ job.status = .completed) ∨
        (tasks i).newID = some id ∧ Handed (event :: pasts i)) :
    TcpInvariant tasks (Function.update pasts i (event :: pasts i)) w' := by
  refine ⟨hslot, ?_, ?_, ?_⟩
  · rw [Function.forall_update_iff pasts (p := fun j past => ∀ connection,
      (⟨.getWriter, some connection⟩ : Event tcpCalls) ∈ past →
        (tasks j).endpoint = some connection.endpoint)]
    refine ⟨fun connection hmem => ?_, fun j _ => h.taken j⟩
    rcases List.mem_cons.mp hmem with hevent | htail
    · exact htaken connection hevent.symm
    · exact h.taken i connection htail
  · rw [Function.forall_update_iff pasts (p := fun j past => ∀ write ∈ attempted past,
      (tasks j).endpoint = some write.1.endpoint)]
    refine ⟨fun write hmem => ?_, fun j _ => h.own j⟩
    rw [attempted_cons, List.mem_append] at hmem
    rcases hmem with hnew | hold
    · exact hown write hnew
    · exact h.own i write hold
  · intro j id job' hid hlookup' hcompleted
    rcases hcomplete id job' hlookup' hcompleted with ⟨job, hlookup, hbefore⟩ | ⟨hi, hhanded⟩
    · have hhanded := h.complete j id job hid hlookup hbefore
      by_cases hij : j = i
      · subst hij
        rw [Function.update_self]
        exact hhanded.suffix (List.suffix_cons _ _)
      · rw [Function.update_of_ne hij]
        exact hhanded
    · obtain rfl := hids j i id hid hi
      rw [Function.update_self]
      exact hhanded

theorem TcpInvariant.slot_kept (h : TcpInvariant tasks pasts w) {i : ι} {event : Event tcpCalls}
    (hwriter : w'.writer = w.writer)
    (harmed : armed (event :: pasts i) = true → armed (pasts i) = true) (j : ι)
    (hj : armed (Function.update pasts i (event :: pasts i) j) = true) :
    ∀ connection ∈ w'.writer, (tasks j).endpoint = some connection.endpoint := by
  rw [hwriter]
  by_cases hij : j = i
  · subst hij
    rw [Function.update_self] at hj
    exact h.slot j (harmed hj)
  · rw [Function.update_of_ne hij] at hj
    exact h.slot j hj

theorem TcpInvariant.step (hids : DistinctIDs tasks) (h : TcpInvariant tasks pasts w) (i : ι)
    (c : TcpCall) (hdiscipline : TcpDiscipline (tasks i) (pasts i) c)
    (htakes : TakesNone tasks pasts i c w) :
    TcpInvariant tasks (Function.update pasts i (⟨c, (N.serve c w).1⟩ :: pasts i))
      (N.serve c w).2 := by
  have hjobs : ∀ id job', w.jobs.lookup id = some job' → job'.status = .completed →
      (∃ job, w.jobs.lookup id = some job ∧ job.status = .completed) ∨
        (tasks i).newID = some id ∧ Handed (⟨c, (N.serve c w).1⟩ :: pasts i) :=
    fun id job' hlookup' hcompleted => .inl ⟨job', hlookup', hcompleted⟩
  cases c with
  | dial endpoint | setReader slot | setRemoteEndpoint slot | flush connection =>
    exact h.extend hids (h.slot_kept rfl id) nofun
      nofun hjobs
  | job c =>
    refine h.extend hids (h.slot_kept rfl id) nofun
      nofun fun id job' hlookup' hcompleted => ?_
    have hinsert : ∀ job, c = .insertJob job → job.status ≠ .completed := by
      rintro job rfl
      exact hdiscipline
    rcases serve_completed hinsert hlookup' hcompleted with hbefore | ⟨bytes, rfl⟩
    · exact .inl hbefore
    · obtain ⟨hid, hhanded⟩ := hdiscipline rfl
      exact .inr ⟨hid, hhanded.suffix (List.suffix_cons _ _)⟩
  | writeAll connection frame =>
    refine h.extend hids (h.slot_kept rfl id) nofun ?_ hjobs
    intro write hmem
    obtain rfl := List.mem_singleton.mp hmem
    exact h.taken i connection hdiscipline
  | getWriter =>
    refine h.extend hids (h.slot_kept rfl nofun) ?_ nofun
      hjobs
    intro connection hevent
    have hslot : w.writer = some connection := eq_of_heq (Sigma.mk.inj hevent).2
    exact h.slot i hdiscipline connection hslot
  | setWriter slot =>
    refine h.extend hids ?_ nofun nofun hjobs
    intro j harmed connection hconnection
    cases slot with
    | none => cases hconnection
    | some stored =>
      cases hconnection
      by_cases hij : j = i
      · rw [hij]
        exact hdiscipline
      · rw [Function.update_of_ne hij] at harmed
        rw [htakes j hij harmed]
        exact hdiscipline

omit [DecidableEq ι] in
theorem startTcp_invariant (tasks : ι → Task) (e : ε) :
    Pool.AllMeet (fun i => TcpDiscipline (tasks i)) (fun _ _ _ => True) (startTcp tasks e) ∧
      TcpInvariant tasks (Pool.pasts (startTcp tasks e)) (startTcp tasks e).2 :=
  ⟨fun i => program_tcp (tasks i), ⟨fun _ h => (nomatch h), fun _ _ h => (nomatch h),
    fun _ _ h => (nomatch h), fun _ _ _ _ h => (nomatch h)⟩⟩

/-- In every state of a run in which no transfer takes the slot from one to another target that
is about to send, all transfers have sent home. -/
theorem undisturbed_sent_home (N : Network ε) (tasks : ι → Task) (hids : DistinctIDs tasks) (e : ε)
    (moves : Schedule ι)
    (hwatch : Pool.Watches N.serve Empty.elim (TakesNone tasks) moves (startTcp tasks e)) :
    ∀ first rest, moves = first ++ rest →
      let z := Pool.exec N.serve Empty.elim first (startTcp tasks e)
      SentHome tasks (Pool.pasts z) z.2.jobs := by
  rintro first rest rfl
  obtain ⟨hmeet, hinv⟩ := startTcp_invariant tasks e
  have hrun := Pool.exec_watched N.serve Empty.elim (R := fun _ _ => True) (fun _ => trivial)
    (fun _ _ _ _ _ => trivial)
    (fun _ _ i c hinv hG hC => ⟨TcpInvariant.step hids hinv i c hG hC, trivial⟩)
    (fun _ _ w => w.elim) first hmeet hinv (hwatch.of_append N.serve Empty.elim)
  exact hrun.2.1.sentHome

end Run

section Sample

def sampleTransfers : Bool → Task
  | false => .transfer 1 "s" "a" "m" .warmMigration
  | true => .transfer 2 "s" "b" "m" .warmMigration

def sampleNetwork : Network Nat where
  utcNow e := (0, e)
  dial _ e := (.ok e, e + 1)
  writeAll _ _ e := (.ok (), e)
  flush _ e := (.ok (), e)

theorem sampleTransfers_distinct : DistinctIDs sampleTransfers := by
  intro i j id hi hj
  have h := hi.trans hj.symm
  cases i with
  | false =>
    cases j with
    | false => rfl
    | true => cases h
  | true =>
    cases j with
    | false => cases h
    | true => rfl

def moves (i : Bool) (n : Nat) : Schedule Bool := List.replicate n (.thread i)

def undisturbed : Schedule Bool := moves false 9 ++ moves true 5 ++ moves false 5 ++ moves true 9

theorem undisturbed_run_sent_home :
    let z := Pool.exec sampleNetwork.serve Empty.elim undisturbed (startTcp sampleTransfers 0)
    (z.2.jobs.lookup 1).map (·.status) = some .completed ∧
      SentHome sampleTransfers (Pool.pasts z) z.2.jobs :=
  ⟨by decide +kernel,
    undisturbed_sent_home sampleNetwork sampleTransfers sampleTransfers_distinct 0 undisturbed
      (by decide +kernel) undisturbed [] (List.append_nil _).symm⟩

def disturbed : Schedule Bool := moves false 7 ++ moves true 7 ++ moves false 7

theorem disturbed_run_sent_astray :
    let z := Pool.exec sampleNetwork.serve Empty.elim disturbed (startTcp sampleTransfers 0)
    (z.2.jobs.lookup 1).map (·.status) = some .completed ∧
      (attempted (Pool.pasts z false)).map (·.1.endpoint) = ["b:9100"] ∧
      ¬SentHome sampleTransfers (Pool.pasts z) z.2.jobs := by
  intro z
  have hcompleted : (z.2.jobs.lookup 1).map (·.status) = some .completed := by decide +kernel
  have hattempted : (attempted (Pool.pasts z false)).map (·.1.endpoint) = ["b:9100"] := by
    decide +kernel
  refine ⟨hcompleted, hattempted, fun hhome => ?_⟩
  have hmem : "b:9100" ∈ (attempted (Pool.pasts z false)).map (·.1.endpoint) := by
    rw [hattempted]
    exact List.mem_singleton_self _
  obtain ⟨write, hwrite, hendpoint⟩ := List.mem_map.mp hmem
  have hown := hhome.own false write hwrite
  rw [hendpoint] at hown
  exact absurd hown (by decide +kernel)

end Sample
end FleetLlmd.KvTransfer
