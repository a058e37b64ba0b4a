import FleetLlmd.Intents.Concurrent

/-!
# Concurrent submissions under one key

`Submit` looks its idempotency key up, and only later creates; both are single steps
of the in-memory repository, and `Create` refuses a key that is taken. However the
submissions under one key interleave, one of them is stored and all of them answer
with its operation.
-/

namespace FleetLlmd.Intents
open Go Json Effect Prog

structure Indexed (r : MemoryRepository) (key : String) : Prop where
  indexed : ∀ id operation, r.operations id = some operation →
    operation.idempotencyKey = key → r.idempotency key = some id
  found : ∀ id, r.idempotency key = some id → ∃ operation,
    r.operations id = some operation ∧ operation.id = id ∧ operation.idempotencyKey = key

section Index
variable {r : MemoryRepository} {key : String}

theorem Indexed.unique (h : Indexed r key) {id id' : String} {operation operation' : FleetOperation}
    (hop : r.operations id = some operation) (hkey : operation.idempotencyKey = key)
    (hop' : r.operations id' = some operation') (hkey' : operation'.idempotencyKey = key) :
    id' = id ∧ operation' = operation := by
  have hid := h.indexed id' operation' hop' hkey'
  rw [h.indexed id operation hop hkey, Option.some.injEq] at hid
  subst hid
  rw [hop, Option.some.injEq] at hop'
  exact ⟨rfl, hop'.symm⟩

theorem Indexed.put (h : Indexed r key) (hfree : r.idempotency key = none) (hne : key ≠ "")
    {intent : FleetIntent} {operation : FleetOperation} (hintent : intent.idempotencyKey = key)
    (hoperation : operation.idempotencyKey = key) : Indexed (r.put intent operation) key := by
  have hindex : (r.put intent operation).idempotency key = some operation.id := by
    simp [MemoryRepository.put, hintent, hne]
  constructor
  · intro id op hop hkey
    by_cases hid : id = operation.id
    · rw [hindex, hid]
    · simp only [MemoryRepository.put, Function.update_of_ne hid] at hop
      have htaken := h.indexed id op hop hkey
      rw [hfree] at htaken
      cases htaken
  · intro id hid
    rw [hindex] at hid
    cases hid
    exact ⟨operation, Function.update_self _ _ _, rfl, hoperation⟩

theorem createError_none {intent : FleetIntent} (hne : intent.idempotencyKey ≠ "")
    (h : r.createError intent = none) : r.idempotency intent.idempotencyKey = none := by
  unfold MemoryRepository.createError at h
  split_ifs at h with hintent
  cases hfree : r.idempotency intent.idempotencyKey with
  | none => rfl
  | some id => simp [hfree] at h

end Index

section Admits
variable {s : Service} {given intent : FleetIntent} {past : List ServiceEvent}
variable {operation : FleetOperation}

theorem Admits.intentKey (h : Admits s given past intent operation) :
    intent.idempotencyKey = given.idempotencyKey := by
  obtain ⟨id, operationID, now, later, next, reason, rfl, -⟩ := h
  rfl

theorem Admits.operationKey (h : Admits s given past intent operation) :
    operation.idempotencyKey = given.idempotencyKey := by
  obtain ⟨id, operationID, now, later, next, reason, rfl, -, -, -, -, -, rfl⟩ := h
  rfl

theorem Admits.intentID (h : Admits s given past intent operation) :
    operation.intentID = intent.id := by
  obtain ⟨id, operationID, now, later, next, reason, -, -, -, -, -, -, rfl⟩ := h
  rfl

end Admits

section Invariant
variable {ι : Type} [DecidableEq ι] {s : Service} {given : ι → FleetIntent} {key : String}
variable {start r : MemoryRepository} {pasts : ι → List ServiceEvent}

structure Agrees (s : Service) (given : ι → FleetIntent) (key : String) (start : MemoryRepository)
    (pasts : ι → List ServiceEvent) (r : MemoryRepository) : Prop where
  index : Indexed r key
  created : ∀ i intent operation, ⟨.create intent operation, .ok ()⟩ ∈ pasts i →
    Admits s (given i) (pasts i) intent operation ∧ r.intents intent.id = some intent ∧
      r.operations operation.id = some operation
  found : ∀ i operation, ⟨.findByIdempotencyKey key, .ok operation⟩ ∈ pasts i →
    r.operations operation.id = some operation ∧ operation.idempotencyKey = key
  origin : ∀ id operation, r.operations id = some operation → operation.idempotencyKey = key →
    start.operations id = some operation ∨
      ∃ i intent, ⟨.create intent operation, .ok ()⟩ ∈ pasts i

theorem mem_update_cons {i j : ι} {e e' : ServiceEvent}
    (h : e' ∈ Function.update pasts i (e :: pasts i) j) : e' ∈ pasts j ∨ j = i ∧ e' = e := by
  by_cases hj : j = i
  · subst hj
    rw [Function.update_self] at h
    rcases List.mem_cons.mp h with hhead | htail
    · exact Or.inr ⟨rfl, hhead⟩
    · exact Or.inl htail
  · rw [Function.update_of_ne hj] at h
    exact Or.inl h

theorem subset_update_cons (pasts : ι → List ServiceEvent) (i j : ι) (e : ServiceEvent) :
    pasts j ⊆ Function.update pasts i (e :: pasts i) j := by
  by_cases hj : j = i
  · subst hj
    rw [Function.update_self]
    exact List.subset_cons_self _ _
  · rw [Function.update_of_ne hj]
    exact List.Subset.refl _

theorem Agrees.learn (h : Agrees s given key start pasts r) (i : ι) (e : ServiceEvent)
    (hcreate : ∀ intent operation, e ≠ ⟨.create intent operation, .ok ()⟩)
    (hfind : ∀ operation, e = ⟨.findByIdempotencyKey key, .ok operation⟩ →
      r.operations operation.id = some operation ∧ operation.idempotencyKey = key) :
    Agrees s given key start (Function.update pasts i (e :: pasts i)) r := by
  refine ⟨h.index, ?_, ?_, ?_⟩
  · intro j intent operation hmem
    rcases mem_update_cons hmem with hold | ⟨-, hnew⟩
    · obtain ⟨hadmits, hrest⟩ := h.created j intent operation hold
      exact ⟨hadmits.mono (subset_update_cons pasts i j e), hrest⟩
    · exact absurd hnew.symm (hcreate intent operation)
  · intro j operation hmem
    rcases mem_update_cons hmem with hold | ⟨-, hnew⟩
    · exact h.found j operation hold
    · exact hfind operation hnew.symm
  · intro id operation hop hkey
    refine (h.origin id operation hop hkey).imp_right ?_
    rintro ⟨j, intent, hmem⟩
    exact ⟨j, intent, subset_update_cons pasts i j e hmem⟩

theorem Agrees.create (h : Agrees s given key start pasts r) (hne : key ≠ "")
    (hgiven : ∀ i, (given i).idempotencyKey = key) {i : ι} {intent : FleetIntent}
    {operation : FleetOperation}
    (hadmits : Admits s (given i) (pasts i) intent operation) (hfree : r.idempotency key = none) :
    Agrees s given key start
      (Function.update pasts i (⟨.create intent operation, .ok ()⟩ :: pasts i))
      (r.put intent operation) := by
  have hintent : intent.idempotencyKey = key := hadmits.intentKey.trans (hgiven i)
  have hoperation : operation.idempotencyKey = key := hadmits.operationKey.trans (hgiven i)
  have hnone (id : String) (op : FleetOperation) (hop : r.operations id = some op) :
      op.idempotencyKey ≠ key := by
    intro hkey
    have htaken := h.index.indexed id op hop hkey
    rw [hfree] at htaken
    cases htaken
  refine ⟨h.index.put hfree hne hintent hoperation, ?_, ?_, ?_⟩
  · intro j intent' operation' hmem
    rcases mem_update_cons hmem with hold | ⟨rfl, hnew⟩
    · obtain ⟨hadmits', -, hstored⟩ := h.created j intent' operation' hold
      exact absurd (hadmits'.operationKey.trans (hgiven j)) (hnone _ _ hstored)
    · cases hnew
      refine ⟨hadmits.mono ?_, Function.update_self _ _ _, Function.update_self _ _ _⟩
      exact subset_update_cons pasts j j _
  · intro j op hmem
    rcases mem_update_cons hmem with hold | ⟨-, hnew⟩
    · obtain ⟨hop, hkey⟩ := h.found j op hold
      exact absurd hkey (hnone _ _ hop)
    · cases hnew
  · intro id op hop hkey
    by_cases hid : id = operation.id
    · subst hid
      simp only [MemoryRepository.put, Function.update_self, Option.some.injEq] at hop
      subst hop
      refine Or.inr ⟨i, intent, ?_⟩
      rw [Function.update_self]
      exact List.mem_cons_self
    · simp only [MemoryRepository.put, Function.update_of_ne hid] at hop
      exact absurd hkey (hnone id op hop)

end Invariant

section Runs
variable {ε ι : Type} [DecidableEq ι] {E : Environment ε} {s : Service} {given : ι → FleetIntent}
variable {key : String} {start : MemoryRepository}

def KeepsKey (key : String) (w w' : World MemoryRepository ε) : Prop :=
  ∀ id operation, w.repository.operations id = some operation → operation.idempotencyKey = key →
    w'.repository.operations id = some operation

theorem Agrees.call {pasts : ι → List ServiceEvent} {w : World MemoryRepository ε}
    (h : Agrees s given key start pasts w.repository) (hne : key ≠ "")
    (hgiven : ∀ i, (given i).idempotencyKey = key) {i : ι} {c : ServiceCall}
    (hc : SubmitCalls s (given i) (pasts i) c) :
    Agrees s given key start
        (Function.update pasts i (⟨c, (serve memory E c w).1⟩ :: pasts i))
        (serve memory E c w).2.repository ∧
      KeepsKey key w (serve memory E c w).2 := by
  cases c with
  | now | timeNow | randRead =>
    exact ⟨h.learn i _ (by simp) (by simp), fun _ _ hop _ => hop⟩
  | findByIdempotencyKey asked =>
    obtain ⟨rfl, -⟩ := hc
    refine ⟨h.learn i _ (by simp) ?_, fun _ _ hop _ => hop⟩
    intro operation hanswer
    injection hanswer with hcall hanswer
    simp only [serve, memory, MemoryRepository.findByIdempotencyKey] at hanswer
    rw [hgiven i] at hanswer
    cases hfree : w.repository.idempotency key with
    | none => simp [hfree] at hanswer
    | some id =>
      obtain ⟨stored, hstored, hid, hkey⟩ := h.index.found id hfree
      simp only [hfree, hstored, Option.getD_some, Except.ok.injEq] at hanswer
      rw [← hanswer, hid]
      exact ⟨hstored, hkey⟩
  | create intent operation =>
    obtain ⟨-, hadmits⟩ := hc
    have hintent : intent.idempotencyKey = key := hadmits.intentKey.trans (hgiven i)
    simp only [serve, memory, MemoryRepository.create]
    cases herr : w.repository.createError intent with
    | some err => exact ⟨h.learn i _ (by simp) (by simp), fun _ _ hop _ => hop⟩
    | none =>
      have hfree := createError_none (hintent.symm ▸ hne) herr
      rw [hintent] at hfree
      refine ⟨h.create hne hgiven hadmits hfree, fun id op hop hkey => ?_⟩
      have htaken := h.index.indexed id op hop hkey
      rw [hfree] at htaken
      cases htaken
  | _ => exact hc.elim

def submitting (s : Service) (given : ι → FleetIntent) (w : World MemoryRepository ε) :
    Pool calls (Except Error SubmissionResponse) ι (World MemoryRepository ε) :=
  (fun i => Thread.start (s.submit (given i)), w)

def submissions (E : Environment ε) (s : Service) (given : ι → FleetIntent)
    (moves : List (Move ι Empty)) (w : World MemoryRepository ε) :
    Pool calls (Except Error SubmissionResponse) ι (World MemoryRepository ε) :=
  Pool.exec (serve memory E) (fun e _ => nomatch e) moves (submitting s given w)

/-- However submissions under one key interleave: at any two moments at most one operation with the
key is stored; it was there before, or it was stored together with its intent by one of the
submissions; and every submission that succeeds answers with it. -/
theorem one_operation_per_key (given : ι → FleetIntent) (key : String) (hne : key ≠ "")
    (hgiven : ∀ i, (given i).idempotencyKey = key) (w : World MemoryRepository ε)
    (hindex : Indexed w.repository key) (moves moves' : List (Move ι Empty)) :
    let early := submissions E s given moves w
    let late := submissions E s given (moves ++ moves') w
    (∀ id operation id' operation', early.2.repository.operations id = some operation →
      operation.idempotencyKey = key → late.2.repository.operations id' = some operation' →
      operation'.idempotencyKey = key → id' = id ∧ operation' = operation) ∧
    (∀ id operation, late.2.repository.operations id = some operation →
      operation.idempotencyKey = key → w.repository.operations id = some operation ∨
        ∃ i intent, ⟨.create intent operation, .ok ()⟩ ∈ late.pasts i ∧
          Admits s (given i) (late.pasts i) intent operation ∧
          late.2.repository.intents operation.intentID = some intent) ∧
    (∀ i response, (late.1 i).rest = .done (.ok response) → ∃ operation,
      late.2.repository.operations response.operationID = some operation ∧
        operation.idempotencyKey = key) := by
  have hrule := Pool.exec_rule (serve memory E) (fun (e : Empty) _ => nomatch e)
    (G := fun i => SubmitCalls s (given i)) (Q := fun i => Submitted (given i))
    (C := fun _ _ _ => True)
    (I := fun pasts w' => Agrees s given key w.repository pasts w'.repository) (R := KeepsKey key)
    (fun _ _ _ hop _ => hop) (fun _ _ _ h h' id op hop hkey => h' id op (h id op hop hkey) hkey)
    (fun _ _ _ _ h hc _ => h.call hne hgiven hc) (fun _ _ e => nomatch e)
  have hmeet : Pool.AllMeet (fun i => SubmitCalls s (given i)) (fun i => Submitted (given i))
      (submitting s given w) := fun i => submit_meets (given i) noWrite_nil
  have hstart : Agrees s given key w.repository (submitting s given w).pasts w.repository :=
    ⟨hindex, (fun _ _ _ h => nomatch h), (fun _ _ h => nomatch h), fun _ _ hop _ => Or.inl hop⟩
  obtain ⟨hmid, hearly, -⟩ := hrule moves hmeet hstart (Pool.observes_true _ _ _ _)
  obtain ⟨hlast, hlate, hkeeps⟩ := hrule moves' hmid hearly (Pool.observes_true _ _ _ _)
  rw [← Pool.exec_append] at hlast hlate hkeeps
  refine ⟨?_, ?_, ?_⟩
  · intro id operation id' operation' hop hkey hop' hkey'
    exact hlate.index.unique (hkeeps id operation hop hkey) hkey hop' hkey'
  · intro id operation hop hkey
    refine (hlate.origin id operation hop hkey).imp_right ?_
    rintro ⟨i, intent, hmem⟩
    obtain ⟨hadmits, hintent, -⟩ := hlate.created i intent operation hmem
    exact ⟨i, intent, hmem, hadmits, hadmits.intentID ▸ hintent⟩
  · intro i response hdone
    have hsubmitted : ((submissions E s given (moves ++ moves') w).1 i).rest.Meets _ _ _ := hlast i
    rw [hdone] at hsubmitted
    obtain ⟨operation, reason, rfl, hcreated | hfound⟩ := hsubmitted response rfl
    · obtain ⟨intent, hmem⟩ := hcreated
      obtain ⟨hadmits, -, hstored⟩ := hlate.created i intent operation hmem
      exact ⟨operation, hstored, hadmits.operationKey.trans (hgiven i)⟩
    · rw [hgiven i] at hfound
      exact ⟨operation, hlate.found i operation hfound⟩

end Runs

section Sample

def sampleRivals (i : Bool) : FleetIntent :=
  { sampleIntent with id := if i then "i" else "j" }

def rivalMoves : List (Move Bool Empty) :=
  [false, true, false, true, false, true, true, false, false].map .thread

def answered : Action (Except Error SubmissionResponse) → Option SubmissionResponse
  | .done (.ok response) => some response
  | _ => none

theorem done_of_answered {p : Action (Except Error SubmissionResponse)}
    {response : SubmissionResponse} (h : answered p = some response) :
    p = .done (.ok response) := by
  unfold answered at h
  split at h <;> cases h
  rfl

theorem empty_indexed (key : String) : Indexed MemoryRepository.empty key :=
  ⟨(fun _ _ h => nomatch h), fun _ h => nomatch h⟩

set_option maxRecDepth 20000 in
theorem one_operation_per_key_sample :
    let late := submissions sampleEnvironment sampleService sampleRivals rivalMoves sampleWorld
    ∃ first second operation, (late.1 false).rest = .done (.ok first) ∧
      (late.1 true).rest = .done (.ok second) ∧ first.operationID = second.operationID ∧
      late.2.repository.operations first.operationID = some operation ∧
      operation.idempotencyKey = "k" := by
  have hrun := one_operation_per_key (E := sampleEnvironment) (s := sampleService) sampleRivals
    "k" (by decide) (fun _ => rfl) sampleWorld (empty_indexed "k") rivalMoves []
  have hfirst : (answered ((submissions sampleEnvironment sampleService sampleRivals rivalMoves
      sampleWorld).1 false).rest).isSome := by decide +kernel
  have hsecond : (answered ((submissions sampleEnvironment sampleService sampleRivals rivalMoves
      sampleWorld).1 true).rest).isSome := by decide +kernel
  rw [List.append_nil] at hrun
  generalize submissions sampleEnvironment sampleService sampleRivals rivalMoves sampleWorld = late
    at hrun hfirst hsecond ⊢
  obtain ⟨hunique, -, hanswers⟩ := hrun
  obtain ⟨first, hfirst⟩ := Option.isSome_iff_exists.mp hfirst
  obtain ⟨second, hsecond⟩ := Option.isSome_iff_exists.mp hsecond
  obtain ⟨operation, hop, hkey⟩ := hanswers false first (done_of_answered hfirst)
  obtain ⟨operation', hop', hkey'⟩ := hanswers true second (done_of_answered hsecond)
  obtain ⟨hid, -⟩ := hunique _ _ _ _ hop' hkey' hop hkey
  exact ⟨first, second, operation, done_of_answered hfirst, done_of_answered hsecond, hid, hop,
    hkey⟩

end Sample
end FleetLlmd.Intents
