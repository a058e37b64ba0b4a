import FleetLlmd.Intents.Repository

/-!
# Steps of a run

What one request, served without interruption, can do to a faithful repository is
said once, in `request_effect`: nothing, one admission, or one change of a stored
operation. What an evidence write can do is said in `writeEvidence_stored`.
Invariants of runs follow from these two.
-/

namespace FleetLlmd.Intents
open Effect Prog

variable {ρ ε : Type} {R : Repository ρ} {E : Environment ε} {s : Service}

variable {past : List ServiceEvent} {w : World ρ ε}

variable (F : Faithful R) {c : ServiceCall}

theorem serve_stored {scope : Scope} (hc : Justified s scope past c) (w : World ρ ε) :
    (F.stored (serve R E c w).2.repository = F.stored w.repository ∧
      F.intents (serve R E c w).2.repository = F.intents w.repository) ∨
    (∃ intent operation, c = .create intent operation ∧
      F.stored (serve R E c w).2.repository =
        Function.update (F.stored w.repository) operation.id (some operation) ∧
      F.intents (serve R E c w).2.repository =
        Function.update (F.intents w.repository) intent.id (some intent) ∧
      F.intents w.repository intent.id = none) ∨
    (∃ operation, c = .updateOperation operation ∧
      F.stored (serve R E c w).2.repository =
        Function.update (F.stored w.repository) operation.id (some operation) ∧
      F.intents (serve R E c w).2.repository = F.intents w.repository) := by
  cases c with
  | create intent operation =>
    cases hr : (R.create intent operation w.repository).1 with
    | error err => exact Or.inl (F.create_error hr)
    | ok u => exact Or.inr (Or.inl ⟨intent, operation, rfl, F.create_ok hr⟩)
  | updateOperation operation =>
    cases hr : (R.updateOperation operation w.repository).1 with
    | error err => exact Or.inl (F.update_error hr)
    | ok u => exact Or.inr (Or.inr ⟨operation, rfl, F.update_ok hr⟩)
  | delete intentID operationID => exact hc.elim
  | _ => exact Or.inl ⟨rfl, rfl⟩

inductive RequestEffect (F : Faithful R) (s : Service) (scope : Scope) (events : List ServiceEvent)
    (w w' : World ρ ε) : Prop
  | unchanged (hstored : F.stored w'.repository = F.stored w.repository)
      (hintents : F.intents w'.repository = F.intents w.repository)
  | admitted (given intent : FleetIntent) (operation : FleetOperation)
      (hscope : scope.submits given) (hadmits : Admits s given events intent operation)
      (hstored : F.stored w'.repository =
        Function.update (F.stored w.repository) operation.id (some operation))
      (hintents : F.intents w'.repository =
        Function.update (F.intents w.repository) intent.id (some intent))
      (hfresh : F.intents w.repository intent.id = none)
  | updated (id : String) (old new : FleetOperation)
      (hold : F.stored w.repository id = some old)
      (hnew : Appends (scope.target id) events old new ∨ Attaches events old new)
      (hstored : F.stored w'.repository =
        Function.update (F.stored w.repository) new.id (some new))
      (hintents : F.intents w'.repository = F.intents w.repository)

theorem RequestEffect.mono {F : Faithful R} {scope : Scope} {later : List ServiceEvent}
    {w' : World ρ ε} (h : RequestEffect F s scope past w w') (hsub : past ⊆ later) :
    RequestEffect F s scope later w w' := by
  cases h with
  | unchanged hstored hintents => exact .unchanged hstored hintents
  | admitted given intent operation hscope hadmits hstored hintents hfresh =>
    exact .admitted given intent operation hscope (hadmits.mono hsub) hstored hintents hfresh
  | updated id old new hold hnew hstored hintents =>
    exact .updated id old new hold (hnew.imp (·.mono hsub) (·.mono hsub)) hstored hintents

def Serving (F : Faithful R) (s : Service) (scope : Scope) (w : World ρ ε)
    (past : List ServiceEvent) (w' : World ρ ε) : Prop :=
  (NoWrite past ∧ F.stored w'.repository = F.stored w.repository ∧
      F.intents w'.repository = F.intents w.repository ∧
      ∀ id operation, ⟨.getOperation id, .ok operation⟩ ∈ past →
        F.stored w.repository id = some operation) ∨
    (¬NoWrite past ∧ RequestEffect F s scope past w w')

theorem not_noWrite_cons {e : ServiceEvent} (he : e.1.writes = true) (past : List ServiceEvent) :
    ¬NoWrite (e :: past) := by
  intro h
  have hfalse := h e List.mem_cons_self
  rw [he] at hfalse
  cases hfalse

theorem serve_unchanged (hc : c.writes = false)
    (w : World ρ ε) : (serve R E c w).2.repository = w.repository := by
  cases c with
  | create | delete | updateOperation => cases hc
  | _ => rfl

theorem Serving.call {F : Faithful R} {scope : Scope}
    {w' : World ρ ε} (h : Serving F s scope w past w') (hc : Justified s scope past c) :
    Serving F s scope w (⟨c, (serve R E c w').1⟩ :: past) (serve R E c w').2 := by
  have hsub := List.subset_cons_self (⟨c, (serve R E c w').1⟩ : ServiceEvent) past
  rcases h with ⟨hno, hs, hi, hreads⟩ | ⟨hwrote, heffect⟩
  · cases hw : c.writes with
    | false =>
      rw [Serving, serve_unchanged hw w']
      refine Or.inl ⟨hno.cons hw, hs, hi, fun id operation hmem => ?_⟩
      rcases List.mem_cons.mp hmem with hhead | htail
      · cases c with
        | getOperation id' =>
          injection hhead with hcall hanswer
          injection hcall with hid
          subst hid
          rw [← hs]
          exact F.getOperation_ok hanswer.symm
        | _ => cases hhead
      · exact hreads id operation htail
    | true =>
      refine Or.inr ⟨not_noWrite_cons hw past, ?_⟩
      rcases serve_stored (E := E) F hc w' with
        ⟨hs', hi'⟩ | ⟨intent, operation, rfl, hs', hi', hfresh⟩ | ⟨new, rfl, hs', hi'⟩
      · exact .unchanged (hs'.trans hs) (hi'.trans hi)
      · obtain ⟨-, given, hscope, hadmits⟩ := hc
        rw [hs] at hs'
        rw [hi] at hi' hfresh
        exact .admitted given intent operation hscope (hadmits.mono hsub) hs' hi' hfresh
      · obtain ⟨-, id, old, hread, hnew⟩ := hc
        rw [hs] at hs'
        have hold := hreads id old (mem_of_lastRead hread)
        exact .updated id old new hold (hnew.imp (·.mono hsub) (·.mono hsub)) hs' (hi'.trans hi)
  · have hw : c.writes = false := by
      cases c with
      | create intent operation => exact absurd hc.1 hwrote
      | updateOperation new => exact absurd hc.1 hwrote
      | delete intentID operationID => exact hc.elim
      | _ => rfl
    refine Or.inr ⟨fun hno => hwrote fun e he => hno e (List.mem_cons_of_mem _ he), ?_⟩
    have hsame := serve_unchanged (R := R) (E := E) hw w'
    cases heffect.mono hsub with
    | unchanged hs hi => exact .unchanged (hsame ▸ hs) (hsame ▸ hi)
    | admitted given intent operation hscope hadmits hs hi hfresh =>
      exact .admitted given intent operation hscope hadmits (hsame ▸ hs) (hsame ▸ hi) hfresh
    | updated id old new hold hnew hs hi =>
      exact .updated id old new hold hnew (hsame ▸ hs) (hsame ▸ hi)

theorem request_effect (r : Request) (w : World ρ ε) :
    RequestEffect F s r.scope ((r.action s).trace (serve R E) w) w
      ((r.action s).run (serve R E) w).2 := by
  have hstart : Serving F s r.scope w [] w :=
    Or.inl ⟨noWrite_nil, rfl, rfl, fun _ _ h => nomatch h⟩
  have hrun := (r.action_meets s).run (h := serve R E) hstart (fun _ _ _ hJ hG => hJ.call hG)
  simp only [List.append_nil] at hrun
  rcases hrun.1 with ⟨-, hs, hi, -⟩ | ⟨-, heffect⟩
  · exact .unchanged hs hi
  · exact heffect.mono fun e he => List.mem_reverse.mp he

theorem writeEvidence_stored (e : EvidenceWrite) (w : World ρ ε) :
    (writeEvidence R e w).environment = w.environment ∧
    F.intents (writeEvidence R e w).repository = F.intents w.repository ∧
    (F.stored (writeEvidence R e w).repository = F.stored w.repository ∨
      ∃ operation, F.stored w.repository e.id = some operation ∧
        F.stored (writeEvidence R e w).repository =
          Function.update (F.stored w.repository) operation.id (some (e.apply operation))) := by
  unfold writeEvidence
  cases hget : R.getOperation e.id w.repository with
  | error err => exact ⟨rfl, rfl, Or.inl rfl⟩
  | ok operation =>
    have hop := F.getOperation_ok hget
    cases hu : (R.updateOperation (e.apply operation) w.repository).1 with
    | error err =>
      obtain ⟨hs, hi⟩ := F.update_error hu
      exact ⟨rfl, hi, Or.inl hs⟩
    | ok u =>
      obtain ⟨hs, hi⟩ := F.update_ok hu
      exact ⟨rfl, hi, Or.inr ⟨operation, hop, hs⟩⟩

theorem runSteps_concat (steps : List Step) (r : Request) (w : World ρ ε) :
    runSteps R E s (steps ++ [.request r]) w =
      ((r.action s).run (serve R E) (runSteps R E s steps w)).2 :=
  List.foldl_concat ..

theorem runSteps_induct {P : World ρ ε → Prop}
    (hrequest : ∀ (r : Request) (w : World ρ ε), P w → P ((r.action s).run (serve R E) w).2)
    (hwrite : ∀ (e : EvidenceWrite) (w : World ρ ε), P w → P (writeEvidence R e w))
    (steps : List Step) (hw : P w) : P (runSteps R E s steps w) := by
  induction steps generalizing w with
  | nil => exact hw
  | cons step steps ih =>
    apply ih
    cases step with
    | request r => exact hrequest r w hw
    | write e => exact hwrite e w hw

structure Stable (s : Service) (K : FleetOperation → Prop) : Prop where
  admits : ∀ {given events intent operation}, Admits s given events intent operation → K operation
  appends : ∀ {target events old new}, K old → Appends target events old new → K new
  attaches : ∀ {events old new}, K old → Attaches events old new → K new
  write : ∀ {old} (e : EvidenceWrite), K old → K (e.apply old)

theorem forall_update {K : String → FleetOperation → Prop} {stored : String → Option FleetOperation}
    (h : ∀ id operation, stored id = some operation → K id operation) {key : String}
    {new : FleetOperation} (hnew : K key new) (id : String) (operation : FleetOperation)
    (hop : Function.update stored key (some new) id = some operation) : K id operation := by
  by_cases hid : id = key
  · subst hid
    rw [Function.update_self, Option.some.injEq] at hop
    exact hop ▸ hnew
  · rw [Function.update_of_ne hid] at hop
    exact h id operation hop

theorem Stable.run {K : FleetOperation → Prop} (hK : Stable s K) (steps : List Step)
    (hw : ∀ id operation, F.stored w.repository id = some operation → K operation)
    {id : String} {operation : FleetOperation}
    (hop : F.stored (runSteps R E s steps w).repository id = some operation) : K operation := by
  have hrun := runSteps_induct (R := R) (E := E) (s := s)
    (P := fun w => ∀ id op, F.stored w.repository id = some op → K op) ?_ ?_ steps hw
  · exact hrun id operation hop
  · intro r w hw
    cases request_effect (E := E) (s := s) F r w with
    | unchanged hs hi => rwa [hs]
    | admitted given intent operation hscope hadmits hs hi hfresh =>
      rw [hs]
      exact forall_update hw (hK.admits hadmits)
    | updated id old new hold hnew hs hi =>
      rw [hs]
      refine forall_update hw ?_
      rcases hnew with happ | hatt
      · exact hK.appends (hw id old hold) happ
      · exact hK.attaches (hw id old hold) hatt
  · intro e w hw
    obtain ⟨-, -, hs | ⟨old, hold, hs⟩⟩ := writeEvidence_stored F e w
    · rwa [hs]
    · rw [hs]
      exact forall_update hw (hK.write e (hw _ _ hold))

end FleetLlmd.Intents
