import FleetLlmd.Rollout.Phases

/-!
# Restarts

What the repository has of a rollout with a strategy type determines everything a controller
answers about it, apart from the instant of the last update. So two controllers whose
repositories agree on a rollout answer alike, and go on agreeing, whatever they hold in memory.
-/

namespace FleetLlmd.Rollout
open Go

def outcome (r : Controller.Result) : Controller.Result :=
  r.map fun state => { state with updatedAt := .zero }

def Typed (l : ModelLifecycleSpec) (_ : RolloutState) : Prop := l.strategy.type ≠ ""

theorem stable_typed (parseFloat : String → Except Error Float64) :
    Stable parseFloat (fun l => l.strategy.type ≠ "") Typed where
  start _ _ _ h := h
  next _ _ _ _ h _ := h
  reloaded _ _ _ _ h _ := h

def Move.Loads : Move → Prop
  | .call m _ => m.getError = none
  | .restart => True

section
variable {id : String} {c : Controller} {m : Moment}

theorem Kept.find_missing {Q : ModelLifecycleSpec → RolloutState → Prop} (h : Kept Q id c)
    (hstored : c.stored id = some none) : c.find m id = none := by
  cases hfind : c.find m id with
  | none => rfl
  | some record =>
    cases h.find hfind with
    | alone hnone => cases hnone.symm.trans hstored
    | stored _ _ _ hsome => cases hsome.symm.trans hstored

theorem Kept.find_stored (h : Kept Typed id c) (hget : m.getError = none)
    {old : Postgres.RolloutRecord} (hstored : c.stored id = some (some old)) :
    ∃ now, c.find m id = some (old.rebuild now) := by
  cases hmem : c.rollouts id with
  | none =>
    refine ⟨m.loadedAt, ?_⟩
    rw [Controller.find, hmem]
    simp [Controller.loadFromRepo_eq, hget, hstored]
  | some record =>
    cases h.memory record hmem with
    | alone hnone => cases hnone.symm.trans hstored
    | stored l state completedAt hsome hQ hlifecycle hstate =>
      obtain ⟨now, hstate⟩ := hstate
      obtain rfl := Option.some.inj (Option.some.inj (hsome.symm.trans hstored))
      rw [ModelLifecycleSpec.reload_typed hQ, or_self] at hlifecycle
      refine ⟨now, ?_⟩
      rw [Controller.find_memory hmem, rebuild_record, ModelLifecycleSpec.reload_typed hQ,
        ← hstate, ← hlifecycle]

end

/-! ## Agreement -/

structure Twins (id : String) (c c' : Controller) : Prop where
  named : c.Named
  named' : c'.Named
  kept : Kept Typed id c
  kept' : Kept Typed id c'
  stored : ∃ old, c.stored id = some old ∧ c'.stored id = some old

def Agree (id : String) (r r' : Controller.Result × Controller) : Prop :=
  outcome r.1 = outcome r'.1 ∧ ∃ old, r.2.stored id = some old ∧ r'.2.stored id = some old

section
variable {parseFloat : String → Except Error Float64} {id : String} {c c' : Controller}
  {m : Moment}

theorem agree_commit {old : Postgres.RolloutRecord} (hstored : c.stored id = some (some old))
    (hstored' : c'.stored id = some (some old)) (hid : old.id = id) (message : String)
    (record record' : RolloutRecord) {state : RolloutState} (hstate : state.id = id) :
    Agree id (c.commit m id message record state) (c'.commit m id message record' state) := by
  obtain ⟨repo, hrepo, hold⟩ := Controller.stored_eq_some.mp hstored
  obtain ⟨repo', hrepo', hold'⟩ := Controller.stored_eq_some.mp hstored'
  rw [Controller.commit_stored hrepo hold hid m message record hstate,
    Controller.commit_stored hrepo' hold' hid m message record' hstate]
  cases m.persistError with
  | some err => exact ⟨rfl, some old, hstored, hstored'⟩
  | none =>
    exact ⟨rfl, _, Controller.store_stored _ repo (old.withState state) hid,
      Controller.store_stored _ repo' (old.withState state) hid⟩

theorem Twins.withRecord (h : Twins id c c') (hget : m.getError = none)
    {k : RolloutRecord → Controller → Controller.Result × Controller}
    (hk : ∀ old now now' d d', d.stored id = some (some old) → d'.stored id = some (some old) →
      old.id = id → Agree id (k (old.rebuild now) d) (k (old.rebuild now') d')) :
    Agree id (c.withRecord m id k) (c'.withRecord m id k) := by
  obtain ⟨old | old, hstored, hstored'⟩ := h.stored
  · rw [Controller.withRecord, Controller.withRecord, h.kept.find_missing hstored,
      h.kept'.find_missing hstored']
    exact ⟨rfl, none, hstored, hstored'⟩
  · obtain ⟨now, hfind⟩ := h.kept.find_stored hget hstored
    obtain ⟨now', hfind'⟩ := h.kept'.find_stored hget hstored'
    rw [Controller.withRecord, Controller.withRecord, hfind, hfind']
    exact hk old now now' _ _ hstored hstored' (h.named.repository id old hstored)

theorem Twins.advance (h : Twins id c c') (hget : m.getError = none) :
    Agree id (c.advanceRollout parseFloat m id) (c'.advanceRollout parseFloat m id) := by
  refine h.withRecord hget fun old now now' d d' hstored hstored' hid => ?_
  -- neither the lifecycle nor the next state depends on when the record was rebuilt
  have hlifecycle : (old.rebuild now).lifecycle = (old.rebuild now').lifecycle := rfl
  simp only [hlifecycle]
  cases (old.rebuild now').lifecycle.canary with
  | none => exact ⟨rfl, some old, hstored, hstored'⟩
  | some canary =>
    dsimp only
    split_ifs
    · exact agree_commit hstored hstored' hid _ _ _ hid
    · exact agree_commit hstored hstored' hid _ _ _ hid
    · exact ⟨rfl, some old, hstored, hstored'⟩

theorem Twins.rollback (h : Twins id c c') (hget : m.getError = none) :
    Agree id (c.rollbackRollout m id) (c'.rollbackRollout m id) :=
  h.withRecord hget fun _ _ _ _ _ hstored hstored' hid =>
    agree_commit hstored hstored' hid _ _ _ hid

theorem Twins.get (h : Twins id c c') (hget : m.getError = none) :
    Agree id (c.getRolloutState m id) (c'.getRolloutState m id) :=
  h.withRecord hget fun old _ _ _ _ hstored hstored' _ => ⟨rfl, some old, hstored, hstored'⟩

theorem Twins.create {l : ModelLifecycleSpec} {suffix : Bytes}
    (h : Twins (rolloutID l suffix) c c') : Agree (rolloutID l suffix)
      (c.createRollout m (.ok suffix) l) (c'.createRollout m (.ok suffix) l) := by
  obtain ⟨old, hstored, hstored'⟩ := h.stored
  obtain ⟨repo, hrepo, hold⟩ := Controller.stored_eq_some.mp hstored
  obtain ⟨repo', hrepo', hold'⟩ := Controller.stored_eq_some.mp hstored'
  have hid : (l.record (l.start (rolloutID l suffix) m.now) none).id = rolloutID l suffix := rfl
  simp only [Controller.createRollout, hrepo, hrepo', Repository.create, hid, hold, hold']
  cases m.writeError with
  | some err => exact ⟨rfl, old, congrArg some hold, congrArg some hold'⟩
  | none =>
    cases old with
    | some old => exact ⟨rfl, some old, congrArg some hold, congrArg some hold'⟩
    | none =>
      exact ⟨rfl, _, congrArg some (Repository.put_self repo _),
        congrArg some (Repository.put_self repo' _)⟩

theorem Twins.serve (h : Twins id c c') (hget : m.getError = none) {call : Call}
    (htarget : call.target = some id) :
    Agree id (c.serve parseFloat m call) (c'.serve parseFloat m call) := by
  cases call with
  | create suffix l =>
    cases suffix with
    | error err => cases htarget
    | ok suffix =>
      cases htarget
      exact h.create
  | advance id' =>
    cases htarget
    exact h.advance hget
  | rollback id' =>
    cases htarget
    exact h.rollback hget
  | get id' =>
    cases htarget
    exact h.get hget

theorem Twins.move (h : Twins id c c') {move : Move}
    (hadmits : move.Admits (fun l => l.strategy.type ≠ "") id) (hloads : move.Loads) :
    Twins id (c.move parseFloat move) (c'.move parseFloat move) where
  named := h.named.after parseFloat [move]
  named' := h.named'.after parseFloat [move]
  kept := h.kept.move (stable_typed parseFloat) h.named hadmits
  kept' := h.kept'.move (stable_typed parseFloat) h.named' hadmits
  stored := by
    cases move with
    | restart => exact h.stored
    | call m call =>
      by_cases htarget : call.target = some id
      · exact (h.serve hloads htarget).2
      · obtain ⟨old, hstored, hstored'⟩ := h.stored
        exact ⟨old, ((h.named.serve m call).2 id htarget).2.trans hstored,
          ((h.named'.serve m call).2 id htarget).2.trans hstored'⟩

theorem Twins.after (h : Twins id c c') {moves : List Move} (hmoves : ∀ move ∈ moves,
      move.Admits (fun l => l.strategy.type ≠ "") id ∧ move.Loads) :
    Twins id (c.after parseFloat moves) (c'.after parseFloat moves) := by
  induction moves generalizing c c' with
  | nil => exact h
  | cons move moves ih =>
    obtain ⟨⟨hadmits, hloads⟩, hmoves⟩ := List.forall_mem_cons.mp hmoves
    exact ih (h.move hadmits hloads) hmoves

end

namespace Controller
variable {parseFloat : String → Except Error Float64} {c : Controller} {m : Moment} {id : String}

theorem commit_repo (message : String) (record : RolloutRecord) (state : RolloutState) :
    (c.commit m id message record state).2.repo.isSome = c.repo.isSome := by
  rw [commit]
  cases hrepo : c.repo with
  | none => rfl
  | some repo =>
    cases hpersist : persistState m (some repo) state with
    | error err => simp [hrepo]
    | ok repo' =>
      rw [persistState] at hpersist
      cases hread : orFail m.readError (repo.get state.id) with
      | error err =>
        rw [hread] at hpersist
        cases hpersist
      | ok old =>
        rw [hread] at hpersist
        change (orFail m.writeError (repo.update (old.withState state))).bind _ = _ at hpersist
        cases hwrite : orFail m.writeError (repo.update (old.withState state)) with
        | error err =>
          rw [hwrite] at hpersist
          cases hpersist
        | ok written =>
          rw [hwrite] at hpersist
          cases hpersist
          rfl

theorem Effect.repo {r : Result × Controller} (h : Effect parseFloat c m id r) :
    r.2.repo.isSome = c.repo.isSome := by
  cases h with
  | missing => rfl
  | unchanged => rfl
  | commits record _ message state => exact commit_repo message record state

theorem serve_repo (m : Moment) (call : Call) :
    (c.serve parseFloat m call).2.repo.isSome = c.repo.isSome := by
  cases call with
  | create suffix l =>
    cases suffix with
    | error err => rfl
    | ok suffix =>
      obtain ⟨-, hcreate⟩ | ⟨repo, hrepo, -, hcreate⟩ | ⟨repo, err, -, hcreate⟩ :=
        createRollout_cases c m suffix l
      · simp [serve, hcreate]
      · simp [serve, hcreate, hrepo, store]
      · simp [serve, hcreate, forget]
  | advance id => exact (advanceRollout_effect id).repo
  | rollback id => exact (rollbackRollout_effect parseFloat id).repo
  | get id => exact (getRolloutState_effect parseFloat id).repo

theorem after_repo (moves : List Move) :
    (c.after parseFloat moves).repo.isSome = c.repo.isSome := by
  induction moves generalizing c with
  | nil => rfl
  | cons move moves ih =>
    refine (ih (c := c.move parseFloat move)).trans ?_
    cases move with
    | call m call => exact serve_repo m call
    | restart => rfl

end Controller

/-- Whichever calls fail and whenever the process is restarted, what a controller has in memory of a
rollout is what the repository has of it. -/
theorem memory_is_stored (parseFloat : String → Except Error Float64) (moves : List Move)
    (id : String) :
    let c := (Controller.new true).after parseFloat moves
    c.rollouts id = none ∨ ∃ record l completedAt, c.rollouts id = some record ∧
      c.stored id = some (some (l.record record.state completedAt)) ∧
      (record.lifecycle = l ∨ record.lifecycle = l.reload) := by
  intro c
  have hkept : Kept (fun _ state => EndWeights state) id c :=
    Kept.after (stable_endWeights parseFloat) (Controller.named_new true) (.new true)
      fun move _ => move.admits_true id
  have hrepo : c.repo.isSome = true := Controller.after_repo moves
  cases hmemory : c.rollouts id with
  | none => exact .inl rfl
  | some record =>
    cases hkept.memory record hmemory with
    | alone halone =>
      rw [Option.map_eq_none_iff.mp halone] at hrepo
      cases hrepo
    | stored l state completedAt hstored _ hlifecycle htouched =>
      obtain ⟨now, hstate⟩ := htouched
      exact .inr ⟨record, l, completedAt, rfl, hstate ▸ hstored, hlifecycle⟩

theorem restart_invisible (parseFloat : String → Except Error Float64) (before later : List Move)
    (id : String) (m : Moment) (call : Call) (hmoves : ∀ move ∈ before ++ later,
      move.Admits (fun l => l.strategy.type ≠ "") id ∧ move.Loads)
    (hcall : call.target = some id) (hget : m.getError = none) :
    outcome ((((Controller.new true).after parseFloat before).after parseFloat later).serve
        parseFloat m call).1 =
      outcome ((((Controller.new true).after parseFloat before).restart.after parseFloat
        later).serve parseFloat m call).1 := by
  obtain ⟨hbefore, hlater⟩ := List.forall_mem_append.mp hmoves
  have hnamed := (Controller.named_new true).after parseFloat before
  have hkept : Kept Typed id ((Controller.new true).after parseFloat before) :=
    Kept.after (stable_typed parseFloat) (Controller.named_new true) (.new true)
      fun move hmove => (hbefore move hmove).1
  obtain ⟨repo, hrepo⟩ := Option.isSome_iff_exists.mp
    ((Controller.after_repo before).trans (rfl : (Controller.new true).repo.isSome = true))
  have htwins : Twins id ((Controller.new true).after parseFloat before)
      ((Controller.new true).after parseFloat before).restart :=
    { named := hnamed
      named' := ⟨nofun, hnamed.repository⟩
      kept := hkept
      kept' := ⟨nofun, hkept.repository⟩
      stored := ⟨repo.rollouts id, Controller.stored_eq_some.mpr ⟨repo, hrepo, rfl⟩,
        Controller.stored_eq_some.mpr ⟨repo, hrepo, rfl⟩⟩ }
  exact ((htwins.after hlater).serve hget hcall).1

theorem sample_restart_invisible :
    ∃ before later m call,
      (((((Controller.new true).after noFloat before).after noFloat later).serve noFloat m
        call).1.toOption.map (·.position)) = some ("Canary", 70) ∧
      outcome ((((Controller.new true).after noFloat before).after noFloat later).serve
          noFloat m call).1 =
        outcome ((((Controller.new true).after noFloat before).restart.after noFloat
          later).serve noFloat m call).1 := by
  let l := sampleLifecycle ["a"] none
  let id := rolloutID l []
  let failing : Moment := { calm with writeError := some (.sentinel "connection refused") }
  have htype : l.strategy.type ≠ "" := by decide
  refine ⟨[.call calm (.create (.ok []) l)], [.call failing (.rollback id)], calm,
    .advance id, by decide +kernel, restart_invisible noFloat _ _ id calm _ ?_ rfl rfl⟩
  simp [Move.Admits, Call.Admits, Move.Loads, htype, calm, failing]

end FleetLlmd.Rollout
