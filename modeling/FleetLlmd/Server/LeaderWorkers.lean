import FleetLlmd.Effect.Outline
import Mathlib.Logic.Function.Basic
import Mathlib.Logic.Relation
import Mathlib.Tactic.SplitIfs

/-!
# Workers of the leader

`runLeaderScopedWorkers` of `pkg/server/run.go`: a group of workers is started when the
instance is leader and told to stop when it is not. `startWatcherGroup` closes the channel of
a group when its wait group says that all workers have returned, and only then may another
group start. Its goroutine and those of the workers go on between any two calls of the loop.
-/

namespace FleetLlmd.Server
open Effect Prog

/-! ## The loop -/

inductive Selected where
  | ctxDone
  | done
  | stopDeadline
  | ticker

inductive WorkersCall where
  | isLeader
  | startWatcherGroup
  | cancel (group : Nat)
  /-- The `select` of the loop, with the channel of a group and the timer if they are not nil. -/
  | select (done : Option Nat) (stopDeadline : Bool)
  /-- The `select` of the shutdown: true for the channel, false for its timer. -/
  | awaitDone (group : Nat)

abbrev WorkersCall.Answer : WorkersCall → Type
  | .isLeader | .awaitDone _ => Bool
  | .startWatcherGroup => Nat
  | .cancel _ => Unit
  | .select _ _ => Selected

abbrev workersCalls : Signature := ⟨WorkersCall, WorkersCall.Answer⟩

abbrev WorkersEvent := Event workersCalls

structure WorkersState where
  cancel : Option Nat := none
  done : Option Nat := none
  stopDeadline : Bool := false

def requestStop (l : WorkersState) : Prog workersCalls WorkersState :=
  match l.cancel with
  | none => .done l
  | some g => .call (.cancel g) fun _ => .done { l with cancel := none, stopDeadline := true }

def afterReading (leader : Bool) (l : WorkersState) : Prog workersCalls WorkersState :=
  if leader && l.done.isNone then
    .call .startWatcherGroup fun g => .done { l with cancel := some g, done := some g }
  else if !leader && l.cancel.isSome then requestStop l
  else .done l

def awaitWorkers (l : WorkersState) : Prog workersCalls Unit :=
  match l.done with
  | some g => .call (.awaitDone g) fun _ => .done ()
  | none => .done ()

def shutdown (l : WorkersState) : Prog workersCalls Unit :=
  match l.cancel with
  | some g => .call (.cancel g) fun _ => awaitWorkers l
  | none => awaitWorkers l

def workersLoop : Nat → WorkersState → Prog workersCalls Unit
  | 0, _ => .done ()
  | rounds + 1, l => .call .isLeader fun leader => (afterReading leader l).bind fun l =>
    .call (.select l.done l.stopDeadline) fun
      | .ctxDone => shutdown l
      | .done => workersLoop rounds {}
      | .stopDeadline => workersLoop rounds { l with stopDeadline := false }
      | .ticker => workersLoop rounds l

def runLeaderScopedWorkers (workers rounds : Nat) : Prog workersCalls Unit :=
  if workers = 0 then .done () else workersLoop rounds {}

/-! ## The outline -/

inductive WorkersPoint where
  | reading (l : WorkersState)
  | starting (l : WorkersState)
  | stopping (l : WorkersState) (g : Nat)
  | selecting (l : WorkersState)
  | cancelling (l : WorkersState) (g : Nat)
  | awaiting (g : Nat)
  | ended

def WorkersState.leave (l : WorkersState) : WorkersPoint :=
  match l.done with
  | some g => .awaiting g
  | none => .ended

inductive WorkersStep : WorkersPoint → WorkersEvent → WorkersPoint → Prop
  | lead {l} : l.done = none → WorkersStep (.reading l) ⟨.isLeader, true⟩ (.starting l)
  | keep {l g} : l.done = some g → WorkersStep (.reading l) ⟨.isLeader, true⟩ (.selecting l)
  | lose {l g} : l.cancel = some g → WorkersStep (.reading l) ⟨.isLeader, false⟩ (.stopping l g)
  | stand {l} : l.cancel = none → WorkersStep (.reading l) ⟨.isLeader, false⟩ (.selecting l)
  | start {l g} : WorkersStep (.starting l) ⟨.startWatcherGroup, g⟩
      (.selecting { l with cancel := some g, done := some g })
  | stop {l g} : WorkersStep (.stopping l g) ⟨.cancel g, ()⟩
      (.selecting { l with cancel := none, stopDeadline := true })
  | cancelled {l g} : l.cancel = some g → WorkersStep (.selecting l)
      ⟨.select l.done l.stopDeadline, .ctxDone⟩ (.cancelling l g)
  | uncancelled {l} : l.cancel = none → WorkersStep (.selecting l)
      ⟨.select l.done l.stopDeadline, .ctxDone⟩ l.leave
  | finished {l} : WorkersStep (.selecting l) ⟨.select l.done l.stopDeadline, .done⟩ (.reading {})
  | timedOut {l} : WorkersStep (.selecting l) ⟨.select l.done l.stopDeadline, .stopDeadline⟩
      (.reading { l with stopDeadline := false })
  | tick {l} : WorkersStep (.selecting l) ⟨.select l.done l.stopDeadline, .ticker⟩ (.reading l)
  | cancelLast {l g} : WorkersStep (.cancelling l g) ⟨.cancel g, ()⟩ l.leave
  | leave {g finished} : WorkersStep (.awaiting g) ⟨.awaitDone g, finished⟩ .ended

theorem awaitWorkers_follows (l : WorkersState) :
    (awaitWorkers l).Follows WorkersStep (fun _ _ => True) l.leave := by
  rw [awaitWorkers, WorkersState.leave]
  cases l.done with
  | some g => exact fun _ => ⟨_, .leave, trivial⟩
  | none => trivial

theorem afterReading_follows (leader : Bool) (l : WorkersState) :
    ∃ p, WorkersStep (.reading l) ⟨.isLeader, leader⟩ p ∧
      (afterReading leader l).Follows WorkersStep (fun q l' => q = .selecting l') p := by
  cases leader with
  | true =>
    cases hdone : l.done with
    | none =>
      refine ⟨_, .lead hdone, ?_⟩
      simp only [afterReading, hdone]
      exact fun g => ⟨_, .start, rfl⟩
    | some g => exact ⟨_, .keep hdone, by simp [afterReading, hdone, Follows]⟩
  | false =>
    cases hcancel : l.cancel with
    | none => exact ⟨_, .stand hcancel, by simp [afterReading, hcancel, Follows]⟩
    | some g =>
      refine ⟨_, .lose hcancel, ?_⟩
      simp only [afterReading, requestStop, hcancel]
      exact fun _ => ⟨_, .stop, rfl⟩

theorem workersLoop_follows (rounds : Nat) (l : WorkersState) :
    (workersLoop rounds l).Follows WorkersStep (fun _ _ => True) (.reading l) := by
  induction rounds generalizing l with
  | zero => trivial
  | succ rounds ih =>
    intro leader
    obtain ⟨p, hp, hfollows⟩ := afterReading_follows leader l
    refine ⟨p, hp, hfollows.bind fun q l' hq => ?_⟩
    subst hq
    intro selected
    cases selected with
    | ctxDone =>
      cases hcancel : l'.cancel with
      | none =>
        refine ⟨_, .uncancelled hcancel, ?_⟩
        simp only [shutdown, hcancel]
        exact awaitWorkers_follows l'
      | some g =>
        refine ⟨_, .cancelled hcancel, ?_⟩
        simp only [shutdown, hcancel]
        exact fun _ => ⟨_, .cancelLast, awaitWorkers_follows l'⟩
    | done => exact ⟨_, .finished, ih _⟩
    | stopDeadline => exact ⟨_, .timedOut, ih _⟩
    | ticker => exact ⟨_, .tick, ih _⟩

/-! ## Groups -/

inductive GroupCall where
  | add (delta : Nat)
  /-- Starts the goroutine of the next worker. -/
  | go
  /-- The worker itself, which returns whenever it likes. -/
  | worker
  | wgDone
  | wait
  | close

abbrev groupCalls : Signature := ⟨GroupCall, fun _ => Unit⟩

abbrev Goroutine := Prog groupCalls Unit

def runWorker : Goroutine := .call .worker fun _ => .call .wgDone fun _ => .done ()

def goWorkers : Nat → Goroutine
  | 0 => .done ()
  | workers + 1 => .call .go fun _ => goWorkers workers

def awaitGroup : Goroutine := .call .wait fun _ => .call .close fun _ => .done ()

def startWatcherGroup (workers : Nat) : Goroutine :=
  .call (.add workers) fun _ => (goWorkers workers).bind fun _ => awaitGroup

/-- `starter` and `workers` are what is left of the goroutines. -/
structure WorkerGroup where
  starter : Goroutine
  workers : List Goroutine := []
  wg : Int := 0
  closed : Bool := false

namespace WorkerGroup

/-- None while the call blocks. -/
def respond (g : WorkerGroup) : GroupCall → Option WorkerGroup
  | .add delta => some { g with wg := g.wg + delta }
  | .go => some { g with workers := g.workers ++ [runWorker] }
  | .worker => some g
  | .wgDone => some { g with wg := g.wg - 1 }
  | .wait => if g.wg = 0 then some g else none
  | .close => some { g with closed := true }

def Finished (g : WorkerGroup) (workers : Nat) : Prop :=
  g.workers = List.replicate workers (.done ())

end WorkerGroup

inductive GroupStep : WorkerGroup → WorkerGroup → Prop
  | starter {g g' c k} : g.starter = .call c k → { g with starter := k () }.respond c = some g' →
      GroupStep g g'
  | worker {g g' c k before after} : g.workers = before ++ .call c k :: after →
      { g with workers := before ++ k () :: after }.respond c = some g' → GroupStep g g'

def returned : Goroutine → Bool
  | .done _ => true
  | .call _ _ => false

def running (workers : List Goroutine) : Nat := workers.countP (!returned ·)

def WorkerAt (t : Goroutine) : Prop :=
  t = runWorker ∨ t = .call .wgDone (fun _ => .done ()) ∨ t = .done ()

/-- Until the channel is closed the wait group counts the workers that have not returned, also
those that are still to be started. -/
inductive GroupAt (workers : Nat) (g : WorkerGroup) : Prop
  | adding (starter : g.starter = startWatcherGroup workers) (none : g.workers = [])
      (wg : g.wg = 0) (opened : g.closed = false)
  | starting (left : Nat) (starter : g.starter = (goWorkers left).bind fun _ => awaitGroup)
      (length : g.workers.length + left = workers) (wg : g.wg = left + running g.workers)
      (worker : ∀ t ∈ g.workers, WorkerAt t) (opened : g.closed = false)
  | closing (starter : g.starter = .call .close fun _ => .done ()) (finished : g.Finished workers)
      (opened : g.closed = false)
  | ended (starter : g.starter = .done ()) (finished : g.Finished workers)

section Groups
variable {workers : Nat} {g g' : WorkerGroup}

theorem finished_of_running (hlength : g.workers.length = workers)
    (hworker : ∀ t ∈ g.workers, WorkerAt t) (hrunning : running g.workers = 0) :
    g.Finished workers := by
  refine List.eq_replicate_iff.mpr ⟨hlength, fun t ht => ?_⟩
  have hreturned := List.countP_eq_zero.mp hrunning t ht
  rcases hworker t ht with rfl | rfl | rfl
  · exact absurd rfl hreturned
  · exact absurd rfl hreturned
  · rfl

theorem WorkerGroup.Finished.not_call (h : g.Finished workers) {before after : List Goroutine}
    {c : GroupCall} {k : Unit → Goroutine} : g.workers ≠ before ++ .call c k :: after := by
  intro heq
  have hmem : (.call c k : Goroutine) ∈ List.replicate workers (.done ()) := by
    rw [← h, heq]
    simp
  cases List.eq_of_mem_replicate hmem

theorem GroupAt.finished (h : GroupAt workers g) (hclosed : g.closed = true) :
    g.Finished workers := by
  cases h with
  | adding _ _ _ hopened | starting _ _ _ _ _ hopened | closing _ _ hopened =>
    exact absurd (hclosed.symm.trans hopened) Bool.true_eq_false.mp
  | ended _ hfinished => exact hfinished

theorem GroupAt.starter_step (h : GroupAt workers g) {c : GroupCall} {k : Unit → Goroutine}
    (hc : g.starter = .call c k) (hg : { g with starter := k () }.respond c = some g') :
    GroupAt workers g' := by
  cases h with
  | adding hstarter hnone hwg hopened =>
    rw [hstarter, startWatcherGroup] at hc
    cases hc
    cases hg
    exact .starting workers rfl (by simp [hnone]) (by simp [hnone, hwg, running]) (by simp [hnone])
      hopened
  | starting left hstarter hlength hwg hworker hopened =>
    rw [hstarter] at hc
    cases left with
    | zero =>
      rw [goWorkers, done_bind, awaitGroup] at hc
      cases hc
      simp only [WorkerGroup.respond] at hg
      split_ifs at hg with hzero
      cases hg
      exact .closing rfl (finished_of_running hlength hworker (by simpa [hzero] using hwg.symm))
        hopened
    | succ left =>
      rw [goWorkers, call_bind] at hc
      cases hc
      cases hg
      refine .starting left rfl ?_ ?_ ?_ hopened
      · simp only [List.length_append, List.length_singleton]
        omega
      · have hone : running (g.workers ++ [runWorker]) = running g.workers + 1 := by
          simp [running, runWorker, returned]
        simp only [hone, hwg]
        omega
      · intro t ht
        rcases List.mem_append.mp ht with ht | ht
        · exact hworker t ht
        · exact .inl (List.mem_singleton.mp ht)
  | closing hstarter hfinished =>
    rw [hstarter] at hc
    cases hc
    cases hg
    exact .ended rfl hfinished
  | ended hstarter => cases hstarter.symm.trans hc

theorem GroupAt.worker_step (h : GroupAt workers g) {c : GroupCall} {k : Unit → Goroutine}
    {before after : List Goroutine} (hc : g.workers = before ++ .call c k :: after)
    (hg : { g with workers := before ++ k () :: after }.respond c = some g') :
    GroupAt workers g' := by
  cases h with
  | adding _ hnone => simp [hnone] at hc
  | closing _ hfinished | ended _ hfinished => exact absurd hc hfinished.not_call
  | starting left hstarter hlength hwg hworker hopened =>
    have hothers : ∀ t, WorkerAt t → ∀ t' ∈ before ++ t :: after, WorkerAt t' := by
      intro t ht t' ht'
      rcases List.mem_append.mp ht' with hin | hin
      · exact hworker t' (by simp [hc, hin])
      · rcases List.mem_cons.mp hin with rfl | hin
        · exact ht
        · exact hworker t' (by simp [hc, hin])
    rw [hc] at hlength hwg
    rcases hworker (.call c k) (by simp [hc]) with hat | hat | hat
    · rw [runWorker] at hat
      cases hat
      cases hg
      exact .starting left hstarter (by simpa using hlength) (by simpa [running, returned] using hwg)
        (hothers _ (.inr (.inl rfl))) hopened
    · cases hat
      cases hg
      refine .starting left hstarter (by simpa using hlength) ?_ (hothers _ (.inr (.inr rfl))) hopened
      simp only [running, List.countP_append, List.countP_cons, returned] at hwg ⊢
      simp at hwg ⊢
      omega
    · cases hat

theorem GroupAt.step (h : GroupAt workers g) (hstep : GroupStep g g') : GroupAt workers g' := by
  cases hstep with
  | starter hc hg => exact h.starter_step hc hg
  | worker hc hg => exact h.worker_step hc hg

theorem GroupAt.steps (h : GroupAt workers g) (hsteps : Relation.ReflTransGen GroupStep g g') :
    GroupAt workers g' := by
  induction hsteps with
  | refl => exact h
  | tail _ hstep ih => exact ih.step hstep

theorem GroupStep.closed (h : GroupStep g g') (hclosed : g.closed = true) : g'.closed = true := by
  have hrespond : ∀ {g : WorkerGroup} {c : GroupCall}, g.respond c = some g' → g.closed = true →
      g'.closed = true := by
    intro g c hg hclosed
    cases c with
    | wait =>
      simp only [WorkerGroup.respond] at hg
      split_ifs at hg
      cases hg
      exact hclosed
    | close =>
      cases hg
      rfl
    | _ =>
      cases hg
      exact hclosed
  cases h with
  | starter _ hg | worker _ hg => exact hrespond hg hclosed

theorem closed_steps (hsteps : Relation.ReflTransGen GroupStep g g') (hclosed : g.closed = true) :
    g'.closed = true := by
  induction hsteps with
  | refl => exact hclosed
  | tail _ hstep ih => exact hstep.closed ih

end Groups

/-! ## The loop and its groups -/

structure WorkersWorld where
  started : Nat := 0
  group : Nat → WorkerGroup := fun _ => { starter := .done () }
  cancelled : Nat → Bool := fun _ => false
  ctxCancelled : Bool := false
  past : List WorkersEvent := []

namespace WorkersWorld

def Unfinished (w : WorkersWorld) (workers i : Nat) : Prop :=
  i < w.started ∧ ¬ (w.group i).Finished workers

def Open (w : WorkersWorld) (i : Nat) : Prop := i < w.started ∧ (w.group i).closed = false

def cancelGroup (w : WorkersWorld) (g : Nat) : WorkersWorld :=
  { w with cancelled := Function.update w.cancelled g true }

def answers (workers : Nat) : (c : WorkersCall) → WorkersWorld → c.Answer → WorkersWorld → Prop
  | .isLeader, w, _, w' => w' = w
  | .startWatcherGroup, w, g, w' => g = w.started ∧
      w' = { w with
        started := w.started + 1
        group := Function.update w.group w.started { starter := startWatcherGroup workers } }
  | .cancel g, w, _, w' => w' = w.cancelGroup g
  | .select channel timer, w, x, w' => w' = w ∧
      match x with
      | .ctxDone => w.ctxCancelled = true
      | .done => ∃ g, channel = some g ∧ (w.group g).closed = true
      | .stopDeadline => timer = true
      | .ticker => True
  | .awaitDone g, w, x, w' => w' = w ∧ (x = true → (w.group g).closed = true)

structure Drifts (w w' : WorkersWorld) : Prop where
  started : w'.started = w.started
  past : w'.past = w.past
  cancelled : w'.cancelled = w.cancelled
  group : ∀ i, Relation.ReflTransGen GroupStep (w.group i) (w'.group i)
  ctx : w.ctxCancelled = true → w'.ctxCancelled = true

theorem Drifts.refl (w : WorkersWorld) : w.Drifts w :=
  ⟨rfl, rfl, rfl, fun _ => .refl, id⟩

end WorkersWorld

def workersSystem (workers : Nat) : Behaviour workersCalls WorkersWorld := fun c w x w' =>
  ∃ v, w.answers workers c x v ∧ { v with past := ⟨c, x⟩ :: v.past }.Drifts w'

def lastReading : List WorkersEvent → Option Bool
  | [] => none
  | ⟨.isLeader, leader⟩ :: _ => some leader
  | _ :: past => lastReading past

structure Linked (l : WorkersState) (w : WorkersWorld) : Prop where
  only : ∀ i, w.Open i → l.done = some i
  cancel : ∀ g, l.cancel = some g → l.done = some g
  stopped : ∀ g, l.done = some g → l.cancel = none → w.cancelled g = true

def WorkersAt (w : WorkersWorld) : WorkersPoint → Prop
  | .reading l => Linked l w
  | .starting l => Linked l w ∧ l.done = none ∧ ∃ rest, w.past = ⟨.isLeader, true⟩ :: rest
  | .stopping l g => Linked l w ∧ l.cancel = some g
  | .selecting l => Linked l w ∧ (lastReading w.past = some false → l.cancel = none)
  | .cancelling l _ => Linked l w
  | .awaiting _ | .ended => ∀ i j, w.Open i → w.Open j → i = j

section Runs
variable {workers : Nat} {l : WorkersState} {w v w' : WorkersWorld}

theorem WorkersWorld.Drifts.isOpen (h : w.Drifts w') {i : Nat} (hi : w'.Open i) :
    w.Open i := by
  refine ⟨h.started ▸ hi.1, ?_⟩
  rw [← Bool.not_eq_true]
  intro hclosed
  exact absurd ((closed_steps (h.group i) hclosed).symm.trans hi.2) Bool.true_eq_false.mp

theorem Linked.drifts (h : Linked l w) (hdrift : w.Drifts w') : Linked l w' :=
  ⟨fun i hi => h.only i (hdrift.isOpen hi), h.cancel,
    fun g hdone hcancel => hdrift.cancelled ▸ h.stopped g hdone hcancel⟩

theorem Linked.alone (h : Linked l w) {i j : Nat} (hi : w.Open i) (hj : w.Open j) :
    i = j := Option.some.inj ((h.only i hi).symm.trans (h.only j hj))

theorem WorkersAt.alone {p : WorkersPoint} (h : WorkersAt w p) {i j : Nat} (hi : w.Open i)
    (hj : w.Open j) : i = j := by
  cases p with
  | reading l => exact Linked.alone h hi hj
  | starting l | stopping l | selecting l => exact h.1.alone hi hj
  | cancelling l => exact Linked.alone h hi hj
  | awaiting | ended => exact h i j hi hj

theorem WorkersAt.drifts {p : WorkersPoint} (h : WorkersAt w p) (hdrift : w.Drifts w') :
    WorkersAt w' p := by
  cases p with
  | reading l => exact Linked.drifts h hdrift
  | starting l => exact ⟨h.1.drifts hdrift, hdrift.past ▸ h.2⟩
  | stopping l => exact ⟨h.1.drifts hdrift, h.2⟩
  | selecting l => exact ⟨h.1.drifts hdrift, hdrift.past ▸ h.2⟩
  | cancelling l => exact Linked.drifts h hdrift
  | awaiting | ended => exact fun i j hi hj => h i j (hdrift.isOpen hi) (hdrift.isOpen hj)

theorem linked_empty (h : ∀ i, ¬ w.Open i) : Linked {} w :=
  ⟨fun i hi => absurd hi (h i), nofun, nofun⟩

theorem Linked.finish (h : Linked l w) {g : Nat} (hg : l.done = some g)
    (hclosed : (w.group g).closed = true) (i : Nat) : ¬ w.Open i := by
  intro hi
  obtain rfl := Option.some.inj (hg.symm.trans (h.only i hi))
  exact absurd (hclosed.symm.trans hi.2) Bool.true_eq_false.mp

theorem Linked.stop (h : Linked l w) {g : Nat} (hg : l.cancel = some g) :
    Linked { l with cancel := none, stopDeadline := true } (w.cancelGroup g) := by
  refine ⟨h.only, nofun, fun g' hdone _ => ?_⟩
  obtain rfl := Option.some.inj (hdone.symm.trans (h.cancel g hg))
  simp [WorkersWorld.cancelGroup]

theorem Linked.start (h : Linked l w) (hdone : l.done = none) :
    Linked { l with cancel := some w.started, done := some w.started }
      { w with
        started := w.started + 1
        group := Function.update w.group w.started { starter := startWatcherGroup workers } } := by
  refine ⟨fun i hi => ?_, fun g hg => hg, nofun⟩
  by_cases hlast : i = w.started
  · exact hlast ▸ rfl
  · have hbefore : w.Open i := by
      refine ⟨Nat.lt_of_le_of_ne (Nat.lt_succ_iff.mp hi.1) hlast, ?_⟩
      simpa [hlast] using hi.2
    exact nomatch hdone.symm.trans (h.only i hbefore)

theorem workersAt_leave (h : ∀ i j, w.Open i → w.Open j → i = j) :
    WorkersAt w l.leave := by
  rw [WorkersState.leave]
  cases l.done with
  | some g => exact h
  | none => exact h

theorem Linked.record (h : Linked l w) (past : List WorkersEvent) :
    Linked l { w with past := past } := ⟨h.only, h.cancel, h.stopped⟩

theorem WorkersAt.answers {p q : WorkersPoint} {c : WorkersCall} {x : c.Answer}
    (hp : WorkersAt w p) (hstep : WorkersStep p ⟨c, x⟩ q) (hx : w.answers workers c x v) :
    WorkersAt { v with past := ⟨c, x⟩ :: v.past } q := by
  cases hstep with
  | lead hdone =>
    obtain rfl : v = w := hx
    exact ⟨Linked.record hp _, hdone, _, rfl⟩
  | keep hdone =>
    obtain rfl : v = w := hx
    exact ⟨Linked.record hp _, nofun⟩
  | lose hcancel =>
    obtain rfl : v = w := hx
    exact ⟨Linked.record hp _, hcancel⟩
  | stand hcancel =>
    obtain rfl : v = w := hx
    exact ⟨Linked.record hp _, fun _ => hcancel⟩
  | start =>
    obtain ⟨hlinked, hdone, rest, hpast⟩ := hp
    obtain ⟨rfl, rfl⟩ := hx
    refine ⟨(hlinked.start hdone).record _, fun hreading => ?_⟩
    simp [lastReading, hpast] at hreading
  | stop =>
    obtain rfl : v = w.cancelGroup _ := hx
    exact ⟨(hp.1.stop hp.2).record _, fun _ => rfl⟩
  | cancelled =>
    obtain ⟨rfl, -⟩ := hx
    exact hp.1.record _
  | uncancelled =>
    obtain ⟨rfl, -⟩ := hx
    exact workersAt_leave fun i j => hp.1.alone
  | finished =>
    obtain ⟨rfl, g, hdone, hclosed⟩ := hx
    exact (linked_empty (hp.1.finish hdone hclosed)).record _
  | timedOut =>
    obtain ⟨rfl, -⟩ := hx
    exact ⟨hp.1.only, hp.1.cancel, hp.1.stopped⟩
  | tick =>
    obtain ⟨rfl, -⟩ := hx
    exact hp.1.record _
  | cancelLast =>
    obtain rfl : v = w.cancelGroup _ := hx
    exact workersAt_leave fun i j => Linked.alone hp
  | leave =>
    obtain ⟨rfl, -⟩ := hx
    exact hp

theorem groupAt_answers {c : WorkersCall} {x : c.Answer}
    (h : ∀ i < w.started, GroupAt workers (w.group i)) (hx : w.answers workers c x v) :
    ∀ i < v.started, GroupAt workers (v.group i) := by
  cases c with
  | startWatcherGroup =>
    obtain ⟨-, rfl⟩ := hx
    intro i hi
    dsimp only at hi ⊢
    by_cases hlast : i = w.started
    · subst hlast
      rw [Function.update_self]
      exact .adding rfl rfl rfl rfl
    · rw [Function.update_of_ne hlast]
      exact h i (Nat.lt_of_le_of_ne (Nat.lt_succ_iff.mp hi) hlast)
  | cancel g =>
    obtain rfl : v = w.cancelGroup g := hx
    exact h
  | isLeader => exact (show v = w from hx) ▸ h
  | select | awaitDone => exact hx.1 ▸ h

theorem run_workersAt {rounds : Nat} {rest : Prog workersCalls Unit} {ctxCancelled : Bool}
    (h : (runLeaderScopedWorkers workers rounds).Reaches (workersSystem workers)
      { ctxCancelled := ctxCancelled } rest w) :
    ∃ p, rest.Follows WorkersStep (fun _ _ => True) p ∧ WorkersAt w p ∧
      ∀ i < w.started, GroupAt workers (w.group i) := by
  have hstart : Linked {} ({ ctxCancelled := ctxCancelled } : WorkersWorld) :=
    linked_empty fun i hi => absurd hi.1 (Nat.not_lt_zero i)
  have hfollows : (runLeaderScopedWorkers workers rounds).Follows WorkersStep (fun _ _ => True)
      (.reading {}) := by
    rw [runLeaderScopedWorkers]
    split
    · trivial
    · exact workersLoop_follows rounds {}
  refine hfollows.reaches
    (J := fun p w => WorkersAt w p ∧ ∀ i < w.started, GroupAt workers (w.group i))
    ⟨hstart, fun i hi => absurd hi (Nat.not_lt_zero i)⟩ ?_ h
  rintro p c x q w w' ⟨hp, hgroups⟩ hstep ⟨v, hx, hdrift⟩
  refine ⟨(hp.answers hstep hx).drifts hdrift, fun i hi => ?_⟩
  exact (groupAt_answers hgroups hx i (hdrift.started ▸ hi)).steps (hdrift.group i)

end Runs

/-- However the readings, worker exits, timeouts and the cancellation are ordered: at most one
group is unfinished; when a group is about to be started, leadership has just been read and all
workers of every group have returned; and when the loop is about to select after a reading without
leadership, the context of the unfinished group is cancelled. -/
theorem leader_scoped_workers_safe (workers rounds : Nat) (ctxCancelled : Bool)
    (rest : Prog workersCalls Unit) (w : WorkersWorld)
    (hrun : (runLeaderScopedWorkers workers rounds).Reaches (workersSystem workers)
      { ctxCancelled := ctxCancelled } rest w) :
    (∀ i j, w.Unfinished workers i → w.Unfinished workers j → i = j) ∧
    (∀ k, rest = .call .startWatcherGroup k →
      (∃ before, w.past = ⟨.isLeader, true⟩ :: before) ∧
        ∀ i < w.started, (w.group i).Finished workers) ∧
    (∀ channel timer k, rest = .call (.select channel timer) k →
      lastReading w.past = some false →
        ∀ i, w.Unfinished workers i → w.cancelled i = true) := by
  obtain ⟨p, hfollows, hp, hgroups⟩ := run_workersAt hrun
  have hopen : ∀ i, w.Unfinished workers i → w.Open i := fun i hi =>
    ⟨hi.1, Bool.not_eq_true _ ▸ fun hclosed => hi.2 ((hgroups i hi.1).finished hclosed)⟩
  refine ⟨fun i j hi hj => hp.alone (hopen i hi) (hopen j hj), ?_, ?_⟩
  · rintro k rfl
    obtain ⟨q, hstep, -⟩ := hfollows 0
    cases hstep
    obtain ⟨hlinked, hdone, hpast⟩ := hp
    refine ⟨hpast, fun i hi => ?_⟩
    by_contra hunfinished
    exact nomatch hdone.symm.trans (hlinked.only i (hopen i ⟨hi, hunfinished⟩))
  · rintro channel timer k rfl hreading i hi
    obtain ⟨q, hstep, -⟩ := hfollows .ticker
    cases hstep
    exact hp.1.stopped i (hp.1.only i (hopen i hi)) (hp.2 hreading)

/-- A leader that has started its group, which has begun to start its worker, and then reads that
it is no longer leader. -/
theorem workers_cancelled_on_loss : ∃ rest w,
    (runLeaderScopedWorkers 1 2).Reaches (workersSystem 1) {} rest w ∧
      (∃ k, rest = .call (.select (some 0) true) k) ∧ w.Unfinished 1 0 ∧
      w.cancelled 0 = true := by
  obtain ⟨rest, w, hrun, ⟨k, hrest⟩, hreading, hunfinished⟩ : ∃ rest w,
      (runLeaderScopedWorkers 1 2).Reaches (workersSystem 1) {} rest w ∧
        (∃ k, rest = .call (.select (some 0) true) k) ∧ lastReading w.past = some false ∧
        w.Unfinished 1 0 := by
    exact ⟨_, _, .inr ⟨true, _, ⟨_, rfl, .refl _⟩, .inr ⟨0, _, ⟨_, ⟨rfl, rfl⟩, .refl _⟩,
      .inr ⟨.ticker, _, ⟨_, ⟨rfl, trivial⟩, .refl _⟩, .inr ⟨false, _, ⟨_, rfl, .refl _⟩,
      .inr ⟨(), _, ⟨_, rfl, .refl _⟩, .inl ⟨rfl, rfl⟩⟩⟩⟩⟩⟩, ⟨_, rfl⟩, rfl, Nat.zero_lt_one,
      fun hfinished => by cases hfinished⟩
  have hsafe := leader_scoped_workers_safe 1 2 false rest w hrun
  exact ⟨rest, w, hrun, ⟨k, hrest⟩, hunfinished, hsafe.2.2 _ _ k hrest hreading 0 hunfinished⟩

end FleetLlmd.Server
