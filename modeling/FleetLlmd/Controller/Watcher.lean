import FleetLlmd.Controller.Reconciler

/-!
# The watcher

`CRDWatcher.pollOnce` of `pkg/controller`: the objects in the list just read are held against
those of the last poll. A new or edited object is reconciled under the name of its model, and
a vanished one is deleted under its own name.
-/

namespace FleetLlmd.Controller
open Go

abbrev Objects := AList fun _ : String => FleetInferencePoolSpec

structure CRDWatcher where
  lastSeen : Objects := ∅
  pools : Pools := ∅

structure Poll where
  pools : Pools
  nextSeen : Objects
  failed : Bool := false

section PollOnce
variable (place : String → Placement) (lastSeen current : Objects)

def specsChanged (a b : FleetInferencePoolSpec) : Bool := a != b

def needsReconcile (name : String) (spec : FleetInferencePoolSpec) : Bool :=
  (lastSeen.lookup name).all (specsChanged · spec)

def reconcileObject (poll : Poll) (object : (_ : String) × FleetInferencePoolSpec) : Poll :=
  if needsReconcile lastSeen object.1 object.2 then
    match reconcilePool object.2 (place object.1) poll.pools with
    | (.error _, pools) => { poll with pools := pools, failed := true }
    | (.ok _, pools) =>
      { poll with pools := pools, nextSeen := poll.nextSeen.insert object.1 object.2 }
  else poll

def forgetObject (poll : Poll) (name : String) : Poll :=
  if (current.lookup name).isSome then poll
  else
    match deletePool name poll.pools with
    | (.error _, pools) => { poll with pools := pools, failed := true }
    | (.ok _, pools) => { poll with pools := pools, nextSeen := poll.nextSeen.erase name }

end PollOnce

structure PollInput where
  current : Objects
  objects : List ((_ : String) × FleetInferencePoolSpec)
  seen : List String
  place : String → Placement

structure PollInput.Iterates (i : PollInput) (w : CRDWatcher) : Prop where
  objects : i.objects.Perm i.current.entries
  seen : i.seen.Perm w.lastSeen.keys

def CRDWatcher.pollOnce (w : CRDWatcher) (i : PollInput) : Poll :=
  let poll := i.objects.foldl (reconcileObject i.place w.lastSeen) ⟨w.pools, w.lastSeen, false⟩
  i.seen.foldl (forgetObject i.current) poll

def CRDWatcher.next (w : CRDWatcher) (i : PollInput) : CRDWatcher :=
  ⟨(w.pollOnce i).nextSeen, (w.pollOnce i).pools⟩

/-! ## Convergence -/

def ComputedFrom (spec : FleetInferencePoolSpec) (p : FleetPoolState) : Prop :=
  ∃ desired actual observeErr now, p = nextState spec desired actual observeErr now none

structure Converged (current : Objects) (pools : Pools) : Prop where
  objects : ∀ name spec, current.lookup name = some spec →
    ∃ p, pools.lookup spec.modelName = some p ∧ ComputedFrom spec p
  only : ∀ m p, pools.lookup m = some p →
    ∃ name spec, current.lookup name = some spec ∧ spec.modelName = m

def DistinctModels (current : Objects) : Prop :=
  ∀ name name' spec spec', current.lookup name = some spec → current.lookup name' = some spec' →
    spec.modelName = spec'.modelName → name = name'

section Polls
variable (w : CRDWatcher) (i : PollInput)

def SeenOrListed (name : String) (spec : FleetInferencePoolSpec) : Prop :=
  w.lastSeen.lookup name = some spec ∨ i.current.lookup name = some spec

/-- What a poll must find: an object keeps its model and source, and no other object has the model,
also not one that vanishes; an object that vanishes has the name of its model; and an edited object
is reconciled without a failure. -/
structure Steady : Prop where
  models : ∀ name name' spec spec', SeenOrListed w i name spec → SeenOrListed w i name' spec' →
    (name = name' ↔ spec.modelName = spec'.modelName)
  sources : ∀ name spec spec', SeenOrListed w i name spec → SeenOrListed w i name spec' →
    spec.modelSource = spec'.modelSource
  vanished : ∀ name spec, w.lastSeen.lookup name = some spec → i.current.lookup name = none →
    spec.modelName = name
  edited : ∀ name spec, i.current.lookup name = some spec → w.lastSeen.lookup name ≠ none →
    needsReconcile w.lastSeen name spec = true →
    ∃ desired actual observeErr now, i.place name = .solved desired actual observeErr now

/-- The objects the watcher remembers have their pools, at every moment of a poll. -/
structure Tracks (poll : Poll) : Prop where
  converged : Converged poll.nextSeen poll.pools
  known : ∀ name spec, poll.nextSeen.lookup name = some spec → SeenOrListed w i name spec
  present : ∀ name, w.lastSeen.lookup name ≠ none → i.current.lookup name ≠ none →
    poll.nextSeen.lookup name ≠ none

variable {w i} {poll : Poll} {name : String} {spec : FleetInferencePoolSpec}

theorem ComputedFrom.next {old : FleetInferencePoolSpec} {p : FleetPoolState}
    (h : ComputedFrom old p) (hmodel : old.modelName = spec.modelName)
    (hsource : old.modelSource = spec.modelSource) (desired actual : List String)
    (observeErr : Option Error) (now : Time) :
    ComputedFrom spec (nextState spec desired actual observeErr now (some p)) := by
  obtain ⟨desired', actual', observeErr', now', rfl⟩ := h
  exact ⟨desired, actual, observeErr, now, by simp [nextState, hmodel, hsource]⟩

theorem Tracks.of_lookup (h : Tracks w i poll) (hsteady : Steady w i)
    (hlisted : SeenOrListed w i name spec) {p : FleetPoolState}
    (hp : poll.pools.lookup spec.modelName = some p) :
    ∃ old, poll.nextSeen.lookup name = some old ∧ old.modelName = spec.modelName ∧
      ComputedFrom old p := by
  obtain ⟨name', old, hseen, hmodel⟩ := h.converged.only _ p hp
  obtain rfl := (hsteady.models _ _ _ _ (h.known _ _ hseen) hlisted).mpr hmodel
  obtain ⟨q, hq, hcomputed⟩ := h.converged.objects _ _ hseen
  cases (hmodel ▸ hq).symm.trans hp
  exact ⟨old, hseen, hmodel, hcomputed⟩

theorem Tracks.insert (h : Tracks w i poll) (hsteady : Steady w i)
    (hlisted : i.current.lookup name = some spec) (desired actual : List String)
    (observeErr : Option Error) (now : Time) :
    Tracks w i { poll with
      pools := poll.pools.insert spec.modelName (nextState spec desired actual observeErr now
        (poll.pools.lookup spec.modelName))
      nextSeen := poll.nextSeen.insert name spec } := by
  refine ⟨⟨fun name' spec' hspec' => ?_, fun m p hp => ?_⟩, fun name' spec' hspec' => ?_,
    fun name' hseen hcurrent => ?_⟩
  · by_cases hname : name' = name
    · subst hname
      rw [AList.lookup_insert] at hspec'
      cases hspec'
      refine ⟨_, AList.lookup_insert _, ?_⟩
      cases hold : poll.pools.lookup spec.modelName with
      | none => exact ⟨desired, actual, observeErr, now, rfl⟩
      | some p =>
        obtain ⟨old, hseen, hmodel, hcomputed⟩ := h.of_lookup hsteady (.inr hlisted) hold
        exact hcomputed.next hmodel (hsteady.sources _ _ _ (h.known _ _ hseen) (.inr hlisted)) ..
    · rw [AList.lookup_insert_ne hname] at hspec'
      have hne : spec'.modelName ≠ spec.modelName :=
        mt (hsteady.models _ _ _ _ (h.known _ _ hspec') (.inr hlisted)).mpr hname
      obtain ⟨p, hp, hcomputed⟩ := h.converged.objects _ _ hspec'
      exact ⟨p, (AList.lookup_insert_ne hne).trans hp, hcomputed⟩
  · by_cases hm : m = spec.modelName
    · exact ⟨name, spec, AList.lookup_insert _, hm.symm⟩
    · rw [AList.lookup_insert_ne hm] at hp
      obtain ⟨name', spec', hspec', rfl⟩ := h.converged.only m p hp
      have hne : name' ≠ name :=
        mt (hsteady.models _ _ _ _ (h.known _ _ hspec') (.inr hlisted)).mp hm
      exact ⟨name', spec', (AList.lookup_insert_ne hne).trans hspec', rfl⟩
  · by_cases hname : name' = name
    · subst hname
      rw [AList.lookup_insert] at hspec'
      cases hspec'
      exact .inr hlisted
    · rw [AList.lookup_insert_ne hname] at hspec'
      exact h.known _ _ hspec'
  · by_cases hname : name' = name
    · simp [hname]
    · rw [AList.lookup_insert_ne hname]
      exact h.present name' hseen hcurrent

theorem lookup_of_erase {α : Type} {s : AList fun _ : String => α} {a b : String} {x : α}
    (h : (s.erase a).lookup b = some x) : b ≠ a ∧ s.lookup b = some x := by
  have hne : b ≠ a := by
    rintro rfl
    simp [AList.lookup_erase] at h
  exact ⟨hne, by rwa [AList.lookup_erase_ne hne] at h⟩

theorem Tracks.erase (h : Tracks w i poll) (hsteady : Steady w i)
    (hseen : w.lastSeen.lookup name = some spec) (hgone : i.current.lookup name = none) :
    Tracks w i { poll with
      pools := poll.pools.erase name, nextSeen := poll.nextSeen.erase name } := by
  have hmodel := hsteady.vanished name spec hseen hgone
  have hnames : ∀ name' spec', poll.nextSeen.lookup name' = some spec' →
      (name' = name ↔ spec'.modelName = name) := by
    intro name' spec' hspec'
    rw [hsteady.models _ _ _ _ (h.known _ _ hspec') (.inl hseen), hmodel]
  refine ⟨⟨fun name' spec' hspec' => ?_, fun m p hp => ?_⟩,
    fun name' spec' hspec' => h.known _ _ (lookup_of_erase hspec').2, fun name' hin hcurrent => ?_⟩
  · obtain ⟨hne, hspec'⟩ := lookup_of_erase hspec'
    obtain ⟨p, hp, hcomputed⟩ := h.converged.objects _ _ hspec'
    exact ⟨p, (AList.lookup_erase_ne (mt (hnames _ _ hspec').mpr hne)).trans hp, hcomputed⟩
  · obtain ⟨hm, hp⟩ := lookup_of_erase hp
    obtain ⟨name', spec', hspec', rfl⟩ := h.converged.only m p hp
    exact ⟨name', spec', (AList.lookup_erase_ne (mt (hnames _ _ hspec').mp hm)).trans hspec', rfl⟩
  · have hne : name' ≠ name := by
      rintro rfl
      exact hcurrent hgone
    exact (AList.lookup_erase_ne hne).symm ▸ h.present name' hin hcurrent

/-- A new object whose reconciliation fails leaves no trace. -/
theorem reconcilePool_failed {p : Placement} {pools : Pools}
    (hnone : pools.lookup spec.modelName = none)
    (h : ∀ desired actual observeErr now, p ≠ .solved desired actual observeErr now) :
    ∃ err, reconcilePool spec p pools = (.error err, pools) := by
  have hmark : markFailed spec.modelName pools = pools := by rw [markFailed, hnone]
  cases p with
  | solved desired actual observeErr now => exact absurd rfl (h _ _ _ _)
  | unlisted err | unsolved err => exact ⟨_, by rw [reconcilePool, hmark]⟩
  | unresolved err => exact ⟨_, rfl⟩

/-- One object of the list: what is remembered of the others stays. -/
theorem Tracks.reconcileObject (h : Tracks w i poll) (hsteady : Steady w i)
    (hlisted : i.current.lookup name = some spec)
    (hnew : w.lastSeen.lookup name = none → poll.nextSeen.lookup name = none) :
    let poll' := Controller.reconcileObject i.place w.lastSeen poll ⟨name, spec⟩
    Tracks w i poll' ∧
      (∀ other ≠ name, poll'.nextSeen.lookup other = poll.nextSeen.lookup other) ∧
      (poll'.failed = false → poll.failed = false ∧ poll'.nextSeen.lookup name = some spec) := by
  dsimp only
  rw [Controller.reconcileObject]
  by_cases hneeds : needsReconcile w.lastSeen name spec = true
  · rw [if_pos hneeds]
    by_cases hsolved : ∃ desired actual observeErr now,
        i.place name = .solved desired actual observeErr now
    · obtain ⟨desired, actual, observeErr, now, hplace⟩ := hsolved
      dsimp only
      rw [hplace]
      exact ⟨h.insert hsteady hlisted desired actual observeErr now,
        fun other hne => AList.lookup_insert_ne hne, fun hok => ⟨hok, AList.lookup_insert _⟩⟩
    · have hunseen : w.lastSeen.lookup name = none :=
        by_contra fun hseen => hsolved (hsteady.edited name spec hlisted hseen hneeds)
      have hnone : poll.pools.lookup spec.modelName = none := by
        rw [Option.eq_none_iff_forall_ne_some]
        intro p hp
        obtain ⟨old, hold, -⟩ := h.of_lookup hsteady (.inr hlisted) hp
        cases (hnew hunseen).symm.trans hold
      obtain ⟨err, herr⟩ := @reconcilePool_failed spec (i.place name) poll.pools hnone
        fun desired actual observeErr now hplace => hsolved ⟨_, _, _, _, hplace⟩
      dsimp only
      rw [herr]
      exact ⟨⟨h.converged, h.known, h.present⟩, fun _ _ => rfl, fun hok => by cases hok⟩
  · rw [if_neg hneeds]
    refine ⟨h, fun _ _ => rfl, fun hok => ⟨hok, ?_⟩⟩
    have hsame : w.lastSeen.lookup name = some spec := by
      rw [needsReconcile] at hneeds
      cases hseen : w.lastSeen.lookup name with
      | none => simp [hseen] at hneeds
      | some old => simpa [hseen, specsChanged] using hneeds
    obtain ⟨old, hold⟩ := Option.ne_none_iff_exists'.mp
      (h.present name (by simp [hsame]) (by simp [hlisted]))
    rcases h.known _ _ hold with hin | hin
    · rw [hold, ← hin, hsame]
    · rw [hold, ← hin, hlisted]

theorem Tracks.reconcileObjects {objects : List ((_ : String) × FleetInferencePoolSpec)}
    (h : Tracks w i poll) (hsteady : Steady w i) (hnames : (objects.map (·.1)).Nodup)
    (hlisted : ∀ o ∈ objects, i.current.lookup o.1 = some o.2)
    (hnew : ∀ o ∈ objects, w.lastSeen.lookup o.1 = none → poll.nextSeen.lookup o.1 = none) :
    let poll' := objects.foldl (Controller.reconcileObject i.place w.lastSeen) poll
    Tracks w i poll' ∧
      (∀ other ∉ objects.map (·.1), poll'.nextSeen.lookup other = poll.nextSeen.lookup other) ∧
      (poll'.failed = false → poll.failed = false ∧
        ∀ o ∈ objects, poll'.nextSeen.lookup o.1 = some o.2) := by
  induction objects generalizing poll with
  | nil => exact ⟨h, fun _ _ => rfl, fun hok => ⟨hok, by simp⟩⟩
  | cons o objects ih =>
    obtain ⟨hfirst, hnames⟩ := List.nodup_cons.mp hnames
    obtain ⟨htracks, hothers, hown⟩ := h.reconcileObject hsteady (hlisted o (by simp))
      (hnew o (by simp))
    obtain ⟨htracks', hothers', hown'⟩ := ih htracks hnames
      (fun o' ho' => hlisted o' (by simp [ho'])) (fun o' ho' hunseen => by
        rw [hothers _ fun heq => hfirst (List.mem_map.mpr ⟨o', ho', heq⟩)]
        exact hnew o' (by simp [ho']) hunseen)
    refine ⟨htracks', fun other hother => ?_, fun hok => ?_⟩
    · rw [List.map_cons, List.mem_cons, not_or] at hother
      exact (hothers' other hother.2).trans (hothers other hother.1)
    · obtain ⟨hok', hrest⟩ := hown' hok
      obtain ⟨hok'', hthis⟩ := hown hok'
      refine ⟨hok'', List.forall_mem_cons.mpr ⟨?_, hrest⟩⟩
      rw [List.foldl_cons, hothers' _ hfirst]
      exact hthis

variable (w i) in
/-- What forgetting the names in `seen` that are not listed does to a poll. -/
structure Forgets (seen : List String) (poll poll' : Poll) : Prop where
  tracks : Tracks w i poll'
  succeeds : poll'.failed = false → poll.failed = false
  kept : ∀ other, i.current.lookup other ≠ none →
    poll'.nextSeen.lookup other = poll.nextSeen.lookup other
  left : ∀ other, poll'.nextSeen.lookup other ≠ none → poll.nextSeen.lookup other ≠ none ∧
    (other ∈ seen → i.current.lookup other ≠ none)

theorem Tracks.forgetObject (h : Tracks w i poll) (hsteady : Steady w i)
    (hseen : w.lastSeen.lookup name = some spec) :
    Forgets w i [name] poll (Controller.forgetObject i.current poll name) := by
  rw [Controller.forgetObject]
  by_cases hcurrent : (i.current.lookup name).isSome = true
  · rw [if_pos hcurrent]
    exact ⟨h, id, fun _ _ => rfl, fun other hother =>
      ⟨hother, fun hmem => List.mem_singleton.mp hmem ▸ Option.isSome_iff_ne_none.mp hcurrent⟩⟩
  · have hgone : i.current.lookup name = none := by simpa using hcurrent
    have hmodel := hsteady.vanished name spec hseen hgone
    rw [if_neg hcurrent, deletePool]
    cases hp : poll.pools.lookup name with
    | none =>
      refine ⟨⟨h.converged, h.known, h.present⟩, by simp, fun _ _ => rfl,
        fun other hother => ⟨hother, fun hmem => ?_⟩⟩
      obtain rfl := List.mem_singleton.mp hmem
      obtain ⟨old, hold⟩ := Option.ne_none_iff_exists'.mp hother
      obtain ⟨p, hpool, -⟩ := h.converged.objects _ _ hold
      rw [(hsteady.models _ _ _ _ (h.known _ _ hold) (.inl hseen)).mp rfl, hmodel, hp] at hpool
      cases hpool
    | some p =>
      refine ⟨h.erase hsteady hseen hgone, id, fun other hother => ?_, fun other hother => ?_⟩
      · exact AList.lookup_erase_ne fun heq => hother (heq ▸ hgone)
      · obtain ⟨old, hold⟩ := Option.ne_none_iff_exists'.mp hother
        obtain ⟨hne, hbefore⟩ := lookup_of_erase hold
        exact ⟨by simp [hbefore], fun hmem => absurd (List.mem_singleton.mp hmem) hne⟩

theorem Tracks.forgetObjects {seen : List String} (h : Tracks w i poll) (hsteady : Steady w i)
    (hseen : ∀ name ∈ seen, w.lastSeen.lookup name ≠ none) :
    Forgets w i seen poll (seen.foldl (Controller.forgetObject i.current) poll) := by
  induction seen generalizing poll with
  | nil => exact ⟨h, id, fun _ _ => rfl, fun other hother => ⟨hother, by simp⟩⟩
  | cons name seen ih =>
    obtain ⟨hname, hrest⟩ := List.forall_mem_cons.mp hseen
    obtain ⟨spec, hspec⟩ := Option.ne_none_iff_exists'.mp hname
    have hfirst := h.forgetObject hsteady hspec
    have hthen := ih hfirst.tracks hrest
    refine ⟨hthen.tracks, hfirst.succeeds ∘ hthen.succeeds,
      fun other hother => (hthen.kept other hother).trans (hfirst.kept other hother),
      fun other hother => ?_⟩
    obtain ⟨hbefore, hin⟩ := hthen.left other hother
    obtain ⟨hstart, hthis⟩ := hfirst.left other hbefore
    exact ⟨hstart, fun hmem =>
      (List.mem_cons.mp hmem).elim (fun heq => hthis (List.mem_singleton.mpr heq)) hin⟩

variable (hiterates : i.Iterates w) (hsteady : Steady w i)
  (hconverged : Converged w.lastSeen w.pools)
include hiterates hsteady hconverged

theorem pollOnce_tracks : Tracks w i (w.pollOnce i) ∧ ((w.pollOnce i).failed = false →
    ∀ name, (w.pollOnce i).nextSeen.lookup name = i.current.lookup name) := by
  have hentries : ∀ o ∈ i.objects, i.current.lookup o.1 = some o.2 := fun o ho =>
    AList.mem_lookup_iff.mpr (hiterates.objects.mem_iff.mp ho)
  have hkeys : (i.objects.map (·.1)).Nodup :=
    (hiterates.objects.map _).nodup_iff.mpr i.current.nodupKeys
  have hstart : Tracks w i ⟨w.pools, w.lastSeen, false⟩ :=
    ⟨hconverged, fun _ _ => .inl, fun _ hseen _ => hseen⟩
  obtain ⟨htracks, hothers, hown⟩ := hstart.reconcileObjects hsteady hkeys hentries fun _ _ => id
  obtain ⟨htracks', hok', hkept, hleft⟩ := htracks.forgetObjects hsteady fun name hname =>
    Option.isSome_iff_ne_none.mp (AList.lookup_isSome.mpr (hiterates.seen.mem_iff.mp hname))
  refine ⟨htracks', fun hok name => ?_⟩
  cases hcurrent : i.current.lookup name with
  | some spec =>
    rw [CRDWatcher.pollOnce, hkept name (by simp [hcurrent])]
    exact (hown (hok' hok)).2 ⟨name, spec⟩
      (hiterates.objects.mem_iff.mpr (AList.mem_lookup_iff.mp hcurrent))
  | none =>
    by_contra hin
    obtain ⟨hbefore, hmem⟩ := hleft name hin
    obtain ⟨spec, hspec⟩ := Option.ne_none_iff_exists'.mp hbefore
    refine hmem (hiterates.seen.mem_iff.mpr ?_) hcurrent
    rcases htracks.known _ _ hspec with hseen | hlisted
    · exact AList.lookup_isSome.mp (by simp [hseen])
    · cases hcurrent.symm.trans hlisted

end Polls

/-- The polls of a watcher, from its start. A reconciliation of a new object may fail. -/
inductive Polled : CRDWatcher → Prop
  | start : Polled {}
  | poll {w : CRDWatcher} (i : PollInput) : Polled w → i.Iterates w → Steady w i → Polled (w.next i)

theorem Polled.converged {w : CRDWatcher} (h : Polled w) : Converged w.lastSeen w.pools := by
  induction h with
  | start =>
    constructor
    · intro name spec hspec
      cases hspec
    · intro m p hp
      cases hp
  | poll i _ hiterates hsteady ih => exact (pollOnce_tracks hiterates hsteady ih).1.converged

def oneObject (name model : String) : Objects := .singleton name { modelName := model }

def pollOf (current : Objects) (w : CRDWatcher) : PollInput where
  current := current
  objects := current.entries
  seen := w.lastSeen.keys
  place _ := .solved ["east"] [] none Time.zero

theorem pollOf_iterates (current : Objects) (w : CRDWatcher) : (pollOf current w).Iterates w :=
  ⟨List.Perm.refl _, List.Perm.refl _⟩

theorem oneObject_lookup {name model n : String} {spec : FleetInferencePoolSpec}
    (h : (oneObject name model).lookup n = some spec) :
    n = name ∧ spec = { modelName := model } := by
  have hmem : _ ∈ [_] := AList.mem_lookup_iff.mp h
  simpa using hmem

theorem pollOf_steady {current : Objects} {w : CRDWatcher}
    (h : ∀ name spec, SeenOrListed w (pollOf current w) name spec → spec = { modelName := name }) :
    Steady w (pollOf current w) where
  models name name' spec spec' hspec hspec' := by rw [h _ _ hspec, h _ _ hspec']
  sources name spec spec' hspec hspec' := by rw [h _ _ hspec, h _ _ hspec']
  vanished name spec hspec _ := by rw [h _ _ (.inl hspec)]
  edited name spec _ _ _ := ⟨_, _, _, _, rfl⟩

end FleetLlmd.Controller
