import Mathlib.Data.List.Chain

/-!
# The agent's resource watcher

`handle_event` of `crates/fleet-agent/src/watcher.rs`. The start and the end of a list are ignored,
so an object that is gone when a list begins again is never reported as deleted.
-/

namespace FleetLlmd.FleetAgent

structure Object where
  name : Option String := none
  resourceVersion : Option String := none
  namespaceName : Option String := none

structure ResourceMeta where
  namespaceName : String
  name : String
  kind : String
  resourceVersion : String
  deriving DecidableEq

inductive WatchEvent where
  | apply (obj : Object)
  | delete (obj : Object)
  | init
  | initApply (obj : Object)
  | initDone

inductive HandlerCall where
  | onAdd (resource : ResourceMeta)
  | onUpdate (old new : ResourceMeta)
  | onDelete (resource : ResourceMeta)

abbrev Seen := String → Option ResourceMeta

section Events
variable (kind ns : String)

def Object.resource (obj : Object) : ResourceMeta where
  namespaceName := obj.namespaceName.getD ns
  name := obj.name.getD ""
  kind := kind
  resourceVersion := obj.resourceVersion.getD ""

def Seen.insert (seen : Seen) (obj : Object) : Seen :=
  Function.update seen (obj.resource kind ns).name (some (obj.resource kind ns))

def Seen.remove (seen : Seen) (obj : Object) : Seen :=
  Function.update seen (obj.resource kind ns).name none

def handleApply (seen : Seen) (obj : Object) : Seen × HandlerCall :=
  (seen.insert kind ns obj,
    match seen (obj.resource kind ns).name with
    | some old => .onUpdate old (obj.resource kind ns)
    | none => .onAdd (obj.resource kind ns))

def handleEvent (seen : Seen) : WatchEvent → Seen × List HandlerCall
  | .apply obj | .initApply obj =>
    ((handleApply kind ns seen obj).1, [(handleApply kind ns seen obj).2])
  | .delete obj => (seen.remove kind ns obj, [.onDelete (obj.resource kind ns)])
  | .init | .initDone => (seen, [])

def handleEvents : Seen → List WatchEvent → Seen × List HandlerCall
  | seen, [] => (seen, [])
  | seen, event :: events =>
    let next := handleEvent kind ns seen event
    let rest := handleEvents next.1 events
    (rest.1, next.2 ++ rest.2)

end Events

/-! ## What the handler has been told -/

def HandlerCall.tell (told : Seen) : HandlerCall → Seen
  | .onAdd resource | .onUpdate _ resource => Function.update told resource.name (some resource)
  | .onDelete resource => Function.update told resource.name none

def told (calls : List HandlerCall) : Seen := calls.foldl HandlerCall.tell fun _ => none

structure Segment where
  objects : List Object
  changes : List (Bool × Object)

section Segments
variable {kind ns : String} {seen : Seen}

def changeEvent (c : Bool × Object) : WatchEvent := if c.1 then .apply c.2 else .delete c.2

def Segment.events (s : Segment) : List WatchEvent :=
  .init :: (s.objects.map .initApply ++ .initDone :: s.changes.map changeEvent)

variable (kind ns) in
def Segment.listed (s : Segment) (seen : Seen) : Seen := s.objects.foldl (Seen.insert kind ns) seen

variable (kind ns) in
def Segment.changed (s : Segment) (seen : Seen) : Seen :=
  s.changes.foldl (fun seen c => if c.1 then seen.insert kind ns c.2 else seen.remove kind ns c.2)
    seen

variable (kind ns) in
def Segment.present (s : Segment) : Seen := s.changed kind ns (s.listed kind ns fun _ => none)

theorem tell_handleEvents (seen : Seen) (events : List WatchEvent) :
    (handleEvents kind ns seen events).2.foldl HandlerCall.tell seen =
      (handleEvents kind ns seen events).1 := by
  induction events generalizing seen with
  | nil => rfl
  | cons event events ih =>
    have hstep : (handleEvent kind ns seen event).2.foldl HandlerCall.tell seen =
        (handleEvent kind ns seen event).1 := by
      cases event with
      | apply obj | initApply obj =>
        simp only [handleEvent, handleApply, List.foldl_cons, List.foldl_nil]
        split <;> rfl
      | _ => rfl
    rw [handleEvents, List.foldl_append, hstep, ih]

theorem handleEvents_append (events later : List WatchEvent) :
    (handleEvents kind ns seen (events ++ later)).1 =
      (handleEvents kind ns (handleEvents kind ns seen events).1 later).1 := by
  induction events generalizing seen with
  | nil => rfl
  | cons event events ih => exact ih

theorem handleEvents_segment (s : Segment) :
    (handleEvents kind ns seen s.events).1 = s.changed kind ns (s.listed kind ns seen) := by
  have hlist (objects : List Object) (seen : Seen) :
      (handleEvents kind ns seen (objects.map .initApply)).1 =
        objects.foldl (Seen.insert kind ns) seen := by
    induction objects generalizing seen with
    | nil => rfl
    | cons obj objects ih => exact ih _
  have hchanges (changes : List (Bool × Object)) (seen : Seen) :
      (handleEvents kind ns seen (changes.map changeEvent)).1 = changes.foldl (fun seen c =>
        if c.1 then seen.insert kind ns c.2 else seen.remove kind ns c.2) seen := by
    induction changes generalizing seen with
    | nil => rfl
    | cons c changes ih =>
      obtain ⟨applies, obj⟩ := c
      cases applies <;> exact ih _
  rw [Segment.events, ← List.cons_append, handleEvents_append, Segment.changed, Segment.listed,
    ← hlist, ← hchanges]
  rfl

/-- What a list leaves of an object it does not contain. -/
theorem listed_apply (s : Segment) (seen : Seen) (name : String) :
    s.listed kind ns seen name = (s.listed kind ns (fun _ => none) name).or (seen name) := by
  rw [Segment.listed, Segment.listed]
  induction s.objects generalizing seen with
  | nil => rfl
  | cons obj objects ih =>
    rw [List.foldl_cons, List.foldl_cons, ih, ih (Seen.insert kind ns (fun _ => none) obj),
      Option.or_assoc]
    congr 1
    by_cases h : name = (obj.resource kind ns).name
    · simp [Seen.insert, h]
    · simp [Seen.insert, h]

theorem listed_eq_iff (s : Segment) (seen : Seen) :
    s.listed kind ns seen = s.listed kind ns (fun _ => none) ↔
      ∀ name, (seen name).isSome → (s.listed kind ns (fun _ => none) name).isSome := by
  rw [funext_iff]
  refine forall_congr' fun name => ?_
  rw [listed_apply]
  cases s.listed kind ns (fun _ => none) name <;> cases seen name <;> simp

end Segments

/-! ## Streams -/

section Streams
variable (kind ns : String)

def eventsOf (stream : List Segment) : List WatchEvent := stream.flatMap Segment.events

def Tracks (stream : List Segment) : Prop :=
  ∀ before s after k, stream = before ++ s :: after →
    let s' : Segment := { s with changes := s.changes.take k }
    told (handleEvents kind ns (fun _ => none) (eventsOf (before ++ [s']))).2 = s'.present kind ns

def Retains (s next : Segment) : Prop :=
  ∀ name, (s.present kind ns name).isSome → (next.listed kind ns (fun _ => none) name).isSome

end Streams

variable {kind ns : String}

theorem told_append (before : List Segment) (s : Segment) :
    told (handleEvents kind ns (fun _ => none) (eventsOf (before ++ [s]))).2 =
      s.changed kind ns (s.listed kind ns
        (told (handleEvents kind ns (fun _ => none) (eventsOf before)).2)) := by
  rw [told, told, tell_handleEvents, tell_handleEvents, eventsOf, List.flatMap_append,
    handleEvents_append, List.flatMap_singleton, handleEvents_segment]
  rfl

theorem listed_of_retains {stream before after : List Segment} {s : Segment}
    (h : stream.IsChain (Retains kind ns)) (hsplit : stream = before ++ s :: after) :
    s.listed kind ns (told (handleEvents kind ns (fun _ => none) (eventsOf before)).2) =
      s.listed kind ns fun _ => none := by
  induction before using List.reverseRecOn generalizing s after with
  | nil => rfl
  | append_singleton before last ih =>
    rw [List.append_assoc, List.singleton_append] at hsplit
    rw [told_append, ih hsplit, listed_eq_iff]
    exact List.isChain_iff_forall_rel_of_append_cons_cons.mp h hsplit

/-- For every stream: the handler is kept up to date exactly if no object is lost between lists. -/
theorem watcher_tracks_iff (kind ns : String) (stream : List Segment) :
    Tracks kind ns stream ↔ stream.IsChain (Retains kind ns) := by
  constructor
  · intro h
    refine List.isChain_iff_forall_rel_of_append_cons_cons.mpr fun s next before after hsplit => ?_
    have hs := h before s (next :: after) s.changes.length hsplit
    have hnext := h (before ++ [s]) next after 0 (by simp [hsplit])
    dsimp only at hs hnext
    rw [List.take_length] at hs
    rw [told_append, hs] at hnext
    exact (listed_eq_iff next _).mp hnext
  · intro h before s after k hsplit
    dsimp only
    rw [told_append]
    have hlisted := listed_of_retains h hsplit
    exact congrArg (Segment.changed kind ns _) hlisted

/-- A pod that is gone when the list is read again is never reported as deleted. -/
theorem lost_object_kept :
    ¬Tracks "Pod" "default" [⟨[{ name := some "a" }], []⟩, ⟨[], []⟩] := by
  intro h
  exact absurd (congrFun (h [_] _ [] 0 rfl) "a") (by decide)

end FleetLlmd.FleetAgent
