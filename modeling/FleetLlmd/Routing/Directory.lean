import FleetLlmd.Effect.Interrupt
import FleetLlmd.Routing.Publication
import Mathlib.Data.Set.Finite.Basic

/-!
# Publishing into a directory

`directoryPublisher` of `pkg/routing`: the files of a publication are written one after
another, in the order of a map iteration, each under a temporary name that is then renamed.
Whatever fails and wherever the process is stopped, a reader of the directory sees the first
files of that order installed, whole, and the others as they were. The index is one of the
files: nothing makes it the last.
-/

namespace FleetLlmd.Routing
open Go Json Effect

/-! ## The publisher -/

section Publisher
variable {β : Type}

inductive FileOp (β : Type) where
  | mkdirAll
  | chmod (tmp : String)
  | write (tmp : String) (data : β)
  | sync (tmp : String)
  | close (tmp : String)
  | rename (tmp path : String)
  | remove (tmp : String)

inductive FileCall (β : Type) where
  | createTemp
  | on (op : FileOp β)

def fileCalls (β : Type) : Signature where
  Call := FileCall β
  Answer
    | .createTemp => Except Error String
    | .on _ => Option Error

def attempt : List (FileOp β × (Error → Error)) → Prog (fileCalls β) (Option Error)
  | [] => .done none
  | (op, wrap) :: rest => .call (.on op) fun
    | some err => .done (some (wrap err))
    | none => attempt rest

def cleanup (tmp : String) (result : Option Error) : Prog (fileCalls β) (Option Error) :=
  .call (.on (.close tmp)) fun _ =>
    if result.isNone then .done result else .call (.on (.remove tmp)) fun _ => .done result

def writeFileAtomic (path : String) (data : β) : Prog (fileCalls β) (Option Error) :=
  .call .createTemp fun
    | .error err => .done (some (.wrapf "create temporary endpoint file: %w" [] err))
    | .ok tmp =>
      (attempt [(.chmod tmp, id), (.write tmp data, id), (.sync tmp, id), (.close tmp, id),
        (.rename tmp path, .wrapf "publish endpoint file: %w" [])]).bind (cleanup tmp)

def publishLoop : List (String × β) → Prog (fileCalls β) (Option Error)
  | [] => .done none
  | (name, data) :: rest => (writeFileAtomic name data).bind fun
    | some err => .done (some err)
    | none => publishLoop rest

def publish (order : List (String × β)) : Prog (fileCalls β) (Option Error) :=
  .call (.on .mkdirAll) fun
    | some err => .done (some (.wrapf "create llm-d Router endpoint directory: %w" [] err))
    | none => publishLoop order

/-! ## The file system -/

abbrev Directory (β : Type) := List (String × Option β)

def isTemp (name : String) : Bool := ".fleet-router-".toList.isPrefixOf name.toList

def fileSystem : Behaviour (fileCalls β) (Directory β)
  | .createTemp, d, .error _, t => t = d
  | .createTemp, d, .ok tmp, t =>
    isTemp tmp = true ∧ lookupKey tmp d = none ∧ t = insertKey tmp none d
  | .on (.write tmp _), d, some _, t => t = insertKey tmp none d
  | .on (.write tmp data), d, none, t => t = insertKey tmp (some data) d
  | .on (.rename tmp path), d, none, t =>
    ∃ contents, lookupKey tmp d = some contents ∧
      t = insertKey path contents (d.filter (·.1 != tmp))
  | .on (.remove tmp), d, none, t => t = d.filter (·.1 != tmp)
  | .on _, d, _, t => t = d

def Directory.view (d : Directory β) (name : String) : Option β :=
  if isTemp name then none else (lookupKey name d).join

def Iterates (order files : List (String × β)) : Prop :=
  (order.map (·.1)).Nodup ∧ ∀ name, lookupKey name order = lookupKey name files

theorem Iterates.of_perm {order files : List (String × β)} (hperm : order.Perm files)
    (hnodup : (files.map (·.1)).Nodup) : Iterates order files := by
  have horder : (order.map (·.1)).Nodup := (hperm.map _).nodup_iff.mpr hnodup
  refine ⟨horder, fun name => Option.ext fun data => ?_⟩
  rw [lookupKey_eq_some_iff horder, lookupKey_eq_some_iff hnodup, hperm.mem_iff]

def install (v : String → Option β) (files : List (String × β)) : String → Option β :=
  files.foldl (fun v f => Function.update v f.1 (some f.2)) v

section View
variable {d : Directory β} {tmp path : String} {contents : Option β}

theorem view_insert_temp (htmp : isTemp tmp = true) :
    Directory.view (insertKey tmp contents d) = d.view := by
  funext name
  rw [Directory.view, Directory.view, lookupKey_insertKey]
  split_ifs with hname heq
  · rfl
  · exact absurd (heq ▸ htmp) hname
  · rfl

theorem view_remove_temp (htmp : isTemp tmp = true) :
    Directory.view (d.filter (·.1 != tmp)) = d.view := by
  funext name
  rw [Directory.view, Directory.view]
  split_ifs with hname
  · rfl
  · rw [lookupKey_filter]
    rintro e rfl
    have hne : e.1 ≠ tmp := fun heq => hname (heq ▸ htmp)
    exact bne_iff_ne.mpr hne

theorem view_insert (hpath : isTemp path = false) :
    Directory.view (insertKey path contents d) = Function.update d.view path contents := by
  funext name
  rw [Directory.view, lookupKey_insertKey]
  by_cases hname : path = name
  · subst hname
    rw [hpath, if_pos rfl, Function.update_self]
    rfl
  · rw [if_neg hname, Function.update_of_ne (Ne.symm hname)]
    rfl

end View

section Install
variable {v : String → Option β} {files : List (String × β)}

theorem install_apply (hnodup : (files.map (·.1)).Nodup) (name : String) :
    install v files name = (lookupKey name files).or (v name) := by
  induction files generalizing v with
  | nil => rfl
  | cons f files ih =>
    rw [List.map_cons, List.nodup_cons] at hnodup
    rw [install, List.foldl_cons, ← install, ih hnodup.2, lookupKey]
    by_cases hname : f.1 = name
    · subst hname
      have hnone : lookupKey f.1 files = none := by
        rw [← Option.not_isSome_iff_eq_none, ← mem_keys_iff]
        exact hnodup.1
      rw [if_pos rfl, hnone, Option.none_or, Function.update_self]
      rfl
    · rw [if_neg hname, Function.update_of_ne (Ne.symm hname)]

end Install

/-! ## What the publisher leaves -/

section Attempt
variable {op : FileOp β} {wrap : Error → Error} {rest : List (FileOp β × (Error → Error))}
variable {d : Directory β}

theorem attempt_guards {I : Directory β → Prop} {Q : Option Error → Directory β → Prop} (hI : I d)
    (herror : ∀ err t, fileSystem (.on op) d (some err) t → I t ∧ Q (some (wrap err)) t)
    (hok : ∀ t, fileSystem (.on op) d none t → (attempt rest).Guards fileSystem I Q t) :
    (attempt ((op, wrap) :: rest)).Guards fileSystem I Q d := by
  refine ⟨hI, fun x t ht => ?_⟩
  cases x with
  | none => exact hok t ht
  | some err => exact herror err t ht

end Attempt

section Write
variable {d : Directory β} {path : String} {data : β}

theorem cleanup_guards {tmp : String} {I : Directory β → Prop} {v : String → Option β}
    (htmp : isTemp tmp = true) (hI : ∀ t : Directory β, t.view = v → I t) {result : Option Error}
    (hd : d.view = v) :
    (cleanup tmp result).Guards fileSystem I (fun r t => r = result ∧ t.view = v) d := by
  refine ⟨hI d hd, fun x t ht => ?_⟩
  obtain rfl : t = d := ht
  split_ifs
  · exact ⟨hI t hd, rfl, hd⟩
  · refine ⟨hI t hd, fun y u hu => ?_⟩
    have hview : u.view = v := by
      cases y with
      | none =>
        obtain rfl : u = t.filter (·.1 != tmp) := hu
        rw [view_remove_temp htmp, hd]
      | some err =>
        obtain rfl : u = t := hu
        exact hd
    exact ⟨hI u hview, rfl, hview⟩

theorem writeFileAtomic_guards (hpath : isTemp path = false) :
    (writeFileAtomic path data).Guards fileSystem
      (fun t => t.view = d.view ∨ t.view = Function.update d.view path (some data))
      (fun r t => t.view = if r = none then Function.update d.view path (some data) else d.view)
      d := by
  refine ⟨.inl rfl, fun x t ht => ?_⟩
  cases x with
  | error err =>
    obtain rfl : t = d := ht
    exact ⟨.inl rfl, rfl⟩
  | ok tmp =>
    obtain ⟨htmp, -, rfl⟩ := ht
    have hcreated : Directory.view (insertKey tmp none d) = d.view := view_insert_temp htmp
    have hwritten : Directory.view (insertKey tmp (some data) (insertKey tmp none d)) = d.view := by
      rw [view_insert_temp htmp, hcreated]
    refine Prog.Guards.bind (Q := fun r t => t.view =
      if r = none then Function.update d.view path (some data) else d.view) ?_ fun r t hr => ?_
    · refine attempt_guards (.inl hcreated) ?_ ?_
      · rintro err t rfl
        exact ⟨.inl hcreated, hcreated⟩
      rintro t rfl
      refine attempt_guards (.inl hcreated) ?_ ?_
      · rintro err t rfl
        have hagain : Directory.view (insertKey tmp none (insertKey tmp none d)) = d.view := by
          rw [view_insert_temp htmp, hcreated]
        exact ⟨.inl hagain, hagain⟩
      rintro t rfl
      iterate 2
        refine attempt_guards (.inl hwritten) ?_ ?_
        · rintro err t rfl
          exact ⟨.inl hwritten, hwritten⟩
        rintro t rfl
      refine attempt_guards (.inl hwritten) ?_ ?_
      · rintro err t rfl
        exact ⟨.inl hwritten, hwritten⟩
      rintro t ⟨contents, hcontents, rfl⟩
      rw [lookupKey_insertKey, if_pos rfl] at hcontents
      obtain rfl := Option.some.inj hcontents
      have hrenamed : Directory.view (insertKey path (some data)
          ((insertKey tmp (some data) (insertKey tmp none d)).filter (·.1 != tmp))) =
          Function.update d.view path (some data) := by
        rw [view_insert hpath, view_remove_temp htmp, hwritten]
      exact ⟨.inr hrenamed, hrenamed⟩
    · refine (cleanup_guards htmp ?_ hr).mono (fun t ht => ht) ?_
      · intro t ht
        rw [ht]
        split_ifs
        · exact .inr rfl
        · exact .inl rfl
      · rintro r' t ⟨rfl, ht⟩
        exact ht

theorem exists_temp (d : Directory β) : ∃ tmp, isTemp tmp = true ∧ lookupKey tmp d = none := by
  let name (n : Nat) : String := ".fleet-router-" ++ String.ofList (List.replicate n '0')
  have hinj : Function.Injective name := by
    intro n m h
    have hlength := congrArg (fun s => s.toList.length) h
    simpa [name] using hlength
  obtain ⟨tmp, ⟨n, rfl⟩, hfresh⟩ :=
    (Set.infinite_range_of_injective hinj).exists_notMem_finset (d.map (·.1)).toFinset
  refine ⟨name n, ?_, ?_⟩
  · simp [isTemp, name]
  · rw [← Option.not_isSome_iff_eq_none, ← mem_keys_iff]
    simpa using hfresh

theorem writeFileAtomic_completes {σ : Type} {E : Behaviour (fileCalls β) σ} {tmp : String}
    {s created written renamed : σ} (hcreate : E .createTemp s (.ok tmp) created)
    (hchmod : E (.on (.chmod tmp)) created none created)
    (hwrite : E (.on (.write tmp data)) created none written)
    (hsync : E (.on (.sync tmp)) written none written)
    (hclose : ∀ s, E (.on (.close tmp)) s none s)
    (hrename : E (.on (.rename tmp path)) written none renamed) :
    (writeFileAtomic path data).Ends E s none renamed :=
  ⟨.ok tmp, created, hcreate, Prog.Ends.bind ⟨none, created, hchmod, none, written, hwrite, none,
    written, hsync, none, written, hclose _, none, renamed, hrename, rfl, rfl⟩
    ⟨none, renamed, hclose _, rfl, rfl⟩⟩

theorem writeFileAtomic_ends (d : Directory β) (path : String) (data : β) :
    ∃ t, (writeFileAtomic path data).Ends fileSystem d none t := by
  obtain ⟨tmp, htmp, hfresh⟩ := exists_temp d
  refine ⟨_, writeFileAtomic_completes ⟨htmp, hfresh, rfl⟩ rfl rfl rfl (fun _ => rfl)
    ⟨some data, ?_, rfl⟩⟩
  rw [lookupKey_insertKey, if_pos rfl]

end Write

section Publish
variable {d : Directory β} {order : List (String × β)}

theorem publishLoop_guards (hnames : ∀ f ∈ order, isTemp f.1 = false) :
    (publishLoop order).Guards fileSystem
      (fun t => ∃ n, t.view = install d.view (order.take n))
      (fun r t => r = none → t.view = install d.view order) d := by
  induction order generalizing d with
  | nil => exact ⟨⟨0, rfl⟩, fun _ => rfl⟩
  | cons f order ih =>
    obtain ⟨name, data⟩ := f
    rw [List.forall_mem_cons] at hnames
    refine (writeFileAtomic_guards hnames.1).mono ?_ (fun r t hr => hr) |>.bind fun r t hr => ?_
    · rintro t (ht | ht)
      · exact ⟨0, ht⟩
      · exact ⟨1, ht⟩
    · cases r with
      | some err => exact ⟨⟨0, hr⟩, fun h => nomatch h⟩
      | none =>
        refine (ih hnames.2).mono ?_ ?_
        · rintro u ⟨n, hu⟩
          exact ⟨n + 1, by rw [hu, hr]; rfl⟩
        · intro r' u hu hr'
          rw [hu hr', hr]
          rfl

theorem publish_guards (hnames : ∀ f ∈ order, isTemp f.1 = false) :
    (publish order).Guards fileSystem
      (fun t => ∃ n, t.view = install d.view (order.take n))
      (fun r t => r = none → t.view = install d.view order) d := by
  refine ⟨⟨0, rfl⟩, fun x t ht => ?_⟩
  obtain rfl : t = d := by cases x <;> exact ht
  cases x with
  | some err => exact ⟨⟨0, rfl⟩, fun h => nomatch h⟩
  | none => exact publishLoop_guards hnames

theorem publishLoop_partly (hnames : ∀ f ∈ order, isTemp f.1 = false) (n : Nat) :
    ∃ t, (publishLoop order).Partly fileSystem d t ∧ t.view = install d.view (order.take n) := by
  induction order generalizing d n with
  | nil => exact ⟨d, rfl, by rw [List.take_nil]; rfl⟩
  | cons f order ih =>
    obtain ⟨name, data⟩ := f
    rw [List.forall_mem_cons] at hnames
    cases n with
    | zero => exact ⟨d, .start, rfl⟩
    | succ n =>
      obtain ⟨t, ht⟩ := writeFileAtomic_ends d name data
      have hview := (writeFileAtomic_guards hnames.1).ends ht
      obtain ⟨u, hu, huview⟩ := ih (d := t) hnames.2 n
      refine ⟨u, ht.partly_bind hu, ?_⟩
      rw [huview, hview]
      rfl

theorem publish_partly (hnames : ∀ f ∈ order, isTemp f.1 = false) (n : Nat) :
    ∃ t, (publish order).Partly fileSystem d t ∧ t.view = install d.view (order.take n) := by
  obtain ⟨t, ht, hview⟩ := publishLoop_partly (d := d) hnames n
  exact ⟨t, .inr ⟨none, d, rfl, ht⟩, hview⟩

/-- Wherever a publication fails or is stopped, a reader sees the old files with some first ones of
the order replaced, which may be any number of them; without an error it is all. -/
theorem interrupted_views (hnames : ∀ f ∈ order, isTemp f.1 = false) (v : String → Option β) :
    ((∃ t, (publish order).Partly fileSystem d t ∧ t.view = v) ↔
      ∃ n, v = install d.view (order.take n)) ∧
    ∀ t, (publish order).Ends fileSystem d none t → t.view = install d.view order := by
  refine ⟨⟨?_, ?_⟩, fun t ht => (publish_guards hnames).ends ht rfl⟩
  · rintro ⟨t, ht, rfl⟩
    exact (publish_guards hnames).partly ht
  · rintro ⟨n, rfl⟩
    exact publish_partly hnames n

theorem interrupted_views_two : ∃ t, (publish [("a", 1), ("b", 2)]).Partly fileSystem [] t ∧
    t.view = install (Directory.view []) [("a", 1)] :=
  (interrupted_views (by decide) _).1.mpr ⟨1, rfl⟩

theorem publish_completes {σ : Type} {E : Behaviour (fileCalls β) σ}
    (hmkdir : ∀ s, E (.on .mkdirAll) s none s)
    (hwrite : ∀ s path data, ∃ t, (writeFileAtomic path data).Ends E s none t) (s : σ)
    (order : List (String × β)) : ∃ t, (publish order).Ends E s none t := by
  have hloop : ∃ t, (publishLoop order).Ends E s none t := by
    induction order generalizing s with
    | nil => exact ⟨s, rfl, rfl⟩
    | cons f order ih =>
      obtain ⟨t, ht⟩ := hwrite s f.1 f.2
      obtain ⟨u, hu⟩ := ih t
      exact ⟨u, ht.bind hu⟩
  obtain ⟨t, ht⟩ := hloop
  exact ⟨t, none, s, hmkdir s, ht⟩

theorem publish_ends (d : Directory β) (order : List (String × β)) :
    ∃ t, (publish order).Ends fileSystem d none t :=
  publish_completes (fun _ => rfl) writeFileAtomic_ends d order

end Publish
end Publisher

section Names
variable {opts : LLMDProviderOptions} {c : SyncCall} {seenFiles : SeenFiles} {files : Files}

theorem isTemp_modelFilename (model : String) : isTemp (modelFilename model) = false := by
  rw [isTemp, modelFilename, String.toList_append, String.toList_append]
  rfl

theorem sync_not_temp (hseen : ∀ name ∈ seenFiles, ∃ model, name = modelFilename model)
    (h : (sync opts c seenFiles).1 = .ok files) {order : Files} (horder : Iterates order files)
    {f : String × RouterFile} (hf : f ∈ order) : isTemp f.1 = false := by
  have hkey := mem_keys_iff.mp (List.mem_map_of_mem (f := Prod.fst) hf)
  rw [horder.2, sync_isSome h, mem_sync_seen] at hkey
  rcases hkey with hindex | hmem | ⟨model, -, hname⟩
  · rw [hindex]
    decide
  · obtain ⟨model, hname⟩ := hseen _ hmem
    rw [hname, isTemp_modelFilename]
  · rw [hname, isTemp_modelFilename]

theorem sync_index (h : (sync opts c seenFiles).1 = .ok files) {version : String}
    {models : List (String × String)}
    (hindex : lookupKey "index.json" files = some (.index version models)) :
    ∀ m ∈ models, m.2 ≠ "index.json" := by
  obtain ⟨byModel, hrender, rfl⟩ := sync_ok h
  rw [lookupKey_insertKey, if_pos rfl] at hindex
  obtain ⟨-, rfl⟩ := RouterFile.index.inj (Option.some.inj hindex)
  intro m hm
  obtain ⟨model, -, rfl⟩ := List.mem_map.mp (mem_ofEntries hm)
  exact modelFilename_ne_index model

end Names

/-! ## The index and the files it names -/

abbrev Stamped := Nat × RouterFile

def stamped (sync : Nat) (order : Files) : List (String × Stamped) :=
  order.map fun f => (f.1, sync, f.2)

def NotAhead (syncs : List Files) (v : String → Option Stamped) : Prop :=
  ∀ sync version models, v "index.json" = some (sync, .index version models) →
    ∀ m ∈ models, ∃ s contents, v m.2 = some (s, contents) ∧
      ∃ files ∈ syncs.drop sync, lookupKey m.2 files = some contents

def Ready (files order : Files) (v : String → Option Stamped) : Prop :=
  ∀ version models, lookupKey "index.json" files = some (.index version models) → ∀ m ∈ models,
    m.2 ∈ (order.takeWhile (·.1 != "index.json")).map (·.1) ∨
      ∃ s contents, v m.2 = some (s, contents) ∧ lookupKey m.2 files = some contents

section Index
variable {files order : Files} {syncs : List Files} {v : String → Option Stamped}

theorem lookupKey_stamped (k : Nat) (name : String) (order : Files) :
    lookupKey name (stamped k order) = (lookupKey name order).map (k, ·) := by
  induction order with
  | nil => rfl
  | cons f order ih =>
    rw [stamped, List.map_cons, lookupKey, lookupKey, ← stamped, ih]
    split_ifs
    · rfl
    · rfl

theorem install_take (horder : Iterates order files) (k n : Nat) (name : String) :
    install v ((stamped k order).take n) name =
      if name ∈ (order.take n).map (·.1) then (lookupKey name files).map (k, ·) else v name := by
  have hnames : ((stamped k (order.take n)).map (·.1)) = (order.take n).map (·.1) := by
    rw [stamped, List.map_map]
    rfl
  have htake : (stamped k order).take n = stamped k (order.take n) := List.map_take.symm
  have hnodup : ((order.take n).map (·.1)).Nodup :=
    horder.1.sublist ((List.take_sublist n order).map _)
  rw [htake, install_apply (hnames ▸ hnodup), lookupKey_stamped]
  split_ifs with hmem
  · obtain ⟨contents, hcontents⟩ := Option.isSome_iff_exists.mp (mem_keys_iff.mp hmem)
    have hsame : lookupKey name files = some contents := by
      rw [← horder.2, ← List.take_append_drop n order, lookupKey_append, hcontents]
      rfl
    rw [hcontents, hsame]
    rfl
  · have hnone : lookupKey name (order.take n) = none := by
      rw [← Option.not_isSome_iff_eq_none, ← mem_keys_iff]
      exact hmem
    rw [hnone]
    rfl

theorem before_subset_take {name name' : String} {n : Nat} (hn : name ∈ (order.take n).map (·.1))
    (hbefore : name' ∈ (order.takeWhile (·.1 != name)).map (·.1)) :
    name' ∈ (order.take n).map (·.1) := by
  induction order generalizing n with
  | nil => cases hbefore
  | cons f order ih =>
    cases n with
    | zero => cases hn
    | succ n =>
      rw [List.take_succ_cons, List.map_cons, List.mem_cons] at hn ⊢
      rw [List.takeWhile_cons] at hbefore
      split_ifs at hbefore with hf
      · rw [List.map_cons, List.mem_cons] at hbefore
        have hne : name ≠ f.1 := fun h => (bne_iff_ne.mp hf) h.symm
        exact hbefore.imp_right (ih (hn.resolve_left hne))
      · cases hbefore

theorem take_eq_before {name : String} (h : name ∈ order.map (·.1)) :
    ∃ n, (order.take n).map (·.1) = (order.takeWhile (·.1 != name)).map (·.1) ++ [name] := by
  induction order with
  | nil => cases h
  | cons f order ih =>
    by_cases hf : f.1 = name
    · subst hf
      exact ⟨1, by simp⟩
    · obtain ⟨n, hn⟩ := ih ((List.mem_cons.mp h).resolve_left (Ne.symm hf))
      refine ⟨n + 1, ?_⟩
      rw [List.take_succ_cons, List.takeWhile_cons, if_pos (bne_iff_ne.mpr hf), List.map_cons, hn]
      rfl

theorem NotAhead.install_take (hv : NotAhead (syncs ++ [files]) v) (hready : Ready files order v)
    (horder : Iterates order files) (n : Nat) :
    NotAhead (syncs ++ [files]) (install v ((stamped syncs.length order).take n)) := by
  intro sync version models hindex m hm
  have hcopied (hinstalled : m.2 ∈ (order.take n).map (·.1)) :
      ∃ contents, lookupKey m.2 files = some contents := by
    rw [← Option.isSome_iff_exists, ← horder.2, ← mem_keys_iff]
    exact List.map_subset _ (List.take_subset n order) hinstalled
  rw [Routing.install_take horder] at hindex ⊢
  split_ifs at hindex with hnew
  · obtain ⟨contents, hcontents, heq⟩ := Option.map_eq_some_iff.mp hindex
    obtain ⟨rfl, rfl⟩ := Prod.mk.inj heq
    have hlast : files ∈ (syncs ++ [files]).drop syncs.length := by
      rw [List.drop_left]
      exact List.mem_singleton_self files
    split_ifs with hinstalled
    · obtain ⟨contents, hcontents⟩ := hcopied hinstalled
      exact ⟨_, contents, by rw [hcontents]; rfl, files, hlast, hcontents⟩
    · rcases hready version models hcontents m hm with hbefore | ⟨s, contents, hs, hcontents⟩
      · exact absurd (before_subset_take hnew hbefore) hinstalled
      · exact ⟨s, contents, hs, files, hlast, hcontents⟩
  · obtain ⟨s, contents, hs, files', hfiles', hcontents⟩ := hv sync version models hindex m hm
    split_ifs with hinstalled
    · obtain ⟨contents, hcontents⟩ := hcopied hinstalled
      have hle : sync ≤ syncs.length := by
        have hlength := List.length_pos_of_mem hfiles'
        rw [List.length_drop, List.length_append, List.length_singleton] at hlength
        omega
      refine ⟨_, contents, by rw [hcontents]; rfl, files, ?_, hcontents⟩
      rw [List.drop_append_of_le_length hle]
      exact List.mem_append_right _ (List.mem_singleton_self files)
    · exact ⟨s, contents, hs, files', hfiles', hcontents⟩

theorem Ready.of_notAhead (syncs : List Files) (horder : Iterates order files)
    (hmodels : ∀ version models, lookupKey "index.json" files = some (.index version models) →
      ∀ m ∈ models, m.2 ≠ "index.json")
    (h : ∀ n, NotAhead (syncs ++ [files]) (install v ((stamped syncs.length order).take n))) :
    Ready files order v := by
  intro version models hindex m hm
  have hmem : "index.json" ∈ order.map (·.1) := by
    rw [mem_keys_iff, horder.2, hindex]
    rfl
  -- The publication is interrupted right after the index.
  obtain ⟨n, hn⟩ := take_eq_before hmem
  have hnow := h n syncs.length version models
    (by rw [Routing.install_take horder, hn, if_pos List.mem_concat_self, hindex]; rfl) m hm
  rw [Routing.install_take horder, List.drop_left, hn] at hnow
  obtain ⟨s, contents, hs, files', hfiles', hcontents⟩ := hnow
  obtain rfl := List.mem_singleton.mp hfiles'
  split_ifs at hs with hinstalled
  · rcases List.mem_append.mp hinstalled with hbefore | hlast
    · exact .inl hbefore
    · exact absurd (List.mem_singleton.mp hlast) (hmodels version models hindex m hm)
  · exact .inr ⟨s, contents, hs, hcontents⟩

end Index

def sampleFiles (model : String) : Files :=
  match (sync sampleOptions (sampleCall model) []).1 with
  | .error _ => []
  | .ok files => files

theorem sampleFiles_eq {model : String}
    (hok : Except.isOk (sync sampleOptions (sampleCall model) []).1 = true) :
    (sync sampleOptions (sampleCall model) []).1 = .ok (sampleFiles model) := by
  rw [sampleFiles]
  cases hfiles : (sync sampleOptions (sampleCall model) []).1 with
  | error err =>
    rw [hfiles] at hok
    cases hok
  | ok files => rfl

theorem sampleFiles_index : lookupKey "index.json" (sampleFiles "a") =
    some (.index "v1" [("a", modelFilename "a")]) := by
  decide +kernel

theorem sampleFiles_nodup : ((sampleFiles "a").map (·.1)).Nodup := by
  decide +kernel

theorem notAhead_empty (syncs : List Files) : NotAhead syncs (Directory.view []) :=
  fun _ _ _ hindex => nomatch hindex

/-- A publication that may be interrupted anywhere keeps the index from running ahead exactly if
each file the new index names comes before it in the iteration, or needs no change. -/
theorem index_not_ahead_iff (opts : LLMDProviderOptions) (earlier : List SyncCall) (c : SyncCall)
    (files : Files) (h : (sync opts c (seenAfter opts earlier)).1 = .ok files) (order : Files)
    (horder : Iterates order files) (syncs : List Files) (d : Directory Stamped) :
    (∀ t, (publish (stamped syncs.length order)).Partly fileSystem d t →
        NotAhead (syncs ++ [files]) t.view) ↔
      NotAhead (syncs ++ [files]) d.view ∧ Ready files order d.view := by
  have hseen : ∀ name ∈ seenAfter opts earlier, ∃ model, name = modelFilename model := by
    intro name hname
    obtain ⟨_, _, model, _, hmodel⟩ := mem_seenAfter.mp hname
    exact ⟨model, hmodel⟩
  have hnames : ∀ f ∈ stamped syncs.length order, isTemp f.1 = false := by
    intro f hf
    obtain ⟨g, hg, rfl⟩ := List.mem_map.mp hf
    exact sync_not_temp hseen h horder hg
  constructor
  · intro hall
    refine ⟨hall d .start, Ready.of_notAhead syncs horder (fun _ _ => sync_index h) fun n => ?_⟩
    obtain ⟨t, ht, hview⟩ := publish_partly (d := d) hnames n
    rw [← hview]
    exact hall t ht
  · rintro ⟨hd, hready⟩ t ht
    obtain ⟨n, hview⟩ := (publish_guards hnames).partly ht
    rw [hview]
    exact hd.install_take hready horder n

/-- An iteration that meets the index last. -/
theorem index_last_not_ahead :
    Iterates (sampleFiles "a") (sampleFiles "a") ∧
      ∀ t, (publish (stamped 0 (sampleFiles "a"))).Partly fileSystem [] t →
        NotAhead [sampleFiles "a"] t.view := by
  have hiterates : Iterates (sampleFiles "a") (sampleFiles "a") :=
    .of_perm (List.Perm.refl _) sampleFiles_nodup
  refine ⟨hiterates, (index_not_ahead_iff sampleOptions [] (sampleCall "a") (sampleFiles "a")
    (sampleFiles_eq (by decide +kernel)) (sampleFiles "a") hiterates [] []).mpr
    ⟨notAhead_empty _, ?_⟩⟩
  intro version models hindex m hm
  obtain ⟨-, rfl⟩ := RouterFile.index.inj (Option.some.inj (sampleFiles_index.symm.trans hindex))
  obtain rfl := List.mem_singleton.mp hm
  exact .inl (by decide +kernel)

/-- The index is met first and the process stops: the index names a file that does not exist. -/
theorem index_first_ahead :
    Iterates (sampleFiles "a").reverse (sampleFiles "a") ∧
      NotAhead [sampleFiles "a"] (Directory.view []) ∧
      ∃ t, (publish (stamped 0 (sampleFiles "a").reverse)).Partly fileSystem [] t ∧
        ¬ NotAhead [sampleFiles "a"] t.view := by
  have hiterates : Iterates (sampleFiles "a").reverse (sampleFiles "a") :=
    .of_perm (List.reverse_perm _) sampleFiles_nodup
  have hnames : ∀ f ∈ stamped 0 (sampleFiles "a").reverse, isTemp f.1 = false := by decide +kernel
  refine ⟨hiterates, notAhead_empty _, ?_⟩
  obtain ⟨t, ht, hview⟩ := publish_partly (d := []) hnames 1
  refine ⟨t, ht, fun hahead => ?_⟩
  obtain ⟨s, contents, hs, -⟩ := hahead 0 "v1" [("a", modelFilename "a")]
    (by rw [hview]; decide +kernel) _ (List.mem_singleton_self _)
  have hnone : install (Directory.view []) ((stamped 0 (sampleFiles "a").reverse).take 1)
      (modelFilename "a") = none := by
    decide +kernel
  rw [hview, hnone] at hs
  cases hs

end FleetLlmd.Routing
