import Mathlib.Logic.Relation
import FleetLlmd.Routing.Directory

/-!
# Endpoints across restarts

Which files there are is known to the provider process, the files outlive it. A sync empties
the files its process has rendered; those of an earlier process it does not know and leaves
as they are, unless it renders a model of the same name.
-/

namespace FleetLlmd.Routing
open Json Effect

structure Deployment where
  directory : Directory RouterFile
  seenFiles : SeenFiles

inductive Deployment.Move where
  | sync (c : SyncCall)
  | restart

inductive Deployment.Step (opts : LLMDProviderOptions) :
    Deployment → Deployment.Move → Deployment → Prop where
  | sync {s : Deployment} {c : SyncCall} {files order : Files} {d : Directory RouterFile}
      (hfiles : (sync opts c s.seenFiles).1 = .ok files) (horder : Iterates order files)
      (hpublish : (publish order).Ends fileSystem s.directory none d) :
      Step opts s (.sync c) ⟨d, (Routing.sync opts c s.seenFiles).2⟩
  | restart {s : Deployment} : Step opts s .restart { s with seenFiles := [] }

inductive Deployment.Reached (opts : LLMDProviderOptions) : Deployment → Prop where
  | start : Reached opts ⟨[], []⟩
  | step {s s' : Deployment} {m : Deployment.Move} (hs : Reached opts s) (h : Step opts s m s') :
      Reached opts s'

def Withdrawn (opts : LLMDProviderOptions) (c : SyncCall) (d : Directory RouterFile) : Prop :=
  ∀ name es, d.view name = some (.endpoints es) → ∀ e ∈ es, ∃ model, e ∈ c.served opts model

def Covered (opts : LLMDProviderOptions) (c : SyncCall) (s : Deployment) : Prop :=
  ∀ name es, s.directory.view name = some (.endpoints es) → es ≠ [] →
    name ∈ s.seenFiles ∨ ∃ model, c.Rendered opts model ∧ name = modelFilename model

def Labelled (d : Directory RouterFile) : Prop :=
  ∀ name es, d.view name = some (.endpoints es) → ∀ e ∈ es,
    ∃ model, name = modelFilename model ∧ lookupKey "model" e.labels = some model

section Sync
variable {opts : LLMDProviderOptions} {c : SyncCall} {s : Deployment} {files order : Files}
variable {d : Directory RouterFile}

theorem sync_view (hseen : ∀ name ∈ s.seenFiles, ∃ model, name = modelFilename model)
    (hfiles : (sync opts c s.seenFiles).1 = .ok files) (horder : Iterates order files)
    (hpublish : (publish order).Ends fileSystem s.directory none d) (name : String) :
    d.view name = (lookupKey name files).or (s.directory.view name) := by
  have hnames : ∀ f ∈ order, isTemp f.1 = false := fun f hf => sync_not_temp hseen hfiles horder hf
  rw [(publish_guards hnames).ends hpublish rfl, install_apply horder.1, horder.2]

theorem sync_endpoints (hfiles : (sync opts c s.seenFiles).1 = .ok files)
    (hview : ∀ name, d.view name = (lookupKey name files).or (s.directory.view name))
    {name : String} {es : List LLMDClusterEndpoint} (hname : d.view name = some (.endpoints es)) :
    (∀ e ∈ es, ∃ model, name = modelFilename model ∧ e ∈ c.served opts model) ∨
      s.directory.view name = some (.endpoints es) ∧ name ∉ (sync opts c s.seenFiles).2 := by
  rw [hview] at hname
  cases hfile : lookupKey name files with
  | some file =>
    rw [hfile] at hname
    cases hname
    exact .inl fun e he => served_of_published hfiles (mem_of_lookupKey hfile) he
  | none =>
    rw [hfile] at hname
    refine .inr ⟨hname, fun hmem => ?_⟩
    have hsome := (sync_isSome hfiles).mpr (.inr hmem)
    rw [hfile] at hsome
    cases hsome

theorem withdrawn_of_covered (hfiles : (sync opts c s.seenFiles).1 = .ok files)
    (hview : ∀ name, d.view name = (lookupKey name files).or (s.directory.view name))
    (hcovered : Covered opts c s) : Withdrawn opts c d := by
  intro name es hname e he
  rcases sync_endpoints hfiles hview hname with hserved | ⟨hold, hunseen⟩
  · obtain ⟨model, -, hmem⟩ := hserved e he
    exact ⟨model, hmem⟩
  · exact absurd (mem_sync_seen.mpr (hcovered name es hold (List.ne_nil_of_mem he))) hunseen

theorem covered_of_withdrawn (hlabelled : Labelled s.directory)
    (hfiles : (sync opts c s.seenFiles).1 = .ok files)
    (hview : ∀ name, d.view name = (lookupKey name files).or (s.directory.view name))
    (hwithdrawn : Withdrawn opts c d) : Covered opts c s := by
  intro name es hold hne
  obtain ⟨e, he⟩ := List.exists_mem_of_ne_nil es hne
  obtain ⟨model, hname, hlabel⟩ := hlabelled name es hold e he
  by_contra huncovered
  have hfile : lookupKey name files = none := by
    rw [← Option.not_isSome_iff_eq_none, sync_isSome hfiles, mem_sync_seen, hname]
    rw [hname] at huncovered
    exact fun h => h.elim (modelFilename_ne_index model) huncovered
  have hkept : d.view name = some (.endpoints es) := by
    rw [hview, hfile]
    exact hold
  obtain ⟨model', hserved⟩ := hwithdrawn name es hkept e he
  obtain rfl := Option.some.inj (hlabel.symm.trans (served_model hserved))
  exact huncovered (.inr ⟨model, ⟨sync_isOk.mp ⟨files, hfiles⟩, List.ne_nil_of_mem hserved⟩, hname⟩)

end Sync

section Runs
variable {opts : LLMDProviderOptions} {s : Deployment}

theorem Deployment.Reached.seen (h : Deployment.Reached opts s) :
    ∀ name ∈ s.seenFiles, ∃ model, name = modelFilename model := by
  induction h with
  | start => exact nofun
  | step hs hstep ih =>
    cases hstep with
    | restart => exact nofun
    | sync hfiles horder hpublish =>
      intro name hname
      rcases mem_sync_seen.mp hname with hold | ⟨model, -, heq⟩
      · exact ih name hold
      · exact ⟨model, heq⟩

theorem Deployment.Reached.labelled (h : Deployment.Reached opts s) : Labelled s.directory := by
  induction h with
  | start =>
    intro name es hname
    rw [Directory.view] at hname
    split_ifs at hname
    cases hname
  | step hs hstep ih =>
    cases hstep with
    | restart => exact ih
    | sync hfiles horder hpublish =>
      intro name es hname e he
      rcases sync_endpoints hfiles (sync_view hs.seen hfiles horder hpublish) hname with
        hserved | ⟨hold, -⟩
      · obtain ⟨model, hfile, hmem⟩ := hserved e he
        exact ⟨model, hfile, served_model hmem⟩
      · exact ih name es hold e he

/-- The files with endpoints are files of the process that runs. -/
def Deployment.Known (s : Deployment) : Prop :=
  ∀ name es, s.directory.view name = some (.endpoints es) → es ≠ [] → name ∈ s.seenFiles

theorem Deployment.Known.step {c : SyncCall} {s' : Deployment} (hknown : s.Known)
    (hs : Deployment.Reached opts s) (h : Deployment.Step opts s (.sync c) s') : s'.Known := by
  cases h with
  | sync hfiles horder hpublish =>
    intro name es hname hne
    rcases sync_endpoints hfiles (sync_view hs.seen hfiles horder hpublish) hname with
      hserved | ⟨hold, -⟩
    · obtain ⟨e, he⟩ := List.exists_mem_of_ne_nil es hne
      obtain ⟨model, hfile, hmem⟩ := hserved e he
      exact mem_sync_seen.mpr (.inr ⟨model, ⟨sync_isOk.mp ⟨_, hfiles⟩, List.ne_nil_of_mem hmem⟩,
        hfile⟩)
    · exact mem_sync_seen.mpr (.inl (hknown name es hold hne))

/-- A process that has run since the directory was empty covers it at every sync. -/
theorem covered_of_syncs
    (h : Relation.ReflTransGen (fun s s' => ∃ c, Deployment.Step opts s (.sync c) s') ⟨[], []⟩ s) :
    Deployment.Reached opts s ∧ ∀ c, Covered opts c s := by
  have hknown : Deployment.Reached opts s ∧ s.Known := by
    induction h with
    | refl =>
      refine ⟨.start, fun name es hname => ?_⟩
      rw [Directory.view] at hname
      split_ifs at hname
      cases hname
    | tail _ hstep ih =>
      obtain ⟨c, hstep⟩ := hstep
      exact ⟨.step ih.1 hstep, ih.2.step ih.1 hstep⟩
  exact ⟨hknown.1, fun c name es hname hne => .inl (hknown.2 name es hname hne)⟩

end Runs

/-! ## Restarts -/

theorem sample_step {c : SyncCall} {s : Deployment} {files : Files}
    (hs : Deployment.Reached sampleOptions s)
    (hfiles : (sync sampleOptions c s.seenFiles).1 = .ok files)
    (hnodup : (files.map (·.1)).Nodup) :
    ∃ d, Deployment.Step sampleOptions s (.sync c) ⟨d, (sync sampleOptions c s.seenFiles).2⟩ ∧
      ∀ name, d.view name = (lookupKey name files).or (s.directory.view name) := by
  have horder : Iterates files files := .of_perm (List.Perm.refl _) hnodup
  obtain ⟨d, hd⟩ := publish_ends s.directory files
  exact ⟨d, .sync hfiles horder hd, sync_view hs.seen hfiles horder hd⟩

/-- In every run from an empty directory, with restarts anywhere, an endpoint that a sync no longer
renders is withdrawn exactly if no file of an earlier process is left uncovered. -/
theorem withdrawn_iff_covered (opts : LLMDProviderOptions) (c : SyncCall) (s s' : Deployment)
    (hs : Deployment.Reached opts s) (h : Deployment.Step opts s (.sync c) s') :
    Withdrawn opts c s'.directory ↔ Covered opts c s := by
  cases h with
  | sync hfiles horder hpublish =>
    have hview := sync_view hs.seen hfiles horder hpublish
    exact ⟨covered_of_withdrawn hs.labelled hfiles hview, withdrawn_of_covered hfiles hview⟩

/-- Model `a` is synced, then model `b` by the same process. -/
theorem withdrawn_second_sync :
    ∃ s s', Deployment.Step sampleOptions ⟨[], []⟩ (.sync (sampleCall "a")) s ∧
      Deployment.Step sampleOptions s (.sync (sampleCall "b")) s' ∧
      Withdrawn sampleOptions (sampleCall "b") s'.directory := by
  obtain ⟨d, hstep, -⟩ := sample_step .start (sampleFiles_eq (by decide +kernel)) sampleFiles_nodup
  obtain ⟨hs, hcovered⟩ := covered_of_syncs (.single ⟨_, hstep⟩)
  have hok : (sync sampleOptions (sampleCall "b")
      (sync sampleOptions (sampleCall "a") []).2).1.toOption.any
        (fun files => decide (files.map (·.1)).Nodup) = true := by decide +kernel
  cases hfiles : (sync sampleOptions (sampleCall "b")
      (sync sampleOptions (sampleCall "a") []).2).1 with
  | error err =>
    rw [hfiles] at hok
    cases hok
  | ok files =>
    rw [hfiles] at hok
    obtain ⟨d', hstep', -⟩ := sample_step hs hfiles (of_decide_eq_true hok)
    exact ⟨_, _, hstep, hstep', (withdrawn_iff_covered _ _ _ _ hs hstep').mpr (hcovered _)⟩

/-- Model `a` is synced, the process restarts and model `b` is synced: the file of `a` keeps its
endpoint. -/
theorem stale_after_restart :
    ∃ s s', Deployment.Reached sampleOptions s ∧
      Deployment.Step sampleOptions s (.sync (sampleCall "b")) s' ∧
      ¬ Withdrawn sampleOptions (sampleCall "b") s'.directory := by
  obtain ⟨d₁, hstep₁, hview₁⟩ := sample_step .start (sampleFiles_eq (by decide +kernel))
    sampleFiles_nodup
  have hrestarted : Deployment.Reached sampleOptions ⟨d₁, []⟩ :=
    .step (.step .start hstep₁) .restart
  obtain ⟨d₂, hstep₂, hview₂⟩ := sample_step hrestarted
    (@sampleFiles_eq "b" (by decide +kernel)) (by decide +kernel)
  refine ⟨_, _, hrestarted, hstep₂, fun hwithdrawn => ?_⟩
  have hkept : d₂.view (modelFilename "a") =
      some (.endpoints ((sampleCall "a").served sampleOptions "a")) := by
    have hold : lookupKey (modelFilename "a") (sampleFiles "a") =
        some (.endpoints ((sampleCall "a").served sampleOptions "a")) := by decide +kernel
    have hnew : lookupKey (modelFilename "a") (sampleFiles "b") = none := by decide +kernel
    rw [hview₂, hnew, Option.none_or, hview₁, hold, Option.some_or]
  obtain ⟨e, he⟩ := List.exists_mem_of_ne_nil ((sampleCall "a").served sampleOptions "a")
    (by decide +kernel)
  obtain ⟨model, hserved⟩ := hwithdrawn _ _ hkept e he
  obtain rfl := Option.some.inj ((served_model he).symm.trans (served_model hserved))
  have hnone : (sampleCall "b").served sampleOptions "a" = [] := by decide +kernel
  rw [hnone] at hserved
  cases hserved

end FleetLlmd.Routing
