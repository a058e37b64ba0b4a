import FleetLlmd.Clusters.Handlers
import FleetLlmd.Routing.Directory

/-!
# The ConfigMap mirror

`RunKubernetesConfigMapMirror` of `pkg/routing`: a process polls a ConfigMap and keeps its
members as files in a directory. Which files it has to remove is in the memory of the process
and is set by a publication that succeeds as a whole, while the files outlive the process and
a publication that fails has written some of them.
-/

namespace FleetLlmd.Routing
open Go Json Effect
open Clusters (decodeJSON)

/-! ## Reading the ConfigMap -/

/-- `pathEscape` is `url.PathEscape`. -/
structure KubernetesConfigMapMirrorOptions where
  apiURL : String
  «namespace» : String
  name : String
  pathEscape : String → String

structure ConfigMapRequest where
  endpoint : String
  authorization : String

inductive ConfigMapAnswer where
  | unsent (err : Error)
  | failed (err : Error)
  | response (statusCode : Nat) (status : String) (body : Bytes)

structure MirroredConfigMap where
  resourceVersion : String := ""
  data : Option (List (String × String)) := none

def mirroredConfigMapFields : List (StructField MirroredConfigMap) :=
  [structField "metadata" (·.resourceVersion) (fun s x => { s with resourceVersion := x })
      (decodeStruct false [structField "resourceVersion" id (fun _ x => x) decodeString]),
    structField "data" (·.data) (fun s x => { s with data := x }) decodeStringMap]

structure ConfigMap where
  resourceVersion : String
  data : List (String × String)
  deriving DecidableEq

def decodeConfigMap (body : Bytes) : Except Error ConfigMap :=
  let limited := body.take (2 * 2 ^ 20)
  match decodeJSON (decodeStruct false mirroredConfigMapFields) (some limited) {} with
  | .error err => .error (.wrapf "decode Router ConfigMap: %w" [] err)
  | .ok configMap =>
    match configMap.data with
    | none => .error (.sentinel "decode Router ConfigMap: resourceVersion and data are required")
    | some data =>
      if configMap.resourceVersion == "" then
        .error (.sentinel "decode Router ConfigMap: resourceVersion and data are required")
      else .ok ⟨configMap.resourceVersion, data⟩

def configMapRequest (opts : KubernetesConfigMapMirrorOptions) (token : String) :
    ConfigMapRequest where
  endpoint :=
    String.ofList (opts.apiURL.toList.reverse.dropWhile (· == '/')).reverse ++
      "/api/v1/namespaces/" ++ opts.pathEscape opts.namespace ++ "/configmaps/" ++
      opts.pathEscape opts.name
  authorization := "Bearer " ++ trimSpace token

def readConfigMap (opts : KubernetesConfigMapMirrorOptions) (token : Except Error String)
    (get : ConfigMapRequest → ConfigMapAnswer) : Except Error ConfigMap :=
  match token with
  | .error err => .error (.wrapf "read Kubernetes bearer token: %w" [] err)
  | .ok token =>
    if blank token then
      .error (.sentinel "read Kubernetes bearer token: token file is empty")
    else
      match get (configMapRequest opts token) with
      | .unsent err => .error err
      | .failed err => .error (.wrapf "read Router ConfigMap: %w" [] err)
      | .response statusCode status body =>
        if statusCode < 200 || 300 ≤ statusCode then
          .error (.errorf "read Router ConfigMap: Kubernetes API returned %s: %s"
            [status, trimSpace (String.ofList (runes (body.take 4096)))])
        else decodeConfigMap body

/-! ## One sync -/

structure Mirror where
  lastVersion : String := ""
  lastFiles : List String := []

def unsafeKey (name : String) : Bool :=
  name == "" || name.toList.contains '/' || decide ("..".toList <:+: name.toList)

def errNotExist : Error := .sentinel "file does not exist"

def removeStale {β : Type} (data : List (String × String)) :
    List String → Prog (fileCalls β) (Option Error)
  | [] => .done none
  | name :: rest =>
    if (lookupKey name data).isSome then removeStale data rest
    else .call (.on (.remove name)) fun
      | none => removeStale data rest
      | some err =>
        if err.is errNotExist then removeStale data rest
        else .done (some (.wrapf "remove stale Router endpoint file: %w" [] err))

structure MirrorInput where
  token : Except Error String
  get : ConfigMapRequest → ConfigMapAnswer
  order : List (String × Bytes)
  last : List String

def MirrorInput.read (i : MirrorInput) (opts : KubernetesConfigMapMirrorOptions) :
    Except Error ConfigMap :=
  readConfigMap opts i.token i.get

def ConfigMap.files (configMap : ConfigMap) : List (String × Bytes) :=
  configMap.data.map fun f => (f.1, utf8 f.2)

def Mirror.syncOnce (m : Mirror) (opts : KubernetesConfigMapMirrorOptions) (i : MirrorInput) :
    Prog (fileCalls Bytes) (Option Error × Mirror) :=
  match i.read opts with
  | .error err => .done (some err, m)
  | .ok configMap =>
    if configMap.resourceVersion == m.lastVersion then .done (none, m)
    else
      match configMap.data.find? (unsafeKey ·.1) with
      | some f =>
        .done (some (.errorf "decode Router ConfigMap: unsafe data key %q" [f.1]), m)
      | none => (publish i.order).bind fun
        | some err => .done (some err, m)
        | none => (removeStale configMap.data i.last).bind fun
          | some err => .done (some err, m)
          | none => .done (none, ⟨configMap.resourceVersion, configMap.data.map (·.1)⟩)

structure MirrorInput.Iterates (i : MirrorInput) (m : Mirror) (configMap : ConfigMap) : Prop where
  order : Routing.Iterates i.order configMap.files
  last : ∀ name, name ∈ i.last ↔ name ∈ m.lastFiles

/-! ## The directory and its history -/

structure Disk (β : Type) where
  directory : Directory β := []
  written : List String := []

section Disk
variable {β : Type}

def Disk.mirrored (d : Disk β) (name : String) : Option (Option β) :=
  if name ∈ d.written then lookupKey name d.directory else none

def diskSystem : Behaviour (fileCalls β) (Disk β)
  | .createTemp, d, .ok tmp, t =>
    fileSystem .createTemp d.directory (.ok tmp) t.directory ∧ t.written = tmp :: d.written
  | .on (.rename tmp path), d, none, t =>
    fileSystem (.on (.rename tmp path)) d.directory none t.directory ∧
      t.written = path :: d.written
  | .on (.remove name), d, some err, t =>
    t = d ∧ (err.is errNotExist = true → lookupKey name d.directory = none)
  | call, d, x, t => fileSystem call d.directory x t.directory ∧ t.written = d.written

variable {d t : Disk β}

theorem mirrored_eq_none {name : String} (h : lookupKey name d.directory = none) :
    d.mirrored name = none := by
  rw [Disk.mirrored, h, ite_self]

theorem mirrored_congr {name : String} (hwritten : name ∈ t.written ↔ name ∈ d.written)
    (hlookup : lookupKey name t.directory = lookupKey name d.directory) :
    t.mirrored name = d.mirrored name := by
  rw [Disk.mirrored, Disk.mirrored, hlookup]
  exact if_congr hwritten rfl rfl

theorem attempt_none {op : FileOp β} {wrap : Error → Error}
    {rest : List (FileOp β × (Error → Error))}
    (h : (attempt ((op, wrap) :: rest)).Ends diskSystem d none t) :
    ∃ u, diskSystem (.on op) d none u ∧ (attempt rest).Ends diskSystem u none t := by
  obtain ⟨x, u, hop, hrest⟩ := h
  cases x with
  | some err => cases hrest.1
  | none => exact ⟨u, hop, hrest⟩

theorem cleanup_ends {tmp : String} {result r : Option Error}
    (h : (cleanup tmp result).Ends diskSystem d r t) :
    r = result ∧ (r = none → t.directory = d.directory ∧ t.written = d.written) := by
  obtain ⟨x, u, ⟨hu, hwritten⟩, hrest⟩ := h
  split_ifs at hrest with hresult
  · obtain ⟨rfl, rfl⟩ := hrest
    exact ⟨rfl, fun _ => ⟨hu, hwritten⟩⟩
  · obtain ⟨y, v, -, rfl, rfl⟩ := hrest
    exact ⟨rfl, fun hnone => absurd (hnone ▸ rfl) hresult⟩

theorem writeFileAtomic_none {path : String} {data : β}
    (h : (writeFileAtomic path data).Ends diskSystem d none t) :
    ∃ tmp, lookupKey tmp d.directory = none ∧
      t.directory = insertKey path (some data) ((insertKey tmp (some data)
        (insertKey tmp none d.directory)).filter (·.1 != tmp)) ∧
      t.written = path :: tmp :: d.written := by
  obtain ⟨x, u, hcreate, h⟩ := h
  cases x with
  | error err => cases h.1
  | ok tmp =>
    obtain ⟨⟨-, hfresh, hcreated⟩, hwritten⟩ := hcreate
    obtain ⟨result, v, hattempt, hcleanup⟩ := Prog.Ends.of_bind h
    obtain ⟨rfl, hclean⟩ := cleanup_ends hcleanup
    obtain ⟨u₁, ⟨hchmod, hwritten₁⟩, hattempt⟩ := attempt_none hattempt
    obtain ⟨u₂, ⟨hwrite, hwritten₂⟩, hattempt⟩ := attempt_none hattempt
    obtain ⟨u₃, ⟨hsync, hwritten₃⟩, hattempt⟩ := attempt_none hattempt
    obtain ⟨u₄, ⟨hclose, hwritten₄⟩, hattempt⟩ := attempt_none hattempt
    obtain ⟨u₅, ⟨⟨contents, hcontents, hrename⟩, hwritten₅⟩, -, rfl⟩ := attempt_none hattempt
    have hbefore : u₄.directory = insertKey tmp (some data) (insertKey tmp none d.directory) := by
      rw [hclose, hsync, hwrite, hchmod, hcreated]
    rw [hbefore, lookupKey_insertKey, if_pos rfl] at hcontents
    refine ⟨tmp, hfresh, ?_, ?_⟩
    · rw [(hclean rfl).1, hrename, hbefore, ← Option.some.inj hcontents]
    · rw [(hclean rfl).2, hwritten₅, hwritten₄, hwritten₃, hwritten₂, hwritten₁, hwritten]

theorem mirrored_writeFileAtomic {path : String} {data : β}
    (h : (writeFileAtomic path data).Ends diskSystem d none t) (name : String) :
    t.mirrored name = if path = name then some (some data) else d.mirrored name := by
  obtain ⟨tmp, hfresh, hdirectory, hwritten⟩ := writeFileAtomic_none h
  have hlookup : lookupKey name t.directory =
      if path = name then some (some data) else lookupKey name d.directory := by
    rw [hdirectory, lookupKey_insertKey]
    by_cases htmp : name = tmp
    · subst htmp
      rw [hfresh, lookupKey_filter_self]
    · rw [lookupKey_filter _ (by rintro e rfl; exact bne_iff_ne.mpr htmp), lookupKey_insertKey,
        if_neg (Ne.symm htmp), lookupKey_insertKey, if_neg (Ne.symm htmp)]
  by_cases hpath : path = name
  · rw [if_pos hpath, Disk.mirrored, hlookup, if_pos hpath, hwritten, if_pos (by simp [hpath])]
  · rw [if_neg hpath] at hlookup ⊢
    by_cases htmp : name = tmp
    · subst htmp
      rw [mirrored_eq_none (hlookup.trans hfresh), mirrored_eq_none hfresh]
    · refine mirrored_congr ?_ hlookup
      simp [hwritten, htmp, Ne.symm hpath]

theorem mirrored_publishLoop {order : List (String × β)}
    (h : (publishLoop order).Ends diskSystem d none t) (hnodup : (order.map (·.1)).Nodup)
    (name : String) :
    t.mirrored name = ((lookupKey name order).map some).or (d.mirrored name) := by
  induction order generalizing d with
  | nil =>
    obtain ⟨-, rfl⟩ := h
    rfl
  | cons f order ih =>
    obtain ⟨path, data⟩ := f
    rw [List.map_cons, List.nodup_cons] at hnodup
    obtain ⟨r, u, hwrite, hrest⟩ := Prog.Ends.of_bind h
    cases r with
    | some err => cases hrest.1
    | none =>
      rw [ih hrest hnodup.2, mirrored_writeFileAtomic hwrite, lookupKey]
      by_cases hpath : path = name
      · have hnone : lookupKey name order = none := by
          rw [← hpath, ← Option.not_isSome_iff_eq_none, ← mem_keys_iff]
          exact hnodup.1
        rw [if_pos hpath, if_pos hpath, hnone]
        rfl
      · rw [if_neg hpath, if_neg hpath]

theorem mirrored_publish {order files : List (String × β)}
    (h : (publish order).Ends diskSystem d none t) (horder : Iterates order files) (name : String) :
    t.mirrored name = ((lookupKey name files).map some).or (d.mirrored name) := by
  obtain ⟨x, u, ⟨hdirectory, hwritten⟩, hrest⟩ := h
  cases x with
  | some err => cases hrest.1
  | none =>
    rw [mirrored_publishLoop hrest horder.1, horder.2]
    congr 1
    exact mirrored_congr (by rw [hwritten]) (by rw [hdirectory])

theorem mirrored_removeStale {data : List (String × String)} {last : List String}
    (h : (removeStale data last).Ends diskSystem d none t) (name : String) :
    t.mirrored name =
      if name ∈ last ∧ lookupKey name data = none then none else d.mirrored name := by
  induction last generalizing d with
  | nil =>
    obtain ⟨-, rfl⟩ := h
    simp
  | cons stale last ih =>
    rw [removeStale] at h
    by_cases hkey : (lookupKey stale data).isSome = true
    · rw [if_pos hkey] at h
      rw [ih h]
      by_cases hname : name = stale
      · subst hname
        simp [Option.isSome_iff_ne_none.mp hkey]
      · simp [hname]
    · rw [if_neg hkey] at h
      obtain ⟨u, hgone, hothers, hrest⟩ : ∃ u, lookupKey stale u.directory = none ∧
          (∀ name, name ≠ stale → u.mirrored name = d.mirrored name) ∧
          (removeStale data last).Ends diskSystem u none t := by
        obtain ⟨x, u, hremove, hrest⟩ := h
        cases x with
        | none =>
          obtain ⟨hdirectory, hwritten⟩ := hremove
          refine ⟨u, ?_, fun name hname => mirrored_congr (by rw [hwritten]) ?_, hrest⟩
          · rw [hdirectory, lookupKey_filter_self]
          · rw [hdirectory, lookupKey_filter _ (by rintro e rfl; exact bne_iff_ne.mpr hname)]
        | some err =>
          obtain ⟨rfl, hmissing⟩ := hremove
          dsimp only at hrest
          split_ifs at hrest with hnotExist
          · exact ⟨u, hmissing hnotExist, fun _ _ => rfl, hrest⟩
          · cases hrest.1
      rw [ih hrest]
      rw [Option.not_isSome_iff_eq_none] at hkey
      by_cases hname : name = stale
      · subst hname
        simp [mirrored_eq_none hgone, hkey]
      · simp [hname, hothers name hname]

end Disk

/-! ## What a sync leaves -/

def Exact (configMap : ConfigMap) (d : Disk Bytes) : Prop :=
  ∀ name, d.mirrored name = (lookupKey name configMap.data).map fun contents => some (utf8 contents)

section Sync
variable {opts : KubernetesConfigMapMirrorOptions} {m m' : Mirror} {i : MirrorInput}
variable {configMap : ConfigMap} {d t : Disk Bytes}

theorem lookupKey_configMap_files (name : String) :
    lookupKey name configMap.files = (lookupKey name configMap.data).map utf8 := by
  rw [ConfigMap.files]
  induction configMap.data with
  | nil => rfl
  | cons f data ih =>
    rw [List.map_cons, lookupKey, lookupKey, ih]
    split_ifs
    · rfl
    · rfl

theorem syncOnce_cases (hread : i.read opts = .ok configMap)
    (h : (m.syncOnce opts i).Ends diskSystem d (none, m') t) :
    (configMap.resourceVersion = m.lastVersion ∧ m' = m ∧ t = d) ∨
      (configMap.resourceVersion ≠ m.lastVersion ∧
        m' = ⟨configMap.resourceVersion, configMap.data.map (·.1)⟩ ∧
        ∃ u, (publish i.order).Ends diskSystem d none u ∧
          (removeStale configMap.data i.last).Ends diskSystem u none t) := by
  rw [Mirror.syncOnce, hread] at h
  dsimp only at h
  split_ifs at h with hversion
  · obtain ⟨heq, rfl⟩ := h
    exact .inl ⟨beq_iff_eq.mp hversion, (congrArg Prod.snd heq).symm, rfl⟩
  · split at h
    · cases h.1
    · obtain ⟨r, u, hpublish, h⟩ := Prog.Ends.of_bind h
      cases r with
      | some err => cases h.1
      | none =>
        obtain ⟨r, v, hremove, h⟩ := Prog.Ends.of_bind h
        cases r with
        | some err => cases h.1
        | none =>
          obtain ⟨heq, rfl⟩ := h
          exact .inr ⟨fun heq => hversion (beq_iff_eq.mpr heq), (congrArg Prod.snd heq).symm, u,
            hpublish, hremove⟩

theorem syncOnce_failed_read {err : Error} {r : Option Error × Mirror}
    (hread : i.read opts = .error err) (h : (m.syncOnce opts i).Ends diskSystem d r t) :
    r = (some err, m) ∧ t = d := by
  rw [Mirror.syncOnce, hread] at h
  exact ⟨h.1.symm, h.2.symm⟩

theorem mirrored_published {u : Disk Bytes} (hiterates : i.Iterates m configMap)
    (hpublish : (publish i.order).Ends diskSystem d none u)
    (hremove : (removeStale configMap.data i.last).Ends diskSystem u none t) (name : String) :
    t.mirrored name = if name ∈ m.lastFiles ∧ lookupKey name configMap.data = none then none
      else ((lookupKey name configMap.data).map fun contents => some (utf8 contents)).or
        (d.mirrored name) := by
  rw [mirrored_removeStale hremove, mirrored_publish hpublish hiterates.order,
    lookupKey_configMap_files, Option.map_map]
  exact if_congr (and_congr_left' (hiterates.last name)) rfl rfl

theorem exact_published_iff {u : Disk Bytes} (hiterates : i.Iterates m configMap)
    (hpublish : (publish i.order).Ends diskSystem d none u)
    (hremove : (removeStale configMap.data i.last).Ends diskSystem u none t) :
    Exact configMap t ↔ ∀ name, d.mirrored name ≠ none →
      name ∈ m.lastFiles ∨ (lookupKey name configMap.data).isSome = true := by
  refine forall_congr' fun name => ?_
  rw [mirrored_published hiterates hpublish hremove]
  cases hkey : lookupKey name configMap.data with
  | some contents => simp
  | none => by_cases hlast : name ∈ m.lastFiles <;> simp [hlast]

end Sync

/-! ## Runs -/

/-- What a sync must find when it reads the ConfigMap. `clean` is the ConfigMap this process has
published last, unless a publication has failed since. -/
structure Covers (m : Mirror) (d : Disk Bytes) (clean : Option ConfigMap) (configMap : ConfigMap) :
    Prop where
  same : configMap.resourceVersion = m.lastVersion → clean = some configMap
  changed : configMap.resourceVersion ≠ m.lastVersion → clean = none →
    ∀ name, d.mirrored name ≠ none →
      name ∈ m.lastFiles ∨ (lookupKey name configMap.data).isSome = true

/-- The processes over one directory, one after another; `allows` is asked at every sync that
succeeds. -/
inductive MirrorRun (opts : KubernetesConfigMapMirrorOptions)
    (allows : Mirror → Disk Bytes → Option ConfigMap → ConfigMap → Prop) :
    Mirror → Disk Bytes → Option ConfigMap → Prop where
  | start (directory : Directory Bytes) : MirrorRun opts allows {} ⟨directory, []⟩ none
  | synced {m m' d t clean i configMap} (hrun : MirrorRun opts allows m d clean)
      (hread : i.read opts = .ok configMap) (hiterates : i.Iterates m configMap)
      (hallows : allows m d clean configMap)
      (h : (m.syncOnce opts i).Ends diskSystem d (none, m') t) :
      MirrorRun opts allows m' t (some configMap)
  | unread {m d clean err} {i : MirrorInput} (hrun : MirrorRun opts allows m d clean)
      (hread : i.read opts = .error err) : MirrorRun opts allows m d clean
  | failed {m m' d t clean i err} (hrun : MirrorRun opts allows m d clean)
      (hiterates : ∀ configMap, i.read opts = .ok configMap → i.Iterates m configMap)
      (h : (m.syncOnce opts i).Ends diskSystem d (some err, m') t) :
      MirrorRun opts allows m' t none
  | restart {m d clean} (hrun : MirrorRun opts allows m d clean) : MirrorRun opts allows {} d none
  | stopped {m d t clean i} (hrun : MirrorRun opts allows m d clean)
      (hiterates : ∀ configMap, i.read opts = .ok configMap → i.Iterates m configMap)
      (h : (m.syncOnce opts i).Partly diskSystem d t) : MirrorRun opts allows {} t none

section Runs
variable {opts : KubernetesConfigMapMirrorOptions} {m m' : Mirror} {i : MirrorInput}
variable {configMap : ConfigMap} {d t : Disk Bytes} {clean : Option ConfigMap}

def Remembers (m : Mirror) (d : Disk Bytes) (clean : Option ConfigMap) : Prop :=
  ∀ configMap ∈ clean, m.lastFiles = configMap.data.map (·.1) ∧ Exact configMap d

theorem Remembers.synced (hclean : Remembers m d clean) (hread : i.read opts = .ok configMap)
    (hiterates : i.Iterates m configMap) (hcovered : Covers m d clean configMap)
    (h : (m.syncOnce opts i).Ends diskSystem d (none, m') t) :
    m'.lastFiles = configMap.data.map (·.1) ∧ Exact configMap t := by
  rcases syncOnce_cases hread h with ⟨hsame, rfl, rfl⟩ | ⟨hchanged, rfl, u, hpublish, hremove⟩
  · exact hclean configMap (hcovered.same hsame)
  · refine ⟨rfl, (exact_published_iff hiterates hpublish hremove).mpr fun name hname => ?_⟩
    cases hlast : clean with
    | none => exact hcovered.changed hchanged hlast name hname
    | some last =>
      obtain ⟨hfiles, hexact⟩ := hclean last hlast
      rw [hexact name, ne_eq, Option.map_eq_none_iff, ← ne_eq, ← Option.isSome_iff_ne_none] at hname
      rw [hfiles]
      exact .inl (mem_keys_iff.mpr hname)

theorem MirrorRun.remembers (h : MirrorRun opts Covers m d clean) : Remembers m d clean := by
  induction h with
  | synced _ hread hiterates hcovered h ih =>
    rintro _ ⟨⟩
    exact ih.synced hread hiterates hcovered h
  | unread _ _ ih => exact ih
  | start | failed | restart | stopped =>
    intro configMap hnone
    cases hnone

end Runs

theorem writeFileAtomic_runs {β : Type} (d : Disk β) (path : String) (data : β) :
    ∃ t, (writeFileAtomic path data).Ends diskSystem d none t := by
  obtain ⟨tmp, htmp, hfresh⟩ := exists_temp d.directory
  let created : Disk β := ⟨insertKey tmp none d.directory, tmp :: d.written⟩
  let written : Disk β := ⟨insertKey tmp (some data) created.directory, created.written⟩
  have hcreate : diskSystem .createTemp d (.ok tmp) created := ⟨⟨htmp, hfresh, rfl⟩, rfl⟩
  have hwrite : diskSystem (.on (.write tmp data)) created none written := ⟨rfl, rfl⟩
  refine ⟨⟨_, path :: written.written⟩, writeFileAtomic_completes hcreate ⟨rfl, rfl⟩ hwrite
    ⟨rfl, rfl⟩ (fun _ => ⟨rfl, rfl⟩) ⟨⟨some data, ?_, rfl⟩, rfl⟩⟩
  rw [lookupKey_insertKey, if_pos rfl]

theorem publish_runs {β : Type} (d : Disk β) (order : List (String × β)) :
    ∃ t, (publish order).Ends diskSystem d none t :=
  publish_completes (fun _ => ⟨rfl, rfl⟩) writeFileAtomic_runs d order

theorem removeStale_runs {β : Type} (d : Disk β) (data : List (String × String))
    (last : List String) : ∃ t, (removeStale data last).Ends diskSystem d none t := by
  induction last generalizing d with
  | nil => exact ⟨d, rfl, rfl⟩
  | cons name rest ih =>
    rw [removeStale]
    split_ifs
    · exact ih d
    · obtain ⟨t, ht⟩ := ih ⟨d.directory.filter (·.1 != name), d.written⟩
      exact ⟨t, none, ⟨d.directory.filter (·.1 != name), d.written⟩, ⟨rfl, rfl⟩, ht⟩

theorem syncOnce_runs {opts : KubernetesConfigMapMirrorOptions} {m : Mirror} {i : MirrorInput}
    {configMap : ConfigMap} (hread : i.read opts = .ok configMap)
    (hversion : (configMap.resourceVersion == m.lastVersion) = false)
    (hsafe : configMap.data.find? (unsafeKey ·.1) = none) (d : Disk Bytes) :
    ∃ t, (m.syncOnce opts i).Ends diskSystem d
      (none, ⟨configMap.resourceVersion, configMap.data.map (·.1)⟩) t := by
  obtain ⟨u, hu⟩ := publish_runs d i.order
  obtain ⟨t, ht⟩ := removeStale_runs u configMap.data i.last
  refine ⟨t, ?_⟩
  rw [Mirror.syncOnce, hread]
  dsimp only
  rw [hversion, if_neg Bool.false_ne_true, hsafe]
  exact hu.bind (ht.bind ⟨rfl, rfl⟩)

def sampleMirrorOptions : KubernetesConfigMapMirrorOptions where
  apiURL := "https://kubernetes"
  «namespace» := "fleet"
  name := "router"
  pathEscape := id

def sampleSync (text : String) (order : List (String × Bytes)) (last : List String) :
    MirrorInput where
  token := .ok "token"
  get _ := .response 200 "200 OK" (utf8 text)
  order := order
  last := last

def firstSync : MirrorInput :=
  sampleSync "\x7b\"metadata\":\x7b\"resourceVersion\":\"1\"\x7d,\"data\":\x7b\"a\":\"x\"\x7d\x7d"
    [("a", utf8 "x")] []

def emptySync (last : List String) : MirrorInput :=
  sampleSync "\x7b\"metadata\":\x7b\"resourceVersion\":\"2\"\x7d,\"data\":\x7b\x7d\x7d" [] last

theorem firstSync_read : firstSync.read sampleMirrorOptions = .ok ⟨"1", [("a", "x")]⟩ := by
  rfl

theorem emptySync_read (last : List String) :
    (emptySync last).read sampleMirrorOptions = .ok ⟨"2", []⟩ := by
  rfl

theorem firstSync_iterates : firstSync.Iterates {} ⟨"1", [("a", "x")]⟩ :=
  ⟨.of_perm (List.Perm.refl _) (List.nodup_singleton _), fun _ => Iff.rfl⟩

theorem emptySync_iterates (m : Mirror) : (emptySync m.lastFiles).Iterates m ⟨"2", []⟩ :=
  ⟨.of_perm (List.Perm.refl _) List.nodup_nil, fun _ => Iff.rfl⟩

/-- In every run whose syncs are all covered: after a sync without an error the files of the mirror
are those of the ConfigMap just read; and a failed read leaves everything as it is. -/
theorem mirror_exact {opts : KubernetesConfigMapMirrorOptions} {m : Mirror} {d : Disk Bytes}
    {clean : Option ConfigMap} (hrun : MirrorRun opts Covers m d clean) (i : MirrorInput) :
    (∀ configMap m' t, i.read opts = .ok configMap → i.Iterates m configMap →
      Covers m d clean configMap → (m.syncOnce opts i).Ends diskSystem d (none, m') t →
      Exact configMap t) ∧
    ∀ err r t, i.read opts = .error err → (m.syncOnce opts i).Ends diskSystem d r t → t = d :=
  ⟨fun _ _ _ hread hiterates hcovered h => (hrun.remembers.synced hread hiterates hcovered h).2,
    fun _ _ _ hread h => (syncOnce_failed_read hread h).2⟩

theorem covered_first (configMap : ConfigMap) (hversion : configMap.resourceVersion ≠ "") :
    Covers {} {} none configMap :=
  ⟨fun hsame => absurd hsame hversion, fun _ _ _ hname => absurd (mirrored_eq_none rfl) hname⟩

/-- A process that has published a file removes it when the key is gone. -/
theorem removed_key_exact :
    ∃ d t, (Mirror.syncOnce ⟨"1", ["a"]⟩ sampleMirrorOptions (emptySync ["a"])).Ends diskSystem d
        (none, ⟨"2", []⟩) t ∧ d.mirrored "a" = some (some (utf8 "x")) ∧ Exact ⟨"2", []⟩ t := by
  obtain ⟨d, hfirst⟩ := @syncOnce_runs sampleMirrorOptions {} _ _ firstSync_read rfl rfl {}
  obtain ⟨t, hempty⟩ := @syncOnce_runs sampleMirrorOptions ⟨"1", ["a"]⟩ _ _ (emptySync_read ["a"])
    rfl rfl d
  have hrun : MirrorRun sampleMirrorOptions Covers ⟨"1", ["a"]⟩ d (some ⟨"1", [("a", "x")]⟩) :=
    .synced (.start []) firstSync_read firstSync_iterates (covered_first _ (by decide)) hfirst
  refine ⟨d, t, hempty, (hrun.remembers _ rfl).2 "a", (mirror_exact hrun _).1 _ _ t (emptySync_read _)
    (emptySync_iterates _) ⟨fun hsame => ?_, nofun⟩ hempty⟩
  exact absurd hsame (by decide)

/-- A process that starts anew does not know the file of an earlier one, and leaves it when the
ConfigMap has lost the key. -/
theorem stale_file_after_restart :
    ∃ d t, MirrorRun sampleMirrorOptions (fun _ _ _ _ => True) {} d none ∧
      (({} : Mirror).syncOnce sampleMirrorOptions (emptySync [])).Ends diskSystem d
        (none, ⟨"2", []⟩) t ∧ ¬ Exact ⟨"2", []⟩ t := by
  obtain ⟨d, hfirst⟩ := @syncOnce_runs sampleMirrorOptions {} _ _ firstSync_read rfl rfl {}
  obtain ⟨t, hempty⟩ := @syncOnce_runs sampleMirrorOptions {} _ _ (emptySync_read []) rfl rfl d
  have hfile := (MirrorRun.remembers (.synced (.start []) firstSync_read firstSync_iterates
    (covered_first _ (by decide)) hfirst) _ rfl).2 "a"
  refine ⟨d, t, .restart (.synced (.start []) firstSync_read firstSync_iterates trivial hfirst),
    hempty, fun hexact => ?_⟩
  obtain ⟨hsame, -⟩ | ⟨-, -, u, hpublish, hremove⟩ := syncOnce_cases (emptySync_read []) hempty
  · exact absurd hsame (by decide)
  · have hkept := (exact_published_iff (emptySync_iterates {}) hpublish hremove).mp hexact "a"
      (by rw [hfile]; nofun)
    rcases hkept with hlast | hkey
    · cases hlast
    · cases hkey

end FleetLlmd.Routing
