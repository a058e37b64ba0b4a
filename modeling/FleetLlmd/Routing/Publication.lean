import FleetLlmd.Routing.Provider

/-!
# What a sync publishes

For every sequence of syncs of one provider: a publication consists of the index and one
file for each model rendered so far, and the file of a model lists one endpoint for each
listed cluster that is known, eligible and supports the model at the time of the call.
-/

namespace FleetLlmd.Routing
open Go Json
open Inference (mem_sortStrings)

section Spec
variable (opts : LLMDProviderOptions) (c : SyncCall)

def servedAt (clusters : List FleetClusterInfo) (model : String) (p : Occurrence × Time) :
    Option LLMDClusterEndpoint :=
  if p.1.model = model then
    (qualified opts clusters p.2 p.1).bind fun cluster =>
      (endpoint opts cluster p.1.pool model).toOption
  else none

def SyncCall.served (model : String) : List LLMDClusterEndpoint :=
  c.timed.filterMap (servedAt opts c.clusters model)

def SyncCall.Renders : Prop :=
  ∀ p ∈ c.timed, ∀ cluster, qualified opts c.clusters p.2 p.1 = some cluster →
    ∃ e, endpoint opts cluster p.1.pool p.1.model = .ok e

def SyncCall.Rendered (model : String) : Prop := c.Renders opts ∧ c.served opts model ≠ []

def usedModels (calls : List SyncCall) : List String :=
  calls.flatMap fun c => (occurrences c.pools).map (·.model)

end Spec

section Render
variable {opts : LLMDProviderOptions} {clusters : List FleetClusterInfo}

variable {rest : List (Occurrence × Time)}

theorem renderLoop_ok {byModel result : ByModel}
    (h : renderLoop opts clusters rest byModel = .ok result) (model : String) :
    lookupKey model result =
      if rest.filterMap (servedAt opts clusters model) = [] then lookupKey model byModel
      else some ((lookupKey model byModel).getD [] ++
        rest.filterMap (servedAt opts clusters model)) := by
  induction rest generalizing byModel with
  | nil =>
    cases h
    rfl
  | cons p rest ih =>
    obtain ⟨o, now⟩ := p
    rw [renderLoop] at h
    cases hqualified : qualified opts clusters now o with
    | none =>
      rw [hqualified] at h
      have hnone : servedAt opts clusters model (o, now) = none := by
        rw [servedAt, hqualified]
        simp
      rw [List.filterMap_cons_none hnone]
      exact ih h
    | some cluster =>
      rw [hqualified] at h
      dsimp only at h
      cases hendpoint : endpoint opts cluster o.pool o.model with
      | error err =>
        rw [hendpoint] at h
        cases h
      | ok e =>
        rw [hendpoint] at h
        rw [ih h, ByModel.add, lookupKey_insertKey]
        by_cases hmodel : o.model = model
        · have hsome : servedAt opts clusters model (o, now) = some e := by
            rw [servedAt, if_pos hmodel, hqualified, ← hmodel, Option.bind_some, hendpoint]
            rfl
          rw [List.filterMap_cons_some hsome, if_pos hmodel, ← hmodel, if_neg (List.cons_ne_nil _ _)]
          split_ifs with hrest
          · rw [hrest]
          · rw [Option.getD_some, List.append_assoc, List.singleton_append]
        · have hnone : servedAt opts clusters model (o, now) = none := if_neg hmodel
          rw [List.filterMap_cons_none hnone, if_neg hmodel]

theorem renderLoop_isOk (byModel : ByModel) :
    (∃ result, renderLoop opts clusters rest byModel = .ok result) ↔
      ∀ p ∈ rest, ∀ cluster, qualified opts clusters p.2 p.1 = some cluster →
        ∃ e, endpoint opts cluster p.1.pool p.1.model = .ok e := by
  induction rest generalizing byModel with
  | nil => simp [renderLoop]
  | cons p rest ih =>
    rw [List.forall_mem_cons]
    obtain ⟨o, now⟩ := p
    rw [renderLoop]
    cases hqualified : qualified opts clusters now o with
    | none => simp [ih]
    | some cluster =>
      cases hendpoint : endpoint opts cluster o.pool o.model with
      | error err => simp [hendpoint]
      | ok e => simp [ih, hendpoint]

end Render

section Files
variable {opts : LLMDProviderOptions} {c : SyncCall} {byModel : ByModel}

theorem renders_iff : (∃ byModel, c.render opts = .ok byModel) ↔ c.Renders opts :=
  renderLoop_isOk []

theorem lookupKey_render (h : c.render opts = .ok byModel) (model : String) :
    lookupKey model byModel =
      if c.served opts model = [] then none else some (c.served opts model) :=
  renderLoop_ok h model

theorem mem_models (h : c.render opts = .ok byModel) {model : String} :
    model ∈ byModel.models ↔ c.Rendered opts model := by
  rw [ByModel.models, mem_sortStrings, mem_keys_iff, lookupKey_render h, SyncCall.Rendered,
    and_iff_right (renders_iff.mp ⟨byModel, h⟩)]
  split_ifs with hserved
  · simp [hserved]
  · simp [hserved]

theorem render_of_rendered {model : String} (h : c.Rendered opts model) :
    ∃ byModel, c.render opts = .ok byModel ∧ model ∈ byModel.models := by
  obtain ⟨byModel, hrender⟩ := renders_iff.mpr h.1
  exact ⟨byModel, hrender, (mem_models hrender).mpr h⟩

theorem SyncCall.Rendered.used {calls : List SyncCall} (hc : c ∈ calls) {model : String}
    (h : c.Rendered opts model) : model ∈ usedModels calls := by
  obtain ⟨e, he⟩ := List.exists_mem_of_ne_nil _ h.2
  obtain ⟨p, hp, hserved⟩ := List.mem_filterMap.mp he
  obtain ⟨q, hq, rfl⟩ := List.mem_map.mp hp
  refine List.mem_flatMap.mpr ⟨c, hc, List.mem_map.mpr ⟨q.1, List.fst_mem_of_mem_zipIdx hq, ?_⟩⟩
  rw [servedAt] at hserved
  split_ifs at hserved with hmodel
  exact hmodel

theorem modelFilename_ne_index (model : String) : modelFilename model ≠ "index.json" := by
  intro h
  have hhead := congrArg (fun s => s.toList.head?) h
  simp [modelFilename] at hhead

theorem lookupKey_tombstones (name : String) (seenFiles : SeenFiles) (files : Files) :
    lookupKey name (tombstones seenFiles files) =
      if (lookupKey name files).isSome then lookupKey name files
      else if name ∈ seenFiles then some (.endpoints []) else none := by
  induction seenFiles generalizing files with
  | nil =>
    rw [tombstones, List.foldl_nil]
    cases lookupKey name files <;> simp
  | cons seen seenFiles ih =>
    rw [tombstones, List.foldl_cons, ← tombstones, ih]
    by_cases hseen : (lookupKey seen files).isSome = true
    · rw [if_pos hseen]
      by_cases hname : name = seen
      · rw [hname, if_pos hseen, if_pos hseen]
      · simp [hname]
    · rw [if_neg hseen, lookupKey_insertKey]
      by_cases hname : seen = name
      · subst hname
        simp [hseen]
      · simp [hname, Ne.symm hname]

end Files

variable {seenFiles : SeenFiles}

theorem sync_ok {opts : LLMDProviderOptions} {c : SyncCall} {files : Files}
    (h : (sync opts c seenFiles).1 = .ok files) : ∃ byModel, c.render opts = .ok byModel ∧
      insertKey "index.json" byModel.index
        (tombstones (byModel.models.map modelFilename ++ seenFiles) byModel.files) = files := by
  rw [sync] at h
  cases hrender : c.render opts with
  | error err =>
    rw [hrender] at h
    cases h
  | ok byModel =>
    rw [hrender] at h
    exact ⟨byModel, rfl, Except.ok.inj h⟩

theorem sync_isOk {opts : LLMDProviderOptions} {c : SyncCall} :
    (∃ files, (sync opts c seenFiles).1 = .ok files) ↔ c.Renders opts := by
  rw [← renders_iff, sync]
  cases c.render opts with
  | error err => simp
  | ok byModel => simp

/-! ## The endpoints of a file -/

section Endpoints
variable {opts : LLMDProviderOptions} {c : SyncCall} {e : LLMDClusterEndpoint}

theorem lookupKey_setNonEmpty {k key value : String} (hkey : key ≠ k) (labels : Clusters.Labels) :
    lookupKey k (setNonEmpty key value labels) = lookupKey k labels := by
  rw [setNonEmpty]
  split_ifs
  · rw [lookupKey_insertKey, if_neg hkey]
  · rfl

theorem endpoint_labels {cluster : FleetClusterInfo} {pool : FleetPoolInfo} {model : String}
    (h : endpoint opts cluster pool model = .ok e) :
    ∃ routingURL metricsURL, e.labels = endpointLabels cluster model routingURL metricsURL := by
  rw [endpoint] at h
  cases hrouting : parseEndpoint opts.parseURL cluster.routingEndpoint pool.targetPorts with
  | error err =>
    rw [hrouting] at h
    cases h
  | ok routingURL =>
    rw [hrouting] at h
    dsimp only at h
    split_ifs at h
    cases hmetrics : parseEndpoint opts.parseURL (metricsRaw cluster) pool.targetPorts with
    | error err =>
      rw [hmetrics] at h
      cases h
    | ok metricsURL =>
      rw [hmetrics] at h
      dsimp only at h
      split_ifs at h
      exact ⟨routingURL, metricsURL, congrArg LLMDClusterEndpoint.labels (Except.ok.inj h).symm⟩

theorem served_cases {clusters : List FleetClusterInfo} {model : String} {p : Occurrence × Time}
    (h : servedAt opts clusters model p = some e) :
    ∃ cluster, qualified opts clusters p.2 p.1 = some cluster ∧
      endpoint opts cluster p.1.pool p.1.model = .ok e := by
  rw [servedAt] at h
  split_ifs at h with hmodel
  obtain ⟨cluster, hqualified, hendpoint⟩ := Option.bind_eq_some_iff.mp h
  refine ⟨cluster, hqualified, ?_⟩
  rw [hmodel]
  cases hresult : endpoint opts cluster p.1.pool model with
  | error err =>
    rw [hresult] at hendpoint
    cases hendpoint
  | ok e' =>
    rw [hresult] at hendpoint
    rw [Option.some.inj hendpoint]

theorem served_model {model : String} (h : e ∈ c.served opts model) :
    lookupKey "model" e.labels = some model := by
  obtain ⟨p, -, hat⟩ := List.mem_filterMap.mp h
  have hmodel : p.1.model = model := by
    by_contra hne
    rw [servedAt, if_neg hne] at hat
    cases hat
  obtain ⟨cluster, -, hendpoint⟩ := served_cases hat
  obtain ⟨routingURL, metricsURL, hlabels⟩ := endpoint_labels hendpoint
  rw [hlabels, endpointLabels, lookupKey_setNonEmpty (by decide),
    lookupKey_setNonEmpty (by decide), lookupKey_setNonEmpty (by decide), lookupKey_ofEntries,
    ← hmodel]
  rfl

theorem mem_tombstones {files : Files} {f : String × RouterFile}
    (h : f ∈ tombstones seenFiles files) : f.2 = .endpoints [] ∨ f ∈ files := by
  induction seenFiles generalizing files with
  | nil => exact .inr h
  | cons seen seenFiles ih =>
    rw [tombstones, List.foldl_cons, ← tombstones] at h
    rcases ih h with hempty | hmem
    · exact .inl hempty
    · split_ifs at hmem
      · exact .inr hmem
      · rcases mem_insertKey hmem with rfl | hmem
        · exact .inl rfl
        · exact .inr hmem

theorem served_of_published {files : Files} {name : String}
    {es : List LLMDClusterEndpoint} (h : (sync opts c seenFiles).1 = .ok files)
    (hf : (name, RouterFile.endpoints es) ∈ files) (he : e ∈ es) :
    ∃ model, name = modelFilename model ∧ e ∈ c.served opts model := by
  obtain ⟨byModel, hrender, rfl⟩ := sync_ok h
  rcases mem_insertKey hf with heq | hf
  · cases heq
  · rcases mem_tombstones hf with hempty | hf
    · rw [RouterFile.endpoints.inj hempty] at he
      cases he
    · obtain ⟨model, hmodel, heq⟩ := List.mem_map.mp (mem_ofEntries hf)
      obtain ⟨rfl, hes⟩ := Prod.mk.inj heq
      rw [← RouterFile.endpoints.inj hes, sortByName, List.mem_insertionSort,
        lookupKey_render hrender, if_neg ((mem_models hrender).mp hmodel).2] at he
      exact ⟨model, rfl, he⟩

end Endpoints

/-! ## Sequences of syncs -/

def seenAfter (opts : LLMDProviderOptions) (calls : List SyncCall) : SeenFiles :=
  calls.foldl (fun seenFiles c => (sync opts c seenFiles).2) []

structure Published (opts : LLMDProviderOptions) (earlier : List SyncCall) (c : SyncCall)
    (files : Files) : Prop where
  names : ∀ name, (lookupKey name files).isSome = true ↔ name = "index.json" ∨
    ∃ c' ∈ earlier ++ [c], ∃ model, c'.Rendered opts model ∧ name = modelFilename model
  endpoints : ∀ c' ∈ earlier ++ [c], ∀ model, c'.Rendered opts model →
    ∃ es, lookupKey (modelFilename model) files = some (.endpoints es) ∧
      es.Perm (c.served opts model)
  index : ∃ models, lookupKey "index.json" files = some (.index "v1" models) ∧
    ∀ model name, lookupKey model models = some name ↔
      c.served opts model ≠ [] ∧ name = modelFilename model

section Sequences
variable {opts : LLMDProviderOptions} {c : SyncCall} {byModel : ByModel}

variable {seenFiles : SeenFiles} {name : String}

theorem mem_sync_seen :
    name ∈ (sync opts c seenFiles).2 ↔
      name ∈ seenFiles ∨ ∃ model, c.Rendered opts model ∧ name = modelFilename model := by
  rw [sync]
  cases hrender : c.render opts with
  | error err =>
    refine ⟨.inl, fun h => h.resolve_right ?_⟩
    rintro ⟨model, hrendered, -⟩
    obtain ⟨byModel, hok, -⟩ := render_of_rendered hrendered
    cases hrender.symm.trans hok
  | ok byModel =>
    rw [List.mem_append, List.mem_map, or_comm]
    simp only [mem_models hrender, eq_comm]

theorem mem_seenAfter {calls : List SyncCall} :
    name ∈ seenAfter opts calls ↔
      ∃ c ∈ calls, ∃ model, c.Rendered opts model ∧ name = modelFilename model := by
  suffices hgen : ∀ seenFiles : SeenFiles,
      name ∈ calls.foldl (fun seenFiles c => (sync opts c seenFiles).2) seenFiles ↔
        name ∈ seenFiles ∨
          ∃ c ∈ calls, ∃ model, c.Rendered opts model ∧ name = modelFilename model by
    rw [seenAfter, hgen]
    simp
  induction calls with
  | nil => simp
  | cons c calls ih =>
    intro seenFiles
    rw [List.foldl_cons, ih, mem_sync_seen, or_assoc]
    simp

theorem seenAfter_append {earlier : List SyncCall} (hrender : c.render opts = .ok byModel) :
    seenAfter opts (earlier ++ [c]) =
      byModel.models.map modelFilename ++ seenAfter opts earlier := by
  rw [seenAfter, List.foldl_append, ← seenAfter, List.foldl_cons, List.foldl_nil, sync, hrender]

theorem lookupKey_files (hrender : c.render opts = .ok byModel) {model : String}
    (hmodel : model ∈ byModel.models)
    (hinj : ∀ m ∈ byModel.models, modelFilename m = modelFilename model → m = model) :
    lookupKey (modelFilename model) byModel.files =
      some (.endpoints (sortByName (c.served opts model))) := by
  have hserved : (lookupKey model byModel).getD [] = c.served opts model := by
    rw [lookupKey_render hrender, if_neg ((mem_models hrender).mp hmodel).2]
    rfl
  rw [← hserved]
  refine lookupKey_ofEntries_map hmodel fun m hm hname => ?_
  rw [hinj m hm hname]

theorem lookupKey_published (hname : name ≠ "index.json") :
    lookupKey name (insertKey "index.json" byModel.index (tombstones seenFiles byModel.files)) =
      if (lookupKey name byModel.files).isSome then lookupKey name byModel.files
      else if name ∈ seenFiles then some (.endpoints []) else none := by
  rw [lookupKey_insertKey, if_neg (Ne.symm hname), lookupKey_tombstones]

theorem sync_isSome {files : Files} (h : (sync opts c seenFiles).1 = .ok files) :
    (lookupKey name files).isSome = true ↔
      name = "index.json" ∨ name ∈ (sync opts c seenFiles).2 := by
  obtain ⟨byModel, hrender, rfl⟩ := sync_ok h
  rw [sync, hrender]
  by_cases hname : name = "index.json"
  · simp [hname, lookupKey_insertKey]
  · rw [or_iff_right hname, lookupKey_published hname]
    by_cases hfile : (lookupKey name byModel.files).isSome = true
    · obtain ⟨model, hmodel, rfl⟩ := lookupKey_ofEntries_isSome.mp hfile
      rw [if_pos hfile]
      exact iff_of_true hfile (List.mem_append_left _ (List.mem_map.mpr ⟨model, hmodel, rfl⟩))
    · rw [if_neg hfile]
      split_ifs with hmem
      · exact iff_of_true rfl hmem
      · exact iff_of_false Bool.false_ne_true hmem

theorem lookupKey_index (hrender : c.render opts = .ok byModel) (model name : String) :
    lookupKey model (ofEntries (byModel.models.map fun model => (model, modelFilename model))) =
      some name ↔ c.served opts model ≠ [] ∧ name = modelFilename model := by
  constructor
  · intro h
    obtain ⟨m, hm, rfl, rfl⟩ := mem_of_lookupKey_ofEntries h
    exact ⟨((mem_models hrender).mp hm).2, rfl⟩
  · rintro ⟨hserved, rfl⟩
    have hmodel := (mem_models hrender).mpr ⟨renders_iff.mp ⟨byModel, hrender⟩, hserved⟩
    exact @lookupKey_ofEntries_map _ _ byModel.models (fun m => m) modelFilename model hmodel
      fun m _ hm => congrArg modelFilename hm

/-- For every sequence of syncs, each publication is exactly what was rendered: the index and one
file for every model rendered so far, with the endpoints of the last call. -/
theorem published_exact (opts : LLMDProviderOptions) (earlier : List SyncCall) (c : SyncCall)
    (hinj : ∀ m ∈ usedModels (earlier ++ [c]), ∀ m' ∈ usedModels (earlier ++ [c]),
      modelFilename m = modelFilename m' → m = m') (files : Files)
    (h : (sync opts c (seenAfter opts earlier)).1 = .ok files) :
    Published opts earlier c files := by
  have hlast : c ∈ earlier ++ [c] := by simp
  have hnames (name : String) : (lookupKey name files).isSome = true ↔ name = "index.json" ∨
      ∃ c' ∈ earlier ++ [c], ∃ model, c'.Rendered opts model ∧ name = modelFilename model := by
    rw [sync_isSome h, ← mem_seenAfter, seenAfter, seenAfter, List.foldl_append]
    rfl
  obtain ⟨byModel, hrender, rfl⟩ := sync_ok h
  have hunique {c' : SyncCall} (hc' : c' ∈ earlier ++ [c]) {model : String}
      (hmodel : c'.Rendered opts model) (m : String) (hm : m ∈ byModel.models)
      (hname : modelFilename m = modelFilename model) : m = model :=
    hinj m (((mem_models hrender).mp hm).used hlast) model (hmodel.used hc') hname
  rw [← seenAfter_append hrender]
  refine ⟨seenAfter_append hrender ▸ hnames, fun c' hc' model hmodel => ?_, ?_⟩
  · rw [lookupKey_published (modelFilename_ne_index model)]
    by_cases hnow : c.Rendered opts model
    · have hmem := (mem_models hrender).mpr hnow
      rw [lookupKey_files hrender hmem (hunique hlast hnow)]
      exact ⟨_, rfl, List.perm_insertionSort _ _⟩
    · have hserved : c.served opts model = [] := by
        by_contra hne
        exact hnow ⟨renders_iff.mp ⟨byModel, hrender⟩, hne⟩
      have hfile : ¬ (lookupKey (modelFilename model) byModel.files).isSome = true := by
        intro hsome
        obtain ⟨m, hm, hname⟩ := lookupKey_ofEntries_isSome.mp hsome
        exact hnow (hunique hc' hmodel m hm hname ▸ (mem_models hrender).mp hm)
      rw [if_neg hfile, if_pos (mem_seenAfter.mpr ⟨c', hc', model, hmodel, rfl⟩), hserved]
      exact ⟨[], rfl, .nil⟩
  · refine ⟨_, ?_, lookupKey_index hrender⟩
    rw [lookupKey_insertKey, if_pos rfl]
    rfl

end Sequences

theorem ok_of_isOk {ε α : Type} {x : Except ε α} (h : x.isOk = true) : ∃ a, x = .ok a := by
  cases x with
  | error err => cases h
  | ok a => exact ⟨a, rfl⟩

def sampleOptions : LLMDProviderOptions where
  parseURL _ := some ⟨"https", "east.example:8443"⟩

def sampleCall (model : String) : SyncCall where
  clusters := [{ id := "east", egressAddress := "east.example:8443", status := "Running" }]
  pools := [{ name := "pool", modelName := model, clusters := ["east"] }]
  clock _ := Time.zero

/-- The second sync serves another model than the first. -/
theorem published_exact_sample :
    ∃ files, (sync sampleOptions (sampleCall "b") (seenAfter sampleOptions [sampleCall "a"])).1 =
      .ok files ∧ Published sampleOptions [sampleCall "a"] (sampleCall "b") files := by
  obtain ⟨files, hfiles⟩ : ∃ files, (sync sampleOptions (sampleCall "b")
      (seenAfter sampleOptions [sampleCall "a"])).1 = .ok files :=
    ok_of_isOk (by decide +kernel)
  exact ⟨files, hfiles, published_exact sampleOptions [sampleCall "a"] (sampleCall "b")
    (by decide +kernel) files hfiles⟩

end FleetLlmd.Routing
