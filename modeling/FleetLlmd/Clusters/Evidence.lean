import FleetLlmd.Clusters.FailClosed

/-!
# Evidence of drains and activations

The ledger keeps one entry for each idempotency key, and the client derives the key of a
decision without one from its type, its correlation ID and its content. The decision about
a drain or an activation names the action and the cluster and nothing else, and its type is
that of a placement. So the entries are not of the chains that are verified for these
actions, and repeating an action writes no new entry.
-/

namespace FleetLlmd.Clusters
open Go Ledger Effect Sql

/-! ## The ledger client -/

/-- `utf8.Valid`. -/
def validUTF8 (content : Bytes) : Bool := encodeRunes (runes content) == content

def normalizeDecision (decision : FleetDecision) : Except Error FleetDecision :=
  if !validUTF8 decision.content then
    .error (.sentinel ("immutable-ledger REST gateway accepts UTF-8 content only; " ++
      "use the canonical gRPC transport for arbitrary bytes"))
  else
    .ok
      { decision with
        contentType := if decision.contentType == "" then "application/json"
          else decision.contentType
        idempotencyKey :=
          if decision.idempotencyKey == "" then
            "fleet-" ++ hexEncode (sha256 (utf8 decision.type ++ [0] ++
              utf8 decision.correlationID ++ [0] ++ decision.content))
          else decision.idempotencyKey
        inputHash := if decision.inputHash == "" then hexEncode (sha256 decision.content)
          else decision.inputHash }

def writeEntry (decision : FleetDecision) (entries : List FleetDecision) : List FleetDecision :=
  match normalizeDecision decision with
  | .error _ => entries
  | .ok normalized =>
    if entries.any fun e => e.idempotencyKey == normalized.idempotencyKey then entries
    else normalized :: entries

def entriesOf (decisions : List FleetDecision) : List FleetDecision :=
  decisions.foldr writeEntry []

/-! ## Drains and activations -/

inductive Action where
  | drain (id : String)
  | activate (id : String)

namespace Action

def request : Action → ClusterRequest
  | .drain id => .drain id
  | .activate id => .activate id

def cluster : Action → String
  | .drain id => id
  | .activate id => id

def chainType : Action → String
  | .drain _ => "fleet.cluster.drain_started"
  | .activate _ => "fleet.cluster.activated"

theorem chainType_ne_placement (a : Action) : a.chainType ≠ "fleet.placement.assigned" := by
  cases a <;> simp [chainType]

def applies (a : Action) (r : ClusterRecord) : Bool :=
  match a with
  | .drain _ => r.status == clusterStatusRunning || r.status == clusterStatusHealthy ||
      r.status == clusterStatusDegraded
  | .activate _ => !(r.status == clusterStatusRunning || r.status == clusterStatusHealthy)

def goesThrough (env : Environment) (a : Action) (w : World) : Bool :=
  a.cluster != "" && (w.clusters.find a.cluster).any a.applies && (env.fault w.calls).isNone &&
    (env.fault (w.calls + 2)).isNone && (env.fault (w.calls + 3)).isNone

end Action

structure Step where
  action : Action
  before : World
  reply : Reply
  after : World

def Step.changes (s : Step) : Bool :=
  !s.reply.isError && (s.before.clusters.find s.action.cluster).map (·.status) !=
    (s.after.clusters.find s.action.cluster).map (·.status)

def steps (fc : FleetController) (env : Environment) : List Action → World → List Step
  | [], _ => []
  | a :: actions, w =>
    let handled := (fc.handle a.request).run (execute env) w
    ⟨a, w, handled.1, handled.2⟩ :: steps fc env actions handled.2

structure Evidenced (steps : List Step) (entries : List FleetDecision) : Prop where
  own : entries.length = (steps.filter (·.changes)).length
  chained : ∀ e ∈ entries, ∃ s ∈ steps, s.changes = true ∧ e.type = s.action.chainType

/-! ## What one action writes -/

def Placement (d : FleetDecision) : Prop :=
  d.type = "fleet.placement.assigned" ∧ validUTF8 d.content = true

theorem placementDecision_ok (model cluster : String) (replicas : Int) (gpuType reason : String) :
    ∃ d, placementDecision model cluster replicas gpuType reason = .ok d ∧ Placement d := by
  refine ⟨_, rfl, rfl, ?_⟩
  rw [validUTF8, runes_encodeRunes]
  exact beq_self_eq_true _

structure Accounts (env : Environment) (a : Action) (w : World) (reply : Reply) (w' : World) :
    Prop where
  through : a.goesThrough env w = true → reply.isError = false ∧
    (w.clusters.find a.cluster).map (·.status) ≠ (w'.clusters.find a.cluster).map (·.status) ∧
    ∃ d, Placement d ∧ w'.ledger = d :: w.ledger
  blocked : a.goesThrough env w = false → w'.ledger = w.ledger ∧
    (reply.isError = true ∨ w'.clusters = w.clusters)

section Actions
variable {fc : FleetController} {env : Environment} {a : Action} {w w₁ : World}
variable {current changed : ClusterRecord}

theorem Ends.mono {Q Q' : Reply → World → Prop} {p : Prog clusterCalls Reply} (h : Ends env Q p w)
    (hQ : ∀ reply w', Q reply w' → Q' reply w') : Ends env Q' p w :=
  hQ _ _ h

theorem accounts_blocked {reply : Reply} (hblocked : a.goesThrough env w = false)
    (hledger : w₁.ledger = w.ledger) (h : reply.isError = true ∨ w₁.clusters = w.clusters) :
    Accounts env a w reply w₁ :=
  ⟨fun hthrough => absurd (hblocked.symm.trans hthrough) Bool.false_ne_true,
    fun _ => ⟨hledger, h⟩⟩

theorem goesThrough_of_read (hne : a.cluster ≠ "") (hfault : env.fault w.calls = none)
    (hfind : w.clusters.find a.cluster = some current) (happlies : a.applies current = true) :
    a.goesThrough env w =
      ((env.fault (w.calls + 2)).isNone && (env.fault (w.calls + 3)).isNone) := by
  have hcluster : (a.cluster != "") = true := by simpa using hne
  rw [Action.goesThrough, hfind, hfault, Option.any_some, happlies, hcluster]
  simp

theorem changeRecord_accounts {entryType failed clusterID : String}
    {succeed : Prog clusterCalls Reply} (hledger : fc.HasLedger)
    (hsame : w₁.clusters = w.clusters ∧ w₁.ledger = w.ledger ∧ w₁.calls = w.calls + 2)
    (hne : a.cluster ≠ "") (hfault : env.fault w.calls = none)
    (hfind : w.clusters.find a.cluster = some current) (happlies : a.applies current = true)
    (hid : changed.id = current.id) (hname : changed.name = current.name)
    (hstatus : changed.status ≠ current.status)
    (hsucceed : ∀ w', Ends env (fun reply w'' => reply.isError = false ∧
      w''.clusters = w'.clusters ∧ w''.ledger = w'.ledger) succeed w') :
    Ends env (Accounts env a w)
      (fc.changeRecord entryType failed clusterID (cloneClusterRecord current) changed succeed)
      w₁ := by
  obtain ⟨hclusters, hrecords, hcalls⟩ := hsame
  have hthrough := goesThrough_of_read hne hfault hfind happlies
  have hkey : changed.id = a.cluster := hid.trans (Table.key_of_find hfind)
  obtain ⟨d, hdecision, hplacement⟩ := placementDecision_ok entryType clusterID 0 "" entryType
  rw [FleetController.changeRecord]
  apply ends_update_unless
  · intro err hfails
    refine accounts_blocked ?_ hrecords (.inl rfl)
    rw [hthrough, ← hcalls]
    cases hwrite : env.fault w₁.calls with
    | some err => rfl
    | none =>
      have hstored : w₁.clusters.find changed.id = some current := by rw [hclusters, hkey, hfind]
      exact absurd hname (hfails hwrite current hstored)
  · intro old t now hwrite hold hreplace
    have hstored : t.find a.cluster =
        some { changed with registeredAt := old.registeredAt, updatedAt := now } := by
      rw [Table.find_replace hreplace, if_pos hkey, ← hkey, hold]
      rfl
    rw [hcalls] at hwrite
    dsimp only [FleetController.recordToLedger]
    rw [if_neg (by rw [hledger.recorder]; decide), Prog.bind_assoc, hdecision, record,
      Prog.call_bind]
    have hnext : ({ w₁.next with clusters := t } : World).calls = w.calls + 3 :=
      congrArg (· + 1) hcalls
    apply ends_recordDecision
    · intro err hrecord
      rw [hnext] at hrecord
      have hblocked : a.goesThrough env w = false := by
        rw [hthrough, hwrite, hrecord]
        rfl
      rw [Prog.done_bind]
      dsimp only
      rw [if_neg (by simpa using hledger.gateway)]
      apply ends_update
      · exact fun rollbackErr => accounts_blocked hblocked hrecords (.inl rfl)
      · exact fun _ _ _ _ _ => accounts_blocked hblocked hrecords (.inl rfl)
    · intro hrecord
      rw [hnext] at hrecord
      have hdone : a.goesThrough env w = true := by
        rw [hthrough, hwrite, hrecord]
        rfl
      refine Ends.mono (hsucceed _) ?_
      rintro reply w' ⟨hok, hclusters', hledger'⟩
      refine ⟨fun _ => ⟨hok, ?_, d, hplacement, ?_⟩, fun h => absurd (hdone.symm.trans h) (by decide)⟩
      · have hafter := (congrArg (fun t => t.find a.cluster) hclusters').trans hstored
        rw [hafter, hfind]
        exact fun h => hstatus (Option.some.inj h).symm
      · rw [hledger', ← hrecords]
        rfl

theorem goesThrough_of_not_applies (hfind : w.clusters.find a.cluster = some current)
    (happlies : a.applies current = false) : a.goesThrough env w = false := by
  rw [Action.goesThrough, hfind, Option.any_some, happlies]
  simp

theorem goesThrough_of_not_read (h : env.fault w.calls = none → w.clusters.find a.cluster = none) :
    a.goesThrough env w = false := by
  rw [Action.goesThrough]
  cases hfault : env.fault w.calls with
  | some err => simp
  | none => simp [h hfault]

theorem drain_accounts (hledger : fc.HasLedger) (id : String) :
    Ends env (Accounts env (.drain id) w) (fc.handleDrainCluster id) w := by
  rw [FleetController.handleDrainCluster]
  split_ifs with hempty
  · refine accounts_blocked ?_ rfl (.inl rfl)
    rw [Action.goesThrough, Action.cluster, bne, hempty]
    rfl
  apply ends_get_unless
  · exact fun err h => accounts_blocked (goesThrough_of_not_read h) rfl (.inl rfl)
  intro current hfault hfind
  dsimp only
  have hother (h : (Action.drain id).applies current = false) {status : Nat} {message : Error} :
      Accounts env (.drain id) w (.error status message) w.next :=
    accounts_blocked (goesThrough_of_not_applies hfind h) rfl (.inl rfl)
  split_ifs with hdraining hdrained hstatus
  · rw [beq_iff_eq] at hdraining
    exact hother (by rw [Action.applies, hdraining]; decide)
  · rw [beq_iff_eq] at hdrained
    exact hother (by rw [Action.applies, hdrained]; decide)
  · simp only [bne, ← Bool.not_or, Bool.not_eq_true'] at hstatus
    exact hother hstatus
  · simp only [bne, ← Bool.not_or, Bool.not_eq_true, Bool.not_eq_false'] at hstatus
    refine ends_of_call rfl (changeRecord_accounts hledger ⟨rfl, rfl, rfl⟩ ?_ hfault hfind hstatus
      rfl rfl ?_ ?_)
    · exact fun h => hempty (beq_iff_eq.mpr h)
    · intro h
      exact hdraining (by simp [← h])
    · intro w'
      rw [FleetController.unbindSessions]
      split_ifs
      · exact ⟨rfl, rfl, rfl⟩
      · exact ⟨rfl, rfl, rfl⟩

theorem activate_accounts (hledger : fc.HasLedger) (id : String) :
    Ends env (Accounts env (.activate id) w) (fc.handleActivateCluster id) w := by
  rw [FleetController.handleActivateCluster]
  split_ifs with hempty
  · refine accounts_blocked ?_ rfl (.inl rfl)
    rw [Action.goesThrough, Action.cluster, bne, hempty]
    rfl
  apply ends_get_unless
  · exact fun err h => accounts_blocked (goesThrough_of_not_read h) rfl (.inl rfl)
  intro current hfault hfind
  dsimp only
  split_ifs with hstatus
  · refine accounts_blocked (goesThrough_of_not_applies hfind ?_) rfl (.inr rfl)
    rw [Action.applies, hstatus]
    rfl
  · refine ends_of_call rfl (changeRecord_accounts hledger ⟨rfl, rfl, rfl⟩ ?_ hfault hfind ?_ rfl
      rfl ?_ ?_)
    · exact fun h => hempty (beq_iff_eq.mpr h)
    · rw [Action.applies, Bool.not_eq_true']
      exact Bool.not_eq_true _ ▸ hstatus
    · intro h
      exact hstatus (by simp [← h])
    · exact fun w' => ⟨rfl, rfl, rfl⟩

theorem handle_accounts (hledger : fc.HasLedger) (a : Action) (w : World) :
    Ends env (Accounts env a w) (fc.handle a.request) w := by
  cases a with
  | drain id => exact drain_accounts hledger id
  | activate id => exact activate_accounts hledger id

end Actions

/-! ## Sequences of actions -/

theorem normalizeDecision_type {d normalized : FleetDecision}
    (h : normalizeDecision d = .ok normalized) : normalized.type = d.type := by
  rw [normalizeDecision] at h
  by_cases hvalid : (!validUTF8 d.content) = true
  · rw [if_pos hvalid] at h
    cases h
  · rw [if_neg hvalid] at h
    rw [← Except.ok.inj h]

theorem mem_entriesOf {decisions : List FleetDecision} {e : FleetDecision}
    (h : e ∈ entriesOf decisions) : ∃ d ∈ decisions, e.type = d.type := by
  induction decisions with
  | nil => cases h
  | cons d decisions ih =>
    rw [entriesOf, List.foldr_cons, ← entriesOf, writeEntry] at h
    have hlater (hmem : e ∈ entriesOf decisions) : ∃ d' ∈ d :: decisions, e.type = d'.type := by
      obtain ⟨d', hd', htype⟩ := ih hmem
      exact ⟨d', List.mem_cons_of_mem _ hd', htype⟩
    cases hnormal : normalizeDecision d with
    | error err =>
      rw [hnormal] at h
      exact hlater h
    | ok normalized =>
      rw [hnormal] at h
      dsimp only at h
      split_ifs at h with hexists
      · exact hlater h
      · rcases List.mem_cons.mp h with rfl | hmem
        · exact ⟨d, List.mem_cons_self, normalizeDecision_type hnormal⟩
        · exact hlater hmem

theorem entriesOf_ne_nil {d : FleetDecision} (h : Placement d) (decisions : List FleetDecision) :
    entriesOf (d :: decisions) ≠ [] := by
  obtain ⟨normalized, hnormal⟩ : ∃ normalized, normalizeDecision d = .ok normalized :=
    ⟨_, if_neg (by rw [h.2]; decide)⟩
  rw [entriesOf, List.foldr_cons, ← entriesOf, writeEntry, hnormal]
  dsimp only
  split_ifs with hexists
  · intro hnil
    rw [hnil] at hexists
    cases hexists
  · exact List.cons_ne_nil _ _

section Sequences
variable {fc : FleetController} {env : Environment}

def afterActions (fc : FleetController) (env : Environment) (actions : List Action) (w : World) :
    World :=
  serveAll fc env (actions.map (·.request)) w

theorem ledger_placements (env : Environment) (hledger : fc.HasLedger) (actions : List Action)
    {w : World}
    (hw : ∀ d ∈ w.ledger, Placement d) :
    ∀ d ∈ (afterActions fc env actions w).ledger, Placement d := by
  induction actions generalizing w with
  | nil => exact hw
  | cons a actions ih =>
    apply ih
    have haccounts : Accounts env a w _ _ := handle_accounts hledger a w
    cases hthrough : a.goesThrough env w with
    | false =>
      rw [(haccounts.blocked hthrough).1]
      exact hw
    | true =>
      obtain ⟨-, -, d, hplacement, hrecorded⟩ := haccounts.through hthrough
      rw [hrecorded]
      exact List.forall_mem_cons.mpr ⟨hplacement, hw⟩

theorem ledger_nonempty (hledger : fc.HasLedger) (actions : List Action) {w : World}
    (h : w.ledger ≠ [] ∨ ∃ s ∈ steps fc env actions w, s.action.goesThrough env s.before = true) :
    (afterActions fc env actions w).ledger ≠ [] := by
  induction actions generalizing w with
  | nil => exact h.resolve_right fun ⟨s, hs, _⟩ => nomatch hs
  | cons a actions ih =>
    apply ih
    have haccounts : Accounts env a w _ _ := handle_accounts hledger a w
    cases hthrough : a.goesThrough env w with
    | true =>
      obtain ⟨-, -, d, -, hrecorded⟩ := haccounts.through hthrough
      rw [hrecorded]
      exact .inl (List.cons_ne_nil _ _)
    | false =>
      rw [(haccounts.blocked hthrough).1]
      refine h.imp_right fun ⟨s, hs, hs'⟩ => ?_
      rcases List.mem_cons.mp hs with rfl | hs
      · exact absurd (hthrough.symm.trans hs') Bool.false_ne_true
      · exact ⟨s, hs, hs'⟩

theorem unchanged_after (hledger : fc.HasLedger) (actions : List Action) {w : World}
    (h : ∀ s ∈ steps fc env actions w, s.action.goesThrough env s.before = false) :
    (afterActions fc env actions w).ledger = w.ledger ∧
      ∀ s ∈ steps fc env actions w, s.changes = false := by
  induction actions generalizing w with
  | nil => exact ⟨rfl, nofun⟩
  | cons a actions ih =>
    have haccounts : Accounts env a w _ _ := handle_accounts hledger a w
    obtain ⟨hfirst, hlater⟩ := List.forall_mem_cons.mp h
    obtain ⟨hrecords, hunchanged⟩ := haccounts.blocked hfirst
    obtain ⟨hsame, hchanges⟩ := ih hlater
    refine ⟨hsame.trans hrecords, List.forall_mem_cons.mpr ⟨?_, hchanges⟩⟩
    rw [Step.changes]
    rcases hunchanged with herror | hclusters
    · rw [herror]
      rfl
    · dsimp only
      rw [hclusters, bne_self_eq_false, Bool.and_false]

/-- After a sequence of drains and activations, each one that changed a status has an entry of its
own in its chain exactly if there was none. -/
theorem evidenced_iff (env : Environment) (hledger : fc.HasLedger) (actions : List Action)
    (w : World) (hempty : w.ledger = []) :
    Evidenced (steps fc env actions w) (entriesOf (afterActions fc env actions w).ledger) ↔
      ∀ s ∈ steps fc env actions w, s.action.goesThrough env s.before = false := by
  constructor
  · intro h s hs
    by_contra hthrough
    have hnone : ∀ d ∈ w.ledger, Placement d := by
      rw [hempty]
      exact nofun
    have hplacements := ledger_placements env hledger actions hnone
    have hne := ledger_nonempty hledger actions (.inr ⟨s, hs, Bool.not_eq_false _ ▸ hthrough⟩)
    obtain ⟨d, decisions, hledger⟩ := List.exists_cons_of_ne_nil hne
    rw [hledger] at h hplacements
    obtain ⟨e, entries, hentries⟩ := List.exists_cons_of_ne_nil
      (entriesOf_ne_nil (hplacements d List.mem_cons_self) decisions)
    have hmem : e ∈ entriesOf (d :: decisions) := by
      rw [hentries]
      exact List.mem_cons_self
    obtain ⟨d', hd', htype⟩ := mem_entriesOf hmem
    obtain ⟨s', -, -, hchain⟩ := h.chained e hmem
    rw [htype, (hplacements d' hd').1] at hchain
    exact s'.action.chainType_ne_placement hchain.symm
  · intro h
    obtain ⟨hsame, hchanges⟩ := unchanged_after hledger actions h
    have hnone : (steps fc env actions w).filter (·.changes) = [] :=
      List.filter_eq_nil_iff.mpr fun s hs => by rw [hchanges s hs]; decide
    rw [hsame, hempty]
    exact ⟨by rw [hnone]; rfl, nofun⟩

end Sequences

/-- A drain whose write fails, and the activation of a cluster that is running. -/
theorem evidenced_unchanged :
    let actions : List Action := [.drain "east", .activate "east"]
    let w := sampleWorld "Running"
    Evidenced (steps ledgerController failingEnvironment actions w)
      (entriesOf (afterActions ledgerController failingEnvironment actions w).ledger) :=
  (evidenced_iff failingEnvironment ⟨rfl, by decide⟩ _ _ rfl).mpr (by decide +kernel)

/-- Three changes of one cluster leave two entries, none of them in the chain of its action. -/
theorem repeated_drain_shares_entry :
    let actions : List Action := [.drain "east", .activate "east", .drain "east"]
    let w := sampleWorld "Running"
    ((steps ledgerController quietEnvironment actions w).filter (·.changes)).length = 3 ∧
      (entriesOf (afterActions ledgerController quietEnvironment actions w).ledger).map (·.type) =
        ["fleet.placement.assigned", "fleet.placement.assigned"] := by
  decide +kernel

end FleetLlmd.Clusters
