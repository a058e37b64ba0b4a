import FleetLlmd.Effect.Outline
import FleetLlmd.Go.Int64
import FleetLlmd.Go.Time

/-!
# The leader elector

`pkg/controller/leader.go`: `Run` reads the lease, takes it when nobody holds it, and renews
it until a renewal fails. Every request, every `select` and every use of the flag that
`IsLeader` reports is a call of the program. The loops of the source are unbounded; here each
has as many rounds as its first argument allows, and a run that needs more is still going on.
-/

namespace FleetLlmd.Controller
open Go Effect

structure K8sLeaseMetadata where
  name : String
  namespace_ : String
  resourceVersion : String := ""
  deriving DecidableEq

structure K8sLeaseSpec where
  holderIdentity : String
  leaseDurationSeconds : Int
  acquireTime : String := ""
  renewTime : String := ""
  deriving DecidableEq

structure K8sLease where
  apiVersion : String
  kind : String
  metadata : K8sLeaseMetadata
  spec : K8sLeaseSpec
  deriving DecidableEq

def leaseName : String := "fleet-controller-leader"
def leaseDurationSecs : Int := 15

/-! ## Times of a lease -/

def takeMicros : List Char → Option (Int × List Char)
  | point :: a :: b :: c :: d :: e :: f :: cs =>
    if point ≠ '.' ∧ point ≠ ',' then none
    else if [a, b, c, d, e, f].all Time.isDecimal then
      some (digitsValue [a, b, c, d, e, f], cs)
    else if [b, c, d, e, f].all Time.isDecimal ∧
        (a = '+' ∨ a = '-' ∧ digitsValue [b, c, d, e, f] = 0) then
      some (digitsValue [b, c, d, e, f], cs)
    else none
  | _ => none

/-- `time.Parse("2006-01-02T15:04:05.000000Z", text)`. -/
def parseLeaseTime (text : String) : Option Time := do
  let (year, cs) ← Time.takeYear (chars text)
  let cs ← Time.takeChar '-' cs
  let (month, cs) ← Time.takeTwo 1 12 cs
  let cs ← Time.takeChar '-' cs
  let (day, cs) ← Time.takeTwo 1 31 cs
  let cs ← Time.takeChar 'T' cs
  let (hour, cs) ← Time.takeHour cs
  let cs ← Time.takeChar ':' cs
  let (minute, cs) ← Time.takeTwo 0 59 cs
  let cs ← Time.takeChar ':' cs
  let (second, cs) ← Time.takeTwo 0 59 cs
  let (micros, cs) ← takeMicros cs
  let cs ← Time.takeChar 'Z' cs
  if cs.isEmpty ∧ day ≤ Time.daysIn year month then
    let seconds := ((Time.daysOfDate year month day * 24 + hour) * 60 + minute) * 60 + second
    some ⟨seconds * 1000000000 + micros * 1000, 0⟩
  else none

/-- `t.UTC().Format("2006-01-02T15:04:05.000000Z")`. -/
@[irreducible] def leaseTime (t : Time) : String :=
  let seconds := t.nanos / 1000000000
  let (year, month, day) := Time.dateOfDays (seconds / 86400)
  let clock := seconds % 86400
  String.ofList (Time.padded 4 year ++ '-' :: Time.padded 2 month ++ '-' :: Time.padded 2 day ++
    'T' :: Time.padded 2 (clock / 3600) ++ ':' :: Time.padded 2 (clock / 60 % 60) ++
    ':' :: Time.padded 2 (clock % 60) ++ '.' :: Time.padded 6 (t.nanos % 1000000000 / 1000) ++ ['Z'])

/-! ## Calls -/

inductive PatchContext where
  | ctx
  | withdrawCtx
  deriving DecidableEq

structure Response where
  status : Nat
  body : Bytes

/-- `lease` is what `json.Unmarshal` makes of the body. -/
structure LeaseResponse extends Response where
  lease : Except Error K8sLease

inductive ElectorCall where
  | getLease
  | postLease (lease : K8sLease)
  | putLease (lease : K8sLease)
  | patchLabel (context : PatchContext) (pod value : String)
  | now
  /-- `select` with a default: whether the context is done. -/
  | ctxDone
  /-- `select` in `waitForLeaderRetry`: true for the timer, false for the context. -/
  | retryTimer
  /-- `select` in `renewLoop`: true for the ticker, false for the context. -/
  | renewTicker
  | loadLeader
  | storeLeader (leader : Bool)
  deriving DecidableEq

abbrev ElectorCall.Answer : ElectorCall → Type
  | .getLease => Except Error LeaseResponse
  | .postLease _ | .putLease _ | .patchLabel _ _ _ => Except Error Response
  | .now => Time
  | .ctxDone | .retryTimer | .renewTicker | .loadLeader => Bool
  | .storeLeader _ => Unit

abbrev electorCalls : Signature := ⟨ElectorCall, ElectorCall.Answer⟩

abbrev ElectorEvent := Event electorCalls

abbrev ElectorAction (α : Type) := Prog electorCalls α

/-! ## Requests -/

def errLeaseNotFound : Error := .sentinel "leader lease not found"
def contextCanceled : Error := .sentinel "context canceled"

def quoted (body : Bytes) : String := String.ofList (runes (body.take 200))

def writeFailure (format : String) (args : List String) : Except Error Response → Option Error
  | .error err => some err
  | .ok resp =>
    if 300 ≤ resp.status then
      some (.errorf format (args ++ [String.ofList (natText resp.status), quoted resp.body]))
    else none

def accepted : Except Error Response → Bool
  | .error _ => false
  | .ok resp => resp.status < 300

variable {args : List String} {answer : Except Error Response}

theorem accepted_iff {format : String} :
    accepted answer = true ↔ writeFailure format args answer = none := by
  cases answer with
  | error err => simp [accepted, writeFailure]
  | ok resp => simp [accepted, writeFailure]

theorem accepted_of_none {format : String}
    (h : writeFailure format args answer = none) : accepted answer = true := accepted_iff.mpr h

theorem not_accepted_of_some {format : String}
    {err : Error} (h : writeFailure format args answer = some err) :
    accepted answer = false := by
  rw [← Bool.not_eq_true, accepted_iff, h]
  nofun

def leaseRead : Except Error LeaseResponse → Except Error K8sLease
  | .error err => .error err
  | .ok resp =>
    if resp.status = 404 then .error errLeaseNotFound
    else if resp.status ≠ 200 then
      .error (.errorf "get lease: %d %s" [String.ofList (natText resp.status), quoted resp.body])
    else
      match resp.lease with
      | .error err => .error (.wrapf "unmarshal lease: %w" [] err)
      | .ok lease => .ok lease

structure LeaderElector where
  namespace_ : String
  identity : String
  deriving DecidableEq

namespace LeaderElector
variable (le : LeaderElector)

def getLease : ElectorAction (Except Error K8sLease) :=
  .call .getLease fun answer => .done (leaseRead answer)

@[simp] theorem getLease_bind {α : Type} (k : Except Error K8sLease → ElectorAction α) :
    getLease.bind k = .call .getLease fun answer => k (leaseRead answer) := rfl

def newLease (now : Time) : K8sLease where
  apiVersion := "coordination.k8s.io/v1"
  kind := "Lease"
  metadata := { name := leaseName, namespace_ := le.namespace_ }
  spec :=
    { holderIdentity := le.identity
      leaseDurationSeconds := leaseDurationSecs
      acquireTime := leaseTime now
      renewTime := leaseTime now }

def createLease : ElectorAction (Option Error) :=
  .call .now fun now => .call (.postLease (le.newLease now)) fun answer =>
    .done (writeFailure "%s lease: %d %s" ["POST"] answer)

def acquired (existing : K8sLease) (now : Time) : K8sLease :=
  { existing with
    spec :=
      { existing.spec with
        holderIdentity := le.identity
        acquireTime := leaseTime now
        renewTime := leaseTime now } }

def acquireLease (existing : K8sLease) : ElectorAction (Option Error) :=
  .call .now fun now => .call (.putLease (le.acquired existing now)) fun answer =>
    .done (writeFailure "%s lease: %d %s" ["PUT"] answer)

def isHeldByMe (lease : K8sLease) : Bool := lease.spec.holderIdentity == le.identity

def runOut (lease : K8sLease) (renewTime now : Time) : Bool :=
  int64 (lease.spec.leaseDurationSeconds * 1000000000) < now.sub renewTime

def isExpired (lease : K8sLease) : ElectorAction Bool :=
  match parseLeaseTime lease.spec.renewTime with
  | none => .done true
  | some renewTime => .call .now fun now => .done (runOut lease renewTime now)

def renewed (lease : K8sLease) (now : Time) : K8sLease :=
  { lease with spec := { lease.spec with renewTime := leaseTime now } }

@[simp] theorem renewed_metadata (lease : K8sLease) (now : Time) :
    (renewed lease now).metadata = lease.metadata := rfl
@[simp] theorem renewed_holderIdentity (lease : K8sLease) (now : Time) :
    (renewed lease now).spec.holderIdentity = lease.spec.holderIdentity := rfl

def renewLease : ElectorAction (Option Error) := do
  match ← getLease with
  | .error err => return some err
  | .ok lease =>
    if lease.spec.holderIdentity ≠ le.identity then
      return some (.errorf "lease held by %s, not %s" [lease.spec.holderIdentity, le.identity])
    else
      .call .now fun now => .call (.putLease (renewed lease now)) fun answer =>
        .done (writeFailure "%s lease: %d %s" ["PUT"] answer)

/-! ## The flag and the label -/

def setLeader (context : PatchContext) (leader : Bool) : ElectorAction (Option Error) :=
  .call (.patchLabel context le.identity (if leader then "true" else "false")) fun answer =>
    match writeFailure "patch leader pod label: %d %s" [] answer with
    | some err => .done (some err)
    | none => .call (.storeLeader leader) fun _ => .done none

def acquireServingLeadership : ElectorAction (Option Error) := do
  match ← le.setLeader .ctx true with
  | some err => .call (.storeLeader false) fun _ => .done (some err)
  | none => return none

/-! ## The loops -/

def renewLoop : Nat → ElectorAction Bool
  | 0 => .done false
  | rounds + 1 => .call .renewTicker fun ticked =>
    if ticked then do
      match ← le.renewLease with
      | some _ => (le.setLeader .ctx false).bind fun _ => .done true
      | none => renewLoop rounds
    else .call (.storeLeader false) fun _ => .done true

def serve (rounds : Nat) (format : String) (rest : ElectorAction (Option Error)) :
    ElectorAction (Option Error) := do
  match ← le.acquireServingLeadership with
  | some err => return some (.wrapf format [] err)
  | none =>
    if ← le.renewLoop rounds then rest else return none

/-- `waitForLeaderRetry` and what comes after it. -/
def orRetry (rest : ElectorAction (Option Error)) : ElectorAction (Option Error) :=
  .call .retryTimer fun fired => if fired then rest else .done (some contextCanceled)

def runLoop : Nat → ElectorAction (Option Error)
  | 0 => .done none
  | rounds + 1 => .call .ctxDone fun done =>
    if done then .call (.storeLeader false) fun _ => .done (some contextCanceled)
    else do
      match ← getLease with
      | .error err =>
        if !err.is errLeaseNotFound then orRetry (runLoop rounds)
        else
          match ← le.createLease with
          | some _ => orRetry (runLoop rounds)
          | none => le.serve rounds "publish new leader endpoint: %w" (runLoop rounds)
      | .ok lease =>
        if le.isHeldByMe lease then le.serve rounds "publish leader endpoint: %w" (runLoop rounds)
        else if ← isExpired lease then
          match ← le.acquireLease lease with
          | some _ => orRetry (runLoop rounds)
          | none => le.serve rounds "publish acquired leader endpoint: %w" (runLoop rounds)
        else
          .call .loadLeader fun leader =>
            if leader then (le.setLeader .ctx false).bind fun _ => orRetry (runLoop rounds)
            else orRetry (runLoop rounds)

def withdraw : ElectorAction Unit :=
  .call .loadLeader fun leader =>
    if leader then (le.setLeader .withdrawCtx false).bind fun _ => .done () else .done ()

def run (rounds : Nat) : ElectorAction (Option Error) := do
  match ← le.runLoop rounds with
  | none => return none
  | some err => le.withdraw.bind fun _ => .done (some err)

end LeaderElector

/-! ## The outline -/

inductive Rest where
  | top
  | retrying
  | returning (err : Error)
  | ended (err : Error)

inductive Point where
  | rest (r : Rest)
  | reading
  | absent
  | creating (lease : K8sLease)
  | judging (lease : K8sLease) (renewTime : Time)
  | expired (lease : K8sLease)
  | acquiring (existing lease : K8sLease)
  | notMine
  /-- The lease is held and the label is to be set; the format is that of the error. -/
  | won (format : String)
  | publishing
  | serving
  | ticked
  | renewable (lease : K8sLease)
  | renewing (existing lease : K8sLease)
  /-- The label is to be set to false. -/
  | withdrawing (context : PatchContext) (after : Rest)
  /-- The flag is to be set to false. -/
  | clearing (after : Rest)

inductive ElectorStep (le : LeaderElector) : Point → ElectorEvent → Point → Prop
  | cancelled : ElectorStep le (.rest .top) ⟨.ctxDone, true⟩ (.clearing (.returning contextCanceled))
  | live : ElectorStep le (.rest .top) ⟨.ctxDone, false⟩ .reading
  | unread {answer err} : leaseRead answer = .error err → err.is errLeaseNotFound = false →
      ElectorStep le .reading ⟨.getLease, answer⟩ (.rest .retrying)
  | notFound {answer err} : leaseRead answer = .error err → err.is errLeaseNotFound = true →
      ElectorStep le .reading ⟨.getLease, answer⟩ .absent
  | held {answer lease} : leaseRead answer = .ok lease → le.isHeldByMe lease = true →
      ElectorStep le .reading ⟨.getLease, answer⟩ (.won "publish leader endpoint: %w")
  | undated {answer lease} : leaseRead answer = .ok lease → le.isHeldByMe lease = false →
      parseLeaseTime lease.spec.renewTime = none →
      ElectorStep le .reading ⟨.getLease, answer⟩ (.expired lease)
  | dated {answer lease renewTime} : leaseRead answer = .ok lease → le.isHeldByMe lease = false →
      parseLeaseTime lease.spec.renewTime = some renewTime →
      ElectorStep le .reading ⟨.getLease, answer⟩ (.judging lease renewTime)
  | create {now} : ElectorStep le .absent ⟨.now, now⟩ (.creating (le.newLease now))
  | created {lease answer} : accepted answer = true →
      ElectorStep le (.creating lease) ⟨.postLease lease, answer⟩
        (.won "publish new leader endpoint: %w")
  | notCreated {lease answer} : accepted answer = false →
      ElectorStep le (.creating lease) ⟨.postLease lease, answer⟩ (.rest .retrying)
  | expire {lease renewTime now} : LeaderElector.runOut lease renewTime now = true →
      ElectorStep le (.judging lease renewTime) ⟨.now, now⟩ (.expired lease)
  | unexpired {lease renewTime now} : LeaderElector.runOut lease renewTime now = false →
      ElectorStep le (.judging lease renewTime) ⟨.now, now⟩ .notMine
  | acquire {lease now} :
      ElectorStep le (.expired lease) ⟨.now, now⟩ (.acquiring lease (le.acquired lease now))
  | acquired {existing lease answer} : accepted answer = true →
      ElectorStep le (.acquiring existing lease) ⟨.putLease lease, answer⟩
        (.won "publish acquired leader endpoint: %w")
  | notAcquired {existing lease answer} : accepted answer = false →
      ElectorStep le (.acquiring existing lease) ⟨.putLease lease, answer⟩ (.rest .retrying)
  | stillLeader : ElectorStep le .notMine ⟨.loadLeader, true⟩ (.withdrawing .ctx .retrying)
  | standby : ElectorStep le .notMine ⟨.loadLeader, false⟩ (.rest .retrying)
  | retry : ElectorStep le (.rest .retrying) ⟨.retryTimer, true⟩ (.rest .top)
  | retryCancelled :
      ElectorStep le (.rest .retrying) ⟨.retryTimer, false⟩ (.rest (.returning contextCanceled))
  | labelled {format answer} : accepted answer = true →
      ElectorStep le (.won format) ⟨.patchLabel .ctx le.identity "true", answer⟩ .publishing
  | notLabelled {format answer err} :
      writeFailure "patch leader pod label: %d %s" [] answer = some err →
      ElectorStep le (.won format) ⟨.patchLabel .ctx le.identity "true", answer⟩
        (.clearing (.returning (.wrapf format [] err)))
  | publish : ElectorStep le .publishing ⟨.storeLeader true, ()⟩ .serving
  | tick : ElectorStep le .serving ⟨.renewTicker, true⟩ .ticked
  | stop : ElectorStep le .serving ⟨.renewTicker, false⟩ (.clearing .top)
  | renewalUnread {answer err} : leaseRead answer = .error err →
      ElectorStep le .ticked ⟨.getLease, answer⟩ (.withdrawing .ctx .top)
  | taken {answer lease} : leaseRead answer = .ok lease →
      lease.spec.holderIdentity ≠ le.identity →
      ElectorStep le .ticked ⟨.getLease, answer⟩ (.withdrawing .ctx .top)
  | mine {answer lease} : leaseRead answer = .ok lease →
      lease.spec.holderIdentity = le.identity →
      ElectorStep le .ticked ⟨.getLease, answer⟩ (.renewable lease)
  | renew {lease now} : ElectorStep le (.renewable lease) ⟨.now, now⟩
      (.renewing lease (LeaderElector.renewed lease now))
  | renewed {existing lease answer} : accepted answer = true →
      ElectorStep le (.renewing existing lease) ⟨.putLease lease, answer⟩ .serving
  | notRenewed {existing lease answer} : accepted answer = false →
      ElectorStep le (.renewing existing lease) ⟨.putLease lease, answer⟩ (.withdrawing .ctx .top)
  | withdrawn {context after answer} : accepted answer = true →
      ElectorStep le (.withdrawing context after) ⟨.patchLabel context le.identity "false", answer⟩
        (.clearing after)
  | notWithdrawn {context after answer} : accepted answer = false →
      ElectorStep le (.withdrawing context after) ⟨.patchLabel context le.identity "false", answer⟩
        (.rest after)
  | clear {after} : ElectorStep le (.clearing after) ⟨.storeLeader false, ()⟩ (.rest after)
  | leaving {err} : ElectorStep le (.rest (.returning err)) ⟨.loadLeader, true⟩
      (.withdrawing .withdrawCtx (.ended err))
  | left {err} : ElectorStep le (.rest (.returning err)) ⟨.loadLeader, false⟩ (.rest (.ended err))

namespace LeaderElector
open Prog
variable {le : LeaderElector}

/-- `Run` has returned with this error, or it is still going on. -/
def FinalPoint (p : Point) (result : Option Error) : Prop := ∀ err ∈ result, p = .rest (.ended err)

theorem setLeader_false_follows (context : PatchContext) (after : Rest) :
    (le.setLeader context false).Follows (ElectorStep le) (fun q _ => q = .rest after)
      (.withdrawing context after) := by
  intro answer
  dsimp only
  cases hanswer : writeFailure "patch leader pod label: %d %s" [] answer with
  | some err => exact ⟨_, .notWithdrawn (not_accepted_of_some hanswer), rfl⟩
  | none =>
    exact ⟨.clearing after, .withdrawn (accepted_of_none hanswer), fun _ => ⟨_, .clear, rfl⟩⟩

def Served (format : String) (q : Point) : Option Error → Prop
  | none => q = .serving
  | some err => q = .rest (.returning (.wrapf format [] err))

theorem acquireServingLeadership_follows (format : String) :
    le.acquireServingLeadership.Follows (ElectorStep le) (Served format) (.won format) := by
  intro answer
  dsimp only
  cases hanswer : writeFailure "patch leader pod label: %d %s" [] answer with
  | some err => exact ⟨_, .notLabelled hanswer, fun _ => ⟨_, .clear, rfl⟩⟩
  | none => exact ⟨.publishing, .labelled (accepted_of_none hanswer), fun _ => ⟨_, .publish, rfl⟩⟩

theorem written_follows {format : String} {args : List String} {answer : Except Error Response}
    {p accepting failing : Point} {e : ElectorEvent}
    (haccepted : accepted answer = true → ElectorStep le p e accepting)
    (hfailed : accepted answer = false → ElectorStep le p e failing) :
    ∃ q, ElectorStep le p e q ∧
      q = if (writeFailure format args answer).isSome then failing else accepting := by
  cases hanswer : writeFailure format args answer with
  | none => exact ⟨_, haccepted (accepted_of_none hanswer), rfl⟩
  | some err => exact ⟨_, hfailed (not_accepted_of_some hanswer), rfl⟩

theorem renewLease_follows : le.renewLease.Follows (ElectorStep le)
    (fun q result => q = if result.isSome then .withdrawing .ctx .top else .serving) .ticked := by
  rw [renewLease, bind_eq_bind, getLease_bind]
  intro answer
  dsimp only
  cases hread : leaseRead answer with
  | error err => exact ⟨_, .renewalUnread hread, rfl⟩
  | ok lease =>
    by_cases hholder : lease.spec.holderIdentity = le.identity
    · refine ⟨_, .mine hread hholder, ?_⟩
      dsimp only
      rw [if_neg (not_not.mpr hholder)]
      exact fun now => ⟨_, .renew, fun answer => written_follows .renewed .notRenewed⟩
    · refine ⟨_, .taken hread hholder, ?_⟩
      dsimp only
      rw [if_pos hholder]
      rfl

theorem renewLoop_follows (rounds : Nat) : (le.renewLoop rounds).Follows (ElectorStep le)
    (fun q ended => ended = true → q = .rest .top) .serving := by
  induction rounds with
  | zero => exact nofun
  | succ rounds ih =>
    intro ticked
    cases ticked with
    | false => exact ⟨_, .stop, fun _ => ⟨_, .clear, fun _ => rfl⟩⟩
    | true =>
      refine ⟨_, .tick, ?_⟩
      dsimp only
      rw [if_pos rfl, bind_eq_bind]
      refine renewLease_follows.bind fun q result hq => ?_
      subst hq
      cases result with
      | none => exact ih
      | some err => exact (setLeader_false_follows .ctx .top).bind fun q _ hq _ => hq

variable {rest : ElectorAction (Option Error)}

def LoopEnd (q : Point) (result : Option Error) : Prop := ∀ err ∈ result, q = .rest (.returning err)

theorem serve_follows (rounds : Nat) (format : String)
    (hrest : rest.Follows (ElectorStep le) LoopEnd (.rest .top)) :
    (le.serve rounds format rest).Follows (ElectorStep le) LoopEnd (.won format) := by
  rw [serve, bind_eq_bind]
  refine (acquireServingLeadership_follows format).bind fun q result hq => ?_
  cases result with
  | some err => exact fun _ herr => Option.some.inj herr ▸ hq
  | none =>
    obtain rfl := hq
    refine (renewLoop_follows rounds).bind fun q ended hq => ?_
    cases ended with
    | false => exact nofun
    | true => exact hq rfl ▸ hrest

theorem orRetry_follows (hrest : rest.Follows (ElectorStep le) LoopEnd (.rest .top)) :
    (orRetry rest).Follows (ElectorStep le) LoopEnd (.rest .retrying) := by
  intro fired
  cases fired with
  | true => exact ⟨_, .retry, hrest⟩
  | false => exact ⟨_, .retryCancelled, fun _ herr => Option.some.inj herr ▸ rfl⟩

theorem createLease_follows : le.createLease.Follows (ElectorStep le)
    (fun q result => q = if result.isSome then .rest .retrying else
      .won "publish new leader endpoint: %w") .absent := by
  exact fun now => ⟨_, .create, fun answer => written_follows .created .notCreated⟩

theorem acquireLease_follows (existing : K8sLease) :
    (le.acquireLease existing).Follows (ElectorStep le)
      (fun q result => q = if result.isSome then .rest .retrying else
        .won "publish acquired leader endpoint: %w") (.expired existing) := by
  exact fun now => ⟨_, .acquire, fun answer => written_follows .acquired .notAcquired⟩

def judgedFrom (lease : K8sLease) : Point :=
  match parseLeaseTime lease.spec.renewTime with
  | none => .expired lease
  | some renewTime => .judging lease renewTime

theorem read_other {answer : Except Error LeaseResponse} {lease : K8sLease}
    (hread : leaseRead answer = .ok lease) (hother : le.isHeldByMe lease = false) :
    ElectorStep le .reading ⟨.getLease, answer⟩ (judgedFrom lease) := by
  rw [judgedFrom]
  cases htime : parseLeaseTime lease.spec.renewTime with
  | none => exact .undated hread hother htime
  | some renewTime => exact .dated hread hother htime

theorem isExpired_follows (lease : K8sLease) : (isExpired lease).Follows (ElectorStep le)
    (fun q expired => q = if expired then .expired lease else .notMine) (judgedFrom lease) := by
  rw [isExpired, judgedFrom]
  cases parseLeaseTime lease.spec.renewTime with
  | none => rfl
  | some renewTime =>
    intro now
    cases hout : runOut lease renewTime now with
    | true => exact ⟨_, .expire hout, by simp [Follows, hout]⟩
    | false => exact ⟨_, .unexpired hout, by simp [Follows, hout]⟩

theorem runLoop_follows (rounds : Nat) :
    (le.runLoop rounds).Follows (ElectorStep le) LoopEnd (.rest .top) := by
  induction rounds with
  | zero => exact nofun
  | succ rounds ih =>
    have hretry := orRetry_follows ih
    have hserve := fun format => serve_follows rounds format ih
    intro done
    cases done with
    | true => exact ⟨_, .cancelled, fun _ => ⟨_, .clear, fun _ herr => Option.some.inj herr ▸ rfl⟩⟩
    | false =>
      refine ⟨_, .live, ?_⟩
      dsimp only
      rw [if_neg Bool.false_ne_true, bind_eq_bind, getLease_bind]
      intro answer
      dsimp only
      cases hread : leaseRead answer with
      | error err =>
        cases herr : err.is errLeaseNotFound with
        | false =>
          refine ⟨_, .unread hread herr, ?_⟩
          simpa only [herr, Bool.not_false, if_true] using hretry
        | true =>
          refine ⟨_, .notFound hread herr, ?_⟩
          simp only [herr, Bool.not_true, Bool.false_eq_true, if_false, bind_eq_bind]
          refine createLease_follows.bind fun q result hq => ?_
          subst hq
          cases result with
          | some err => exact hretry
          | none => exact hserve _
      | ok lease =>
        cases hheld : le.isHeldByMe lease with
        | true =>
          refine ⟨_, .held hread hheld, ?_⟩
          simpa only [hheld, if_true] using hserve _
        | false =>
          refine ⟨_, read_other hread hheld, ?_⟩
          simp only [hheld, Bool.false_eq_true, if_false, bind_eq_bind]
          refine (isExpired_follows lease).bind fun q expired hq => ?_
          subst hq
          cases expired with
          | true =>
            refine (acquireLease_follows lease).bind fun q result hq => ?_
            subst hq
            cases result with
            | some err => exact hretry
            | none => exact hserve _
          | false =>
            intro leader
            cases leader with
            | false => exact ⟨_, .standby, hretry⟩
            | true =>
              refine ⟨_, .stillLeader, ?_⟩
              exact (setLeader_false_follows .ctx .retrying).bind fun q _ hq => hq ▸ hretry

theorem withdraw_follows (err : Error) :
    le.withdraw.Follows (ElectorStep le) (fun q _ => q = .rest (.ended err))
      (.rest (.returning err)) := by
  intro leader
  cases leader with
  | false => exact ⟨_, .left, rfl⟩
  | true =>
    exact ⟨_, .leaving, (setLeader_false_follows .withdrawCtx (.ended err)).bind fun _ _ hq => hq⟩

theorem run_follows (rounds : Nat) : (le.run rounds).Follows (ElectorStep le) FinalPoint
    (.rest .top) := by
  rw [run, bind_eq_bind]
  refine (runLoop_follows rounds).bind fun q result hq => ?_
  cases result with
  | none => exact nofun
  | some err =>
    obtain rfl := hq err rfl
    refine (withdraw_follows err).bind fun q _ hq => ?_
    exact fun _ herr => Option.some.inj herr ▸ hq

end LeaderElector
end FleetLlmd.Controller
