import FleetLlmd.Go.Hex
import Mathlib.Data.List.Induction

/-!
# The ledger client of the agent

`crates/fleet-ledger/src/client.rs`: events are hashed and kept in a list that receipts are
verified against. The hash of an entry is taken of the agent, the source, the entry type and the
correlation ID with colons between them; the content has a hash of its own, of which a receipt
shows nothing. `computeHash` is `hasher::compute_hash`.
-/

namespace FleetLlmd.FleetLedger
open Go

structure LedgerEntry where
  entryType : String
  entryHash : String
  contentHash : String
  deriving DecidableEq

structure LedgerClient where
  agentID : String
  sourceID : String
  entries : List LedgerEntry := []

structure LedgerReceipt where
  entryID : String
  entryHash : String
  chainPosition : Nat

variable (computeHash : Bytes → String)

def LedgerClient.recordEvent (c : LedgerClient) (entryType : String) (content : Bytes)
    (correlationID : Option String) : LedgerReceipt × LedgerClient :=
  let entryHash := computeHash (utf8 (c.agentID ++ ":" ++ c.sourceID ++ ":" ++ entryType ++ ":" ++
    correlationID.getD ""))
  let entries := c.entries ++ [⟨entryType, entryHash, computeHash content⟩]
  (⟨"entry-" ++ toString entries.length, entryHash, entries.length⟩, { c with entries := entries })

def LedgerClient.verifyReceipt (c : LedgerClient) (entryHash entryType : String) : Bool :=
  c.entries.any fun entry =>
    entry.entryHash == entryHash && entry.entryType == entryType && !entry.contentHash.isEmpty

/-! ## Histories -/

structure LedgerEvent where
  agentID : String
  sourceID : String
  entryType : String
  correlationID : Option String
  content : Bytes
  deriving DecidableEq

namespace LedgerEvent

def text (e : LedgerEvent) : String :=
  e.agentID ++ ":" ++ e.sourceID ++ ":" ++ e.entryType ++ ":" ++ e.correlationID.getD ""

def recordOn (e : LedgerEvent) (c : LedgerClient) : LedgerReceipt × LedgerClient :=
  c.recordEvent computeHash e.entryType e.content e.correlationID

/-- The hash in the receipt of the event, whatever its client has recorded before. -/
def entryHash (e : LedgerEvent) : String :=
  (e.recordOn computeHash ⟨e.agentID, e.sourceID, []⟩).1.entryHash

end LedgerEvent

/-- The client of one agent and source after the events of all of them. -/
def clientAfter (agentID sourceID : String) (history : List LedgerEvent) : LedgerClient :=
  history.foldl (fun c e =>
    if e.agentID = agentID ∧ e.sourceID = sourceID then (e.recordOn computeHash c).2 else c)
    ⟨agentID, sourceID, []⟩

variable {computeHash}

theorem entries_clientAfter (agentID sourceID : String) (history : List LedgerEvent) :
    clientAfter computeHash agentID sourceID history = ⟨agentID, sourceID,
      (history.filter fun e => e.agentID = agentID ∧ e.sourceID = sourceID).map fun e =>
        ⟨e.entryType, e.entryHash computeHash, computeHash e.content⟩⟩ := by
  induction history using List.reverseRecOn with
  | nil => rfl
  | append_singleton history e ih =>
    rw [clientAfter, List.foldl_append, ← clientAfter, ih, List.filter_append, List.map_append]
    by_cases hclient : e.agentID = agentID ∧ e.sourceID = sourceID
    · obtain ⟨rfl, rfl⟩ := hclient
      simp [LedgerEvent.recordOn, LedgerEvent.entryHash, LedgerClient.recordEvent]
    · simp [hclient]

theorem verifyReceipt_event {agentID sourceID entryHash entryType : String}
    {history : List LedgerEvent}
    (h : (clientAfter computeHash agentID sourceID history).verifyReceipt entryHash entryType =
      true) :
    ∃ e ∈ history, e.agentID = agentID ∧ e.sourceID = sourceID ∧ e.entryType = entryType ∧
      e.entryHash computeHash = entryHash := by
  rw [entries_clientAfter, LedgerClient.verifyReceipt, List.any_map, List.any_eq_true] at h
  obtain ⟨e, he, hentry⟩ := h
  simp only [Function.comp, Bool.and_eq_true, beq_iff_eq] at hentry
  obtain ⟨hmem, hclient⟩ := List.mem_filter.mp he
  have hsame := of_decide_eq_true hclient
  exact ⟨e, hmem, hsame.1, hsame.2, hentry.1.2, hentry.1.1⟩

structure Bound (computeHash : Bytes → String) (history : List LedgerEvent) : Prop where
  hashes : ∀ e ∈ history, ∀ e' ∈ history, e ≠ e' →
    e.entryHash computeHash ≠ e'.entryHash computeHash
  verified : ∀ e ∈ history, ∀ agentID sourceID,
    (clientAfter computeHash agentID sourceID history).verifyReceipt (e.entryHash computeHash)
      e.entryType = true →
    ∃ e' ∈ history, e'.agentID = agentID ∧ e'.sourceID = sourceID ∧ e'.content = e.content

/-- Receipts are bound to their events exactly when no two different recorded events agree in the
text that is hashed. -/
theorem receipts_bound_iff (hinjective : Function.Injective computeHash)
    (history : List LedgerEvent) :
    Bound computeHash history ↔
      ∀ e ∈ history, ∀ e' ∈ history, e.text = e'.text → e = e' := by
  have htext {e e' : LedgerEvent} :
      e.entryHash computeHash = e'.entryHash computeHash ↔ e.text = e'.text := by
    refine ⟨fun h => ?_, fun h => congrArg (computeHash ∘ utf8) h⟩
    have hbytes : utf8 e.text = utf8 e'.text := hinjective h
    rw [← String.toList_inj, ← chars_eq_toList, ← chars_eq_toList, chars, hbytes, chars]
  constructor
  · intro hbound e he e' he' hsame
    by_contra hne
    exact hbound.hashes e he e' he' hne (htext.mpr hsame)
  · intro hsingle
    refine ⟨fun e he e' he' hne hsame => hne (hsingle e he e' he' (htext.mp hsame)), ?_⟩
    intro e he agentID sourceID hverify
    obtain ⟨e', he', hagent, hsource, -, hhash⟩ := verifyReceipt_event hverify
    exact ⟨e', he', hagent, hsource, by rw [hsingle e' he' e he (htext.mp hhash)]⟩

def transferred (content : Bytes) : LedgerEvent := ⟨"agent", "fleet", "kv", none, content⟩

/-- Two clients record a transfer each. -/
theorem two_events_bound :
    Bound hexEncode [transferred [1], ⟨"b", "fleet", "kv", some "op", [2]⟩] :=
  (receipts_bound_iff hexEncode_injective _).mpr (by decide +kernel)

/-- Two contents under one hash; and the receipt of one client's event verified by another, which
recorded nothing of that content. -/
theorem content_not_bound :
    (∀ computeHash,
        (transferred [1]).entryHash computeHash = (transferred [2]).entryHash computeHash) ∧
      (clientAfter hexEncode "a" "b:c" [⟨"a:b", "c", "kv", none, [1]⟩,
        ⟨"a", "b:c", "kv", none, [2]⟩]).verifyReceipt
          (LedgerEvent.entryHash hexEncode ⟨"a:b", "c", "kv", none, [1]⟩) "kv" = true :=
  ⟨fun _ => rfl, by decide +kernel⟩

end FleetLlmd.FleetLedger
