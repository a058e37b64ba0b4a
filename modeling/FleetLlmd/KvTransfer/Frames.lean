import FleetLlmd.KvTransfer.Tcp

/-!
# Frames

The reading side of `crates/kv-transfer/src/tcp_transport.rs`: a block is read from the first
frame of a stream, and blocks up to the first final one.
-/

namespace FleetLlmd.KvTransfer
open Effect Go

def ofBigEndian (bytes : Bytes) : Nat := bytes.foldl (fun n b => n * 256 + b.toNat) 0

def readExact (n : Nat) (stream : Bytes) : Except String (Bytes × Bytes) :=
  if n ≤ stream.length then .ok (stream.splitAt n) else .error "early eof"

def decodeBlock (stream : Bytes) : Except String (KvBlock × Bytes) := do
  let (len, stream) ← readExact 4 stream
  let frameLen := ofBigEndian len
  if frameLen < 9 then .error ("frame too small: " ++ toString frameLen ++ " bytes")
  else
    let (sequence, stream) ← readExact 8 stream
    let (flag, stream) ← readExact 1 stream
    let (data, stream) ← readExact (frameLen - 9) stream
    .ok (⟨ofBigEndian sequence, data, flag != [0]⟩, stream)

/-- The loop of `receive_blocks`. Every frame takes bytes off the stream, so that as many rounds as
the stream has bytes are enough. -/
def receiveLoop : Nat → Bytes → List KvBlock → Except String (List KvBlock × Bytes)
  | 0, _, _ => .error "early eof"
  | rounds + 1, stream, blocks => do
    let (block, stream) ← decodeBlock stream
    if block.isFinal then .ok (blocks ++ [block], stream)
    else receiveLoop rounds stream (blocks ++ [block])

def receiveBlocks (stream : Bytes) : Except String (List KvBlock × Bytes) :=
  receiveLoop stream.length stream []

section Read

theorem ofBigEndian_bigEndian (width n : Nat) :
    ofBigEndian (bigEndian width n) = n % 256 ^ width := by
  induction width generalizing n with
  | zero => simp [bigEndian, ofBigEndian, Nat.mod_one]
  | succ width ih =>
    have hsplit : n % 256 ^ (width + 1) = n % 256 + 256 * (n / 256 % 256 ^ width) := by
      rw [Nat.pow_succ', Nat.mod_mul]
    rw [bigEndian, ofBigEndian, List.foldl_append, ← ofBigEndian, ih, hsplit, Nat.add_comm,
      Nat.mul_comm]
    exact congrArg _ (UInt8.toNat_ofNat' ..)

theorem length_bigEndian (width n : Nat) : (bigEndian width n).length = width := by
  induction width generalizing n with
  | zero => rfl
  | succ width ih => rw [bigEndian, List.length_append, ih, List.length_singleton]

theorem readExact_append {n : Nat} {bytes : Bytes} (h : bytes.length = n) (rest : Bytes) :
    readExact n (bytes ++ rest) = .ok (bytes, rest) := by
  subst h
  simp [readExact]

/-- A `KvBlock` of the source, with a payload whose frame length fits in 32 bits. -/
structure Framed (block : KvBlock) : Prop where
  sequence : block.sequence < 2 ^ 64
  data : block.data.length < 2 ^ 32 - 9

theorem decodeBlock_encodeBlock {block : KvBlock} (h : Framed block) (rest : Bytes) :
    decodeBlock (encodeBlock block ++ rest) = .ok (block, rest) := by
  have hlen : ofBigEndian (bigEndian 4 (headerSize - 4 + block.data.length)) =
      9 + block.data.length := by
    rw [ofBigEndian_bigEndian, Nat.mod_eq_of_lt]
    · rfl
    · have := h.data
      simp only [headerSize]
      omega
  have hsequence : ofBigEndian (bigEndian 8 block.sequence) = block.sequence := by
    exact (ofBigEndian_bigEndian ..).trans (Nat.mod_eq_of_lt h.sequence)
  have hflag : (([if block.isFinal then 1 else 0] : Bytes) != [0]) = block.isFinal := by
    cases block.isFinal <;> rfl
  have hsmall : ¬9 + block.data.length < 9 := by omega
  simp only [decodeBlock, encodeBlock, List.append_assoc,
    readExact_append (length_bigEndian _ _), readExact_append (List.length_singleton ..),
    bind, Except.bind, hlen, if_neg hsmall, Nat.add_sub_cancel_left, readExact_append rfl,
    hsequence, hflag]

theorem receiveLoop_frames {front : List KvBlock} {last : KvBlock} (hlast : last.isFinal = true)
    (hfront : ∀ block ∈ front, block.isFinal = false)
    (hframed : ∀ block ∈ front ++ [last], Framed block) (rest : Bytes) (blocks : List KvBlock)
    {rounds : Nat} (hrounds : front.length < rounds) :
    receiveLoop rounds ((front ++ [last]).flatMap encodeBlock ++ rest) blocks =
      .ok (blocks ++ (front ++ [last]), rest) := by
  induction front generalizing blocks rounds with
  | nil =>
    obtain ⟨rounds, rfl⟩ := Nat.exists_eq_add_of_lt hrounds
    simp [receiveLoop, bind, Except.bind, decodeBlock_encodeBlock (hframed last (by simp)), hlast]
  | cons block front ih =>
    obtain ⟨hblock, hfront⟩ := List.forall_mem_cons.mp hfront
    obtain ⟨hhead, htail⟩ := List.forall_mem_cons.mp hframed
    obtain ⟨rounds, rfl⟩ := Nat.exists_eq_add_of_lt hrounds
    rw [List.cons_append, List.flatMap_cons, List.append_assoc, receiveLoop]
    simp only [bind, Except.bind, decodeBlock_encodeBlock hhead, hblock, Bool.false_eq_true,
      if_false]
    rw [ih hfront htail _ (by simp only [List.length_cons]; omega), List.append_assoc,
      List.singleton_append]

end Read

/-! ## Sent and received -/

/-- A connection that takes every write; its state is what was written to it. -/
def pipe : Network Bytes where
  utcNow e := (0, e)
  dial _ e := (.ok 0, e)
  writeAll _ frame e := (.ok (), e ++ frame)
  flush _ e := (.ok (), e)

theorem sendFrames_run (connection : Connection) (blocks : List KvBlock) (total : Nat)
    (w : TcpCoordinator Bytes) :
    (TcpTransferProtocol.sendFrames connection blocks total).run pipe.serve w =
      (.ok (total + (blocks.map (·.data.length)).sum),
        { w with network := w.network ++ blocks.flatMap encodeBlock }) := by
  induction blocks generalizing total w with
  | nil => simp [TcpTransferProtocol.sendFrames, Network.serve, pipe, Except.map]
  | cons block blocks ih =>
    refine (ih (total + block.data.length)
      { w with network := w.network ++ encodeBlock block }).trans ?_
    simp [Nat.add_assoc]

theorem frames_round_trip {front : List KvBlock} {last : KvBlock} (hlast : last.isFinal = true)
    (hfront : ∀ block ∈ front, block.isFinal = false)
    (hframed : ∀ block ∈ front ++ [last], Framed block) (rest : Bytes)
    {w : TcpCoordinator Bytes} {connection : Connection} (hwriter : w.writer = some connection) :
    ∃ sent, ((TcpTransferProtocol.sendBlocks (front ++ [last])).run pipe.serve w).2.network =
        w.network ++ sent ∧
      receiveBlocks (sent ++ rest) = .ok (front ++ [last], rest) := by
  refine ⟨(front ++ [last]).flatMap encodeBlock, ?_, ?_⟩
  · simp only [TcpTransferProtocol.sendBlocks, Prog.run_call, Network.serve, hwriter,
      sendFrames_run]
  · refine receiveLoop_frames hlast hfront hframed rest [] ?_
    have hcount : (front ++ [last]).length ≤ ((front ++ [last]).flatMap encodeBlock).length := by
      induction front ++ [last] with
      | nil => exact Nat.le_refl 0
      | cons block blocks ih =>
        simp only [encodeBlock, List.length_cons, List.flatMap_cons, List.length_append] at ih ⊢
        omega
    rw [List.length_append, List.length_singleton] at hcount
    rw [List.length_append]
    omega

theorem two_frames_round_trip :
    ∃ sent, ((TcpTransferProtocol.sendBlocks ([⟨7, [1, 2], false⟩] ++ [⟨8, [], true⟩])).run
        pipe.serve ⟨∅, some ⟨0, "b"⟩, none, none, []⟩).2.network = [] ++ sent ∧
      receiveBlocks (sent ++ [5]) = .ok ([⟨7, [1, 2], false⟩] ++ [⟨8, [], true⟩], [5]) :=
  frames_round_trip rfl (by simp) (by simp [Framed.mk]) [5] rfl

end FleetLlmd.KvTransfer
