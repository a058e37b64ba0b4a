import FleetLlmd.Go.Text

/-!
# SHA-256 and HMAC-SHA256

The compression function on 32-bit words held as natural numbers. Intermediate
sums are evaluated before they are used (`strict`), so that a digest of a
concrete message can be computed by the kernel.
-/

namespace FleetLlmd.Go.Sha256

/-- `f n`, with `n` brought to a numeral first. -/
def strict {α : Type} (n : Nat) (f : Nat → α) : α :=
  match n with
  | 0 => f 0
  | m + 1 => f (m + 1)

def word : Nat := 4294967296

def rotr (x n : Nat) : Nat := (x >>> n ||| x <<< (32 - n)) % word
def ch (x y z : Nat) : Nat := (x &&& y) ^^^ ((word - 1 - x) &&& z)
def maj (x y z : Nat) : Nat := (x &&& y) ^^^ (x &&& z) ^^^ (y &&& z)
def bigSigma0 (x : Nat) : Nat := rotr x 2 ^^^ rotr x 13 ^^^ rotr x 22
def bigSigma1 (x : Nat) : Nat := rotr x 6 ^^^ rotr x 11 ^^^ rotr x 25
def smallSigma0 (x : Nat) : Nat := rotr x 7 ^^^ rotr x 18 ^^^ (x >>> 3)
def smallSigma1 (x : Nat) : Nat := rotr x 17 ^^^ rotr x 19 ^^^ (x >>> 10)

structure State where
  a : Nat
  b : Nat
  c : Nat
  d : Nat
  e : Nat
  f : Nat
  g : Nat
  h : Nat

def initial : State :=
  ⟨0x6a09e667, 0xbb67ae85, 0x3c6ef372, 0xa54ff53a, 0x510e527f, 0x9b05688c, 0x1f83d9ab, 0x5be0cd19⟩

def constants : List Nat := [
  0x428a2f98, 0x71374491, 0xb5c0fbcf, 0xe9b5dba5, 0x3956c25b, 0x59f111f1, 0x923f82a4, 0xab1c5ed5,
  0xd807aa98, 0x12835b01, 0x243185be, 0x550c7dc3, 0x72be5d74, 0x80deb1fe, 0x9bdc06a7, 0xc19bf174,
  0xe49b69c1, 0xefbe4786, 0x0fc19dc6, 0x240ca1cc, 0x2de92c6f, 0x4a7484aa, 0x5cb0a9dc, 0x76f988da,
  0x983e5152, 0xa831c66d, 0xb00327c8, 0xbf597fc7, 0xc6e00bf3, 0xd5a79147, 0x06ca6351, 0x14292967,
  0x27b70a85, 0x2e1b2138, 0x4d2c6dfc, 0x53380d13, 0x650a7354, 0x766a0abb, 0x81c2c92e, 0x92722c85,
  0xa2bfe8a1, 0xa81a664b, 0xc24b8b70, 0xc76c51a3, 0xd192e819, 0xd6990624, 0xf40e3585, 0x106aa070,
  0x19a4c116, 0x1e376c08, 0x2748774c, 0x34b0bcb5, 0x391c0cb3, 0x4ed8aa4a, 0x5b9cca4f, 0x682e6ff3,
  0x748f82ee, 0x78a5636f, 0x84c87814, 0x8cc70208, 0x90befffa, 0xa4506ceb, 0xbef9a3f7, 0xc67178f2]

def rounds : List Nat → List Nat → State → State
  | [], _, s => s
  | _ :: _, [], s => s
  | k :: ks, w :: ws, s =>
    strict (s.h + bigSigma1 s.e + ch s.e s.f s.g + k + w) fun t =>
    strict ((t + (bigSigma0 s.a + maj s.a s.b s.c)) % word) fun a =>
    strict ((s.d + t) % word) fun e =>
    strict ((smallSigma1 (ws.getD 13 0) + ws.getD 8 0 + smallSigma0 (ws.getD 0 0) + w) % word)
      fun next => rounds ks (ws ++ [next]) ⟨a, s.a, s.b, s.c, e, s.e, s.f, s.g⟩

def State.add (s t : State) : State :=
  ⟨(s.a + t.a) % word, (s.b + t.b) % word, (s.c + t.c) % word, (s.d + t.d) % word,
    (s.e + t.e) % word, (s.f + t.f) % word, (s.g + t.g) % word, (s.h + t.h) % word⟩

def bigEndianWords : List Nat → List Nat
  | a :: b :: c :: d :: rest => (a * 16777216 + b * 65536 + c * 256 + d) :: bigEndianWords rest
  | _ => []

def blocks : Nat → List Nat → State → State
  | 0, _, s => s
  | n + 1, bs, s => blocks n (bs.drop 64) (s.add (rounds constants (bigEndianWords (bs.take 64)) s))

def pad (bs : List Nat) : List Nat :=
  bs ++ [128] ++ List.replicate ((119 - bs.length % 64) % 64) 0 ++
    (List.range 8).map fun i => (bs.length * 8) >>> (8 * (7 - i)) % 256

def wordBytes (w : Nat) : Bytes :=
  [UInt8.ofNat (w / 16777216), UInt8.ofNat (w / 65536), UInt8.ofNat (w / 256), UInt8.ofNat w]

def State.bytes (s : State) : Bytes :=
  [s.a, s.b, s.c, s.d, s.e, s.f, s.g, s.h].flatMap wordBytes

end Sha256

/-- `sha256.Sum256`. -/
def sha256 (message : Bytes) : Bytes :=
  let padded := Sha256.pad (message.map UInt8.toNat)
  (Sha256.blocks (padded.length / 64) padded Sha256.initial).bytes

@[simp] theorem sha256_length (message : Bytes) : (sha256 message).length = 32 := rfl

/-- `hmac.New(sha256.New, key)` over one message, for keys of at most one block. -/
def hmacSHA256 (key message : Bytes) : Bytes :=
  let key := if 64 < key.length then sha256 key else key
  let block := key ++ List.replicate (64 - key.length) 0
  sha256 (block.map (· ^^^ 0x5c) ++ sha256 (block.map (· ^^^ 0x36) ++ message))

example : hexEncode (sha256 (utf8 "abc")) =
    "ba7816bf8f01cfea414140de5dae2223b00361a396177a9cb410ff61f20015ad" := by decide +kernel

end FleetLlmd.Go
