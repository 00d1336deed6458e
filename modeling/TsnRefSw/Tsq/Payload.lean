import TsnRefSw.Core.Bytes

/-!
# The time sync quality payload

One sample of the TSQ application: a talker's identifier, a running number and the external
timestamp of a pulse. On the wire it is the in-memory image of the C structure: two 32-bit and
two 64-bit little-endian numbers, 24 bytes without padding.
-/

namespace TsnRefSw

open Core

/-- `struct payload`. -/
structure Payload where
  uid : Int32
  seq : Int32
  secs : Int64
  nsecs : Int64
deriving DecidableEq, Repr

namespace Payload

/-- What `memset(.., 0, sizeof(payload))` leaves. -/
def zero : Payload := ⟨0, 0, 0, 0⟩

instance : Inhabited Payload := ⟨zero⟩

/-- `sizeof(payload)`. -/
def size : Nat := 24

/-- The sample's bytes as `memcpy` stores them. -/
def toBytes (p : Payload) : List UInt8 :=
  leBytes 4 p.uid.toBitVec.toNat ++ (leBytes 4 p.seq.toBitVec.toNat ++
    (leBytes 8 p.secs.toBitVec.toNat ++ leBytes 8 p.nsecs.toBitVec.toNat))

/-- The sample `memcpy` reads from the first bytes of a buffer. -/
def ofBytes (m : Memory) : Payload where
  uid   := Int32.ofBitVec (BitVec.ofNat 32 (m.readLe 0 4))
  seq   := Int32.ofBitVec (BitVec.ofNat 32 (m.readLe 4 4))
  secs  := Int64.ofBitVec (BitVec.ofNat 64 (m.readLe 8 8))
  nsecs := Int64.ofBitVec (BitVec.ofNat 64 (m.readLe 16 8))

@[simp] lemma length_toBytes (p : Payload) : p.toBytes.length = size := by
  simp [toBytes, size]

/-- A decoded sample depends on the first 24 bytes only. -/
lemma ofBytes_congr {m m' : Memory} (h : ∀ i < size, m i = m' i) : ofBytes m = ofBytes m' := by
  have hread : ∀ o k, o + k ≤ size → m.readLe o k = m'.readLe o k := fun o k hk =>
    Memory.readLe_congr fun i hi => h (o + i) (by omega)
  simp only [size] at hread
  simp only [ofBytes, hread 0 4 (by omega), hread 4 4 (by omega), hread 8 8 (by omega),
    hread 16 8 (by omega)]

/-- A field stored behind the prefix `l` reads back as the number that was stored. -/
private lemma readLe_field (l r : List UInt8) (k v : Nat) :
    (Memory.zeroFill (l ++ (leBytes k v ++ r))).readLe l.length k = v % 256 ^ k := by
  rw [← Memory.readLe_leBytes k v r]
  exact Memory.readLe_congr fun i _ => by
    rw [Memory.zeroFill_append_right, Nat.zero_add]

/-- Decoding undoes encoding, whatever follows the sample in the buffer. -/
theorem ofBytes_toBytes (p : Payload) (l : List UInt8) :
    ofBytes (Memory.zeroFill (p.toBytes ++ l)) = p := by
  have h32 : ∀ b : BitVec 32, BitVec.ofNat 32 (b.toNat % 256 ^ 4) = b := fun b => by
    rw [show 256 ^ 4 = 2 ^ 32 from rfl, Nat.mod_eq_of_lt b.isLt, BitVec.ofNat_toNat,
      BitVec.setWidth_eq]
  have h64 : ∀ b : BitVec 64, BitVec.ofNat 64 (b.toNat % 256 ^ 8) = b := fun b => by
    rw [show 256 ^ 8 = 2 ^ 64 from rfl, Nat.mod_eq_of_lt b.isLt, BitVec.ofNat_toNat,
      BitVec.setWidth_eq]
  obtain ⟨uid, seq, secs, nsecs⟩ := p
  simp only [toBytes, List.append_assoc]
  have huid := readLe_field [] (leBytes 4 seq.toBitVec.toNat ++ (leBytes 8 secs.toBitVec.toNat ++
    (leBytes 8 nsecs.toBitVec.toNat ++ l))) 4 uid.toBitVec.toNat
  have hseq := readLe_field (leBytes 4 uid.toBitVec.toNat) (leBytes 8 secs.toBitVec.toNat ++
    (leBytes 8 nsecs.toBitVec.toNat ++ l)) 4 seq.toBitVec.toNat
  have hsecs := readLe_field (leBytes 4 uid.toBitVec.toNat ++ leBytes 4 seq.toBitVec.toNat)
    (leBytes 8 nsecs.toBitVec.toNat ++ l) 8 secs.toBitVec.toNat
  have hnsecs := readLe_field (leBytes 4 uid.toBitVec.toNat ++ (leBytes 4 seq.toBitVec.toNat ++
    leBytes 8 secs.toBitVec.toNat)) l 8 nsecs.toBitVec.toNat
  simp only [List.append_assoc, List.length_append, leBytes_length, List.length_nil,
    List.nil_append] at huid hseq hsecs hnsecs
  simp only [ofBytes, huid, hseq, hsecs, hnsecs, h32, h64, Int32.ofBitVec_toBitVec,
    Int64.ofBitVec_toBitVec]

/-- The instant a sample names, in nanoseconds. -/
def time (p : Payload) : Int := p.secs.toInt * 10 ^ 9 + p.nsecs.toInt

/-- A sample with a timestamp the comparison is meant for: `0 < nsecs < 10^9`. -/
def Normal (p : Payload) : Prop := 0 < p.nsecs.toInt ∧ p.nsecs.toInt < 10 ^ 9

instance (p : Payload) : Decidable p.Normal := inferInstanceAs (Decidable (_ ∧ _))

end Payload

end TsnRefSw
