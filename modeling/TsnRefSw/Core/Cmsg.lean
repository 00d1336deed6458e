import Mathlib.Data.List.Forall2
import TsnRefSw.Core.Bytes

/-!
# Control messages

The ancillary data of a socket. Each message has a header of 16 bytes, with its length, and
starts at a multiple of eight; `CMSG_FIRSTHDR()` and `CMSG_NXTHDR()` go from one to the next.
Whatever the bytes are, they stay within the data and come to an end, and where messages were
put one behind the other these are what they find.
-/

namespace Core

/-- A control message. -/
structure Cmsg where
  level : UInt32
  type : UInt32
  data : List UInt8
deriving DecidableEq, Repr

namespace Cmsg

/-- `sizeof(struct cmsghdr)` -/
def hdrSize : Nat := 16

/-- `CMSG_ALIGN()` -/
def align (n : Nat) : Nat := (n + 7) / 8 * 8

/-- `CMSG_LEN()` -/
def len (c : Cmsg) : Nat := hdrSize + c.data.length

/-- `CMSG_SPACE()` -/
def space (c : Cmsg) : Nat := align c.len

/-- The header, with `cmsg_len`, `cmsg_level` and `cmsg_type`, and the data. -/
def bytes (c : Cmsg) : List UInt8 :=
  leBytes 8 c.len ++ (leBytes 4 c.level.toNat ++ (leBytes 4 c.type.toNat ++ c.data))

lemma le_align (n : Nat) : n ≤ align n := by
  rw [align]
  omega

lemma hdrSize_le_space (c : Cmsg) : hdrSize ≤ c.space :=
  Nat.le_trans (Nat.le_add_right _ _) (le_align c.len)

@[simp] lemma length_bytes (c : Cmsg) : c.bytes.length = c.len := by
  simp only [bytes, List.length_append, leBytes_length, len, hdrSize]
  omega

/-! ### Going from one to the next -/

section
variable (m : Memory)

/-- `cmsg_len` of the header at `a`. -/
def lenAt (a : Nat) : Nat := m.readLe a 8

/-- `cmsg_level` -/
def levelAt (a : Nat) : Nat := m.readLe (a + 8) 4

/-- `cmsg_type` -/
def typeAt (a : Nat) : Nat := m.readLe (a + 12) 4

/-- `CMSG_DATA()` -/
def dataAt (a : Nat) : Nat := a + hdrSize

variable (controllen : Nat)

/-- `CMSG_FIRSTHDR()` -/
def firstHdr : Option Nat := if hdrSize ≤ controllen then some 0 else none

/-- `CMSG_NXTHDR()` -/
def nxtHdr (a : Nat) : Option Nat :=
  let next := a + align (lenAt m a)
  if hdrSize ≤ lenAt m a ∧ next + hdrSize ≤ controllen ∧
      next + align (lenAt m next) ≤ controllen then some next
  else none

/-- The headers from one on, `fuel` of them at most. -/
def headersFrom : Nat → Option Nat → List Nat
  | 0,        _      => []
  | _ + 1,    none   => []
  | fuel + 1, some a => a :: headersFrom fuel (nxtHdr m controllen a)

/-- The headers that a loop from `CMSG_FIRSTHDR()` on with `CMSG_NXTHDR()` passes. -/
def headers : List Nat := headersFrom m controllen controllen (firstHdr controllen)

end

variable {m : Memory} {controllen a b : Nat}

@[simp] lemma headersFrom_none (m : Memory) (controllen fuel : Nat) :
    headersFrom m controllen fuel none = [] := by
  cases fuel with
  | _ => rfl

lemma nxtHdr_eq_some (h : nxtHdr m controllen a = some b) :
    a + hdrSize ≤ b ∧ b + hdrSize ≤ controllen := by
  simp only [nxtHdr] at h
  split_ifs at h with hnext
  obtain rfl := Option.some.inj h
  exact ⟨Nat.add_le_add_left (Nat.le_trans hnext.1 (le_align _)) a, hnext.2.1⟩

/-- The loop comes to an end, at a header behind which there is none, and all its headers lie in
the data, apart from each other. -/
theorem headersFrom_ends {fuel : Nat} (hfuel : controllen < a + fuel + hdrSize)
    (ha : a + hdrSize ≤ controllen) :
    (∀ b ∈ headersFrom m controllen fuel (some a), a ≤ b ∧ b + hdrSize ≤ controllen) ∧
      (headersFrom m controllen fuel (some a)).Pairwise (fun b c => b + hdrSize ≤ c) ∧
      ∀ b ∈ (headersFrom m controllen fuel (some a)).getLast?, nxtHdr m controllen b = none := by
  induction fuel generalizing a with
  | zero =>
    exfalso
    omega
  | succ fuel ih =>
    rw [headersFrom]
    cases hnext : nxtHdr m controllen a with
    | none =>
      rw [headersFrom_none]
      refine ⟨fun b hb => ?_, List.pairwise_singleton _ _, fun b hb => ?_⟩
      · obtain rfl := List.mem_singleton.mp hb
        exact ⟨Nat.le_refl _, ha⟩
      · obtain rfl := Option.some.inj hb
        exact hnext
    | some c =>
      obtain ⟨hac, hc⟩ := nxtHdr_eq_some hnext
      have hsize : hdrSize = 16 := rfl
      obtain ⟨hmem, hpairwise, hlast⟩ := ih (a := c) (by omega) hc
      refine ⟨fun b hb => ?_, ?_, fun b hb => hlast b ?_⟩
      · rcases List.mem_cons.mp hb with rfl | hb
        · exact ⟨Nat.le_refl _, ha⟩
        · exact ⟨by have := (hmem b hb).1; omega, (hmem b hb).2⟩
      · exact List.pairwise_cons.mpr ⟨fun b hb => Nat.le_trans hac (hmem b hb).1, hpairwise⟩
      · cases fuel with
        | zero =>
          exfalso
          omega
        | succ fuel => exact hb

theorem headers_ends (m : Memory) (controllen : Nat) :
    (∀ b ∈ headers m controllen, b + hdrSize ≤ controllen) ∧
      (headers m controllen).Pairwise (fun b c => b + hdrSize ≤ c) ∧
      ∀ b ∈ (headers m controllen).getLast?, nxtHdr m controllen b = none := by
  rw [headers, firstHdr]
  split_ifs with hfirst
  · obtain ⟨hmem, hpairwise, hlast⟩ :=
      headersFrom_ends (m := m) (a := 0) (show controllen < 0 + controllen + 16 by omega)
        (Nat.zero_add hdrSize ▸ hfirst)
    exact ⟨fun b hb => (hmem b hb).2, hpairwise, hlast⟩
  · cases controllen with
    | zero => exact ⟨fun b hb => (by cases hb), .nil, fun b hb => (by cases hb)⟩
    | succ n => exact ⟨fun b hb => (by cases hb), .nil, fun b hb => (by cases hb)⟩

/-! ### Messages one behind the other -/

/-- The bytes that messages take. -/
def room : List Cmsg → Nat
  | []      => 0
  | c :: cs => c.space + room cs

/-- From `a` on there are messages, whatever lies between them. -/
def Holds (m : Memory) : Nat → List Cmsg → Prop
  | _, []      => True
  | a, c :: cs => m.Contains a c.bytes ∧ Holds m (a + c.space) cs

/-- The kernel puts messages one behind the other. -/
def put (m : Memory) (a : Nat) : List Cmsg → Memory
  | []      => m
  | c :: cs => put (m.copyTo a c.bytes) (a + c.space) cs

variable {c : Cmsg} {cs : List Cmsg}

/-- What is in front stays. -/
lemma contains_put {l : List UInt8} (h : m.Contains b l) (hle : b + l.length ≤ a) :
    (put m a cs).Contains b l := by
  induction cs generalizing m a with
  | nil => exact h
  | cons c cs ih => exact ih (h.copyTo (.inl hle)) (Nat.le_trans hle (Nat.le_add_right _ _))

lemma holds_put (m : Memory) (a : Nat) (cs : List Cmsg) : Holds (put m a cs) a cs := by
  induction cs generalizing m a with
  | nil => trivial
  | cons c cs ih =>
    refine ⟨contains_put (a := a + c.space) (m.contains_copyTo a c.bytes) ?_, ih _ _⟩
    rw [length_bytes]
    exact Nat.add_le_add_left (le_align c.len) a

/-- The parts of a message. -/
lemma parts_of_contains (h : m.Contains a c.bytes) :
    lenAt m a = c.len % 2 ^ 64 ∧ levelAt m a = c.level.toNat ∧ typeAt m a = c.type.toNat ∧
      m.Contains (dataAt a) c.data := by
  have hlevel := h.right
  rw [leBytes_length] at hlevel
  have htype := hlevel.right
  rw [leBytes_length] at htype
  have hdata := htype.right
  rw [leBytes_length] at hdata
  refine ⟨h.left.readLe, hlevel.left.readLe.trans ?_, htype.left.readLe.trans ?_, hdata⟩
  · exact Nat.mod_eq_of_lt c.level.toNat_lt
  · exact Nat.mod_eq_of_lt c.type.toNat_lt

lemma align_lenAt (h : m.Contains a c.bytes) (hspace : c.space < 2 ^ 64) :
    hdrSize ≤ lenAt m a ∧ align (lenAt m a) = c.space := by
  rw [(parts_of_contains h).1, Nat.mod_eq_of_lt (Nat.lt_of_le_of_lt (le_align c.len) hspace)]
  exact ⟨Nat.le_add_right _ _, rfl⟩

/-- Behind a message is the next one, if there is one. -/
lemma nxtHdr_of_contains (h : m.Contains a c.bytes) (hspace : c.space < 2 ^ 64) :
    nxtHdr m (a + c.space) a = none ∧
      ∀ d n, m.Contains (a + c.space) (bytes d) → space d < 2 ^ 64 →
        nxtHdr m (a + (c.space + (space d + n))) a = some (a + c.space) := by
  obtain ⟨hlen, halign⟩ := align_lenAt h hspace
  refine ⟨?_, fun d n hd hdspace => ?_⟩
  · simp only [nxtHdr, halign]
    exact if_neg fun hall => absurd hall.2.1 (by rw [hdrSize]; omega)
  · have hsize := hdrSize_le_space d
    simp only [nxtHdr, halign, (align_lenAt hd hdspace).2]
    exact if_pos ⟨hlen, by omega, by omega⟩

/-- A loop finds the messages. -/
lemma headersFrom_of_holds (h : Holds m a (c :: cs)) (hroom : room (c :: cs) < 2 ^ 64)
    {fuel : Nat} (hfuel : cs.length < fuel) :
    List.Forall₂ (fun b d => m.Contains b d.bytes)
      (headersFrom m (a + room (c :: cs)) fuel (some a)) (c :: cs) := by
  induction cs generalizing a c fuel with
  | nil =>
    obtain ⟨k, rfl⟩ := Nat.exists_eq_add_one_of_ne_zero (Nat.ne_zero_of_lt hfuel)
    have hnone := (nxtHdr_of_contains h.1 hroom).1
    rw [headersFrom, show room [c] = c.space from rfl, hnone, headersFrom_none]
    exact .cons h.1 .nil
  | cons d cs ih =>
    obtain ⟨k, rfl⟩ := Nat.exists_eq_add_one_of_ne_zero (Nat.ne_zero_of_lt hfuel)
    have hsum : room (c :: d :: cs) = c.space + (space d + room cs) := rfl
    have hsome := (nxtHdr_of_contains h.1 (by omega)).2 d (room cs) h.2.1 (by omega)
    rw [headersFrom, hsum, hsome]
    refine .cons h.1 ?_
    have hrest := ih h.2 (Nat.lt_of_le_of_lt (Nat.le_add_left _ c.space) hroom)
      (Nat.lt_of_succ_lt_succ hfuel)
    rwa [Nat.add_assoc] at hrest

lemma length_le_room (cs : List Cmsg) : hdrSize * cs.length ≤ room cs := by
  induction cs with
  | nil => exact Nat.le_refl _
  | cons c cs ih =>
    rw [List.length_cons, Nat.mul_succ, Nat.add_comm, room]
    exact Nat.add_le_add (hdrSize_le_space c) ih

/-- What a loop passes are the messages that were put there. -/
theorem headers_of_holds (h : Holds m 0 cs) (hroom : room cs < 2 ^ 64) :
    List.Forall₂ (fun b d => m.Contains b d.bytes) (headers m (room cs)) cs := by
  cases cs with
  | nil => exact .nil
  | cons c cs =>
    have hlength := length_le_room (c :: cs)
    rw [List.length_cons, hdrSize] at hlength
    have hfound := headersFrom_of_holds h hroom (show cs.length < room (c :: cs) by omega)
    rw [Nat.zero_add] at hfound
    rw [headers, firstHdr, if_pos (show hdrSize ≤ _ by rw [hdrSize]; omega)]
    exact hfound

end Cmsg

end Core
