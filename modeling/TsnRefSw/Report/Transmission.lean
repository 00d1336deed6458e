import TsnRefSw.Core.Double
import TsnRefSw.Report.Deviation
import TsnRefSw.Txrx.Readings

/-!
# The report on a transmission

`vs1b.sh` runs the receiver for some time and then reports on the lines it has printed, if there
are enough of them. Whenever it is ended, the report is about the packets it has read until then:
how many are still missing, and how long the others were on their way.
-/

namespace TsnRefSw

open Core

namespace Report

open Txrx (Socket asInt64 rxNumbers rxSeq)

/-- What `stop_if_empty()`, `calc_rx_u2u()` and `calc_rx_duploss()` make of a receiver's file. -/
def transmissionReport (log : List Text) (packetCount : Nat) : Option (U2u × Counts) :=
  if log.length < 3000 then none
  else (calcRxU2u toDouble log).map fun u => (u, calcRxDuploss log packetCount)

/-- The file of a receiver. -/
def rxFile (socket : Socket) (out : List Txrx.RxLine) : List Text :=
  out.map fun l => printNumbers (rxNumbers socket l)

/-- The latency on a line of txrx. -/
def rxLatency (socket : Socket) (l : Txrx.RxLine) : Int :=
  match socket with
  | .afpkt => asInt64 l.latency
  | .afxdp => l.latency

/-! ### What should be reported -/

/-- How long the packets were on their way, from the times when they were sent and read. -/
def delays (sent read : List Nat) : List Int :=
  List.zipWith (fun t d : Nat => (d : Int) - t) sent read

/-- The row is about these numbers. -/
structure Summarises (xs : List Int) (u : U2u) : Prop where
  max : IsGreatest {x | x ∈ xs} u.max
  avg : u.avg = mean (xs.map fun z : Int => (z : Rat))
  min : IsLeast {x | x ∈ xs} u.min

/-- The clocks do not run over, and with AF_XDP, which prints all numbers as unsigned, no packet
is read before it was sent. -/
structure Clocked (socket : Socket) (sent read : List Nat) : Prop where
  sent_lt : ∀ t ∈ sent, t < 2 ^ 63
  read_lt : ∀ d ∈ read, d < 2 ^ 63
  le : socket = .afxdp → ∀ k t d : Nat, sent[k]? = some t → read[k]? = some d → t ≤ d

/-- With enough packets read, the report says how many of `n` are missing and, if they were not on
their way for so long that `awk` has no digits for it, summarises how long the others were. -/
structure Reports (socket : Socket) (n : Nat) (sent read : List Nat) (out : List Txrx.RxLine) :
    Prop where
  few : read.length < 3000 → transmissionReport (rxFile socket out) n = none
  enough : 3000 ≤ read.length → ∃ u, transmissionReport (rxFile socket out) n =
    some (u, ⟨n, read.length, 0, n - read.length, none⟩) ∧
      (((delays sent read).map fun z => |z|).sum < 2 ^ 53 → Summarises (delays sent read) u)

/-! ### Signed numbers -/

/-- A difference of two clock readings, printed as signed. -/
lemma asInt64_sub {t d : Nat} (ht : t < 2 ^ 63) (hd : d < 2 ^ 63) :
    asInt64 ((d + 2 ^ 64 - t) % 2 ^ 64) = (d : Int) - t := by
  have hcast : (((d + 2 ^ 64 - t) % 2 ^ 64 : Nat) : Int) = ((d : Int) - t) % (2 ^ 64 : Nat) := by
    omega
  have hlow : -(((2 ^ 64 : Nat) : Int) / 2) ≤ (d : Int) - t := by omega
  have hhigh : (d : Int) - t < (((2 ^ 64 : Nat) : Int) + 1) / 2 := by omega
  have hsmall : Int.bmod ((d : Int) - t) (2 ^ 64) = d - t := Int.bmod_eq_of_le hlow hhigh
  rw [← Int.emod_bmod, ← hcast] at hsmall
  exact hsmall

/-! ### The row of the latencies -/

/-- The row is about the numbers in the column where they, and what they add up to, stay as they
are. -/
lemma summarises_calcU2u {round : Int → Int} {bound : Int}
    (hround : ∀ z, |z| < bound → round z = z) {i j : Nat} {log : List Text} {xs : List Int}
    (h : latencies i j log = xs) (hxs : (xs.map fun x => |x|).sum < bound) {u : U2u}
    (hu : calcU2u round i j log = some u) : Summarises xs u := by
  rw [calcU2u, h] at hu
  cases xs with
  | nil => cases hu
  | cons x xs =>
    have hsame : ∀ y ∈ x :: xs, round y = y := by
      intro y hy
      apply hround
      refine lt_of_le_of_lt ?_ hxs
      exact List.single_le_sum (by simp) _ (List.mem_map_of_mem hy)
    have horder : ∀ y ∈ x :: xs, ∀ z ∈ x :: xs, (round y < round z ↔ y < z) := by
      intro y hy z hz
      rw [hsame y hy, hsame z hz]
    have hmax : u.max = xs.foldl max x := by
      rw [← foldl_max_of_lt_iff horder, ← Option.some.inj hu]
    have hmin : u.min = xs.foldl min x := by
      rw [← foldl_min_of_lt_iff horder, ← Option.some.inj hu]
    refine ⟨hmax ▸ isGreatest_foldl_max x xs, ?_, hmin ▸ isLeast_foldl_min x xs⟩
    rw [mean_intCast, ← awkSum_eq_sum hround hxs, ← Option.some.inj hu]

lemma exists_calcU2u (round : Int → Int) {i j : Nat} {log : List Text} {xs : List Int}
    (h : latencies i j log = xs) (hne : xs ≠ []) : ∃ u, calcU2u round i j log = some u := by
  rw [calcU2u, h]
  cases xs with
  | nil => exact absurd rfl hne
  | cons x xs => exact ⟨_, rfl⟩

section
variable {socket : Socket} {out : List Txrx.RxLine} {n : Nat}

lemma latencies_rxFile (hpos : ∀ l ∈ out, 0 < rxSeq socket l) :
    latencies 1 2 (rxFile socket out) = out.map (rxLatency socket) := by
  have hfirst : ∀ l, (rxNumbers socket l)[0]? = some (rxLatency socket l) := by
    cases socket with
    | afpkt => exact fun _ => rfl
    | afxdp => exact fun _ => rfl
  have hsecond : ∀ l, (rxNumbers socket l)[1]? = some (rxSeq socket l) := by
    cases socket with
    | afpkt => exact fun _ => rfl
    | afxdp => exact fun _ => rfl
  rw [rxFile, latencies_printNumbers hfirst hsecond, List.filter_eq_self.mpr]
  exact fun l hl => decide_eq_true (hpos l hl)

/-! ### The row of the losses -/

/-- Lines with different numbers. -/
lemma calcDuploss_of_nodup {log : List Text} {zs : List Int} (debug : Bool)
    (hcol : log.map (awkField 2) = zs.map decimal) (hnonneg : ∀ z ∈ zs, 0 ≤ z) (hnodup : zs.Nodup) :
    calcDuploss 2 debug log n =
      ⟨n, zs.length, 0, n - zs.length, if debug then some (packetErr log) else none⟩ := by
  have hnumbers : grepNumbers (zs.map decimal) = zs.map decimal := by
    apply List.filter_eq_self.mpr
    intro w hw
    obtain ⟨z, hz, rfl⟩ := List.mem_map.mp hw
    exact decide_eq_true (isNumber_decimal (hnonneg z hz))
  have hrx : packetRx 2 log = zs.length := by
    rw [packetRx, hcol, hnumbers, List.length_map]
  have hdupl : packetDupl log = 0 := by
    rw [packetDupl_eq_zero_iff, hcol, List.isChain_map]
    apply (List.Pairwise.isChain hnodup).imp
    intro a b hab
    exact decimal_injective.ne hab
  rw [calcDuploss, hrx, hdupl, sub_zero]

/-- Lines with the numbers from 1 on, each once. -/
lemma calcRxDuploss_rxFile (hseq : out.map (rxSeq socket) = numbers out.length) :
    calcRxDuploss (rxFile socket out) n = ⟨n, out.length, 0, n - out.length, none⟩ := by
  have hcol : (rxFile socket out).map (awkField 2) = (numbers out.length).map decimal := by
    rw [← hseq, rxFile, List.map_map, List.map_map]
    exact List.map_congr_left fun l _ => awkField_rxNumbers socket l
  have hnonneg : ∀ z ∈ numbers out.length, 0 ≤ z := by
    intro z hz
    exact Int.le_trans Int.one_nonneg (mem_numbers.mp hz).1
  have hcounts := calcDuploss_of_nodup (n := n) false hcol hnonneg nodup_numbers
  rw [← hseq, List.length_map] at hcounts
  exact hcounts

end

/-! ### The lines of a receiver -/

section
variable {socket : Socket} {out : List Txrx.RxLine} {n txQueue globRxSeq : Nat}
  {sent read : List Nat}

lemma rxSeq_eq {l : Txrx.RxLine} (h : l.seq < 2 ^ 31) : rxSeq socket l = l.seq := by
  cases socket with
  | afpkt => exact Txrx.asInt32_of_lt h
  | afxdp => rfl

/-- The latency printed is how long the packet was on its way. -/
lemma rxLatency_eq {l : Txrx.RxLine} {t d : Nat} (hread : l.ReadAt d)
    (hsent : l.txTimestampA = t % 2 ^ 64) (ht : t < 2 ^ 63) (hd : d < 2 ^ 63)
    (hle : socket = .afxdp → t ≤ d) : rxLatency socket l = (d : Int) - t := by
  have hlatency : l.latency = (d + 2 ^ 64 - t) % 2 ^ 64 := by
    rw [hread.2, hsent, Nat.mod_eq_of_lt (ht.trans (by decide))]
  cases socket with
  | afpkt =>
    rw [rxLatency, hlatency]
    exact asInt64_sub ht hd
  | afxdp =>
    have htd := hle rfl
    rw [rxLatency, hlatency]
    omega

/-- A receiver's line `k` shows what is known of packet `k`. -/
lemma line_of_delivered (h : Txrx.Delivered n txQueue sent out globRxSeq) {k : Nat}
    {l : Txrx.RxLine} (hl : out[k]? = some l) :
    l.seq = k + 1 ∧ ∃ t, sent[k]? = some t ∧ l.txTimestampA = t % 2 ^ 64 := by
  have hk := (List.getElem?_eq_some_iff.mp hl).1
  have hkey := congrArg (fun keys => keys[k]?) h.keys
  simp only [List.getElem?_map, hl, List.getElem?_take, if_pos hk, List.getElem?_zipIdx,
    Option.map_some] at hkey
  cases ht : sent[k]? with
  | none =>
    rw [ht] at hkey
    cases hkey
  | some t =>
    rw [ht] at hkey
    simp only [Option.map_some, Option.some.injEq, Txrx.RxLine.key, Prod.mk.injEq] at hkey
    exact ⟨hkey.1.trans (Nat.add_comm 1 k), t, rfl, hkey.2.2⟩

lemma seqs_of_delivered (h : Txrx.Delivered n txQueue sent out globRxSeq) (hn : n < 2 ^ 31) :
    out.map (rxSeq socket) = numbers out.length := by
  apply List.ext_getElem?
  intro k
  rw [numbers, List.getElem?_map, List.getElem?_map]
  cases hl : out[k]? with
  | none =>
    rw [List.getElem?_eq_none (by
      rw [List.length_range]
      exact List.getElem?_eq_none_iff.mp hl)]
    rfl
  | some l =>
    have hk := (List.getElem?_eq_some_iff.mp hl).1
    have hseq := (line_of_delivered h hl).1
    have hle := h.length_le
    rw [List.getElem?_range hk, Option.map_some, Option.map_some, rxSeq_eq (by omega), hseq]
    rfl

lemma latencies_of_delivered (h : Txrx.Delivered n txQueue sent out globRxSeq)
    (hread : List.Forall₂ Txrx.RxLine.ReadAt out read) (hclock : Clocked socket sent read) :
    out.map (rxLatency socket) = delays sent read := by
  apply List.ext_getElem?
  intro k
  rw [delays, List.getElem?_map, List.getElem?_zipWith]
  cases hl : out[k]? with
  | none =>
    have hk : read[k]? = none := by
      rw [List.getElem?_eq_none_iff, ← hread.length_eq]
      exact List.getElem?_eq_none_iff.mp hl
    rw [hk]
    cases sent[k]? with
    | none => rfl
    | some t => rfl
  | some l =>
    obtain ⟨-, t, ht, hsent⟩ := line_of_delivered h hl
    have hk := (List.getElem?_eq_some_iff.mp hl).1
    have hk' : k < read.length := hread.length_eq ▸ hk
    have hd := List.getElem?_eq_getElem hk'
    have hreadAt : l.ReadAt read[k] := by
      have hget := hread.get hk hk'
      rwa [List.get_eq_getElem, List.get_eq_getElem,
        Option.some.inj ((List.getElem?_eq_getElem hk).symm.trans hl)] at hget
    rw [ht, hd]
    exact congrArg some (rxLatency_eq hreadAt hsent (hclock.sent_lt t (List.mem_of_getElem? ht))
      (hclock.read_lt _ (List.getElem_mem hk')) fun hsocket => hclock.le hsocket k t _ ht hd)

/-- What the lines say is what is reported. -/
lemma reports_of_delivered (h : Txrx.Delivered n txQueue sent out globRxSeq)
    (hread : List.Forall₂ Txrx.RxLine.ReadAt out read) (hn : n < 2 ^ 31)
    (hclock : Clocked socket sent read) : Reports socket n sent read out := by
  have hlength : (rxFile socket out).length = read.length := by
    rw [rxFile, List.length_map, hread.length_eq]
  have hseq : out.map (rxSeq socket) = numbers out.length := seqs_of_delivered h hn
  have hpos : ∀ l ∈ out, 0 < rxSeq socket l := by
    intro l hl
    have hmem : rxSeq socket l ∈ numbers out.length := hseq ▸ List.mem_map_of_mem hl
    exact Int.lt_of_lt_of_le Int.zero_lt_one (mem_numbers.mp hmem).1
  constructor
  · intro hfew
    rw [transmissionReport, if_pos (hlength ▸ hfew)]
  · intro henough
    have hlatencies : latencies 1 2 (rxFile socket out) = delays sent read :=
      (latencies_rxFile hpos).trans (latencies_of_delivered h hread hclock)
    have hne : delays sent read ≠ [] := by
      rw [← latencies_of_delivered h hread hclock, ← List.length_pos_iff, List.length_map,
        hread.length_eq]
      omega
    obtain ⟨u, hu⟩ := exists_calcU2u toDouble hlatencies hne
    refine ⟨u, ?_, fun hlt => summarises_calcU2u (fun _ => toDouble_of_lt) hlatencies hlt hu⟩
    rw [transmissionReport, if_neg (by omega), calcRxU2u, hu, Option.map_some,
      calcRxDuploss_rxFile hseq, hread.length_eq]

end

/-- Whenever the receiver is ended, the report is about the packets it has read: in AF_XDP mode
about all but the first. Once the sender has sent its last packet and none is on its way, no
packet is reported as missing. -/
theorem reports_transmission (lib : Txrx.XskLib) (opt rxOpt : Txrx.Options)
    (hcount : rxOpt.framesToSend = opt.framesToSend) :
    (∀ thread hwAddr tr s, (Txrx.afpktLinkLts thread opt rxOpt hwAddr).Run tr s →
      (∀ x ∈ tr, Txrx.AfpktLink.Takes x.2) →
      Clocked .afpkt (Txrx.AfpktLink.stored tr) (Txrx.AfpktLink.readings tr) →
      Reports .afpkt opt.framesToSend (Txrx.AfpktLink.stored tr) (Txrx.AfpktLink.readings tr)
        s.receiver.out ∧
      (s.Sent → s.link = [] → (Txrx.AfpktLink.readings tr).length = opt.framesToSend)) ∧
    (∀ tr s, (Txrx.afxdpLinkLts lib opt.toUserOpt rxOpt.toUserOpt).Run tr s →
      (∀ x ∈ tr, Txrx.AfxdpLink.Smooth x.1 x.2) →
      Clocked .afxdp (Txrx.AfxdpLink.stored tr).tail (Txrx.AfxdpLink.readings tr).tail →
      Reports .afxdp opt.framesToSend (Txrx.AfxdpLink.stored tr).tail
        (Txrx.AfxdpLink.readings tr).tail s.receiver.out ∧
      (opt.framesToSend < s.sent → s.AllRead →
        (Txrx.AfxdpLink.readings tr).tail.length = opt.framesToSend)) := by
  have hframes : opt.framesToSend < 2 ^ 31 := by
    have hle := opt.framesToSend_le
    omega
  constructor
  · intro thread hwAddr tr s h htakes hclock
    have hread := Txrx.AfpktLink.readAt_readings h htakes
    refine ⟨reports_of_delivered (Txrx.AfpktLink.delivered h htakes) hread hframes hclock, ?_⟩
    intro hsent hlink
    rw [← hread.length_eq, Txrx.AfpktLink.delivered_all h htakes hsent hlink]
  · intro tr s h hsmooth hclock
    have hread := Txrx.AfxdpLink.readAt_readings h hcount hsmooth
    have hdelivered := Txrx.AfxdpLink.delivered h hcount hsmooth
    refine ⟨reports_of_delivered hdelivered hread hframes hclock, ?_⟩
    intro hsent hall
    rw [← hread.length_eq, Txrx.AfxdpLink.delivered_all h hcount hsmooth hsent hall]

section ThreeThousand

open Txrx

/-- As many packets as the runner wants to see. -/
private def threeThousand : Options := Options.default.setFramesToSend ⟨3000, by decide, by decide⟩

private lemma clocked_replicate (socket : Socket) :
    Clocked socket (List.replicate 3000 5) (List.replicate 3000 7) := by
  refine ⟨fun t ht => ?_, fun d hd => ?_, fun _ k t d ht hd => ?_⟩
  · rw [List.eq_of_mem_replicate ht]
    decide
  · rw [List.eq_of_mem_replicate hd]
    decide
  · rw [List.eq_of_mem_replicate (List.mem_of_getElem? ht),
      List.eq_of_mem_replicate (List.mem_of_getElem? hd)]
    decide

/-- The report on packets that were two nanoseconds on their way. -/
private lemma reports_replicate {socket : Socket} {out : List RxLine}
    (h : Reports socket 3000 (List.replicate 3000 5) (List.replicate 3000 7) out) :
    ∃ u, transmissionReport (rxFile socket out) 3000 = some (u, ⟨3000, 3000, 0, 0, none⟩) ∧
      Summarises (List.replicate 3000 2) u := by
  have hlength : (List.replicate 3000 7).length = 3000 := List.length_replicate
  obtain ⟨u, hu, hsum⟩ := h.enough hlength.ge
  rw [hlength] at hu
  rw [delays, List.zipWith_replicate'] at hsum
  refine ⟨u, hu, hsum ?_⟩
  rw [List.map_replicate, List.sum_replicate]
  decide

section Afpkt

open AfpktLink

/-- A link before the thread starts. -/
private def quiet : AfpktLink := ⟨⟨.setup, 0, ⟨0, 0⟩, 0, 0, []⟩, [], ⟨0, []⟩⟩

private lemma step_recv {s : AfpktLink} (hlt : s.receiver.globRxSeq < 3000) :
    (afpktLinkLts .plain threeThousand threeThousand #v[0, 0, 0, 0, 0, 0]).step s
      (.recv (fun _ => 0) 0 7) = some { s with
        link := s.link.tail
        receiver := s.receiver.recvPkt threeThousand (fun _ => 0)
          (s.link.head?.bind socketReceives) 0 7 } := if_pos hlt

private lemma exists_read {k : Nat} (hk : k ≤ 3000) :
    ∃ tr s, (afpktLinkLts .plain threeThousand threeThousand #v[0, 0, 0, 0, 0, 0]).Run tr s ∧
      (∀ x ∈ tr, Takes x.2) ∧ stored tr = List.replicate k 5 ∧ readings tr = List.replicate k 7 ∧
      s.sender.pc = .loop ∧ s.link = [] := by
  induction k with
  | zero =>
    have h : (afpktLinkLts .plain threeThousand threeThousand #v[0, 0, 0, 0, 0, 0]).Run [] quiet :=
      .init ⟨rfl, rfl, rfl⟩
    exact ⟨_, _, h.step (a := .sender (.begin 0)) rfl, by simp [Takes], rfl, rfl, rfl, rfl⟩
  | succ k ih =>
    obtain ⟨tr, s, h, htakes, hstored, hreadings, hpc, hlink⟩ := ih (by omega)
    have hread := readAt_readings h htakes
    obtain ⟨hsender, hconveys⟩ := arrives h htakes
    obtain ⟨-, hsends⟩ := hsender.resolve_left fun hsetup => by simp [hpc] at hsetup
    have hcount := hsends.count
    rw [hstored, List.length_replicate] at hcount
    have hseq : s.receiver.globRxSeq = k := by
      rw [hconveys.seq, hread.length_eq, hreadings, List.length_replicate]
    have hturn : AfpktSender.step .plain threeThousand s.sender (.turn 5 true) =
        some (s.sender.next threeThousand 5) := if_pos ⟨hpc, fun hzero => by
          rw [hzero, Nat.zero_add] at hcount
          exact absurd hcount (show k ≠ 3000 by omega)⟩
    let s₁ : AfpktLink := { s with
      sender := s.sender.next threeThousand 5
      link := s.link ++ emitted .plain threeThousand #v[0, 0, 0, 0, 0, 0] s.sender (.turn 5 true) }
    have hs : (afpktLinkLts .plain threeThousand threeThousand #v[0, 0, 0, 0, 0, 0]).step s
        (.sender (.turn 5 true)) = some s₁ := congrArg (Option.map _) hturn
    have hlt : s₁.receiver.globRxSeq < 3000 := by
      show s.receiver.globRxSeq < 3000
      omega
    have h₂ := (h.step hs).step (step_recv hlt)
    refine ⟨_, _, h₂, ?_, ?_, ?_, ?_, ?_⟩
    · simp only [List.forall_mem_append, List.forall_mem_singleton]
      exact ⟨⟨htakes, fun now he => by cases he⟩, fun now he => by cases he⟩
    · rw [stored_append, stored_append, hstored, List.replicate_succ', List.append_assoc]
      rfl
    · rw [readings_concat, readings_concat, hreadings, List.replicate_succ']
      simp [s₁, reading, emitted, hlink]
    · simp [s₁, AfpktSender.next, hpc]
    · simp [s₁, emitted, hlink]

end Afpkt

section Afxdp

open AfxdpLink

private abbrev Link := AfxdpLink threeThousand.framesPerRing threeThousand.framesPerRing

private def link : Lts Link AfxdpLinkAct :=
  afxdpLinkLts .reference threeThousand.toUserOpt threeThousand.toUserOpt

/-- A link before the thread starts. -/
private def still : Link where
  sender := ⟨.setup, .initial _ fun _ => 0, 0, 0, 0, List.replicate 64 0⟩
  sent := 0
  link := []
  receiver := ⟨.initial _ fun _ => 0, 0, []⟩

private lemma still_init : link.init still := by
  have hx := initXdpSocket_eq .reference threeThousand.framesPerRing_pos fun _ => 0
  exact ⟨⟨_, _, _, hx, List.length_replicate, rfl⟩, ⟨_, _, hx, rfl⟩, rfl, rfl⟩

private lemma step_sender {s : Link} {a : SendAct} {t : Sender threeThousand.framesPerRing}
    (ha : s.MayStep a) (hs : s.sender.step threeThousand.toUserOpt .reference a = some t) :
    link.step s (.sender a) = some { s with sender := t } :=
  (if_pos ha).trans (congrArg (Option.map _) hs)

private lemma step_transmit {s : Link} {d : Nat × TxDesc}
    (h : (s.sender.xsk.txHeld.find? fun d => d.1 = s.sent) = some d) :
    link.step s .transmit = some { s with
      sent := s.sent + 1
      link := s.link ++ [packetBytes s.sender.xsk.buffer d.2] } := by
  show AfxdpLink.step .reference _ _ s .transmit = _
  rw [AfxdpLink.step, h]
  rfl

/-- A smooth run that has sent `k` packets, each at the time 5, and read none. -/
private structure HasSent (k : Nat) (tr : List (Link × AfxdpLinkAct)) (s : Link) : Prop where
  run : link.Run tr s
  smooth : ∀ x ∈ tr, Smooth x.1 x.2
  stored : stored tr = List.replicate k 5
  sender : ∀ x ∈ tr, ∀ b, x.2 ≠ .receiver b
  pc : s.sender.pc = .loop
  used : s.sender.xsk.txRing.used = 0
  sent : s.sent = k

/-- All descriptors queued have been taken and transmitted. -/
private lemma HasSent.idle {k : Nat} {tr : List (Link × AfxdpLinkAct)} {s : Link}
    (h : HasSent k tr s) :
    s.sender.i = k ∧ s.sender.xsk.txRing.prod = k ∧ s.sender.xsk.txRing.cons = k ∧
      ∀ d ∈ s.sender.xsk.txHeld, d.1 ≠ k := by
  have hflows := flows h.run rfl h.smooth
  have hlength := hflows.loads.length_eq
  have hprod := hflows.loads.prod
  have hused := s.sender.xsk.txRing.prod_eq
  simp only [h.stored, List.length_replicate, Sender.begun, Sender.submitted, h.pc]
    at hlength hprod
  rw [h.used] at hused
  refine ⟨by omega, by omega, by omega, ?_⟩
  intro d hd heq
  have hlt := (hflows.orderly.numbered.addr d.1 d.2 (.inr hd)).1
  omega

/-- One more pass of the loop, and its packet is transmitted. -/
private lemma HasSent.next {k : Nat} {tr : List (Link × AfxdpLinkAct)} {s : Link}
    (h : HasSent k tr s) (hk : k < 3001) : ∃ tr' s', HasSent (k + 1) tr' s' := by
  obtain ⟨hi, hprod, hcons, hfree⟩ := h.idle
  let opt := threeThousand.toUserOpt
  have htotal : s.sender.i < Sender.total opt := by
    show s.sender.i < 3000 + 10
    omega
  have hroom : s.sender.xsk.txRing.used < opt.framesPerRing := by
    rw [h.used]
    exact opt.framesPerRing_pos
  let s₁ : Sender opt.framesPerRing := s.sender.enter opt 5
  let s₂ : Sender opt.framesPerRing := s₁.fill opt
  let s₃ : Sender opt.framesPerRing := s₂.queue opt .reference hroom
  have hpos : 0 < s₃.xsk.txRing.used := by
    show 0 < (s.sender.xsk.txRing.push _ hroom).used
    rw [Ring.used_push]
    exact Nat.succ_pos _
  let s₄ : Sender opt.framesPerRing := { s₃ with
    xsk := { s₃.xsk with
      txRing := s₃.xsk.txRing.pop hpos
      txHeld := s₃.xsk.txHeld ++
        [(s₃.xsk.txRing.cons, s₃.xsk.txRing.entry s₃.xsk.txRing.cons)] } }
  let s₅ : Sender opt.framesPerRing := { s₄ with pc := .stats }
  let s₆ : Sender opt.framesPerRing :=
    Sender.next opt { s₅ with xsk := updateTxstats .reference s₅.xsk }
  have hkernel : s₃.xsk.kernelStep .txTake = some s₄.xsk := dif_pos hpos
  have hmay : Sender.KernelMay opt s₃.pc .txTake := .inr rfl
  have htake : s₃.step opt .reference (.kernel .txTake) = some s₄ := by
    rw [Sender.step, if_pos hmay, hkernel]
    rfl
  have h₁ := h.run.step (step_sender (a := .enter 5) (t := s₁) trivial (if_pos ⟨h.pc, htotal⟩))
  have h₂ := h₁.step (step_sender (a := .fill) (t := s₂) trivial rfl)
  have h₃ := h₂.step (step_sender (a := .reserve) (t := s₃) trivial
    (dif_pos (XskLib.reference.reserve_one_iff.mpr hroom)))
  have h₄ := h₃.step (step_sender (a := .kernel .txTake) trivial htake)
  have hfind : (s₄.xsk.txHeld.find? fun d => d.1 = s.sent) =
      some (s₃.xsk.txRing.cons, s₃.xsk.txRing.entry s₃.xsk.txRing.cons) := by
    show (s.sender.xsk.txHeld ++ [_]).find? _ = _
    rw [List.find?_append, List.find?_eq_none.mpr, Option.none_or, List.find?_singleton, if_pos]
    · show decide (s.sender.xsk.txRing.cons = s.sent) = true
      rw [hcons, h.sent]
      exact decide_eq_true rfl
    · intro d hd
      rw [h.sent]
      simpa using hfree d hd
  have h₅ := h₄.step (step_transmit hfind)
  have h₆ := h₅.step (step_sender (a := .sendto true) (t := s₅) trivial rfl)
  have h₇ := h₆.step (step_sender (a := .stats) (t := s₆) trivial rfl)
  refine ⟨_, _, h₇, ?_, ?_, ?_, rfl, ?_, congrArg (· + 1) h.sent⟩
  · simp only [List.forall_mem_append, List.forall_mem_singleton]
    refine ⟨⟨⟨⟨⟨⟨⟨h.smooth, trivial⟩, ?_⟩, hroom⟩, trivial⟩, trivial⟩, trivial⟩, trivial⟩
    show s.sender.xsk.txRing.prod < s.sent + 4096
    rw [hprod, h.sent]
    omega
  · simp only [stored_append, h.stored, List.replicate_succ']
    rw [List.append_assoc, List.append_assoc, List.append_assoc, List.append_assoc,
      List.append_assoc, List.append_assoc]
    rfl
  · simp only [List.forall_mem_append, List.forall_mem_singleton]
    simpa using h.sender
  · show (updateTxstats .reference s₅.xsk).txRing.used = 0
    rw [updateTxstats_txRing]
    show (s₃.xsk.txRing.pop hpos).used = 0
    rw [Ring.used_pop]
    show (s.sender.xsk.txRing.push _ hroom).used - 1 = 0
    rw [Ring.used_push, h.used]

private lemma exists_sent {k : Nat} (hk : k ≤ 3001) : ∃ tr s, HasSent k tr s := by
  induction k with
  | zero =>
    have h : link.Run [] still := .init still_init
    refine ⟨_, _, h.step (a := .sender (.prefill 0)) rfl, ?_, rfl, ?_, rfl, rfl, rfl⟩
    · simp [Smooth]
    · simp
  | succ k ih =>
    obtain ⟨tr, s, h⟩ := ih (by omega)
    exact h.next hk

/-- The receiver stores no times. -/
private lemma stored_receives {tr tr' : List (Link × AfxdpLinkAct)}
    (h : ∀ x ∈ tr', Receives x.1 x.2) : stored (tr ++ tr') = stored tr := by
  have hnone : stored tr' = [] := by
    apply List.filterMap_eq_nil_iff.mpr
    intro x hx
    obtain ⟨-, b, hb⟩ := h x hx
    rw [hb]
  rw [stored, List.filterMap_append, ← stored, ← stored, hnone, List.append_nil]

/-- Nothing was read before the receiver's steps, and these read at the time 7. -/
private lemma readings_replicate {tr tr' : List (Link × AfxdpLinkAct)} {k : Nat} {s : Link}
    (h : HasSent k tr s) (hat : ∀ x ∈ tr', AtTime 7 x.2) :
    readings (tr ++ tr') = List.replicate (readings (tr ++ tr')).length 7 := by
  rw [List.eq_replicate_iff]
  refine ⟨rfl, fun t ht => ?_⟩
  obtain ⟨⟨u, a⟩, hx, hreading⟩ := List.mem_filterMap.mp ht
  rcases List.mem_append.mp hx with hx | hx
  · cases a with
    | receiver b => exact absurd rfl (h.sender _ hx b)
    | _ => cases hreading
  · cases a with
    | receiver b =>
      cases b with
      | recv now =>
        obtain ⟨-, hnow⟩ := Option.ite_none_right_eq_some.mp hreading
        rw [← Option.some.inj hnow]
        exact hat _ hx now rfl
      | kernel k => cases hreading
    | _ => cases hreading

end Afxdp

/-- Runs of 3000 packets in both socket modes, each two nanoseconds on its way. -/
theorem reports_transmission_all :
    (∃ tr s u, (afpktLinkLts .plain threeThousand threeThousand #v[0, 0, 0, 0, 0, 0]).Run tr s ∧
      transmissionReport (rxFile .afpkt s.receiver.out) 3000 = some (u, ⟨3000, 3000, 0, 0, none⟩) ∧
      Summarises (List.replicate 3000 2) u) ∧
    ∃ tr s u, link.Run tr s ∧
      transmissionReport (rxFile .afxdp s.receiver.out) 3000 = some (u, ⟨3000, 3000, 0, 0, none⟩) ∧
      Summarises (List.replicate 3000 2) u := by
  obtain ⟨hafpkt, hafxdp⟩ := reports_transmission .reference threeThousand threeThousand rfl
  constructor
  · obtain ⟨tr, s, h, htakes, hstored, hreadings, -, -⟩ := exists_read le_rfl
    obtain ⟨hreports, -⟩ := hafpkt .plain #v[0, 0, 0, 0, 0, 0] tr s h htakes
      (hstored ▸ hreadings ▸ clocked_replicate .afpkt)
    rw [hstored, hreadings] at hreports
    obtain ⟨u, hu⟩ := reports_replicate hreports
    exact ⟨tr, s, u, h, hu⟩
  · obtain ⟨tr, s, h⟩ := exists_sent le_rfl
    obtain ⟨tr', s', hrun, hreceives, hkept, hgoal⟩ := AfxdpLink.reads h.run rfl h.smooth 7
    have hsmooth : ∀ x ∈ tr ++ tr', AfxdpLink.Smooth x.1 x.2 :=
      List.forall_mem_append.mpr ⟨h.smooth, fun x hx => (hreceives x hx).1.1⟩
    have hlines : s'.receiver.out.length = 3000 :=
      hgoal.elim id fun hread => AfxdpLink.delivered_all hrun rfl hsmooth
        (by rw [hkept, h.sent]; exact Nat.lt_succ_self 3000) hread
    have hstored : (AfxdpLink.stored (tr ++ tr')).tail = List.replicate 3000 5 := by
      rw [stored_receives fun x hx => (hreceives x hx).1, h.stored, List.tail_replicate]
    have hreadings : (AfxdpLink.readings (tr ++ tr')).tail = List.replicate 3000 7 := by
      have hlength := (AfxdpLink.readAt_readings hrun rfl hsmooth).length_eq
      rw [readings_replicate h fun x hx => (hreceives x hx).2, List.tail_replicate] at hlength ⊢
      rw [List.length_replicate, hlines] at hlength
      rw [← hlength]
    obtain ⟨hreports, -⟩ := hafxdp (tr ++ tr') s' hrun hsmooth
      (hstored ▸ hreadings ▸ clocked_replicate .afxdp)
    rw [hstored, hreadings] at hreports
    obtain ⟨u, hu⟩ := reports_replicate hreports
    exact ⟨tr ++ tr', s', u, hrun, hu⟩

end ThreeThousand

end Report

end TsnRefSw
