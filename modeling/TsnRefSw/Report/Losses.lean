import Mathlib.Data.Finset.Card
import TsnRefSw.Core.Text
import TsnRefSw.Txrx.Options
import TsnRefSw.Opcua.DataSource

/-!
# The losses a test reports

After a test the runners count lines of the receiver's log. What they call losses is right as
long as no number repeats: a number that came twice is taken off the expected count twice or
even four times, once or twice as received and, if its lines are adjacent, again as duplicate.
-/

namespace TsnRefSw

open Core

namespace Report

open Txrx (Socket rxNumbers rxSeq)

/-! ### The logs -/

/-- The numbers on a line of `subStoreDataReceived()`. -/
def subNumbers (l : Opcua.SubLine) : List Int :=
  [l.latency.toInt, l.rxSequence.toInt64.toInt, l.id.toInt, l.txTime.toInt64.toInt,
    l.rxHwTS.toInt64.toInt, l.rxTime.toInt64.toInt]

/-- The sequence number on a line of `subStoreDataReceived()`. -/
def subSeq (l : Opcua.SubLine) : Int := l.rxSequence.toInt64.toInt

/-- The numbers on a line of `subReturnStoreDataReceived()`. -/
def returnNumbers (r : Opcua.ReturnTimes) : List Int :=
  [r.a2bLatency.toInt, r.seqA.toInt64.toInt, r.id.toInt, r.txPubA.toInt64.toInt,
    r.rxHwTS.toInt64.toInt, r.rxSubB.toInt64.toInt, r.processingLatency.toInt,
    r.b2aLatency.toInt, r.seqB.toInt64.toInt, r.id.toInt, r.txPubB.toInt64.toInt,
    r.rxHwTS.toInt64.toInt, r.rxSubA.toInt64.toInt, r.returnLatency.toInt]

/-- A line of numbers. -/
def printNumbers (zs : List Int) : Text := tabbed (zs.map decimal)

/-- What `subReturnStoreDataReceived()` prints. -/
def printReturn : Opcua.SubReturnLine → Text
  | .duplicate        => "ERROR_DUPLICATE_SKIPPED".toList
  | .msgqCopy         => "ERROR_MSGQ_COPY".toList
  | .nothingToForward => "ERROR_NOTHING_TO_FORWARD".toList
  | .data r           => printNumbers (returnNumbers r)

/-- The two sequence numbers of a returned sample. -/
inductive Column where
  | seqA
  | seqB
deriving DecidableEq, Repr

/-- A sequence number on a line of `subReturnStoreDataReceived()`, if it is no error. -/
def returnSeq (c : Column) : Opcua.SubReturnLine → Option Int
  | .data r => match c with
    | .seqA => some r.seqA.toInt64.toInt
    | .seqB => some r.seqB.toInt64.toInt
  | _ => none

/-! ### The reports -/

/-- The table a report shows. -/
structure Counts where
  expected : Int
  received : Int
  duplicates : Int
  losses : Int
  /-- Shown in debug mode. -/
  fwdErrors : Option Int
deriving DecidableEq, Repr

/-- `PACKET_RX`, counted in column `k`. -/
def packetRx (k : Nat) (log : List Text) : Int := (grepNumbers (log.map (awkField k))).length

/-- `PACKET_DUPL`. -/
def packetDupl (log : List Text) : Int := (uniqD (log.map (awkField 2))).length

/-- `PACKET_ERR`. -/
def packetErr (log : List Text) : Int :=
  (grep "ERROR_".toList (log.map (awkField 1))).length

/-- What the three functions compute: `PACKET_RX` is counted in column `k`. -/
def calcDuploss (k : Nat) (debug : Bool) (log : List Text) (packetCount : Int) : Counts where
  expected := packetCount
  received := packetRx k log
  duplicates := packetDupl log
  losses := packetCount - packetRx k log - packetDupl log
  fwdErrors := if debug then some (packetErr log) else none

/-- `calc_rx_duploss()` of the shell runner. -/
def calcRxDuploss (log : List Text) (packetCount : Nat) : Counts :=
  calcDuploss 2 false log packetCount

/-- The value of a variable in `$(( ))` that holds a decimal numeral. -/
def arithmetic : List Text → Option Nat
  | [w] => if IsNumber w ∧ w.head? ≠ some '0' then some (Nat.ofDigitChars 10 w 0) else none
  | _   => none

/-- `PACKET_COUNT`, from the lines of the configuration file. -/
def packetCountOf (json : List Text) : Option Nat :=
  arithmetic ((grep "packet_count".toList json).map fun l => sedDelete ',' (awkField 2 l))

/-- `calc_rx_duploss()` of the JSON runner. -/
def jsonCalcRxDuploss (log json : List Text) : Option Counts :=
  (packetCountOf json).map fun n => calcDuploss 2 false log n

/-- `calc_return_duploss()`. -/
def calcReturnDuploss (debug : Bool) (log json : List Text) : Option Counts :=
  (packetCountOf json).map fun n => calcDuploss 9 debug log n

/-! ### What the reports should say -/

/-- The numbers of the packets a test with `n` packets sends. -/
def Sent (n : Nat) (z : Int) : Prop := 1 ≤ z ∧ z ≤ n

def numbers (n : Nat) : List Int := (List.range n).map fun k : Nat => (k + 1 : Int)

/-- How many of the numbers do not occur. -/
def missing (n : Nat) (seqs : List Int) : Nat := ((numbers n).filter (· ∉ seqs)).length

/-- How many different numbers occur. -/
def distinct (seqs : List Int) : Nat := seqs.toFinset.card

/-- The report accounts for all packets sent. -/
structure Accounted (n : Nat) (seqs : List Int) (r : Counts) : Prop where
  losses : r.losses = missing n seqs
  expected : r.expected = r.losses + distinct seqs

section
variable {n k : Nat} {seqs : List Int} {log : List Text} {debug : Bool}

lemma mem_numbers {z : Int} : z ∈ numbers n ↔ Sent n z := by
  rw [numbers, List.mem_map, Sent]
  constructor
  · rintro ⟨k, hk, rfl⟩
    rw [List.mem_range] at hk
    omega
  · rintro ⟨hge, hle⟩
    refine ⟨(z - 1).toNat, ?_, by omega⟩
    rw [List.mem_range]
    omega

lemma nodup_numbers : (numbers n).Nodup := by
  refine List.nodup_range.map ?_
  intro a b h
  have h : (a + 1 : Int) = b + 1 := h
  omega

lemma missing_add_distinct (h : ∀ z ∈ seqs, Sent n z) : missing n seqs + distinct seqs = n := by
  have hsub : seqs.toFinset ⊆ (numbers n).toFinset := by
    intro z hz
    rw [List.mem_toFinset] at hz ⊢
    exact mem_numbers.mpr (h z hz)
  have hmissing : missing n seqs = ((numbers n).toFinset \ seqs.toFinset).card := by
    rw [missing, ← List.toFinset_card_of_nodup (nodup_numbers.filter _)]
    congr 1
    ext z
    simp
  rw [hmissing, distinct, Finset.card_sdiff_add_card_eq_card hsub,
    List.toFinset_card_of_nodup nodup_numbers, numbers, List.length_map, List.length_range]

lemma distinct_eq_length_iff : distinct seqs = seqs.length ↔ seqs.Nodup := by
  constructor
  · intro h
    exact Multiset.toFinset_card_eq_card_iff_nodup.mp h
  · intro h
    exact List.toFinset_card_of_nodup h

variable (debug) in
/-- Repeated numbers are taken off, once for each repetition and once for each line that
`uniq -D` prints. -/
lemma losses_calcDuploss (h : ∀ z ∈ seqs, Sent n z) (hrx : packetRx k log = seqs.length) :
    (calcDuploss k debug log n).losses =
      missing n seqs - (seqs.length - distinct seqs : Int) - packetDupl log := by
  have hsum := missing_add_distinct h
  simp only [calcDuploss, hrx]
  omega

/-- The report is right if and only if no number repeats and nothing counts as duplicate. -/
lemma accounted_iff (h : ∀ z ∈ seqs, Sent n z) (hrx : packetRx k log = seqs.length) :
    Accounted n seqs (calcDuploss k debug log n) ↔ seqs.Nodup ∧ packetDupl log = 0 := by
  have hlosses := losses_calcDuploss debug h hrx
  have hsum := missing_add_distinct h
  have hle : distinct seqs ≤ seqs.length := List.toFinset_card_le seqs
  have hdupl : 0 ≤ packetDupl log := Int.natCast_nonneg _
  constructor
  · intro hr
    have hright := hr.losses
    constructor
    · apply distinct_eq_length_iff.mp
      omega
    · omega
  · rintro ⟨hnodup, hzero⟩
    have hall := distinct_eq_length_iff.mpr hnodup
    have hright : (calcDuploss k debug log n).losses = missing n seqs := by omega
    constructor
    · exact hright
    · rw [hright]
      exact (by exact_mod_cast hsum.symm : (n : Int) = missing n seqs + distinct seqs)

lemma packetDupl_eq_zero_iff :
    packetDupl log = 0 ↔ (log.map (awkField 2)).IsChain (· ≠ ·) := by
  rw [← uniqD_eq_nil_iff, packetDupl, Int.natCast_eq_zero, List.length_eq_zero_iff]

lemma grepNumbers_decimal (h : ∀ z ∈ seqs, Sent n z) :
    grepNumbers (seqs.map decimal) = seqs.map decimal := by
  apply List.filter_eq_self.mpr
  intro w hw
  obtain ⟨z, hz, rfl⟩ := List.mem_map.mp hw
  have hpos := (h z hz).1
  exact decide_eq_true (isNumber_decimal (by omega))

/-- A log whose second column holds the numbers. -/
lemma accounted_rx_iff (h : ∀ z ∈ seqs, Sent n z) (hcol : log.map (awkField 2) = seqs.map decimal) :
    Accounted n seqs (calcDuploss 2 debug log n) ↔ seqs.Nodup := by
  have hrx : packetRx 2 log = seqs.length := by
    rw [packetRx, hcol, grepNumbers_decimal h, List.length_map]
  rw [accounted_iff h hrx, and_iff_left_of_imp]
  intro hnodup
  rw [packetDupl_eq_zero_iff, hcol, List.isChain_map]
  apply (List.Pairwise.isChain hnodup).imp
  intro a b hab
  exact decimal_injective.ne hab

end

/-- The text of a number, empty where there is none. -/
def columnText (z : Option Int) : Text := (z.map decimal).getD []

lemma columnText_injective : Function.Injective columnText := by
  intro a b h
  cases a with
  | none =>
    cases b with
    | none => rfl
    | some b => exact absurd h.symm (isWord_decimal b).ne_nil
  | some a =>
    cases b with
    | none => exact absurd h (isWord_decimal a).ne_nil
    | some b => exact congrArg some (decimal_injective h)

/-- A field of a printed line. -/
lemma awkField_printNumbers (k : Nat) (zs : List Int) :
    awkField (k + 1) (printNumbers zs) = columnText zs[k]? := by
  have hwords : ∀ w ∈ zs.map decimal, IsWord w := by
    intro w hw
    obtain ⟨z, -, rfl⟩ := List.mem_map.mp hw
    exact isWord_decimal z
  rw [awkField, printNumbers, awkFields_tabbed hwords, columnText, List.getD_eq_getElem?_getD,
    List.getElem?_map, Nat.add_sub_cancel]

lemma awkField_rxNumbers (socket : Socket) (l : Txrx.RxLine) :
    awkField 2 (printNumbers (rxNumbers socket l)) = decimal (rxSeq socket l) := by
  have hsecond : (rxNumbers socket l)[1]? = some (rxSeq socket l) := by
    cases socket with
    | afpkt => rfl
    | afxdp => rfl
  rw [awkField_printNumbers, hsecond]
  rfl

lemma awkField_subNumbers (l : Opcua.SubLine) :
    awkField 2 (printNumbers (subNumbers l)) = decimal (subSeq l) :=
  awkField_printNumbers 1 (subNumbers l)

lemma awkField_seqA (l : Opcua.SubReturnLine) :
    awkField 2 (printReturn l) = columnText (returnSeq .seqA l) := by
  cases l with
  | data r => exact awkField_printNumbers 1 (returnNumbers r)
  | duplicate => rfl
  | msgqCopy => rfl
  | nothingToForward => rfl

lemma awkField_seqB (l : Opcua.SubReturnLine) :
    awkField 9 (printReturn l) = columnText (returnSeq .seqB l) := by
  cases l with
  | data r => exact awkField_printNumbers 8 (returnNumbers r)
  | duplicate => rfl
  | msgqCopy => rfl
  | nothingToForward => rfl

/-- Of a return log the lines of samples count as received. -/
lemma packetRx_printReturn (c : Column) {log : List Opcua.SubReturnLine}
    (h : ∀ l ∈ log, ∀ z ∈ returnSeq .seqB l, 0 ≤ z) :
    packetRx 9 (log.map printReturn) = (log.filterMap (returnSeq c)).length := by
  have hcount : ∀ l ∈ log,
      IsNumber (awkField 9 (printReturn l)) ↔ (returnSeq c l).isSome := by
    intro l hl
    rw [awkField_seqB]
    cases l with
    | data r =>
      have hnumber : IsNumber (columnText (returnSeq .seqB (.data r))) :=
        isNumber_decimal (h _ hl _ rfl)
      cases c with
      | seqA => exact iff_of_true hnumber rfl
      | seqB => exact iff_of_true hnumber rfl
    | duplicate => exact iff_of_false (fun hn => hn.1 rfl) (by simp [returnSeq])
    | msgqCopy => exact iff_of_false (fun hn => hn.1 rfl) (by simp [returnSeq])
    | nothingToForward => exact iff_of_false (fun hn => hn.1 rfl) (by simp [returnSeq])
  clear h
  rw [packetRx, grepNumbers, List.map_map, List.filter_map, List.length_map,
    List.length_filterMap_eq_countP, List.countP_eq_length_filter]
  congr 2
  apply List.filter_congr
  intro l hl
  rw [Bool.eq_iff_iff, Function.comp_apply, decide_eq_true_iff]
  exact hcount l hl

/-- A return log, whichever of its two numbers is looked at. -/
lemma accounted_return_iff {n : Nat} {debug : Bool} (c : Column)
    {log : List Opcua.SubReturnLine} (h : ∀ l ∈ log, ∀ z ∈ returnSeq c l, Sent n z)
    (hpos : ∀ l ∈ log, ∀ z ∈ returnSeq .seqB l, 0 ≤ z) :
    Accounted n (log.filterMap (returnSeq c)) (calcDuploss 9 debug (log.map printReturn) n) ↔
      (log.filterMap (returnSeq c)).Nodup ∧
        (log.map (returnSeq .seqA)).IsChain (· ≠ ·) := by
  have hsent : ∀ z ∈ log.filterMap (returnSeq c), Sent n z := by
    intro z hz
    obtain ⟨l, hl, hlz⟩ := List.mem_filterMap.mp hz
    exact h l hl z hlz
  have hrx := packetRx_printReturn c hpos
  have htexts : (log.map printReturn).map (awkField 2) =
      (log.map (returnSeq .seqA)).map columnText := by
    rw [List.map_map, List.map_map]
    apply List.map_congr_left
    intro l _
    exact awkField_seqA l
  rw [accounted_iff hsent hrx, packetDupl_eq_zero_iff, htexts, List.isChain_map]
  apply and_congr_right
  intro _
  constructor
  · intro hchain
    apply hchain.imp
    intro a b hab hne
    exact hab (congrArg columnText hne)
  · intro hchain
    apply hchain.imp
    intro a b hab
    exact columnText_injective.ne hab

/-- The reports of the shell runner, of the JSON runner and on return trips account for the
packets if and only if no number repeats and, on return trips, no two adjacent lines are errors
or carry the same number of A. -/
theorem losses_accounted_iff (n : Nat) :
    (∀ socket, ∀ log : List Txrx.RxLine, (∀ l ∈ log, Sent n (rxSeq socket l)) →
      (Accounted n (log.map (rxSeq socket))
          (calcRxDuploss (log.map fun l => printNumbers (rxNumbers socket l)) n) ↔
        (log.map (rxSeq socket)).Nodup)) ∧
    (∀ json, packetCountOf json = some n →
      ∀ log : List Opcua.SubLine, (∀ l ∈ log, Sent n (subSeq l)) →
      ∃ r, jsonCalcRxDuploss (log.map fun l => printNumbers (subNumbers l)) json = some r ∧
        (Accounted n (log.map subSeq) r ↔ (log.map subSeq).Nodup)) ∧
    (∀ json, packetCountOf json = some n → ∀ debug c, ∀ log : List Opcua.SubReturnLine,
      (∀ l ∈ log, ∀ z ∈ returnSeq c l, Sent n z) →
      (∀ l ∈ log, ∀ z ∈ returnSeq .seqB l, 0 ≤ z) →
      ∃ r, calcReturnDuploss debug (log.map printReturn) json = some r ∧
        (Accounted n (log.filterMap (returnSeq c)) r ↔
          (log.filterMap (returnSeq c)).Nodup ∧
            (log.map (returnSeq .seqA)).IsChain (· ≠ ·))) := by
  refine ⟨?_, ?_, ?_⟩
  · intro socket log hsent
    apply accounted_rx_iff
    · intro z hz
      obtain ⟨l, hl, rfl⟩ := List.mem_map.mp hz
      exact hsent l hl
    · simp [awkField_rxNumbers, Function.comp_def]
  · intro json hjson log hsent
    refine ⟨_, by rw [jsonCalcRxDuploss, hjson]; rfl, ?_⟩
    apply accounted_rx_iff
    · intro z hz
      obtain ⟨l, hl, rfl⟩ := List.mem_map.mp hz
      exact hsent l hl
    · simp [awkField_subNumbers, Function.comp_def]
  · intro json hjson debug c log hsent hpos
    refine ⟨_, by rw [calcReturnDuploss, hjson]; rfl, ?_⟩
    exact accounted_return_iff c hsent hpos

/-- A log of txrx and one of a return trip, and the configuration file they go with. -/
theorem losses_accounted_iff_gaps :
    Accounted 4 [4, 1] (calcRxDuploss ([4, 1].map fun n =>
      printNumbers (rxNumbers .afxdp ⟨700, n, 3, 5000, 0, 5700⟩)) 4) ∧
    ∃ r, calcReturnDuploss true ([.data ⟨5, 2, 0, 10, 0, 15, 4, 6, 1, 19, 25, 15⟩, .duplicate,
        .data ⟨5, 4, 0, 40, 0, 45, 4, 6, 2, 49, 55, 15⟩].map printReturn)
        ["\"packet_count\": 4,".toList] = some r ∧ Accounted 4 [2, 4] r := by
  constructor
  · exact ((losses_accounted_iff 4).1 .afxdp [⟨700, 4, 3, 5000, 0, 5700⟩,
      ⟨700, 1, 3, 5000, 0, 5700⟩] (by simp [Sent, rxSeq])).mpr (by decide)
  · obtain ⟨r, hr, hiff⟩ := (losses_accounted_iff 4).2.2 ["\"packet_count\": 4,".toList]
      (by decide +kernel) true .seqA [.data ⟨5, 2, 0, 10, 0, 15, 4, 6, 1, 19, 25, 15⟩, .duplicate,
        .data ⟨5, 4, 0, 40, 0, 45, 4, 6, 7, 49, 55, 15⟩] (by simp [returnSeq, Sent])
      (by simp [returnSeq])
    exact ⟨r, hr, hiff.mpr ⟨by decide, by decide⟩⟩

/-- Two packets of which the first arrives twice: three packets less than none are lost. On a
return trip two errors in a row are enough. -/
theorem not_losses_accounted :
    ¬ (∀ n, ∀ log : List Txrx.RxLine, (∀ l ∈ log, Sent n (rxSeq .afxdp l)) →
      Accounted n (log.map (rxSeq .afxdp))
        (calcRxDuploss (log.map fun l => printNumbers (rxNumbers .afxdp l)) n)) ∧
    ¬ (∀ n debug, ∀ log : List Opcua.SubReturnLine,
      (∀ l ∈ log, ∀ c, ∀ z ∈ returnSeq c l, Sent n z) →
      Accounted n (log.filterMap (returnSeq .seqB))
        (calcDuploss 9 debug (log.map printReturn) n)) := by
  constructor
  · intro h
    have hlosses := (h 2 [⟨700, 1, 3, 5000, 0, 5700⟩, ⟨700, 1, 3, 5000, 0, 5700⟩,
      ⟨700, 2, 3, 5000, 0, 5700⟩] (by simp [Sent, rxSeq])).losses
    exact absurd hlosses (by decide +kernel)
  · intro h
    have hsent : ∀ l ∈ [Opcua.SubReturnLine.duplicate, .duplicate], ∀ c, ∀ z ∈ returnSeq c l,
        Sent 2 z := by
      simp [returnSeq]
    have hchain := ((accounted_return_iff .seqB (fun l hl => hsent l hl .seqB)
      (by simp [returnSeq])).mp (h 2 false _ hsent)).2
    exact absurd hchain (by simp [returnSeq])

end Report

end TsnRefSw
