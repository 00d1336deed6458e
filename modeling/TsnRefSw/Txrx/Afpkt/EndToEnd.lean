import Mathlib.Data.List.Forall2
import TsnRefSw.Txrx.Afpkt.Receive

/-!
# From an AF_PACKET sender to its receiver

The lines the receiver has printed and the packets on the link are together what the sender has
sent.
-/

namespace TsnRefSw

open Core

namespace Txrx

namespace AfpktLink

variable {thread : AfpktThread} {opt rxOpt : Options} {hwAddr : Vector UInt8 6}
  {s s' : AfpktLink}

/-- The times stored in the packets sent. -/
def stored (tr : List (AfpktLink × AfpktLinkAct)) : List Nat :=
  tr.filterMap fun x => match x.2 with
    | .sender (.turn now true) => some now
    | _                        => none

/-- The socket takes every packet. -/
def Takes (a : AfpktLinkAct) : Prop := ∀ now, a ≠ .sender (.turn now false)

lemma stored_append (tr : List (AfpktLink × AfpktLinkAct)) (x : AfpktLink × AfpktLinkAct) :
    stored (tr ++ [x]) = stored tr ++ stored [x] := List.filterMap_append

/-- The sender is where the number of its packets says. -/
structure Sends (opt : Options) (times : List Nat) (s : AfpktSender) : Prop where
  prepared : Prepared opt s.tsnPkt
  seq : s.seq = times.length + 1
  count : s.count + times.length = opt.framesToSend

/-- Lines and link are what was sent. -/
structure Conveys (opt : Options) (times : List Nat) (link : List (List UInt8))
    (r : AfpktReceiver) : Prop where
  sent : times.length ≤ opt.framesToSend
  received : r.out.length ≤ times.length
  keys : r.out.map RxLine.key =
    ((times.zipIdx 1).take r.out.length).map fun p => (p.2, opt.socketPrio, p.1 % 2 ^ 64)
  link : List.Forall₂ (fun f p => Carries f opt.socketPrio p.2 p.1) link
    ((times.zipIdx 1).drop r.out.length)
  seq : r.globRxSeq = r.out.length

lemma Conveys.send {times : List Nat} {link : List (List UInt8)} {r : AfpktReceiver}
    (h : Conveys opt times link r) (hlt : times.length < opt.framesToSend) {f : List UInt8}
    {now : Nat} (hf : Carries f opt.socketPrio (times.length + 1) now) :
    Conveys opt (times ++ [now]) (link ++ [f]) r := by
  have hzip : (times ++ [now]).zipIdx 1 = times.zipIdx 1 ++ [(now, times.length + 1)] := by
    rw [List.zipIdx_append, Nat.add_comm]
    rfl
  have hle : r.out.length ≤ (times.zipIdx 1).length := by
    rw [List.length_zipIdx]
    exact h.received
  constructor
  · rw [List.length_append]
    exact hlt
  · rw [List.length_append]
    exact h.received.trans (Nat.le_add_right _ _)
  · rw [hzip, List.take_append_of_le_length hle]
    exact h.keys
  · rw [hzip, List.drop_append_of_le_length hle]
    exact List.rel_append h.link (.cons hf .nil)
  · exact h.seq

lemma Conveys.recv {times : List Nat} {link : List (List UInt8)} {r : AfpktReceiver}
    (h : Conveys opt times link r) (rxOpt : Options) (buffer : Memory)
    (rxTimestampC rxTimestampD : Nat) :
    Conveys opt times link.tail (r.recvPkt rxOpt buffer (link.head?.bind socketReceives)
      rxTimestampC rxTimestampD) := by
  obtain ⟨hsent, hreceived, hkeys, hlink, hseq⟩ := id h
  cases link with
  | nil => exact h
  | cons f link =>
    obtain ⟨⟨now, n⟩, ps, hf, hps, hdrop⟩ := List.forall₂_cons_left_iff.mp hlink
    obtain ⟨hk, htake, hdrop'⟩ := Lts.take_succ_of_drop hdrop
    rw [List.getElem?_zipIdx, Option.map_eq_some_iff] at hk
    obtain ⟨t, ht, hn⟩ := hk
    obtain ⟨rfl, rfl⟩ := Prod.mk.inj hn
    have hlt := (List.getElem?_eq_some_iff.mp ht).1
    have hframes := opt.framesToSend_le
    have hprio := opt.socketPrio_le
    obtain ⟨line, hline, hrecv⟩ := recvPkt_of_carries hf (by omega) (by omega) rxOpt r buffer
      rxTimestampC rxTimestampD
    have hlen : (r.out ++ [line]).length = r.out.length + 1 := List.length_append
    show Conveys opt times link (r.recvPkt rxOpt buffer (socketReceives f) _ _)
    rw [hrecv]
    constructor
    · exact hsent
    · rw [hlen]
      exact hlt
    · rw [hlen, htake, List.map_append, List.map_append, hkeys]
      exact congrArg _ (congrArg (fun x => [x]) hline)
    · rw [hlen, hdrop']
      exact hps
    · rw [hlen]
      exact Nat.add_comm 1 _

/-- Before the thread starts nothing was sent; from then on thread, link and receiver are where
the times stored say. -/
structure Arrives (opt : Options) (times : List Nat) (s : AfpktLink) : Prop where
  sender : (s.sender.pc = .setup ∧ times = []) ∨
    (s.sender.pc ≠ .setup ∧ Sends opt times s.sender)
  conveys : Conveys opt times s.link s.receiver

lemma arrives_init (h : (afpktLinkLts thread opt rxOpt hwAddr).init s) : Arrives opt [] s := by
  obtain ⟨hpc, hlink, hreceiver⟩ := h
  refine ⟨.inl ⟨hpc, rfl⟩, ?_⟩
  rw [hlink, hreceiver]
  exact ⟨Nat.zero_le _, le_rfl, rfl, .nil, rfl⟩

lemma Sends.turn {times : List Nat} {t : AfpktSender} (h : Sends opt times t)
    (hcount : t.count ≠ 0) (now : Nat) : Sends opt (times ++ [now]) (t.next opt now) := by
  obtain ⟨hprepared, hseq, htotal⟩ := h
  have hframes := opt.framesToSend_le
  have hlen : (times ++ [now]).length = times.length + 1 := List.length_append
  constructor
  · exact hprepared.next now
  · show (t.seq + 1) % 2 ^ 32 = _
    rw [hlen, hseq, Nat.mod_eq_of_lt (by omega)]
  · show t.count - 1 + _ = _
    rw [hlen]
    omega

lemma Arrives.step {tr : List (AfpktLink × AfpktLinkAct)} {a : AfpktLinkAct}
    (h : Arrives opt (stored tr) s) (htakes : Takes a)
    (hs : (afpktLinkLts thread opt rxOpt hwAddr).step s a = some s') :
    Arrives opt (stored (tr ++ [(s, a)])) s' := by
  obtain ⟨hsender, hconveys⟩ := h
  replace hs : AfpktLink.step thread opt rxOpt hwAddr s a = some s' := hs
  rw [stored_append]
  cases a with
  | recv buffer rxTimestampC rxTimestampD =>
    obtain ⟨-, rfl⟩ := of_guard hs
    have hstored : stored [(s, .recv buffer rxTimestampC rxTimestampD)] = [] := rfl
    rw [hstored, List.append_nil]
    exact ⟨hsender, hconveys.recv rxOpt buffer rxTimestampC rxTimestampD⟩
  | sender a =>
    obtain ⟨t, ht, rfl⟩ := Option.map_eq_some_iff.mp hs
    cases AfpktSender.step_spec ht with
    | begin sec hpc =>
      obtain ⟨-, hnil⟩ := hsender.resolve_right fun h => h.1 hpc
      have hstored : stored [(s, .sender (.begin sec))] = [] := rfl
      rw [hstored, List.append_nil]
      refine ⟨.inr ⟨by simp [AfpktSender.begin], prepared_begin thread opt sec, ?_, ?_⟩, ?_⟩
      · rw [hnil]
        rfl
      · rw [hnil]
        rfl
      · show Conveys opt _ (s.link ++ []) _
        rw [List.append_nil]
        exact hconveys
    | turn now sent hpc hcount hsent =>
      obtain rfl : sent = true := by
        by_contra hfalse
        rw [Bool.not_eq_true] at hfalse
        exact htakes now (by rw [hfalse])
      obtain ⟨-, hsends⟩ := hsender.resolve_left fun h => by simp [hpc] at h
      have hstored : stored [(s, .sender (.turn now true))] = [now] := rfl
      have htotal := hsends.count
      have hcarries := hsends.prepared.carries thread hwAddr now
      rw [hsends.seq] at hcarries
      rw [hstored]
      refine ⟨.inr ⟨by simp [AfpktSender.next, hpc], hsends.turn hcount now⟩, ?_⟩
      exact hconveys.send (by omega) hcarries
    | failed now hpc hcount hplain => exact absurd rfl (htakes now)
    | leave hpc =>
      obtain ⟨-, hsends⟩ := hsender.resolve_left fun h => by simp [hpc] at h
      have hstored : stored [(s, .sender .leave)] = [] := rfl
      rw [hstored, List.append_nil]
      refine ⟨.inr ⟨by simp, hsends.prepared, hsends.seq, hsends.count⟩, ?_⟩
      show Conveys opt _ (s.link ++ []) _
      rw [List.append_nil]
      exact hconveys

theorem arrives {tr : List (AfpktLink × AfpktLinkAct)}
    (h : (afpktLinkLts thread opt rxOpt hwAddr).Run tr s) (htakes : ∀ x ∈ tr, Takes x.2) :
    Arrives opt (stored tr) s :=
  h.induct_of (P := fun tr => Arrives opt (stored tr)) (C := fun _ a => Takes a)
    (fun _ => arrives_init) (fun _ _ _ _ _ _ harr hat hs => harr.step hat hs) htakes

/-- Once the thread has sent its last packet, the lines are all there or a packet is on the
link. -/
lemma Conveys.pending {times : List Nat} {link : List (List UInt8)} {r : AfpktReceiver}
    (h : Conveys opt times link r) (hall : times.length = opt.framesToSend) :
    r.out.length = opt.framesToSend ∨ link ≠ [] := by
  by_cases hlink : link = []
  · have hempty := h.link
    rw [hlink, List.forall₂_nil_left_iff, List.drop_eq_nil_iff, List.length_zipIdx] at hempty
    exact .inl (le_antisymm (h.received.trans h.sent) (hall ▸ hempty))
  · exact .inr hlink

/-- The thread has sent its last packet. -/
def Sent (s : AfpktLink) : Prop := s.sender.pc ≠ .setup ∧ s.sender.count = 0

lemma Arrives.length_eq {times : List Nat} (h : Arrives opt times s) (hsent : Sent s) :
    times.length = opt.framesToSend := by
  obtain ⟨-, hsends⟩ := h.sender.resolve_left fun h => hsent.1 h.1
  have htotal := hsends.count
  rw [hsent.2, Nat.zero_add] at htotal
  exact htotal

section
variable {tr : List (AfpktLink × AfpktLinkAct)}
  (h : (afpktLinkLts thread opt rxOpt hwAddr).Run tr s) (htakes : ∀ x ∈ tr, Takes x.2)
include h htakes

/-- The receiver prints a line for each packet and leaves its loop with the last. -/
theorem delivered : Delivered opt.framesToSend opt.socketPrio (stored tr) s.receiver.out
    s.receiver.globRxSeq := by
  obtain ⟨hsent, hreceived, hkeys, -, hseq⟩ := (arrives h htakes).conveys
  refine ⟨hkeys, hreceived.trans hsent, ?_⟩
  rw [hseq]
  constructor
  · intro hle
    exact le_antisymm (hreceived.trans hsent) hle
  · intro heq
    exact heq.ge

/-- Once the thread has sent its last packet and the link is empty, all lines are there. -/
theorem delivered_all (hsent : Sent s) (hlink : s.link = []) :
    s.receiver.out.length = opt.framesToSend := by
  have harr := arrives h htakes
  rcases harr.conveys.pending (harr.length_eq hsent) with hall | hne
  · exact hall
  · exact absurd hlink hne

/-- The receiver does not need the thread any more. -/
theorem finishes (hcount : rxOpt.framesToSend = opt.framesToSend) (hsent : Sent s) :
    ∃ tr' s', (afpktLinkLts thread opt rxOpt hwAddr).Run (tr ++ tr') s' ∧
      (∀ x ∈ tr', ∃ buffer rxTimestampC rxTimestampD,
        x.2 = .recv buffer rxTimestampC rxTimestampD) ∧
      s'.receiver.out.length = opt.framesToSend := by
  have harr := arrives h htakes
  apply h.exists_of_measure (I := fun t => Conveys opt (stored tr) t.link t.receiver)
    (D := fun _ a => ∃ buffer rxTimestampC rxTimestampD, a = .recv buffer rxTimestampC rxTimestampD)
    (G := fun t => t.receiver.out.length = opt.framesToSend) fun t => t.link.length
  · rintro t a t' hI ⟨buffer, rxTimestampC, rxTimestampD, rfl⟩ ht
    obtain ⟨-, rfl⟩ := of_guard ht
    exact hI.recv rxOpt buffer rxTimestampC rxTimestampD
  · intro t hI hlines
    have hlink := (hI.pending (harr.length_eq hsent)).resolve_left hlines
    have hlt : t.receiver.globRxSeq < rxOpt.framesToSend := by
      rw [hI.seq, hcount]
      exact Nat.lt_of_le_of_ne (hI.received.trans hI.sent) hlines
    refine ⟨.recv (fun _ => 0) 0 0, _, ⟨_, _, _, rfl⟩, if_pos hlt, ?_⟩
    show t.link.tail.length < t.link.length
    rw [List.length_tail]
    exact Nat.sub_lt (List.length_pos_iff.mpr hlink) Nat.one_pos
  · exact harr.conveys

end

end AfpktLink

end Txrx

end TsnRefSw
