import TsnRefSw.Txrx.Afpkt.EndToEnd
import TsnRefSw.Txrx.Afxdp.EndToEnd

/-!
# End to end

In both socket modes, and whatever the options are, a receiver with the same number of packets
prints what the sender has sent, a line for each packet, and then leaves its loop. In AF_XDP mode
the packets are numbered from 0, and the first of them is ignored: the last line is that of the
first packet sent to flush the socket.
-/

namespace TsnRefSw

open Core

namespace Txrx

/-- The receiver prints lines with the numbers from 1 on, the sender's priority and the times
stored, and leaves its loop with line `frames_to_send`. That line is there once all packets were
read, and the receiver gets there without the sender's further help: in AF_PACKET mode when the
sender has sent its last packet, in AF_XDP mode when it has sent that one more than
`frames_to_send`, and not before. -/
theorem end_to_end (lib : XskLib) (opt rxOpt : Options)
    (hcount : rxOpt.framesToSend = opt.framesToSend) :
    (∀ thread hwAddr tr s, (afpktLinkLts thread opt rxOpt hwAddr).Run tr s →
      (∀ x ∈ tr, AfpktLink.Takes x.2) →
      Delivered opt.framesToSend opt.socketPrio (AfpktLink.stored tr) s.receiver.out
        s.receiver.globRxSeq ∧
      (s.Sent →
        (s.link = [] → s.receiver.out.length = opt.framesToSend) ∧
        ∃ tr' s', (afpktLinkLts thread opt rxOpt hwAddr).Run (tr ++ tr') s' ∧
          (∀ x ∈ tr', ∃ buffer rxTimestampC rxTimestampD,
            x.2 = .recv buffer rxTimestampC rxTimestampD) ∧
          s'.receiver.out.length = opt.framesToSend)) ∧
    (∀ tr s, (afxdpLinkLts lib opt.toUserOpt rxOpt.toUserOpt).Run tr s →
      (∀ x ∈ tr, AfxdpLink.Smooth x.1 x.2) →
      Delivered opt.framesToSend opt.socketPrio (AfxdpLink.stored tr).tail s.receiver.out
        s.receiver.globRxSeq ∧
      s.receiver.out.length ≤ s.sent - 1 ∧
      (opt.framesToSend < s.sent →
        (s.AllRead → s.receiver.out.length = opt.framesToSend) ∧
        ∃ tr' s', (afxdpLinkLts lib opt.toUserOpt rxOpt.toUserOpt).Run (tr ++ tr') s' ∧
          (∀ x ∈ tr', AfxdpLink.Receives x.1 x.2) ∧
          s'.receiver.out.length = opt.framesToSend)) := by
  constructor
  · intro thread hwAddr tr s h htakes
    refine ⟨AfpktLink.delivered h htakes, fun hsent => ⟨?_, ?_⟩⟩
    · exact AfpktLink.delivered_all h htakes hsent
    · exact AfpktLink.finishes h htakes hcount hsent
  · intro tr s h hsmooth
    refine ⟨?_, AfxdpLink.lines_lt h hcount hsmooth, fun hsent => ⟨?_, ?_⟩⟩
    · rw [← opt.queue_eq]
      exact AfxdpLink.delivered h hcount hsmooth
    · exact AfxdpLink.delivered_all h hcount hsmooth hsent
    · exact AfxdpLink.finishes h hcount hsmooth hsent

section OnePacket

/-- A single packet. -/
private def single : Options := Options.default.setFramesToSend ⟨1, by decide, by decide⟩

/-- An AF_PACKET link before the thread starts. -/
private def afpktIdle : AfpktLink := ⟨⟨.setup, 0, ⟨0, 0⟩, 0, 0, []⟩, [], ⟨0, []⟩⟩

/-- An AF_XDP link before the thread starts. -/
private def afxdpIdle : AfxdpLink single.framesPerRing single.framesPerRing where
  sender := ⟨.setup, .initial _ fun _ => 0, 0, 0, 0, List.replicate 64 0⟩
  sent := 0
  link := []
  receiver := ⟨.initial _ fun _ => 0, 0, []⟩

private lemma afxdpIdle_init :
    (afxdpLinkLts .reference single.toUserOpt single.toUserOpt).init afxdpIdle := by
  have hx := initXdpSocket_eq .reference single.framesPerRing_pos fun _ => 0
  exact ⟨⟨_, _, _, hx, List.length_replicate, rfl⟩, ⟨_, _, hx, rfl⟩, rfl, rfl⟩

private def SmoothRun
    (tr : List (AfxdpLink single.framesPerRing single.framesPerRing × AfxdpLinkAct))
    (s : AfxdpLink single.framesPerRing single.framesPerRing) : Prop :=
  (afxdpLinkLts .reference single.toUserOpt single.toUserOpt).Run tr s ∧
    ∀ x ∈ tr, AfxdpLink.Smooth x.1 x.2

private lemma smoothRun_nil : SmoothRun [] afxdpIdle := ⟨.init afxdpIdle_init, nofun⟩

private lemma smoothRun_concat
    {tr : List (AfxdpLink single.framesPerRing single.framesPerRing × AfxdpLinkAct)}
    {s s' : AfxdpLink single.framesPerRing single.framesPerRing} {a : AfxdpLinkAct}
    (h : SmoothRun tr s)
    (hs : (afxdpLinkLts .reference single.toUserOpt single.toUserOpt).step s a = some s')
    (ha : AfxdpLink.Smooth s a) : SmoothRun (tr ++ [(s, a)]) s' :=
  ⟨h.1.step hs, List.forall_mem_append.mpr ⟨h.2, List.forall_mem_singleton.mpr ha⟩⟩

/-- The AF_XDP sender transmits one packet, and then the first of those that flush the
socket. -/
private lemma exists_transmitted :
    (∃ tr s, SmoothRun tr s ∧ s.sent = 1) ∧ ∃ tr s, SmoothRun tr s ∧ s.sent = 2 := by
  have h₀ := smoothRun_nil
  have h₁ := smoothRun_concat h₀ (a := .sender (.prefill 0)) rfl trivial
  have h₂ := smoothRun_concat h₁ (a := .sender (.enter 3)) rfl trivial
  have h₃ := smoothRun_concat h₂ (a := .sender .fill) rfl (Nat.le_of_ble_eq_true rfl)
  have h₄ := smoothRun_concat h₃ (a := .sender .reserve) rfl (Nat.le_of_ble_eq_true rfl)
  have h₅ := smoothRun_concat h₄ (a := .sender (.sendto true)) rfl trivial
  have h₆ := smoothRun_concat h₅ (a := .sender (.kernel .txTake)) rfl trivial
  have h₇ := smoothRun_concat h₆ (a := .transmit) rfl trivial
  have h₈ := smoothRun_concat h₇ (a := .sender .stats) rfl trivial
  have h₉ := smoothRun_concat h₈ (a := .sender (.enter 7)) rfl trivial
  have h₁₀ := smoothRun_concat h₉ (a := .sender .fill) rfl (Nat.le_of_ble_eq_true rfl)
  have h₁₁ := smoothRun_concat h₁₀ (a := .sender .reserve) rfl (Nat.le_of_ble_eq_true rfl)
  have h₁₂ := smoothRun_concat h₁₁ (a := .sender (.sendto true)) rfl trivial
  have h₁₃ := smoothRun_concat h₁₂ (a := .sender (.kernel .txTake)) rfl trivial
  have h₁₄ := smoothRun_concat h₁₃ (a := .transmit) rfl trivial
  exact ⟨⟨_, _, h₇, rfl⟩, ⟨_, _, h₁₄, rfl⟩⟩

/-- A single line is printed, in both modes. -/
theorem end_to_end_single :
    (∃ tr s, (afpktLinkLts .etf single single #v[0, 0, 0, 0, 0, 0]).Run tr s ∧
      s.receiver.out.length = 1) ∧
    (∃ tr s, (afxdpLinkLts .reference single.toUserOpt single.toUserOpt).Run tr s ∧
      s.receiver.out.length = 1) := by
  obtain ⟨hafpkt, hafxdp⟩ := end_to_end .reference single single rfl
  constructor
  · have h₀ : (afpktLinkLts .etf single single #v[0, 0, 0, 0, 0, 0]).Run [] afpktIdle :=
      .init ⟨rfl, rfl, rfl⟩
    have h₁ := h₀.step (a := .sender (.begin 0)) rfl
    have h₂ := h₁.step (a := .sender (.turn 5 true)) rfl
    obtain ⟨-, hall⟩ := hafpkt _ _ _ _ h₂ (by simp [AfpktLink.Takes])
    obtain ⟨-, tr', s', hrun, -, hlines⟩ := hall ⟨nofun, rfl⟩
    exact ⟨_, _, hrun, hlines⟩
  · obtain ⟨-, tr, s, h, hsent⟩ := exists_transmitted
    obtain ⟨-, -, hall⟩ := hafxdp tr s h.1 h.2
    obtain ⟨-, tr', s', hrun, -, hlines⟩ := hall (hsent ▸ Nat.lt_succ_self 1)
    exact ⟨_, _, hrun, hlines⟩

/-- Without one of the packets that flush the socket the line is missing in AF_XDP mode. -/
theorem not_end_to_end :
    ¬ ∀ (lib : XskLib) (opt rxOpt : Options), rxOpt.framesToSend = opt.framesToSend →
      ∀ tr s, (afxdpLinkLts lib opt.toUserOpt rxOpt.toUserOpt).Run tr s →
      (∀ x ∈ tr, AfxdpLink.Smooth x.1 x.2) → s.sent = opt.framesToSend → s.AllRead →
      s.receiver.out.length = opt.framesToSend := by
  intro hall
  obtain ⟨⟨tr, s, h, hsent⟩, -⟩ := exists_transmitted
  obtain ⟨tr', s', hrun, hreceives, hkept, hgoal⟩ := AfxdpLink.reads h.1 rfl h.2 0
  have hsmooth : ∀ x ∈ tr ++ tr', AfxdpLink.Smooth x.1 x.2 :=
    List.forall_mem_append.mpr ⟨h.2, fun x hx => (hreceives x hx).1.1⟩
  have hlines : s'.receiver.out.length = 0 := by
    have hle := AfxdpLink.lines_lt hrun rfl hsmooth
    rw [hkept, hsent] at hle
    exact Nat.eq_zero_of_le_zero hle
  have hone : s'.receiver.out.length ≠ single.framesToSend := by
    rw [hlines]
    decide
  have hread : s'.AllRead := hgoal.resolve_left hone
  exact hone (hall .reference single single rfl _ s' hrun hsmooth (hkept.trans hsent) hread)

end OnePacket

end Txrx

end TsnRefSw
