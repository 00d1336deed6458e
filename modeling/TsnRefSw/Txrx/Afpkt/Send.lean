import TsnRefSw.Core.Clock
import TsnRefSw.Core.Lts
import TsnRefSw.Txrx.Arguments

/-!
# The AF_PACKET send threads

`afpkt_send_thread()` and `afpkt_send_thread_etf()` sleep until the next point of their
schedule, complete the packet and hand it to the socket. The second is early by a fixed offset
and passes on the time at which the packet is to be launched.
-/

namespace TsnRefSw

open Core

namespace Txrx

/-- The two send threads. -/
inductive AfpktThread where
  /-- `afpkt_send_thread()` -/
  | plain
  /-- `afpkt_send_thread_etf()` -/
  | etf
deriving DecidableEq, Repr

/-- `get_time_sec()`, where the clock shows `sec` seconds. -/
def getTimeSec (sec : Nat) : Nat := sec * nsecPerSec % 2 ^ 64

/-- What a thread hands to its socket: the packet behind the type of its VLAN tag, and the launch
time in the control message. -/
structure SentMsg where
  data : List UInt8
  txTimestamp : Option Nat
deriving DecidableEq, Repr

inductive AfpktPc where
  | setup
  /-- At the head of the loop. -/
  | loop
  | done
  /-- Ended by `exit_with_error()`. -/
  | exited
deriving DecidableEq, Repr

/-- The variables of a send thread. -/
structure AfpktSender where
  pc : AfpktPc
  loopingTs : Nat
  ts : Timespec
  count : Nat
  seq : Nat
  tsnPkt : List UInt8

inductive AfpktAct where
  /-- Everything before the loop; the clock shows `sec` seconds. -/
  | begin (sec : Nat)
  /-- A pass of the loop: the thread wakes up at `now`, in nanoseconds, and sends a packet, with
  or without success. -/
  | turn (now : Nat) (sent : Bool)
  /-- Leave the loop, after the last packet, because of a signal or when the sleep fails. -/
  | leave

/-- `memcpy()` to a position inside the packet. -/
def setBytes (pkt : List UInt8) (o : Nat) (bytes : List UInt8) : List UInt8 :=
  pkt.take o ++ bytes ++ pkt.drop (o + bytes.length)

namespace AfpktSender

variable (thread : AfpktThread) (opt : Options)

/-- The first point of the schedule: the thread with launch times is early. -/
def start (sec : Nat) : Nat :=
  let loopingTs := (getTimeSec sec + 2 * nsecPerSec) % 2 ^ 64
  let loopingTs := (loopingTs + opt.offsetNs) % 2 ^ 64
  match thread with
  | .plain => loopingTs
  | .etf   => (loopingTs + (2 ^ 64 - opt.earlyOffsetNs)) % 2 ^ 64

/-- The part of the thread before its loop. -/
def begin (sec : Nat) : AfpktSender where
  pc := .loop
  loopingTs := start thread opt sec
  ts := .ofNs (start thread opt sec)
  count := opt.framesToSend
  seq := 1
  tsnPkt := setBytes (setupTsnVlanPacket opt.toUserOpt) headerSize (leBytes 4 opt.socketPrio)

/-- The packet is completed. -/
def stamp (s : AfpktSender) (now : Nat) : List UInt8 :=
  setBytes (setBytes s.tsnPkt (headerSize + 4) (leBytes 4 s.seq)) (headerSize + 8) (leBytes 8 now)

/-- `tx_timestamp`. -/
def launch (s : AfpktSender) : Nat := (s.loopingTs + opt.earlyOffsetNs) % 2 ^ 64

/-- What is handed to the socket. -/
def msg (s : AfpktSender) (now : Nat) : SentMsg where
  data := ((s.stamp now).drop 14).take (opt.packetSize - 14)
  txTimestamp :=
    match thread with
    | .plain => none
    | .etf   => some (s.launch opt)

/-- The rest of a pass. -/
def next (s : AfpktSender) (now : Nat) : AfpktSender :=
  let loopingTs := (s.loopingTs + opt.intervalNs) % 2 ^ 64
  { s with
    loopingTs := loopingTs
    ts := .ofNs loopingTs
    count := s.count - 1
    seq := (s.seq + 1) % 2 ^ 32
    tsnPkt := s.stamp now }

/-- A pass of the loop or what is around it. A failure to send ends the thread without launch
times only. -/
def step (s : AfpktSender) : AfpktAct → Option AfpktSender
  | .begin sec     => if s.pc = .setup then some (begin thread opt sec) else none
  | .turn now sent =>
    if s.pc = .loop ∧ s.count ≠ 0 then
      some (if sent = false ∧ thread = .plain then { s with pc := .exited } else s.next opt now)
    else none
  | .leave         => if s.pc = .loop then some { s with pc := .done } else none

end AfpktSender

/-- A send thread. -/
def afpktLts (thread : AfpktThread) (opt : Options) : Lts AfpktSender AfpktAct where
  init s := s.pc = .setup
  step := AfpktSender.step thread opt

namespace AfpktSender

/-- What a step of a thread does. -/
inductive Step (thread : AfpktThread) (opt : Options) (s : AfpktSender) :
    AfpktAct → AfpktSender → Prop where
  | begin (sec : Nat) (hpc : s.pc = .setup) : Step thread opt s (.begin sec) (begin thread opt sec)
  | turn (now : Nat) (sent : Bool) (hpc : s.pc = .loop) (hcount : s.count ≠ 0)
      (hsent : sent = true ∨ thread = .etf) : Step thread opt s (.turn now sent) (s.next opt now)
  | failed (now : Nat) (hpc : s.pc = .loop) (hcount : s.count ≠ 0) (hplain : thread = .plain) :
      Step thread opt s (.turn now false) { s with pc := .exited }
  | leave (hpc : s.pc = .loop) : Step thread opt s .leave { s with pc := .done }

theorem step_spec {thread : AfpktThread} {opt : Options} {s s' : AfpktSender} {a : AfpktAct}
    (h : (afpktLts thread opt).step s a = some s') : Step thread opt s a s' := by
  replace h : AfpktSender.step thread opt s a = some s' := h
  cases a with
  | begin sec =>
    obtain ⟨hpc, rfl⟩ := of_guard h
    exact .begin sec hpc
  | turn now sent =>
    obtain ⟨⟨hpc, hcount⟩, rfl⟩ := of_guard h
    cases sent with
    | false =>
      cases thread with
      | plain => exact .failed now hpc hcount rfl
      | etf => exact .turn now false hpc hcount (.inr rfl)
    | true => exact .turn now true hpc hcount (.inl rfl)
  | leave =>
    obtain ⟨hpc, rfl⟩ := of_guard h
    exact .leave hpc

end AfpktSender

end Txrx

end TsnRefSw
