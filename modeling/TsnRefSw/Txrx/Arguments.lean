import TsnRefSw.Core.Text
import TsnRefSw.Txrx.Options

/-!
# The arguments of txrx

`parser()` is called for each option on the command line and checks every number against the
bounds that the help text promises. What it leaves behind carries these bounds.
-/

namespace TsnRefSw

open Core

namespace Txrx

/-! ### Reading numbers -/

/-- `isspace()`. -/
def isSpace (c : Char) : Bool := c == ' ' || ('\t' ≤ c && c ≤ '\r')

/-- What `strtol()` returns, the text behind the number, and whether `errno` is `ERANGE`. -/
structure Strtol where
  value : Int
  rest : Text
  erange : Bool
deriving DecidableEq, Repr

/-- An optional sign. -/
def sign : Text → Bool × Text
  | '-' :: cs => (true, cs)
  | '+' :: cs => (false, cs)
  | cs        => (false, cs)

/-- `strtol()` with base 10. -/
def strtol (arg : Text) : Strtol :=
  let (negative, cs) := sign (arg.dropWhile isSpace)
  let digits := cs.takeWhile Char.isDigit
  let rest := cs.dropWhile Char.isDigit
  let n := Nat.ofDigitChars 10 digits 0
  if digits = [] then ⟨0, arg, false⟩
  else if negative then
    if n ≤ 2 ^ 63 then ⟨-n, rest, false⟩ else ⟨-2 ^ 63, rest, true⟩
  else
    if n < 2 ^ 63 then ⟨n, rest, false⟩ else ⟨2 ^ 63 - 1, rest, true⟩

/-- The value of a hexadecimal digit. -/
def hexDigit (c : Char) : Option Nat :=
  if '0' ≤ c ∧ c ≤ '9' then some (c.toNat - '0'.toNat)
  else if 'a' ≤ c ∧ c ≤ 'f' then some (c.toNat - 'a'.toNat + 10)
  else if 'A' ≤ c ∧ c ≤ 'F' then some (c.toNat - 'A'.toNat + 10)
  else none

/-- An optional prefix of hexadecimal numbers. -/
def hexPrefix : Text → Text
  | '0' :: 'x' :: cs => cs
  | '0' :: 'X' :: cs => cs
  | cs               => cs

/-- The conversion `%hhx`, which keeps the lowest byte. -/
def scanHhx (arg : Text) : Option (UInt8 × Text) :=
  let (negative, cs) := sign (arg.dropWhile isSpace)
  let body := hexPrefix cs
  let digits := body.takeWhile fun c => (hexDigit c).isSome
  let n := digits.foldl (fun n c => n * 16 + (hexDigit c).getD 0) 0
  if digits = [] then none
  else
    some (if 2 ^ 64 ≤ n then 255 else if negative then -UInt8.ofNat n else UInt8.ofNat n,
      body.drop digits.length)

def scanColon : Text → Option Text
  | ':' :: cs => some cs
  | _         => none

/-- `sscanf()` with the format of a MAC address. -/
def scanMacAddr (arg : Text) : Option (Vector UInt8 6) := do
  let (a, r) ← scanHhx arg
  let (b, r) ← scanHhx (← scanColon r)
  let (c, r) ← scanHhx (← scanColon r)
  let (d, r) ← scanHhx (← scanColon r)
  let (e, r) ← scanHhx (← scanColon r)
  let (f, _) ← scanHhx (← scanColon r)
  return #v[a, b, c, d, e, f]

/-! ### The options -/

inductive SocketMode where
  | afxdp
  | afpkt
deriving DecidableEq, Repr

inductive Mode where
  | tx
  | rx
deriving DecidableEq, Repr

/-- `struct user_opt` and what else `parser()` sets. -/
structure Options extends UserOpt where
  /-- `none` for `MODE_INVALID`. -/
  socketMode : Option SocketMode
  mode : Option Mode
  ifname : Option Text
  enableHwts : Bool
  socketPrio : Nat
  needWakeup : Bool
  verbose : Bool
  socketPrio_le : socketPrio ≤ 3
  vlanPrio_eq : vlanPrio.toNat = socketPrio * 32
  queue_eq : queue.toNat = socketPrio
  intervalNs_ge : 25000 ≤ intervalNs
  intervalNs_le : intervalNs ≤ 50000000
  offsetNs_le : offsetNs ≤ 100000000
  earlyOffsetNs_le : earlyOffsetNs ≤ 10000000

/-- The options of `main()` before the arguments are parsed. -/
def Options.default : Options where
  toUserOpt := .default
  socketMode := none
  mode := none
  ifname := none
  enableHwts := false
  socketPrio := 0
  needWakeup := false
  verbose := false
  socketPrio_le := by decide
  vlanPrio_eq := by decide
  queue_eq := by decide
  intervalNs_ge := by decide
  intervalNs_le := by decide
  offsetNs_le := by decide
  earlyOffsetNs_le := by decide

inductive ArgpError where
  /-- `exit_with_error()`. -/
  | exit (text : String)
  /-- `ARGP_ERR_UNKNOWN`. -/
  | unknown
deriving DecidableEq, Repr

/-- `strlen()` in an `int`. -/
def intLen (arg : Text) : Int := (arg.length : Int).bmod (2 ^ 32)

/-- `str_end == &arg[len]`. -/
def Strtol.AtEnd (r : Strtol) (arg : Text) : Prop :=
  (arg.length : Int) - r.rest.length = intLen arg

instance (r : Strtol) (arg : Text) : Decidable (r.AtEnd arg) := inferInstanceAs (Decidable (_ = _))

/-- A number from `lo` to `hi`, with nothing behind it. -/
def number (text : String) (lo hi : Nat) (arg : Text) :
    Except ArgpError { n : Nat // lo ≤ n ∧ n ≤ hi } :=
  let r := strtol arg
  if h : ¬ r.erange ∧ lo ≤ r.value ∧ r.value ≤ hi ∧ r.AtEnd arg then
    .ok ⟨r.value.toNat, by omega⟩
  else .error (.exit text)

namespace Options

variable (opt : Options)

/-- The option `q`: the priority is that of the socket, of the VLAN tag and of the queue. -/
def setPrio (p : { n : Nat // 0 ≤ n ∧ n ≤ 3 }) : Options :=
  { opt with
    socketPrio := p.1
    queue := UInt8.ofNat p.1
    vlanPrio := UInt8.ofNat (p.1 * 32)
    socketPrio_le := p.2.2
    vlanPrio_eq := by
      have hp := p.2.2
      exact UInt8.toNat_ofNat_of_lt' (show p.1 * 32 < 256 by omega)
    queue_eq := by
      have hp := p.2.2
      exact UInt8.toNat_ofNat_of_lt' (show p.1 < 256 by omega) }

def setPacketSize (n : { n : Nat // 64 ≤ n ∧ n ≤ 1500 }) : Options :=
  { opt with packetSize := n.1, packetSize_ge := n.2.1, packetSize_le := n.2.2 }

def setIntervalNs (n : { n : Nat // 25000 ≤ n ∧ n ≤ 50000000 }) : Options :=
  { opt with intervalNs := n.1, intervalNs_ge := n.2.1, intervalNs_le := n.2.2 }

def setFramesToSend (n : { n : Nat // 1 ≤ n ∧ n ≤ 10000000 }) : Options :=
  { opt with framesToSend := n.1, framesToSend_ge := n.2.1, framesToSend_le := n.2.2 }

def setOffsetNs (n : { n : Nat // 0 ≤ n ∧ n ≤ 100000000 }) : Options :=
  { opt with offsetNs := n.1, offsetNs_le := n.2.2 }

def setEarlyOffsetNs (n : { n : Nat // 0 ≤ n ∧ n ≤ 10000000 }) : Options :=
  { opt with earlyOffsetNs := n.1, earlyOffsetNs_le := n.2.2 }

/-- `parser()`, for the option `key` with the argument `arg`. -/
def parser (key : Char) (arg : Text) : Except ArgpError Options :=
  match key with
  | 'v' => .ok { opt with verbose := true }
  | 'h' => .ok { opt with enableHwts := true }
  | 'i' => .ok { opt with ifname := some arg }
  | 'q' => opt.setPrio <$>
      number "Invalid queue number/socket priority. Check --help" 0 3 arg
  | 'X' => .ok { opt with socketMode := some .afxdp }
  | 'P' => .ok { opt with socketMode := some .afpkt }
  | 't' => .ok { opt with mode := some .tx }
  | 'r' => .ok { opt with mode := some .rx }
  | 'z' => .ok { opt with xdpMode := .zeroCopy }
  | 'c' => .ok { opt with xdpMode := .nativeCopy }
  | 's' => .ok { opt with xdpMode := .skbCopy }
  | 'T' => .ok { opt with enableTxtime := true }
  | 'p' => .ok { opt with enablePoll := true }
  | 'w' => .ok { opt with needWakeup := true }
  | 'l' => opt.setPacketSize <$> number "Invalid packet size. Check --help" 64 1500 arg
  | 'y' => opt.setIntervalNs <$> number "Invalid cycle time. Check --help" 25000 50000000 arg
  | 'n' => opt.setFramesToSend <$>
      number "Invalid number of frames to send. Check --help" 1 10000000 arg
  | 'o' => opt.setOffsetNs <$> number "Invalid offset. Check --help" 0 100000000 arg
  | 'e' => opt.setEarlyOffsetNs <$>
      number "Invalid early offset. Check --help" 0 10000000 arg
  | 'd' =>
    match scanMacAddr arg with
    | some mac => .ok { opt with dstMacAddr := mac }
    | none     => .error (.exit "Invalid destination MAC addr. Check --help")
  | _ => .error .unknown

/-- `argp_parse()`: the options in the order of the command line. -/
def argpParse (args : List (Char × Text)) : Except ArgpError Options :=
  args.foldlM (fun opt a => opt.parser a.1 a.2) .default

end Options

example : (strtol " 42".toList, strtol "-7x".toList, strtol "".toList) =
    (⟨42, [], false⟩, ⟨-7, ['x'], false⟩, ⟨0, [], false⟩) := by decide +kernel

end Txrx

end TsnRefSw
