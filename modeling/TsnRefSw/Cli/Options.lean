import TsnRefSw.Tsq.Arguments
import TsnRefSw.Txrx.Addresses

/-!
# Option arguments

The options of txrx and tsq that take a number or an address: what the parsers accept and store,
and the grammar that the help texts suggest.
-/

namespace TsnRefSw

open Core Txrx

namespace Cli

/-- The options with a number: six of txrx, three of tsq. -/
inductive NumberOption where
  | vlanPrio
  | packetSize
  | cycleTime
  | framesToSend
  | transmitOffset
  | earlyOffset
  | port
  | uid
  | timeout
deriving DecidableEq, Repr

namespace NumberOption

/-- The smallest number that the help text allows. -/
def lowest : NumberOption → Nat
  | vlanPrio       => 0
  | packetSize     => 64
  | cycleTime      => 25000
  | framesToSend   => 1
  | transmitOffset => 0
  | earlyOffset    => 0
  | port           => 999
  | uid            => 999
  | timeout        => 1

/-- The largest one. -/
def highest : NumberOption → Nat
  | vlanPrio       => 3
  | packetSize     => 1500
  | cycleTime      => 50000000
  | framesToSend   => 10000000
  | transmitOffset => 100000000
  | earlyOffset    => 10000000
  | port           => 9999
  | uid            => 9999
  | timeout        => 2000

variable (txrx : Txrx.Options) (tsq : Tsq.Opt)

/-- What is stored for the argument of an option, if it is accepted. -/
def stored : NumberOption → Text → Option Int
  | vlanPrio, arg       => (txrx.parser 'q' arg).toOption.map fun opt => opt.socketPrio
  | packetSize, arg     => (txrx.parser 'l' arg).toOption.map fun opt => opt.packetSize
  | cycleTime, arg      => (txrx.parser 'y' arg).toOption.map fun opt => opt.intervalNs
  | framesToSend, arg   => (txrx.parser 'n' arg).toOption.map fun opt => opt.framesToSend
  | transmitOffset, arg => (txrx.parser 'o' arg).toOption.map fun opt => opt.offsetNs
  | earlyOffset, arg    => (txrx.parser 'e' arg).toOption.map fun opt => opt.earlyOffsetNs
  | port, arg           => (tsq.parser 'p' arg).toOption.map fun opt => opt.port
  | uid, arg            => (tsq.parser 'u' arg).toOption.map fun opt => opt.uid
  | timeout, arg        => (tsq.parser 't' arg).toOption.map fun opt => opt.timeout

end NumberOption

/-- The options that are read with `strtol()` and the one that is read with `sscanf()`. -/
inductive ArgOption where
  | number (o : NumberOption)
  | dstMacAddr
deriving DecidableEq, Repr

section Parsers

variable (txrx : Txrx.Options) (tsq : Tsq.Opt)

/-- The address that is stored for the argument, if it is accepted. -/
def storedMac (arg : Text) : Option (Vector UInt8 6) :=
  (txrx.parser 'd' arg).toOption.map fun opt => opt.dstMacAddr

/-- Exactly the texts of the grammar are accepted, and what they say is stored. -/
def Exact : ArgOption → Text → Prop
  | .number o, arg   => ∀ z, o.stored txrx tsq arg = some z ↔ InGrammar o.lowest o.highest arg z
  | .dstMacAddr, arg => ∀ mac, storedMac txrx arg = some mac ↔ SixOctets arg mac

end Parsers

/-- The argument is not one of those that are taken for something else. -/
def ArgOption.Clear : ArgOption → Text → Prop
  | number o, arg   => Discerned o.lowest o.highest arg
  | dstMacAddr, arg => ∀ m : LooseMac, m.text = arg → m.Tidy

/-! ### What is stored -/

section Stored

variable {txrx : Txrx.Options} {tsq : Tsq.Opt}

lemma map_toOption_eq_some_iff {α β ε : Type} {e : Except ε α} {f : α → β} {b : β} :
    e.toOption.map f = some b ↔ ∃ a, e = .ok a ∧ f a = b := by
  simp [toOption_eq_some_iff]

/-- An option of txrx. -/
lemma stored_txrx_iff {text : String} {lo hi : Nat} {set : { n : Nat // lo ≤ n ∧ n ≤ hi } → Options}
    {field : Options → Int} (h : ∀ n, field (set n) = n.1) (arg : Text) (z : Int) :
    (set <$> number text lo hi arg).toOption.map field = some z ↔ Accepts lo hi arg z := by
  rw [map_toOption_eq_some_iff, ← exists_number_eq_ok_iff text]
  constructor
  · rintro ⟨opt, hopt, rfl⟩
    obtain ⟨n, hn, rfl⟩ := map_eq_ok_iff.mp hopt
    exact ⟨n, hn, (h n).symm⟩
  · rintro ⟨n, hn, rfl⟩
    exact ⟨set n, map_eq_ok_iff.mpr ⟨n, hn, rfl⟩, h n⟩

/-- An option of tsq. -/
lemma stored_tsq_iff {text : String} {outOfBounds : Int → Bool} {lo hi : Nat}
    (hbounds : ∀ z, outOfBounds z = false ↔ lo ≤ z ∧ z ≤ hi) {set : Int → Tsq.Opt}
    {field : Tsq.Opt → Int} (h : ∀ n, field (set n) = n) (arg : Text) (z : Int) :
    (set <$> Tsq.Opt.number text outOfBounds arg).toOption.map field = some z ↔
      Accepts lo hi arg z := by
  rw [map_toOption_eq_some_iff, ← Tsq.Opt.number_eq_ok_iff text hbounds]
  constructor
  · rintro ⟨opt, hopt, rfl⟩
    obtain ⟨n, hn, rfl⟩ := map_eq_ok_iff.mp hopt
    rw [hn, h]
  · intro hz
    exact ⟨set z, map_eq_ok_iff.mpr ⟨z, hz, rfl⟩, h z⟩

lemma stored_eq_some_iff (o : NumberOption) (arg : Text) (z : Int) :
    o.stored txrx tsq arg = some z ↔ Accepts o.lowest o.highest arg z := by
  cases o with
  | vlanPrio => exact stored_txrx_iff (fun _ => rfl) arg z
  | packetSize => exact stored_txrx_iff (fun _ => rfl) arg z
  | cycleTime => exact stored_txrx_iff (fun _ => rfl) arg z
  | framesToSend => exact stored_txrx_iff (fun _ => rfl) arg z
  | transmitOffset => exact stored_txrx_iff (fun _ => rfl) arg z
  | earlyOffset => exact stored_txrx_iff (fun _ => rfl) arg z
  | port => exact stored_tsq_iff Tsq.Opt.port_bounds (fun _ => rfl) arg z
  | uid => exact stored_tsq_iff Tsq.Opt.port_bounds (fun _ => rfl) arg z
  | timeout => exact stored_tsq_iff Tsq.Opt.timeout_bounds (fun _ => rfl) arg z

lemma storedMac_eq (txrx : Options) (arg : Text) : storedMac txrx arg = scanMacAddr arg := by
  cases hscan : scanMacAddr arg with
  | none => simp [storedMac, Options.parser, hscan, Except.toOption]
  | some mac => simp [storedMac, Options.parser, hscan, Except.toOption]

lemma highest_lt (o : NumberOption) : o.highest < 2 ^ 63 := by
  cases o <;> decide

end Stored

/-- An option accepts exactly its grammar on the arguments that are clear. -/
theorem exact_iff_clear (txrx : Txrx.Options) (tsq : Tsq.Opt) (o : ArgOption) (arg : Text) :
    Exact txrx tsq o arg ↔ o.Clear arg := by
  cases o with
  | number o =>
    rw [ArgOption.Clear, ← accepts_iff_inGrammar_iff (highest_lt o) arg]
    apply forall_congr'
    intro z
    rw [stored_eq_some_iff]
  | dstMacAddr =>
    rw [ArgOption.Clear, ← scanMacAddr_iff_sixOctets_iff, ← storedMac_eq txrx]
    rfl

/-- The empty priority is zero, and an address may go on with anything. -/
theorem not_exact :
    ¬ Exact .default .default (.number .vlanPrio) [] ∧
      ¬ Exact .default .default .dstMacAddr "1:2:3:4:5:6 and more".toList := by
  constructor
  · intro h
    have hzero := (h 0).mp rfl
    exact not_denotes_nil 0 hzero.1
  · intro h
    have hdigits : "123456".toList.all isHexDigit := rfl
    have hoctet : ∀ c ∈ "123456".toList, IsOctet [c] := by
      intro c hc
      have hdigit := List.all_eq_true.mp hdigits c hc
      exact ⟨List.cons_ne_nil c [], Nat.le_succ 1, by simpa using hdigit⟩
    let item (c : Char) (hc : c ∈ "123456".toList) : HexItem := (hoctet c hc).item
    let m : LooseMac := {
      a := item '1' (by decide), b := item '2' (by decide), c := item '3' (by decide)
      d := item '4' (by decide), e := item '5' (by decide), f := item '6' (by decide)
      rest := " and more".toList
      stops := by
        intro c hc
        obtain rfl : ' ' = c := Option.some.inj hc
        exact ⟨rfl, fun _ _ => by decide⟩ }
    have hsix : SixOctets m.text m.mac := by
      apply (h m.mac).mp
      rw [storedMac_eq]
      exact scanMacAddr_text m
    obtain ⟨n, htext, -, -, hrest⟩ := exists_looseMac_of_sixOctets hsix
    have hmore : m.rest = [] := (LooseMac.ext_text htext).2.symm.trans hrest
    exact absurd hmore (List.cons_ne_nil _ _)

end Cli

end TsnRefSw
