import TsnRefSw.Txrx.Numerals

/-!
# Addresses

What `sscanf()` takes for a MAC address: six hexadecimal numbers with colons between them, each of
them with blanks, a sign and a prefix if it pleases, and whatever follows the last one. An octet is
one or two hexadecimal digits.
-/

namespace TsnRefSw

open Core

namespace Txrx

/-! ### Hexadecimal numbers -/

def isHexDigit (c : Char) : Bool := (hexDigit c).isSome

/-- The number of some hexadecimal digits. -/
def hexNumber (digits : Text) : Nat := digits.foldl (fun n c => n * 16 + (hexDigit c).getD 0) 0

/-- A number that does not fit into a byte is cut off, unless it is too large for `strtoul()`. -/
def hexByte (sg : Sign) (n : Nat) : UInt8 :=
  if 2 ^ 64 ≤ n then 255 else if sg = .minus then -UInt8.ofNat n else UInt8.ofNat n

inductive HexPrefix where
  | none
  | lower
  | upper
deriving DecidableEq, Repr

def HexPrefix.text : HexPrefix → Text
  | none  => []
  | lower => "0x".toList
  | upper => "0X".toList

/-- What the conversion `%hhx` reads. -/
structure HexItem extends Front where
  pre : HexPrefix
  digits : Text
  digits_ne_nil : digits ≠ []
  isHexDigit_digits : ∀ c ∈ digits, isHexDigit c

namespace HexItem

variable (item : HexItem)

def text : Text := item.toFront.text ++ (item.pre.text ++ item.digits)

def byte : UInt8 := hexByte item.sign (hexNumber item.digits)

/-- The rest does not continue the number: a single zero is continued by an `x`. -/
def Stops (rest : Text) : Prop :=
  ∀ c ∈ rest.head?, isHexDigit c = false ∧
    (item.pre = .none → item.digits = ['0'] → c ≠ 'x' ∧ c ≠ 'X')

lemma stops_colon (rest : Text) : item.Stops (':' :: rest) := by
  intro c hc
  obtain rfl : ':' = c := Option.some.inj hc
  exact ⟨rfl, fun _ _ => ⟨by decide, by decide⟩⟩

end HexItem

lemma le_of_isHexDigit {c : Char} (h : isHexDigit c) : '0' ≤ c := by
  rw [isHexDigit, hexDigit] at h
  split_ifs at h with hdigit hlower hupper
  · exact hdigit.1
  · exact Char.le_trans (by decide) hlower.1
  · exact Char.le_trans (by decide) hupper.1
  · cases h

lemma startsNumber_of_isHexDigit {t : Text} (h : ∀ c ∈ t.head?, isHexDigit c) :
    StartsNumber t := by
  intro c hc
  have hhex := h c hc
  refine ⟨isSpace_eq_false_of_le (le_of_isHexDigit hhex), ?_, ?_⟩
  · rintro rfl
    exact absurd hhex (by decide)
  · rintro rfl
    exact absurd hhex (by decide)

lemma hexPrefix_cases (cs : Text) :
    ∃ pre : HexPrefix, cs = pre.text ++ hexPrefix cs ∧
      (pre = .none → ∀ t, cs ≠ '0' :: 'x' :: t ∧ cs ≠ '0' :: 'X' :: t) := by
  unfold hexPrefix
  split
  · exact ⟨.lower, rfl, by simp⟩
  · exact ⟨.upper, rfl, by simp⟩
  · next hx hX => exact ⟨.none, rfl, fun _ t => ⟨hx t, hX t⟩⟩

namespace HexItem

variable {item : HexItem}

lemma startsNumber_append (rest : Text) :
    StartsNumber (item.pre.text ++ (item.digits ++ rest)) := by
  apply startsNumber_of_isHexDigit
  intro c hc
  cases hpre : item.pre with
  | none =>
    obtain ⟨d, digits, hdigits⟩ := List.exists_cons_of_ne_nil item.digits_ne_nil
    rw [hpre, HexPrefix.text, List.nil_append, hdigits] at hc
    obtain rfl : d = c := Option.some.inj hc
    exact item.isHexDigit_digits d (hdigits ▸ List.mem_cons_self)
  | lower =>
    rw [hpre] at hc
    obtain rfl : '0' = c := Option.some.inj hc
    rfl
  | upper =>
    rw [hpre] at hc
    obtain rfl : '0' = c := Option.some.inj hc
    rfl

/-- The prefix is skipped, and nothing else. -/
lemma hexPrefix_append {rest : Text} (h : item.Stops rest) :
    hexPrefix (item.pre.text ++ (item.digits ++ rest)) = item.digits ++ rest := by
  cases hpre : item.pre with
  | none =>
    rw [HexPrefix.text, List.nil_append]
    obtain ⟨d, digits, hdigits⟩ := List.exists_cons_of_ne_nil item.digits_ne_nil
    have hsecond : ∀ c t, digits ++ rest = c :: t → d = '0' → c ≠ 'x' ∧ c ≠ 'X' := by
      intro c t htext hzero
      cases digits with
      | nil =>
        rw [List.nil_append] at htext
        exact (h c (htext ▸ rfl)).2 hpre (by rw [hdigits, hzero])
      | cons c' digits =>
        obtain rfl : c' = c := (List.cons.inj htext).1
        have hhex := item.isHexDigit_digits c' (by rw [hdigits]; simp)
        constructor
        · rintro rfl
          exact absurd hhex (by decide)
        · rintro rfl
          exact absurd hhex (by decide)
    rw [hdigits]
    unfold hexPrefix
    split
    · next t heq =>
      obtain ⟨hzero, htext⟩ := List.cons.inj heq
      exact absurd rfl (hsecond 'x' t htext hzero).1
    · next t heq =>
      obtain ⟨hzero, htext⟩ := List.cons.inj heq
      exact absurd rfl (hsecond 'X' t htext hzero).2
    · rfl
  | lower => rfl
  | upper => rfl

lemma takeWhile_append {rest : Text} (h : item.Stops rest) :
    (item.digits ++ rest).takeWhile isHexDigit = item.digits := by
  rw [List.takeWhile_append_of_pos item.isHexDigit_digits]
  cases rest with
  | nil => simp
  | cons c rest =>
    have hc : isHexDigit c = false := (h c rfl).1
    rw [List.takeWhile_cons_of_neg (by simp [hc]), List.append_nil]

end HexItem

/-- `%hhx` behind the sign. -/
lemma scanHhx_eq {arg cs : Text} {sg : Sign}
    (h : sign (arg.dropWhile isSpace) = (decide (sg = .minus), cs)) :
    scanHhx arg = if (hexPrefix cs).takeWhile isHexDigit = [] then none
      else some (hexByte sg (hexNumber ((hexPrefix cs).takeWhile isHexDigit)),
        (hexPrefix cs).drop ((hexPrefix cs).takeWhile isHexDigit).length) := by
  rw [scanHhx, h]
  have hminus : ∀ n, (if 2 ^ 64 ≤ n then 255
      else if decide (sg = .minus) then -UInt8.ofNat n else UInt8.ofNat n) = hexByte sg n := by
    intro n
    simp [hexByte]
  rw [← hminus]
  rfl

/-- A number is read up to where it stops. -/
lemma scanHhx_append {item : HexItem} {rest : Text} (h : item.Stops rest) :
    scanHhx (item.text ++ rest) = some (item.byte, rest) := by
  rw [HexItem.text, List.append_assoc, List.append_assoc,
    scanHhx_eq (sign_front_append _ (HexItem.startsNumber_append rest)), HexItem.hexPrefix_append h,
    HexItem.takeWhile_append h, if_neg item.digits_ne_nil, List.drop_left]
  rfl

lemma drop_length_takeWhile (p : Char → Bool) (t : Text) :
    t.drop (t.takeWhile p).length = t.dropWhile p := by
  have hleft : (t.takeWhile p ++ t.dropWhile p).drop (t.takeWhile p).length = t.dropWhile p :=
    List.drop_left
  rwa [List.takeWhile_append_dropWhile] at hleft

/-- What is read is a number, and stops there. -/
lemma exists_item_of_scanHhx {arg rest : Text} {b : UInt8} (h : scanHhx arg = some (b, rest)) :
    ∃ item : HexItem, arg = item.text ++ rest ∧ item.Stops rest ∧ item.byte = b := by
  obtain ⟨f, htext, hneg⟩ := exists_front arg
  generalize hcs : (sign (arg.dropWhile isSpace)).2 = cs at htext
  rw [scanHhx_eq (Prod.ext hneg hcs), drop_length_takeWhile] at h
  obtain ⟨pre, hpre, hnone⟩ := hexPrefix_cases cs
  split_ifs at h with hdigits
  obtain ⟨rfl, rfl⟩ := Prod.mk.inj (Option.some.inj h)
  refine ⟨⟨f, pre, _, hdigits, fun c hc => List.mem_takeWhile_imp hc⟩, ?_, ?_, rfl⟩
  · rw [HexItem.text, List.append_assoc, List.append_assoc, List.takeWhile_append_dropWhile, ← hpre]
    exact htext
  · intro c hc
    have hstop := List.head?_dropWhile_not isHexDigit (hexPrefix cs)
    rw [Option.mem_def.mp hc] at hstop
    refine ⟨hstop, fun (hpre' : pre = .none) (hzero : _ = ['0']) => ?_⟩
    obtain ⟨rest, hrest⟩ := List.head?_eq_some_iff.mp hc
    have hcs' : cs = '0' :: c :: rest := by
      rw [hpre, hpre', HexPrefix.text, List.nil_append,
        ← List.takeWhile_append_dropWhile (p := isHexDigit) (l := hexPrefix cs), hrest]
      exact congrArg (· ++ c :: rest) hzero
    constructor
    · rintro rfl
      exact (hnone hpre' rest).1 hcs'
    · rintro rfl
      exact (hnone hpre' rest).2 hcs'

/-- A number is told from what follows. -/
lemma text_eq_and_rest_eq {i j : HexItem} {r s : Text} (hi : i.Stops r) (hj : j.Stops s)
    (h : i.text ++ r = j.text ++ s) : i.text = j.text ∧ r = s := by
  have hscan := scanHhx_append hi
  rw [h, scanHhx_append hj] at hscan
  obtain ⟨-, rfl⟩ := Prod.mk.inj (Option.some.inj hscan)
  exact ⟨List.append_cancel_right h, rfl⟩

/-! ### Six of them -/

def colons (ts : List Text) : Text := [':'].intercalate ts

/-- What `sscanf()` accepts as a MAC address. -/
structure LooseMac where
  a : HexItem
  b : HexItem
  c : HexItem
  d : HexItem
  e : HexItem
  f : HexItem
  rest : Text
  stops : f.Stops rest

namespace LooseMac

def numbers (m : LooseMac) : List Text :=
  [m.a.text, m.b.text, m.c.text, m.d.text, m.e.text, m.f.text]

def text (m : LooseMac) : Text := colons m.numbers ++ m.rest

def mac (m : LooseMac) : Vector UInt8 6 :=
  #v[m.a.byte, m.b.byte, m.c.byte, m.d.byte, m.e.byte, m.f.byte]

lemma text_eq (m : LooseMac) :
    m.text = m.a.text ++ ':' :: (m.b.text ++ ':' :: (m.c.text ++ ':' :: (m.d.text ++ ':' ::
      (m.e.text ++ ':' :: (m.f.text ++ m.rest))))) := by
  simp [text, numbers, colons]

end LooseMac

lemma scanColon_eq_some_iff {t rest : Text} : scanColon t = some rest ↔ t = ':' :: rest := by
  constructor
  · intro h
    unfold scanColon at h
    split at h
    · obtain rfl := Option.some.inj h
      rfl
    · cases h
  · rintro rfl
    rfl

lemma scanMacAddr_text (m : LooseMac) : scanMacAddr m.text = some m.mac := by
  rw [LooseMac.text_eq, scanMacAddr]
  simp only [scanHhx_append (HexItem.stops_colon _ _), scanHhx_append m.stops, scanColon,
    Option.bind_eq_bind, Option.bind_some]
  rfl

lemma exists_looseMac {arg : Text} {mac : Vector UInt8 6} (h : scanMacAddr arg = some mac) :
    ∃ m : LooseMac, m.text = arg ∧ m.mac = mac := by
  simp only [scanMacAddr, Option.bind_eq_bind, Option.bind_eq_some_iff, Prod.exists,
    scanColon_eq_some_iff] at h
  obtain ⟨_, _, ha, _, rfl, _, _, hb, _, rfl, _, _, hc, _, rfl, _, _, hd, _, rfl, _, _, he, _, rfl,
    _, rest, hf, hmac⟩ := h
  obtain ⟨a, rfl, -, rfl⟩ := exists_item_of_scanHhx ha
  obtain ⟨b, rfl, -, rfl⟩ := exists_item_of_scanHhx hb
  obtain ⟨c, rfl, -, rfl⟩ := exists_item_of_scanHhx hc
  obtain ⟨d, rfl, -, rfl⟩ := exists_item_of_scanHhx hd
  obtain ⟨e, rfl, -, rfl⟩ := exists_item_of_scanHhx he
  obtain ⟨f, rfl, hstops, rfl⟩ := exists_item_of_scanHhx hf
  exact ⟨⟨a, b, c, d, e, f, rest, hstops⟩, LooseMac.text_eq _, Option.some.inj hmac⟩

/-- `sscanf()` finds six numbers exactly in the loose addresses. -/
lemma scanMacAddr_eq_some_iff {arg : Text} {mac : Vector UInt8 6} :
    scanMacAddr arg = some mac ↔ ∃ m : LooseMac, m.text = arg ∧ m.mac = mac := by
  constructor
  · exact exists_looseMac
  · rintro ⟨m, rfl, rfl⟩
    exact scanMacAddr_text m

/-! ### Octets -/

/-- One or two hexadecimal digits. -/
structure IsOctet (t : Text) : Prop where
  ne_nil : t ≠ []
  length_le : t.length ≤ 2
  isHexDigit : ∀ c ∈ t, isHexDigit c

def octet (t : Text) : UInt8 := UInt8.ofNat (hexNumber t)

/-- Six octets with colons between them, and the address they make up. -/
def SixOctets (arg : Text) (mac : Vector UInt8 6) : Prop :=
  ∃ a b c d e f, (∀ t ∈ [a, b, c, d, e, f], IsOctet t) ∧ arg = colons [a, b, c, d, e, f] ∧
    mac = #v[octet a, octet b, octet c, octet d, octet e, octet f]

/-- An octet as `%hhx` reads it. -/
def IsOctet.item {t : Text} (h : IsOctet t) : HexItem where
  blanks := []
  sign := .none
  isSpace_blanks := by simp
  pre := .none
  digits := t
  digits_ne_nil := h.ne_nil
  isHexDigit_digits := h.isHexDigit

lemma hexDigit_lt (c : Char) : (hexDigit c).getD 0 < 16 := by
  have htoNat : ∀ {a b : Char}, a ≤ b → a.toNat ≤ b.toNat := fun h => h
  rw [hexDigit]
  split_ifs with hdigit hlower hupper
  · have hlow := htoNat hdigit.1
    have hhigh := htoNat hdigit.2
    simp only [Char.reduceToNat, Option.getD_some] at *
    omega
  · have hlow := htoNat hlower.1
    have hhigh := htoNat hlower.2
    simp only [Char.reduceToNat, Option.getD_some] at *
    omega
  · have hlow := htoNat hupper.1
    have hhigh := htoNat hupper.2
    simp only [Char.reduceToNat, Option.getD_some] at *
    omega
  · decide

lemma hexNumber_append_singleton (t : Text) (c : Char) :
    hexNumber (t ++ [c]) = hexNumber t * 16 + (hexDigit c).getD 0 := by
  simp [hexNumber]

lemma hexNumber_lt (t : Text) : hexNumber t < 16 ^ t.length := by
  induction t using List.reverseRecOn with
  | nil => decide
  | append_singleton t c ih =>
    have hc := hexDigit_lt c
    rw [hexNumber_append_singleton, List.length_append, List.length_singleton, Nat.pow_succ]
    omega

lemma IsOctet.byte_item {t : Text} (h : IsOctet t) : h.item.byte = octet t := by
  have hle : 16 ^ t.length ≤ 16 ^ 2 := Nat.pow_le_pow_right (by decide) h.length_le
  have hlt : hexNumber t < 2 ^ 64 := (hexNumber_lt t).trans_le (hle.trans (by decide))
  have hsign : h.item.sign = .none := rfl
  have hfits : ¬ 2 ^ 64 ≤ hexNumber h.item.digits := Nat.not_le.mpr hlt
  rw [HexItem.byte, hexByte, hsign, if_neg hfits, if_neg (by decide)]
  rfl

/-- The same text is the same number. -/
lemma HexItem.byte_eq {i j : HexItem} (h : i.text = j.text) : i.byte = j.byte := by
  have hscan := scanHhx_append (i.stops_colon [])
  rw [h, scanHhx_append (j.stops_colon [])] at hscan
  exact (Prod.mk.inj (Option.some.inj hscan)).1.symm

lemma HexItem.byte_eq_octet {item : HexItem} (h : IsOctet item.text) :
    item.byte = octet item.text := by
  have htext : item.text = h.item.text := rfl
  rw [byte_eq htext, h.byte_item]

/-- A loose address whose numbers are octets, with nothing behind it. -/
def LooseMac.Tidy (m : LooseMac) : Prop := (∀ t ∈ m.numbers, IsOctet t) ∧ m.rest = []

/-- Six octets are a loose address. -/
lemma exists_looseMac_of_sixOctets {arg : Text} {mac : Vector UInt8 6} (h : SixOctets arg mac) :
    ∃ m : LooseMac, m.text = arg ∧ m.mac = mac ∧ m.Tidy := by
  obtain ⟨a, b, c, d, e, f, hoctets, rfl, rfl⟩ := h
  have ha := hoctets a (by simp)
  have hb := hoctets b (by simp)
  have hc := hoctets c (by simp)
  have hd := hoctets d (by simp)
  have he := hoctets e (by simp)
  have hf := hoctets f (by simp)
  refine ⟨⟨ha.item, hb.item, hc.item, hd.item, he.item, hf.item, [], by simp [HexItem.Stops]⟩,
    List.append_nil _, ?_, hoctets, rfl⟩
  rw [LooseMac.mac, ha.byte_item, hb.byte_item, hc.byte_item, hd.byte_item, he.byte_item,
    hf.byte_item]

lemma LooseMac.ext_text {m n : LooseMac} (h : m.text = n.text) :
    m.numbers = n.numbers ∧ m.rest = n.rest := by
  rw [text_eq, text_eq] at h
  obtain ⟨ha, h⟩ := text_eq_and_rest_eq (m.a.stops_colon _) (n.a.stops_colon _) h
  obtain ⟨hb, h⟩ := text_eq_and_rest_eq (m.b.stops_colon _) (n.b.stops_colon _)
    (List.cons.inj h).2
  obtain ⟨hc, h⟩ := text_eq_and_rest_eq (m.c.stops_colon _) (n.c.stops_colon _)
    (List.cons.inj h).2
  obtain ⟨hd, h⟩ := text_eq_and_rest_eq (m.d.stops_colon _) (n.d.stops_colon _)
    (List.cons.inj h).2
  obtain ⟨he, h⟩ := text_eq_and_rest_eq (m.e.stops_colon _) (n.e.stops_colon _)
    (List.cons.inj h).2
  obtain ⟨hf, hrest⟩ := text_eq_and_rest_eq m.stops n.stops (List.cons.inj h).2
  rw [numbers, numbers, ha, hb, hc, hd, he, hf]
  exact ⟨rfl, hrest⟩

lemma LooseMac.Tidy.sixOctets {m : LooseMac} (h : m.Tidy) : SixOctets m.text m.mac := by
  obtain ⟨hoctets, hrest⟩ := h
  refine ⟨m.a.text, m.b.text, m.c.text, m.d.text, m.e.text, m.f.text, hoctets, ?_, ?_⟩
  · rw [text, hrest, List.append_nil, numbers]
  · rw [numbers] at hoctets
    simp only [List.forall_mem_cons] at hoctets
    obtain ⟨ha, hb, hc, hd, he, hf, -⟩ := hoctets
    rw [mac, HexItem.byte_eq_octet ha, HexItem.byte_eq_octet hb, HexItem.byte_eq_octet hc,
      HexItem.byte_eq_octet hd, HexItem.byte_eq_octet he, HexItem.byte_eq_octet hf]

/-- The test accepts six octets and nothing else. -/
lemma scanMacAddr_iff_sixOctets_iff (arg : Text) :
    (∀ mac, scanMacAddr arg = some mac ↔ SixOctets arg mac) ↔
      ∀ m : LooseMac, m.text = arg → m.Tidy := by
  constructor
  · rintro h m rfl
    obtain ⟨n, htext, -, hn⟩ := exists_looseMac_of_sixOctets ((h m.mac).mp (scanMacAddr_text m))
    obtain ⟨hnumbers, hrest⟩ := LooseMac.ext_text htext
    rw [LooseMac.Tidy, ← hnumbers, ← hrest]
    exact hn
  · intro h mac
    rw [scanMacAddr_eq_some_iff]
    constructor
    · rintro ⟨m, rfl, rfl⟩
      exact (h m rfl).sixOctets
    · intro hsix
      obtain ⟨m, htext, hmac, -⟩ := exists_looseMac_of_sixOctets hsix
      exact ⟨m, htext, hmac⟩

end Txrx

end TsnRefSw
