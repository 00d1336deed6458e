import Mathlib.Algebra.Order.Group.Abs
import Mathlib.Algebra.Order.Group.Int
import TsnRefSw.Opcua.Setup

/-!
# Publisher and subscriber identifiers

The parser admits identifiers up to 99999, writers and readers are created with 16 bits of
them. A reader takes the messages that carry the three identifiers it was created with.
-/

namespace TsnRefSw

namespace Opcua

/-- Two identifiers within the parser's bounds are equal in 16 bits if they are equal or exactly
2^16 apart. -/
lemma ofInt_eq_ofInt_iff {a b : Bounded 0 fiveDigitMax} :
    UInt16.ofInt a.1 = UInt16.ofInt b.1 ↔ a.1 = b.1 ∨ |a.1 - b.1| = 65536 := by
  obtain ⟨a, ha⟩ := a
  obtain ⟨b, hb⟩ := b
  simp only [fiveDigitMax] at ha hb
  rw [← UInt16.toNat_inj, UInt16.ofInt, UInt16.ofInt, UInt16.toNat_ofNat', UInt16.toNat_ofNat',
    abs_eq (by decide)]
  dsimp only
  omega

/-- A pair of identifiers is equal in 16 bits exactly if it was configured equal. -/
lemma ofInt_faithful_iff {a b : Bounded 0 fiveDigitMax} :
    (UInt16.ofInt a.1 = UInt16.ofInt b.1 ↔ a.1 = b.1) ↔ |a.1 - b.1| ≠ 65536 := by
  rw [ofInt_eq_ofInt_iff]
  constructor
  · intro h habs
    have heq := h.mp (.inr habs)
    rw [heq, sub_self] at habs
    cases habs
  · intro h
    exact ⟨fun he => he.resolve_right h, .inl⟩

section
variable {sdata sdata' : ServerData} (pdata : PublisherData sdata.useXDP)
  (sub : SubscriberData sdata'.useXDP)

/-- The identifiers that the messages of the publisher carry. -/
def written : Identifiers :=
  (addDataSetWriter pdata none).identifiers (pubConnectionConfig sdata pdata)

/-- The identifiers that the subscriber's reader asks for. -/
def asked : Identifiers := (addDataSetReader sub none).identifiers

/-- The publisher is the one the subscriber was configured with. -/
def Subscribed : Prop :=
  pdata.id.1 = sub.subscribedPubId.1 ∧ pdata.writerGroupId.1 = sub.subscribedWGId.1 ∧
    pdata.dataSetWriterId.1 = sub.subscribedDSWriterId.1

/-- Each identifier of the writer is the reader's if and only if the configured numbers are
equal, and the reader takes the messages of the configured publisher only. -/
structure Selects : Prop where
  publisherId : (written pdata).publisherId = (asked sub).publisherId ↔
    pdata.id.1 = sub.subscribedPubId.1
  writerGroupId : (written pdata).writerGroupId = (asked sub).writerGroupId ↔
    pdata.writerGroupId.1 = sub.subscribedWGId.1
  dataSetWriterId : (written pdata).dataSetWriterId = (asked sub).dataSetWriterId ↔
    pdata.dataSetWriterId.1 = sub.subscribedDSWriterId.1
  only : written pdata = asked sub → Subscribed pdata sub

/-- No configured pair of identifiers is exactly 2^16 apart. -/
def NoneApart : Prop :=
  |pdata.id.1 - sub.subscribedPubId.1| ≠ 65536 ∧
    |pdata.writerGroupId.1 - sub.subscribedWGId.1| ≠ 65536 ∧
    |pdata.dataSetWriterId.1 - sub.subscribedDSWriterId.1| ≠ 65536

lemma written_publisherId : (written pdata).publisherId = UInt16.ofInt pdata.id.1 := by
  simp [written, Writer.identifiers, pubConnectionConfig]

/-- The identifiers select exactly the configured publisher if and only if no configured pair is
exactly 2^16 apart. -/
theorem selects_iff : Selects pdata sub ↔ NoneApart pdata sub := by
  constructor
  · rintro ⟨hpub, hgroup, hwriter, -⟩
    rw [written_publisherId] at hpub
    exact ⟨ofInt_faithful_iff.mp hpub, (@ofInt_faithful_iff pdata.writerGroupId _).mp hgroup,
      (@ofInt_faithful_iff pdata.dataSetWriterId _).mp hwriter⟩
  · rintro ⟨hpub, hgroup, hwriter⟩
    have hid := ofInt_faithful_iff.mpr hpub
    rw [← written_publisherId pdata] at hid
    have hgid := (@ofInt_faithful_iff pdata.writerGroupId sub.subscribedWGId).mpr hgroup
    have hwid := (@ofInt_faithful_iff pdata.dataSetWriterId sub.subscribedDSWriterId).mpr hwriter
    refine ⟨hid, hgid, hwid, fun h => ⟨hid.mp ?_, hgid.mp ?_, hwid.mp ?_⟩⟩
    · rw [h]
      rfl
    · exact congrArg Identifiers.writerGroupId h
    · exact congrArg Identifiers.dataSetWriterId h

end

/-! ### A publisher that is taken for another -/

/-- The parser admits a publisher whose messages are taken by a subscriber of another one. -/
theorem not_selects :
    ¬ ∀ (fopen : String → Bool) (json : Json) (sdata : ServerData),
      parseJson fopen json = .ok sdata →
      ∀ pdata ∈ sdata.pubData, ∀ sub ∈ sdata.subData, Selects pdata sub := by
  intro h
  have haccepted : ∃ sdata, parseJson (fun _ => true)
        (.opcuaServer false 1000000 [.publisher 0 65536 3 false] [.subscriber 0 0 false]) =
          .ok sdata ∧
      ∃ pdata ∈ sdata.pubData, ∃ sub ∈ sdata.subData,
        pdata.id.1 = 65536 ∧ sub.subscribedPubId.1 = 0 :=
    ⟨_, rfl, _, List.mem_singleton_self _, _, List.mem_singleton_self _, rfl, rfl⟩
  obtain ⟨sdata, hparse, pdata, hp, sub, hs, hid, hsub⟩ := haccepted
  have hfaithful := (h _ _ sdata hparse pdata hp sub hs).publisherId
  rw [written_publisherId] at hfaithful
  apply ofInt_faithful_iff.mp hfaithful
  rw [hid, hsub]
  rfl

end Opcua

end TsnRefSw
