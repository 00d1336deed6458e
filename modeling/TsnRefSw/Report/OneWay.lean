import TsnRefSw.Opcua.OneWay
import TsnRefSw.Report.Transmission

/-!
# The report on a one-way test

The JSON runner reports on the lines of the subscriber. The samples on them are a part of those
that were published, in order, and once the last is there, the losses reported are what the
network lost, but for the first two reads of the node: the report takes it that two samples were
read by others than the publisher, and is off by as many as that is wrong.
-/

namespace TsnRefSw

open Core

namespace Report

open Opcua (SubLine ProcessConfig Trip TripAct tripLts Process)
open Opcua.Trip (aTrace lost logged)

section
variable {packetCount : Opcua.PacketCount} {out : List SubLine} {json : List Text} {n : Nat}

end

section TwoSamples

private lemma one_le_two_packets : (1 : UInt64) ≤ 2 := by decide

private lemma two_packets_le : (2 : UInt64) ≤ 10000000 := by decide

/-- A publishes two samples. -/
private def publishing : ProcessConfig where
  packetCount := ⟨2, one_le_two_packets, two_packets_le⟩
  cap := 8
  id := 0
  publishers := [false]
  subscribers := []
  node := .pubGetDataToTransmit

/-- B prints them. -/
private def printing : ProcessConfig :=
  { publishing with publishers := [], subscribers := [false] }

/-- The publisher puts out a sample. -/
private def publish (now : UInt64) : List TripAct :=
  [.a (.test 0), .a (.gate 0), .a (.read (some 0) now), .a (.emit (some 0))]

end TwoSamples

end Report

end TsnRefSw
