/-
Module: BairuiPlatform.Foundations.Gauge
Purpose: Gauges that show the latest reading of their epoch, whatever the order in which
  readings come in, and start anew with every epoch.
Trusted boundary: none
Main exports: Reading, Gauge, Gauge.Step, Gauge.Shows, Gauge.Shows.step
-/
import Mathlib.Order.Lattice

namespace BairuiPlatform.Foundations

/-- A value that was read at a time, by somebody who belongs to an epoch. -/
structure Reading (τ β : Type*) where
  epoch : Nat
  time : τ
  value : β

/-- What is shown, and the epoch that it must belong to. -/
structure Gauge (τ β : Type*) where
  epoch : Nat
  latest : Option (τ × β)

namespace Gauge

variable {τ β : Type*} [LinearOrder τ]

/-- A reading is not older than what is shown. -/
def Admits (gauge : Gauge τ β) (time : τ) : Prop :=
  ∀ shown ∈ gauge.latest, shown.1 ≤ time

/-- What becomes of a gauge, with the reading that comes in, if one does. -/
inductive Step : Gauge τ β → Option (Reading τ β) → Gauge τ β → Prop where
  | stay (gauge : Gauge τ β) : Step gauge none gauge
  | renew (gauge : Gauge τ β) : Step gauge none ⟨gauge.epoch + 1, none⟩
  | accept {gauge : Gauge τ β} {reading : Reading τ β} (own : reading.epoch = gauge.epoch)
      (admitted : gauge.Admits reading.time) :
      Step gauge (some reading) ⟨gauge.epoch, some (reading.time, reading.value)⟩
  | ignore {gauge : Gauge τ β} {reading : Reading τ β} (late : ¬gauge.Admits reading.time) :
      Step gauge (some reading) gauge

/-- Of the readings of its epoch, the gauge shows one that no other is later than; it is blank
if there are none. -/
structure Shows (readings : List (Reading τ β)) (gauge : Gauge τ β) : Prop where
  bounded : ∀ reading ∈ readings, reading.epoch ≤ gauge.epoch
  latest : ∀ shown ∈ gauge.latest,
    (∃ reading ∈ readings, reading.epoch = gauge.epoch ∧ (reading.time, reading.value) = shown) ∧
      ∀ other ∈ readings, other.epoch = gauge.epoch → other.time ≤ shown.1
  blank : gauge.latest = none → ∀ other ∈ readings, other.epoch ≠ gauge.epoch

/-- A new gauge is blank. -/
theorem Shows.new (epoch : Nat) : Shows ([] : List (Reading τ β)) ⟨epoch, none⟩ where
  bounded := by simp
  latest := by simp
  blank := by simp

/-- A gauge goes on showing the latest reading of its epoch, if readings come in that are not
from a later one. -/
theorem Shows.step {readings : List (Reading τ β)} {gauge gauge' : Gauge τ β}
    {incoming : Option (Reading τ β)} (shows' : Shows readings gauge)
    (step : Step gauge incoming gauge')
    (produced : ∀ reading ∈ incoming, reading.epoch ≤ gauge.epoch) :
    Shows (incoming.toList ++ readings) gauge' := by
  obtain ⟨bounded, latest, blank⟩ := shows'
  cases step with
  | stay => exact ⟨bounded, latest, blank⟩
  | renew =>
      refine ⟨fun reading member => ?_, fun shown member => ?_, fun _ other member same => ?_⟩
      · exact Nat.le_succ_of_le (bounded reading member)
      · cases member
      · have before := bounded other member
        rw [same] at before
        exact absurd before (Nat.not_succ_le_self _)
  | @accept reading own admitted =>
      refine ⟨fun other member => ?_, fun shown member => ?_, fun missing => ?_⟩
      · rcases List.mem_cons.mp member with rfl | stored
        · exact Nat.le_of_eq own
        · exact bounded other stored
      · cases member
        refine ⟨⟨reading, List.mem_cons_self, own, rfl⟩, fun other stored same => ?_⟩
        rcases List.mem_cons.mp stored with rfl | stored
        · exact le_refl other.time
        · cases before : gauge.latest with
          | none => exact absurd same (blank before other stored)
          | some shown =>
              exact le_trans ((latest shown before).2 other stored same) (admitted shown before)
      · cases missing
  | @ignore reading late =>
      -- The reading is older than what is shown, so there is something shown.
      obtain ⟨shown, stored, older⟩ : ∃ shown ∈ gauge.latest, reading.time < shown.1 := by
        by_contra none
        apply late
        intro shown stored
        by_contra newer
        exact none ⟨shown, stored, lt_of_not_ge newer⟩
      refine ⟨fun other member => ?_, fun other member => ?_, fun missing => ?_⟩
      · rcases List.mem_cons.mp member with rfl | stored
        · exact produced other rfl
        · exact bounded other stored
      · obtain ⟨⟨source, known, own, same⟩, newest⟩ := latest other member
        refine ⟨⟨source, List.mem_cons_of_mem _ known, own, same⟩, fun next member' own' => ?_⟩
        rcases List.mem_cons.mp member' with rfl | known
        · have unique : other = shown := Option.mem_unique member stored
          rw [unique]
          exact le_of_lt older
        · exact newest next known own'
      · rw [missing] at stored
        cases stored

end Gauge

end BairuiPlatform.Foundations
