import EcatMiddleware.Dds.Converter
import EcatMiddleware.Lib.Casts
import EcatMiddleware.Lib.MixedRadix
import Mathlib.Algebra.Order.Group.Int

/-!
# The stamp of a header

From the stamp of a PDO to the stamp of a message: nanoseconds in 64 bits, the offset between the
clocks, and back to seconds in 32 bits.

* `ExactStamp`: each value on the way is the integer that it stands for.
* `headerStamp_exact`: so it is as long as the seconds fit, and the stamps keep their order.
-/

namespace EcatMiddleware

open EcatMiddleware.Core Casts Dds Pb

/-- Seconds and nanoseconds of the stamp of a PDO. -/
def Pb.Time.digits (t : Pb.Time) : ℤ ×ₗ ℤ := toLex (t.sec.toInt, t.nsec.toInt)

def Pb.Time.nanos (t : Pb.Time) : ℤ := MixedRadix.value 1000000000 t.digits

/-- Seconds and nanoseconds of the stamp of a message. -/
def Idl.Time.digits (t : Idl.Time) : ℤ ×ₗ ℤ := toLex (t.sec.toInt, (t.nanosec.toNat : ℤ))

def Idl.Time.nanos (t : Idl.Time) : ℤ := MixedRadix.value 1000000000 t.digits

namespace Dds

/-! ## Casts below their limits -/

/-- The multiply-add of the clocks and of `extract_timestamp_ns`. -/
theorem toNat_multiplyAdd {sec nsec : Int64} (hsec : 0 ≤ sec.toInt) (hnsec : 0 ≤ nsec.toInt)
    (hlt : sec.toInt * 1000000000 + nsec.toInt < 2 ^ 64) :
    ((sec.toUInt64 * 1000000000).toNat : ℤ) = sec.toInt * 1000000000 ∧
    ((sec.toUInt64 * 1000000000 + nsec.toUInt64).toNat : ℤ) =
      sec.toInt * 1000000000 + nsec.toInt := by
  have hsec' := toNat_toUInt64 hsec
  have hnsec' := toNat_toUInt64 hnsec
  have hproduct : (sec.toUInt64 * 1000000000).toNat = sec.toUInt64.toNat * 1000000000 := by
    rw [UInt64.toNat_mul]
    exact Nat.mod_eq_of_lt (show sec.toUInt64.toNat * 1000000000 < 2 ^ 64 by omega)
  refine ⟨by omega, ?_⟩
  rw [UInt64.toNat_add, hproduct, Nat.mod_eq_of_lt (by omega)]
  omega

/-- The narrowing of the seconds, and the remainder below the radix. -/
theorem digits_timeFromProtobuf {timestampNs : UInt64}
    (hlt : timestampNs.toNat < 2 ^ 31 * 1000000000) :
    (timeFromProtobuf timestampNs).digits =
      toLex ((timestampNs.toNat : ℤ) / 1000000000, (timestampNs.toNat : ℤ) % 1000000000) := by
  have hsec : (timestampNs / 1000000000).toUInt32.toNat = timestampNs.toNat / 1000000000 := by
    rw [UInt64.toNat_toUInt32, UInt64.toNat_div]
    exact Nat.mod_eq_of_lt (show timestampNs.toNat / 1000000000 < 2 ^ 32 by omega)
  have hnanosec : (timestampNs % 1000000000).toUInt32.toNat = timestampNs.toNat % 1000000000 := by
    rw [UInt64.toNat_toUInt32, UInt64.toNat_mod]
    exact Nat.mod_eq_of_lt (show timestampNs.toNat % 1000000000 < 2 ^ 32 by omega)
  have hint : (timestampNs / 1000000000).toUInt32.toInt32.toInt =
      ((timestampNs / 1000000000).toUInt32.toNat : ℤ) := toInt_toInt32 (by omega)
  show toLex ((timestampNs / 1000000000).toUInt32.toInt32.toInt,
    ((timestampNs % 1000000000).toUInt32.toNat : ℤ)) = _
  rw [hint, hsec, hnanosec, Int.natCast_ediv, Int.natCast_emod]
  rfl

/-! ## The offset -/

/-- `K` as a difference of times. -/
def difference (offset : ClockOffset) : ℤ := offset.realtimeNs.toNat - offset.monotonicNs.toNat

theorem toNat_k {rt mono : Timespec}
    (h : (ClockOffset.init rt mono).monotonicNs ≤ (ClockOffset.init rt mono).realtimeNs) :
    ((ClockOffset.init rt mono).k.toNat : ℤ) = difference (.init rt mono) := by
  have hle : mono.ns.toNat ≤ rt.ns.toNat := UInt64.le_iff_toNat_le.mp h
  have hk : (ClockOffset.init rt mono).k.toNat = rt.ns.toNat - mono.ns.toNat :=
    UInt64.toNat_sub_of_le _ _ h
  show _ = (rt.ns.toNat : ℤ) - mono.ns.toNat
  omega

/-- The stamp `s` of a PDO, in its ranges and in those of the message after the offset. -/
structure Stamped (offset : ClockOffset) (pdo : EcSlavePdo) (s : Pb.Time) : Prop where
  stamp : pdo.header?.bind Header.stamp? = some s
  sec_nonneg : 0 ≤ s.sec.toInt
  nsec_nonneg : 0 ≤ s.nsec.toInt
  nsec_lt : s.nsec.toInt < 1000000000
  ne_zero : ¬(s.sec = 0 ∧ s.nsec = 0)
  nanos_lt : s.nanos + difference offset < 2 ^ 31 * 1000000000

/-- Every word between the stamp `s` and the header is the integer it stands for. -/
structure ExactStamp (offset : ClockOffset) (clock : Clock) (pdo : EcSlavePdo) (s : Pb.Time) :
    Prop where
  k : (offset.k.toNat : ℤ) = difference offset
  sec : (s.sec.toInt64.toUInt64.toNat : ℤ) = s.sec.toInt
  nsec : (s.nsec.toInt64.toUInt64.toNat : ℤ) = s.nsec.toInt
  product : ((s.sec.toInt64.toUInt64 * 1000000000).toNat : ℤ) = s.sec.toInt * 1000000000
  monoNs : ((s.sec.toInt64.toUInt64 * 1000000000 + s.nsec.toInt64.toUInt64).toNat : ℤ) = s.nanos
  timestampNs : ((extractTimestampNs clock pdo).toNat : ℤ) = s.nanos + difference offset
  nanosec_lt : (headerFromProtobuf clock pdo).stamp.nanosec.toNat < 1000000000
  nanos : (headerFromProtobuf clock pdo).stamp.nanos = s.nanos + difference offset

namespace Stamped

variable {offset : ClockOffset} {pdo : EcSlavePdo} {s : Pb.Time}

theorem nanos_pos (h : Stamped offset pdo s) : 0 < s.nanos := by
  have hsec := h.sec_nonneg
  have hnsec := h.nsec_nonneg
  show 0 < s.sec.toInt * 1000000000 + s.nsec.toInt
  by_contra hnot
  refine h.ne_zero ⟨Int32.toInt_inj.mp ?_, Int32.toInt_inj.mp ?_⟩
  · show s.sec.toInt = 0
    omega
  · show s.nsec.toInt = 0
    omega

theorem digits_mem (h : Stamped offset pdo s) : s.digits ∈ MixedRadix.pairs 1000000000 :=
  ⟨h.nsec_nonneg, h.nsec_lt⟩

/-- The stamp is taken, not the time of reception. -/
theorem extractTimestampNs_eq (h : Stamped offset pdo s) (clock : Clock)
    (hmono : ((s.sec.toInt64.toUInt64 * 1000000000 + s.nsec.toInt64.toUInt64).toNat : ℤ) =
      s.nanos) :
    extractTimestampNs clock pdo = clock.monotonicToRealtime
      (s.sec.toInt64.toUInt64 * 1000000000 + s.nsec.toInt64.toUInt64) := by
  have hne : s.sec.toInt64.toUInt64 * 1000000000 + s.nsec.toInt64.toUInt64 ≠ 0 := by
    intro hzero
    have hpos := h.nanos_pos
    rw [← hmono, hzero] at hpos
    exact absurd hpos (by decide)
  unfold extractTimestampNs
  rw [h.stamp]
  exact if_pos hne

/-- **One PDO.** The bound on the seconds bounds every value before them. -/
theorem exact {rt mono : Timespec} (h : Stamped (.init rt mono) pdo s)
    (hle : (ClockOffset.init rt mono).monotonicNs ≤ (ClockOffset.init rt mono).realtimeNs)
    (now : Timespec) : ExactStamp (.init rt mono) ((ClockOffset.init rt mono).clock now) pdo s := by
  have hk := toNat_k hle
  have hlt := h.nanos_lt
  have hsec : 0 ≤ s.sec.toInt64.toInt := by rw [Int32.toInt_toInt64]; exact h.sec_nonneg
  have hnsec : 0 ≤ s.nsec.toInt64.toInt := by rw [Int32.toInt_toInt64]; exact h.nsec_nonneg
  have hnanos : s.sec.toInt64.toInt * 1000000000 + s.nsec.toInt64.toInt = s.nanos := by
    rw [Int32.toInt_toInt64, Int32.toInt_toInt64]
    rfl
  obtain ⟨hproduct, hmono⟩ := toNat_multiplyAdd hsec hnsec (by omega)
  rw [hnanos] at hmono
  have htimestamp : ((extractTimestampNs ((ClockOffset.init rt mono).clock now) pdo).toNat : ℤ) =
      s.nanos + difference (.init rt mono) := by
    rw [h.extractTimestampNs_eq _ hmono, Clock.monotonicToRealtime, UInt64.toNat_add]
    rw [show ((ClockOffset.init rt mono).clock now).k = (ClockOffset.init rt mono).k from rfl,
      Nat.mod_eq_of_lt (by omega)]
    omega
  have hdigits : (timeFromProtobuf
      (extractTimestampNs ((ClockOffset.init rt mono).clock now) pdo)).digits = _ :=
    digits_timeFromProtobuf (by omega)
  exact
    { k := hk
      sec := (toNat_toUInt64 hsec).trans (Int32.toInt_toInt64 _)
      nsec := (toNat_toUInt64 hnsec).trans (Int32.toInt_toInt64 _)
      product := by rw [hproduct, Int32.toInt_toInt64]
      monoNs := hmono
      timestampNs := htimestamp
      nanosec_lt := by
        have hnanosec := congrArg (fun x => (ofLex x).2) hdigits
        have hmod := Int.emod_lt_of_pos (b := 1000000000)
          (extractTimestampNs ((ClockOffset.init rt mono).clock now) pdo).toNat (by decide)
        exact Int.ofNat_lt.mp (hnanosec.trans_lt hmod)
      nanos := by
        show MixedRadix.value 1000000000 (timeFromProtobuf _).digits = _
        rw [hdigits, MixedRadix.value_div_mod, htimestamp] }

end Stamped

theorem ExactStamp.digits_mem {offset : ClockOffset} {clock : Clock} {pdo : EcSlavePdo}
    {s : Pb.Time} (h : ExactStamp offset clock pdo s) :
    (headerFromProtobuf clock pdo).stamp.digits ∈ MixedRadix.pairs 1000000000 :=
  ⟨Int.natCast_nonneg _, Int.ofNat_lt.mpr h.nanosec_lt⟩

/-- **The stamps of messages.** With a realtime clock that is not before the monotonic one, the
stamp of a header is the stamp of the PDO plus `K`, without a wrap on the way, and two of them are
ordered as those of the PDOs. -/
theorem headerStamp_exact (rt mono : Timespec)
    (hle : (ClockOffset.init rt mono).monotonicNs ≤ (ClockOffset.init rt mono).realtimeNs) :
    (∀ now pdo s, Stamped (.init rt mono) pdo s →
      ExactStamp (.init rt mono) ((ClockOffset.init rt mono).clock now) pdo s) ∧
    ∀ now₁ now₂ pdo₁ pdo₂ s₁ s₂, Stamped (.init rt mono) pdo₁ s₁ →
      Stamped (.init rt mono) pdo₂ s₂ →
      cmp (headerFromProtobuf ((ClockOffset.init rt mono).clock now₁) pdo₁).stamp.digits
          (headerFromProtobuf ((ClockOffset.init rt mono).clock now₂) pdo₂).stamp.digits =
        cmp s₁.digits s₂.digits := by
  refine ⟨fun now pdo s h => h.exact hle now, fun now₁ now₂ pdo₁ pdo₂ s₁ s₂ h₁ h₂ => ?_⟩
  have hexact₁ := h₁.exact hle now₁
  have hexact₂ := h₂.exact hle now₂
  rw [← MixedRadix.cmp_value hexact₁.digits_mem hexact₂.digits_mem,
    ← MixedRadix.cmp_value h₁.digits_mem h₂.digits_mem]
  show cmp (Idl.Time.nanos _) (Idl.Time.nanos _) = cmp s₁.nanos s₂.nanos
  rw [hexact₁.nanos, hexact₂.nanos, cmp_add_right]

/-- A PDO stamped at 123 s and 456 ns. -/
theorem headerStamp_exact_stamped :
    (headerFromProtobuf ((ClockOffset.init ⟨1700000000, 5⟩ ⟨100, 999999999⟩).clock {})
        { header? := some { stamp? := some ⟨123, 456⟩ } }).stamp = ⟨1700000022, 462⟩ ∧
      ExactStamp (.init ⟨1700000000, 5⟩ ⟨100, 999999999⟩)
        ((ClockOffset.init ⟨1700000000, 5⟩ ⟨100, 999999999⟩).clock {})
        { header? := some { stamp? := some ⟨123, 456⟩ } } ⟨123, 456⟩ :=
  ⟨by decide, (headerStamp_exact ⟨1700000000, 5⟩ ⟨100, 999999999⟩ (by decide)).1 {} _ _
    ⟨rfl, by decide, by decide, by decide, by decide, by decide⟩⟩

end Dds

end EcatMiddleware
