import EcatMiddleware.Core.AdapterPublishers
import Mathlib.Data.List.AList

/-!
# PDO utilities

Clocks, PDO types and device names, as the plugins use them.
-/

namespace EcatMiddleware.Core

open Pb

/-- What `clock_gettime` fills in. -/
structure Timespec where
  tvSec : Int64 := 0
  tvNsec : Int64 := 0

/-- Nanoseconds as the clock utilities compute them, also in `monotonic_now_ns`. -/
def Timespec.ns (t : Timespec) : UInt64 := t.tvSec.toUInt64 * 1000000000 + t.tvNsec.toUInt64

structure ClockOffset where
  realtimeNs : UInt64 := 0
  monotonicNs : UInt64 := 0
  k : UInt64 := 0

/-- `clock::init`, with what `CLOCK_REALTIME` and `CLOCK_MONOTONIC` show. -/
def ClockOffset.init (rt mono : Timespec) : ClockOffset where
  realtimeNs := rt.ns
  monotonicNs := mono.ns
  k := rt.ns - mono.ns

/-- The clock at one reading: `k` is `g_offset.K`, sampled once by `init`, and `monotonicNowNs` is
what `CLOCK_MONOTONIC` shows. -/
structure Clock where
  k : UInt64
  monotonicNowNs : UInt64

def ClockOffset.clock (offset : ClockOffset) (now : Timespec) : Clock where
  k := offset.k
  monotonicNowNs := now.ns

def Clock.monotonicToRealtime (clock : Clock) (monoNs : UInt64) : UInt64 := monoNs + clock.k

/-- The stamp of a PDO in Unix nanoseconds, or the time of reception when it has none. -/
def extractTimestampNs (clock : Clock) (pdo : EcSlavePdo) : UInt64 :=
  match pdo.header?.bind Header.stamp? with
  | none => clock.monotonicToRealtime clock.monotonicNowNs
  | some s =>
    let monoNs := s.sec.toInt64.toUInt64 * 1000000000 + s.nsec.toInt64.toUInt64
    if monoNs ≠ 0 then clock.monotonicToRealtime monoNs
    else clock.monotonicToRealtime clock.monotonicNowNs

def isMotorType (t : PdoType) : Bool := t = .rxCia402 || t = .rxXtMotor || t = .rxMotor

def isGripperType (t : PdoType) : Bool := t = .rxGripper

def isValveType (t : PdoType) : Bool := t = .rxHyqKnee

/-- `map_ecat_id`: the configured device names. -/
abbrev IdNames := AList fun _ : EcatId => String

/-- The fallback name of a device. -/
def ecatName (id : EcatId) : String := "ecat_" ++ toString id.toNat

def resolveName (id : EcatId) (names : IdNames) : String := (names.lookup id).getD (ecatName id)

theorem isMotorType_iff {t : PdoType} :
    isMotorType t = true ↔ t = .rxCia402 ∨ t = .rxXtMotor ∨ t = .rxMotor := by
  simp [isMotorType, or_assoc]

end EcatMiddleware.Core
