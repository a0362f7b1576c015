import EcatMiddleware.Data.Protobuf
import EcatMiddleware.Lib.Casts
import EcatMiddleware.Lib.LittleEndian

/-!
# Frames of a pipe

A frame is the length of a serialized PDO, as four little-endian bytes, and the PDO.

* `parseFrame_eq`: what the check of the length lets through.
* `parseFrame_exact`: nothing but frames is accepted, and every frame is.
-/

namespace EcatMiddleware.Core

open Casts Pb

/-- The PDO that `pdo_out` refers to, and whether the call succeeded. -/
abbrev ParseResult := Bool × EcSlavePdo

/-- `parse_frame`, for the `n` bytes at the head of `buf`. The sum `pb_len + 4` is one of 32 bits,
and `ParseFromArray` takes an `int`. -/
def parseFrame (parseFromArray : List UInt8 → Int32 → ParseResult) (buf : List UInt8) (n : Int64)
    (pdoOut : EcSlavePdo) : ParseResult :=
  if n < 4 then (false, pdoOut)
  else
    let pbLen := UInt32.ofNat (LittleEndian.value (buf.take 4))
    if (pbLen + 4).toUInt64.toInt64 ≠ n then (false, pdoOut)
    else parseFromArray (buf.drop 4) pbLen.toInt32

/-- `ParseFromArray` reads as many bytes as it is told to, and no other. -/
def ReadsSize (parseFromArray : List UInt8 → Int32 → ParseResult)
    (parse : List UInt8 → ParseResult) : Prop :=
  ∀ data size, 0 ≤ size.toInt → size.toInt ≤ data.length →
    parseFromArray data size = parse (data.take size.toInt.toNat)

/-! ## The check of the length -/

/-- The prefix, as a word. -/
theorem toNat_pbLen (buf : List UInt8) :
    (UInt32.ofNat (LittleEndian.value (buf.take 4))).toNat =
      LittleEndian.value (buf.take 4) := by
  have hlt := LittleEndian.value_lt (buf.take 4)
  have hpow : 256 ^ (buf.take 4).length ≤ 256 ^ 4 :=
    Nat.pow_le_pow_right (by decide) (List.length_take_le 4 buf)
  rw [UInt32.toNat_ofNat']
  exact Nat.mod_eq_of_lt (by omega)

/-- A prefix near `2 ^ 32` wraps to less than four, which no `n` that got so far is. -/
theorem length_check {pbLen : UInt32} {n : Int64} (h : 4 ≤ n.toInt) (hn : n.toInt < 2 ^ 32) :
    (pbLen + 4).toUInt64.toInt64 = n ↔ (pbLen.toNat : ℤ) = n.toInt - 4 := by
  rw [← Int64.toInt_inj, toInt_toInt64, UInt32.toNat_add]
  have hlt := pbLen.toNat_lt
  have hfour : (4 : UInt32).toNat = 4 := rfl
  by_cases hwrap : pbLen.toNat + 4 < 2 ^ 32
  · rw [hfour, Nat.mod_eq_of_lt hwrap]
    omega
  · have hmod : (pbLen.toNat + 4) % 2 ^ 32 = pbLen.toNat + 4 - 2 ^ 32 := by omega
    rw [hfour, hmod]
    omega

variable {parseFromArray : List UInt8 → Int32 → ParseResult} {parse : List UInt8 → ParseResult}

/-- A frame is parsed when its prefix is the length of the rest, and nothing happens otherwise. -/
theorem parseFrame_eq (hreads : ReadsSize parseFromArray parse) {buf : List UInt8} {n : Int64}
    (hbuf : n.toInt ≤ buf.length) (hn : n.toInt < 2 ^ 31 + 4) (pdoOut : EcSlavePdo) :
    parseFrame parseFromArray buf n pdoOut =
      if 4 ≤ n.toInt ∧ (LittleEndian.value (buf.take 4) : ℤ) = n.toInt - 4 then
        parse ((buf.drop 4).take (n.toInt - 4).toNat)
      else (false, pdoOut) := by
  unfold parseFrame
  by_cases hfour : 4 ≤ n.toInt
  · have hnot : ¬n < 4 := by
      rw [Int64.lt_iff_toInt_lt]
      exact not_lt.mpr hfour
    rw [if_neg hnot]
    have hcheck := @length_check (UInt32.ofNat (LittleEndian.value (buf.take 4))) n hfour (by omega)
    rw [toNat_pbLen] at hcheck
    by_cases hprefix : (LittleEndian.value (buf.take 4) : ℤ) = n.toInt - 4
    · have hsize :
          (UInt32.ofNat (LittleEndian.value (buf.take 4))).toInt32.toInt = n.toInt - 4 := by
        rw [toInt_toInt32 (by rw [toNat_pbLen]; omega), toNat_pbLen, hprefix]
      rw [if_neg (not_not.mpr (hcheck.mpr hprefix)), if_pos ⟨hfour, hprefix⟩,
        hreads _ _ (by omega) (by rw [List.length_drop]; omega), hsize]
    · rw [if_pos (mt hcheck.mp hprefix), if_neg fun h => hprefix h.2]
  · have hlt : n < 4 := by
      rw [Int64.lt_iff_toInt_lt]
      exact not_le.mp hfour
    rw [if_pos hlt, if_neg fun h => hfour h.1]

/-! ## Frames -/

/-- What the sender writes for the serialized PDO `s`. -/
def frame (s : List UInt8) : List UInt8 := LittleEndian.bytes 4 s.length ++ s

/-- **The frames of a pipe.** A buffer is accepted only when its first four bytes say how many
bytes follow and these parse, and the frame of a serialized PDO yields that PDO. -/
theorem parseFrame_exact (parseFromArray : List UInt8 → Int32 → ParseResult)
    (parse : List UInt8 → ParseResult) (serialize : EcSlavePdo → List UInt8)
    (hreads : ReadsSize parseFromArray parse) :
    (∀ (buf : List UInt8) (n : Int64) (pdoOut : EcSlavePdo), n.toInt ≤ buf.length →
      n.toInt < 2 ^ 31 → (parseFrame parseFromArray buf n pdoOut).1 = true →
      4 ≤ n.toInt ∧ (LittleEndian.value (buf.take 4) : ℤ) = n.toInt - 4 ∧
        (parse ((buf.drop 4).take (n.toInt - 4).toNat)).1 = true ∧
        parseFrame parseFromArray buf n pdoOut = parse ((buf.drop 4).take (n.toInt - 4).toNat)) ∧
    ∀ (pdo pdoOut : EcSlavePdo) (n : Int64), parse (serialize pdo) = (true, pdo) →
      (serialize pdo).length < 2 ^ 31 → n.toInt = (frame (serialize pdo)).length →
      parseFrame parseFromArray (frame (serialize pdo)) n pdoOut = (true, pdo) := by
  constructor
  · intro buf n pdoOut hbuf hn htrue
    rw [parseFrame_eq hreads hbuf (by omega)] at htrue ⊢
    split_ifs at htrue ⊢ with haccept
    exact ⟨haccept.1, haccept.2, htrue, rfl⟩
  · intro pdo pdoOut n hparse hfits hn
    have hlength : n.toInt = (serialize pdo).length + 4 := by
      rw [hn, frame, List.length_append, LittleEndian.length_bytes]
      omega
    have htake : (frame (serialize pdo)).take 4 = LittleEndian.bytes 4 (serialize pdo).length :=
      List.take_left' (LittleEndian.length_bytes 4 _)
    have hdrop : (frame (serialize pdo)).drop 4 = serialize pdo :=
      List.drop_left' (LittleEndian.length_bytes 4 _)
    have hprefix : (LittleEndian.value ((frame (serialize pdo)).take 4) : ℤ) = n.toInt - 4 := by
      rw [htake, LittleEndian.value_bytes (show _ < 256 ^ 4 by omega)]
      omega
    rw [parseFrame_eq hreads hn.le (by omega), if_pos ⟨by omega, hprefix⟩, hdrop,
      List.take_of_length_le (by omega), hparse]

/-- The wire format of a PDO that has a type only, for two of the types: the key of the first field,
and the number of the type. -/
def parseType : List UInt8 → ParseResult
  | [8, 1] => (true, { type := .rxMotor })
  | [8, 4] => (true, { type := .rxImuVn })
  | _ => (false, {})

/-- The frame of a motor, at the head of a buffer with more bytes. -/
theorem parseFrame_exact_motor :
    let parseFromArray : List UInt8 → Int32 → ParseResult := fun data size =>
      parseType (data.take size.toInt.toNat)
    frame [8, 1] = [2, 0, 0, 0, 8, 1] ∧
      parseFrame parseFromArray (frame [8, 1]) 6 { type := .rxImuVn } =
        (true, { type := .rxMotor }) ∧
      (LittleEndian.value (([2, 0, 0, 0, 8, 4, 9] : List UInt8).take 4) : ℤ) =
        (6 : Int64).toInt - 4 := by
  intro parseFromArray
  obtain ⟨honly, hevery⟩ := parseFrame_exact parseFromArray parseType
    (fun pdo => if pdo.type = .rxMotor then [8, 1] else [8, 4]) fun _ _ _ _ => rfl
  refine ⟨rfl, hevery { type := .rxMotor } { type := .rxImuVn } 6 rfl (by decide) rfl, ?_⟩
  exact (honly [2, 0, 0, 0, 8, 4, 9] 6 {} (by decide) (by decide) rfl).2.1

end EcatMiddleware.Core
