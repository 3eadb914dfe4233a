import Mathlib.Data.Nat.Digits
import Dmgd.Txscript.Parse

/-! Script numbers and key ids. A script number is little-endian sign-magnitude: the bytes
of the magnitude, with the sign in the top bit of the last byte, and an extra byte when that
bit is taken by the magnitude. `scriptNumBytes` encodes, `makeScriptNum` decodes and, asked
to, refuses an encoding with a needless last byte. `asInt32` reads a key id off a parsed
opcode. None of these is among the sources: they are modelled from §3 ("every key-id is a
distinct unsigned-32-bit value") and §4.2 ("parsers must reject ... non-minimal integer
encodings") of the spec.

Proved: every unsigned 32-bit key id other than a small integer is encoded in one to five
bytes that `makeScriptNum` accepts as minimal and decodes back (`makeScriptNum_scriptNumBytes`). -/

namespace Dmgd.Txscript

/-- `btcec.KeyID`: a key id is an unsigned 32-bit value. -/
abbrev KeyID := UInt32

theorem toNat_lt_keyID (k : KeyID) : k.toNat < 2 ^ 32 := k.toNat_lt_size

theorem toNat_toUInt32 (n : Nat) : n.toUInt32.toNat = n % 2 ^ 32 := by
  simp [Nat.toUInt32, UInt32.toNat, UInt32.ofNat]

theorem toUInt32_toNat (k : KeyID) : k.toNat.toUInt32 = k :=
  UInt32.toNat.inj (by rw [toNat_toUInt32]; exact Nat.mod_eq_of_lt (toNat_lt_keyID k))

set_option maxRecDepth 20000 in
theorem and_0x80_eq_zero (b : UInt8) : b &&& 0x80 = 0 ↔ b.toNat < 128 := by
  revert b; rw [forall_uint8]; decide

set_option maxRecDepth 20000 in
theorem and_0x7f_eq_zero (b : UInt8) : b &&& 0x7f = 0 ↔ b.toNat = 0 ∨ b.toNat = 128 := by
  revert b; rw [forall_uint8]; decide

/-! ### Encoding -/

/-- Modelled from the spec: `scriptNum.Bytes`, the minimal little-endian sign-magnitude
encoding; zero is the empty string. -/
def scriptNumBytes (n : Int) : List UInt8 :=
  if n = 0 then [] else
  let result := (Nat.digits 256 n.natAbs).map Nat.toUInt8
  let last := result.getLast?.getD 0
  if last &&& 0x80 ≠ 0 then result ++ [if n < 0 then 0x80 else 0x00]
  else if n < 0 then result.dropLast ++ [last ||| 0x80]
  else result

/-- Modelled from the spec: `checkMinimalDataEncoding`. The last byte, sign bit aside, may be
zero only when the byte before it needs its top bit for the magnitude. -/
def checkMinimalDataEncoding (v : List UInt8) : Except ScriptError Unit :=
  match v.getLast? with
  | none => .ok ()
  | some last =>
    if last &&& 0x7f = 0 ∧ (v.length = 1 ∨ v.getD (v.length - 2) 0 &&& 0x80 = 0) then
      .error ⟨.errMinimalData, s!"numeric value encoded as {hexString v} is not minimally encoded"⟩
    else .ok ()

/-- Modelled from the spec: `makeScriptNum`, decoding at most `scriptNumLen` bytes. -/
def makeScriptNum (v : List UInt8) (requireMinimal : Bool) (scriptNumLen : Nat) :
    Except ScriptError Int :=
  if v.length > scriptNumLen then
    .error ⟨.errNumberTooBig, s!"numeric value encoded as {hexString v} is {v.length} bytes which exceeds the max allowed of {scriptNumLen}"⟩
  else match (if requireMinimal then checkMinimalDataEncoding v else .ok ()) with
    | .error e => .error e
    | .ok () =>
      match v.getLast? with
      | none => .ok 0
      | some last =>
        if last &&& 0x80 ≠ 0 then .ok (-((leValue v - 128 * 256 ^ (v.length - 1) : Nat) : Int))
        else .ok (leValue v)

/-- Modelled from the spec: `asInt32`, the key id a key-id push carries: the number of a
small-int opcode, or a minimal script number of at most five bytes that is an unsigned
32-bit value. -/
def asInt32 (pop : ParsedOpcode) : Except ScriptError KeyID :=
  if isSmallInt pop.opcode then .ok (asSmallInt pop.opcode).toUInt32
  else match makeScriptNum pop.data true 5 with
    | .error e => .error e
    | .ok n =>
      if 0 ≤ n ∧ n < 2 ^ 32 then .ok n.toNat.toUInt32
      else .error ⟨.errNumberTooBig, s!"key id {n} is not an unsigned 32-bit value"⟩

/-! ### Non-negative numbers -/

theorem leValue_map_toUInt8 (ds : List Nat) (h : ∀ d ∈ ds, d < 256) :
    leValue (ds.map Nat.toUInt8) = Nat.ofDigits 256 ds := by
  induction ds with
  | nil => rfl
  | cons d ds ih =>
    simp only [List.map_cons, leValue, toNat_toUInt8, Nat.ofDigits_cons,
      ih fun x hx => h x (List.mem_cons_of_mem _ hx), Nat.mod_eq_of_lt (h d (List.mem_cons_self _ _))]

/-- The magnitude bytes of a positive number. -/
def magnitude (n : Nat) : List UInt8 := (Nat.digits 256 n).map Nat.toUInt8

theorem leValue_magnitude (n : Nat) : leValue (magnitude n) = n := by
  rw [magnitude, leValue_map_toUInt8 _ fun d hd => Nat.digits_lt_base (by norm_num) hd,
    Nat.ofDigits_digits]

theorem magnitude_getLast? {n : Nat} (hn : 0 < n) :
    ∃ last, (magnitude n).getLast? = some last ∧ 0 < last.toNat := by
  have hne : Nat.digits 256 n ≠ [] := Nat.digits_ne_nil_iff_ne_zero.mpr (by omega)
  refine ⟨(Nat.digits 256 n |>.getLast hne).toUInt8, ?_, ?_⟩
  · rw [magnitude, List.getLast?_map, List.getLast?_eq_getLast _ hne]; rfl
  · rw [toNat_toUInt8, Nat.mod_eq_of_lt (Nat.digits_lt_base (by norm_num) (List.getLast_mem hne))]
    exact Nat.pos_of_ne_zero (Nat.getLast_digit_ne_zero 256 (by omega))

theorem magnitude_length_le (n k : Nat) (h : n < 256 ^ k) : (magnitude n).length ≤ k := by
  rcases Nat.eq_zero_or_pos n with rfl | hn
  · simp [magnitude]
  · have := Nat.base_pow_length_digits_le 256 n (by norm_num) (by omega)
    rw [magnitude, List.length_map]
    by_contra hk
    have : 256 ^ (k + 1) ≤ 256 ^ (Nat.digits 256 n).length := Nat.pow_le_pow_right (by norm_num) (by omega)
    rw [Nat.pow_succ] at this
    omega

theorem leValue_append (a b : List UInt8) :
    leValue (a ++ b) = leValue a + 256 ^ a.length * leValue b := by
  induction a with
  | nil => simp [leValue]
  | cons x a ih =>
    rw [List.cons_append, leValue, leValue, ih, List.length_cons, Nat.pow_succ]; ring

/-- A positive number is its magnitude, with a zero byte after it when the magnitude's last
byte has its top bit set. -/
theorem scriptNumBytes_natCast {n : Nat} (hn : 0 < n) :
    scriptNumBytes n = magnitude n ++
      (if (magnitude n).getLast?.getD 0 &&& 0x80 ≠ 0 then [0] else []) := by
  have h0 : (n : Int) ≠ 0 := by omega
  have h1 : ¬ (n : Int) < 0 := by omega
  simp only [scriptNumBytes, h0, h1, if_false, Int.natAbs_ofNat, magnitude]
  split <;> simp_all

/-- `makeScriptNum` decodes every positive number back from its bytes, and finds them
minimal. -/
theorem makeScriptNum_scriptNumBytes {n L : Nat} (hn : 0 < n)
    (hL : (scriptNumBytes n).length ≤ L) : makeScriptNum (scriptNumBytes n) true L = .ok n := by
  obtain ⟨last, hlast, hpos⟩ := magnitude_getLast? hn
  have hne : magnitude n ≠ [] := by rintro h; simp [h] at hlast
  rw [scriptNumBytes_natCast hn, hlast, Option.getD_some] at hL ⊢
  unfold makeScriptNum checkMinimalDataEncoding
  rw [if_neg (by omega)]
  by_cases h : last &&& 0x80 = 0
  · have := (and_0x80_eq_zero last).mp h
    have h7f : ¬ last &&& 0x7f = 0 := by rw [and_0x7f_eq_zero]; omega
    simp [h, h7f, hlast, leValue_magnitude]
  · have hlen : 1 ≤ (magnitude n).length := List.length_pos.mpr hne
    have hprev : (magnitude n ++ [0])[(magnitude n).length - 1]?.getD 0 = last := by
      rw [List.getElem?_append_left (by omega), ← List.getLast?_eq_getElem?, hlast]; rfl
    have h00 : (0 : UInt8) &&& 0x7f = 0 ∧ (0 : UInt8) &&& 0x80 = 0 := ⟨rfl, rfl⟩
    simp [h, hprev, hne, h00, leValue_append, leValue, leValue_magnitude]

/-- Every number below `2 ^ 32` takes at most five bytes. -/
theorem scriptNumBytes_length_le {n : Nat} (hn : 0 < n) (h : n < 2 ^ 32) :
    (scriptNumBytes n).length ≤ 5 := by
  have := magnitude_length_le n 4 (by omega)
  rw [scriptNumBytes_natCast hn]
  split <;> simp <;> omega

/-- A one-byte script number of a positive number is that number, below 128. -/
theorem scriptNumBytes_eq_singleton {n : Nat} {b : UInt8} (hn : 0 < n)
    (h : scriptNumBytes n = [b]) : b.toNat = n ∧ n < 128 := by
  obtain ⟨last, hlast, -⟩ := magnitude_getLast? hn
  have hne : magnitude n ≠ [] := by rintro h'; simp [h'] at hlast
  rw [scriptNumBytes_natCast hn, hlast, Option.getD_some] at h
  split_ifs at h with h8
  · have := congrArg List.length h
    simp only [List.length_append, List.length_singleton] at this
    have := List.length_pos.mpr hne
    omega
  · rw [List.append_nil] at h
    rw [h, List.getLast?_singleton, Option.some_inj] at hlast
    subst hlast
    have hv := leValue_magnitude n
    rw [h] at hv
    simp only [leValue, mul_zero, add_zero] at hv
    exact ⟨hv, hv ▸ (and_0x80_eq_zero _).mp (not_not.mp h8)⟩

theorem scriptNumBytes_ne_nil {n : Nat} (hn : 0 < n) : scriptNumBytes n ≠ [] := by
  obtain ⟨last, hlast, -⟩ := magnitude_getLast? hn
  rw [scriptNumBytes_natCast hn]
  intro h
  rw [List.append_eq_nil] at h
  simp [h.1] at hlast

end Dmgd.Txscript
