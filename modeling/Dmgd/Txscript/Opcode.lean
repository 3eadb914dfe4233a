import Mathlib.Algebra.Group.Nat.Basic
import Mathlib.Data.List.Basic

/-! The opcode bytes that dmgd's standard-script code reads, the `length` column of the
opcode table that the parser switches on, and the small-integer helpers. A parsed opcode is
the opcode byte with the data it pushes. The opcode table and the helpers live in files of
txscript that are not among the sources; they are modelled on the opcodes that §6 of the
spec lists (small-int pushes, `OP_DATA_n`, `OP_PUSHDATA1..4`, `OP_RETURN`, `OP_CHECKTHREAD`,
`OP_CHECKSAFEMULTISIG`) with the byte values that the sources' test scripts show. -/

namespace Dmgd.Txscript

/-! ### Opcode values -/

def op0 : UInt8 := 0x00
def opData1 : UInt8 := 0x01
def opData5 : UInt8 := 0x05
def opData20 : UInt8 := 0x14
def opData34 : UInt8 := 0x22
def opData38 : UInt8 := 0x26
def opData75 : UInt8 := 0x4b
def opPushData1 : UInt8 := 0x4c
def opPushData2 : UInt8 := 0x4d
def opPushData4 : UInt8 := 0x4e
def op1Negate : UInt8 := 0x4f
def opReserved : UInt8 := 0x50
def op1 : UInt8 := 0x51
def op2 : UInt8 := 0x52
def op3 : UInt8 := 0x53
def op16 : UInt8 := 0x60
def opReturn : UInt8 := 0x6a
def opCheckMultiSig : UInt8 := 0xae
def opCheckSafeMultiSig : UInt8 := 0xba
def opCheckThread : UInt8 := 0xbb

/-! ### Bytes -/

theorem toNat_lt_256 (b : UInt8) : b.toNat < 256 := b.toNat_lt_size

theorem toNat_toUInt8 (n : Nat) : n.toUInt8.toNat = n % 256 := by
  simp [Nat.toUInt8, UInt8.toNat, UInt8.ofNat]

theorem uint8_eq_iff {a b : UInt8} : a = b ↔ a.toNat = b.toNat := ⟨fun h => h ▸ rfl, UInt8.toNat.inj⟩

theorem uint8_le_iff {a b : UInt8} : a ≤ b ↔ a.toNat ≤ b.toNat := Iff.rfl

theorem uint8_lt_iff {a b : UInt8} : a < b ↔ a.toNat < b.toNat := Iff.rfl

@[simp] theorem op0_toNat : op0.toNat = 0 := rfl
@[simp] theorem opData1_toNat : opData1.toNat = 1 := rfl
@[simp] theorem opData5_toNat : opData5.toNat = 5 := rfl
@[simp] theorem opData20_toNat : opData20.toNat = 20 := rfl
@[simp] theorem opData75_toNat : opData75.toNat = 75 := rfl
@[simp] theorem opPushData1_toNat : opPushData1.toNat = 76 := rfl
@[simp] theorem opPushData2_toNat : opPushData2.toNat = 77 := rfl
@[simp] theorem opPushData4_toNat : opPushData4.toNat = 78 := rfl
@[simp] theorem op1Negate_toNat : op1Negate.toNat = 79 := rfl
@[simp] theorem op1_toNat : op1.toNat = 81 := rfl
@[simp] theorem op16_toNat : op16.toNat = 96 := rfl
@[simp] theorem opReturn_toNat : opReturn.toNat = 106 := rfl

/-- Lower-case hex, as Go's `%x` prints a byte string. -/
def hexString (bs : List UInt8) : String :=
  String.join (bs.map fun b => (Nat.toDigits 16 (b.toNat / 16) ++ Nat.toDigits 16 (b.toNat % 16)).asString)

/-- A statement about every byte is a statement about the 256 values of `Fin 256`; facts of
the opcode table are checked this way. -/
theorem forall_uint8 {P : UInt8 → Prop} : (∀ b : UInt8, P b) ↔ ∀ n : Fin 256, P ⟨⟨n⟩⟩ :=
  ⟨fun h _ => h _, fun h ⟨⟨n⟩⟩ => h n⟩

/-! ### The opcode table -/

/-- Modelled from the spec: the `length` column of the opcode table (not among the sources).
`1` for an opcode without data, `1 + n` for `OP_DATA_n`, and `-k` for `OP_PUSHDATAk`, whose
data length follows in `k` little-endian bytes. -/
def opcodeLength (op : UInt8) : Int :=
  if op = op0 then 1
  else if op ≤ opData75 then op.toNat + 1
  else if op = opPushData1 then -1
  else if op = opPushData2 then -2
  else if op = opPushData4 then -4
  else 1

/-- A parsed opcode: the opcode (identified by its byte) and the data it pushes. -/
structure ParsedOpcode where
  opcode : UInt8
  data : List UInt8
  deriving DecidableEq, Repr, Inhabited

/-- Modelled from the spec: `isSmallInt` (not among the sources), true of `OP_0` and
`OP_1` to `OP_16`. -/
def isSmallInt (op : UInt8) : Bool :=
  op = op0 || (op1 ≤ op && op ≤ op16)

/-- Modelled from the spec: `asSmallInt` (not among the sources), the number a small-int
opcode pushes. As in the Go code, any other opcode is read through the same byte subtraction
`op - (OP_1 - 1)`, which wraps modulo 256. -/
def asSmallInt (op : UInt8) : Nat :=
  if op = op0 then 0 else (op - (op1 - 1)).toNat

theorem isSmallInt_iff (op : UInt8) :
    isSmallInt op = true ↔ op.toNat = 0 ∨ (81 ≤ op.toNat ∧ op.toNat ≤ 96) := by
  simp [isSmallInt, uint8_eq_iff, uint8_le_iff]

theorem opcodeLength_of_smallInt (op : UInt8) (h1 : 81 ≤ op.toNat) (h2 : op.toNat ≤ 96) :
    opcodeLength op = 1 := by
  simp [opcodeLength, uint8_eq_iff, uint8_le_iff]
  omega

theorem uint8_toNat_sub (a b : UInt8) : (a - b).toNat = (256 - b.toNat + a.toNat) % 256 :=
  BitVec.toNat_sub _ _

/-- `asSmallInt` in numbers: `0` for `OP_0`, otherwise the byte minus 80 modulo 256. -/
theorem asSmallInt_eq (op : UInt8) :
    asSmallInt op = if op.toNat = 0 then 0 else (op.toNat + 176) % 256 := by
  have h80 : (op1 - 1).toNat = 80 := rfl
  simp only [asSmallInt, uint8_eq_iff, op0_toNat, uint8_toNat_sub, h80, Nat.add_comm _ op.toNat]

theorem asSmallInt_of_ge {op : UInt8} (h : 81 ≤ op.toNat) : asSmallInt op = op.toNat - 80 := by
  rw [asSmallInt, if_neg (by rw [uint8_eq_iff, op0_toNat]; omega),
    UInt8.toNat_sub_of_le _ _ (by rw [uint8_le_iff]; exact Nat.le_trans (by decide) h)]
  rfl

theorem asSmallInt_lt (op : UInt8) : asSmallInt op < 256 := by
  unfold asSmallInt; split
  · omega
  · exact toNat_lt_256 _

/-- Modelled from the spec: `isUint32` (not among the sources), true of the opcodes that can
push an unsigned 32-bit key id as a minimally encoded script number: a small integer, or a
direct push of one to five bytes. -/
def isUint32 (op : UInt8) : Bool :=
  isSmallInt op || (opData1 ≤ op && op ≤ opData5)

set_option maxRecDepth 20000 in
theorem opcodeLength_pos_of_isUint32 : ∀ op : UInt8, isUint32 op = true → 0 < opcodeLength op := by
  rw [forall_uint8]; decide

end Dmgd.Txscript
