import Dmgd.Txscript.Opcode

/-! Transactions as the mempool policy reads them: `wire.MsgTx` with its inputs and outputs,
the reject codes of `wire`, and `provautil.Tx`, which memoizes the transaction's hash and
keeps its index in a block. The `wire` package is not among the sources. The fields are those
of §6 of the spec ("version, inputs, outputs, locktime"; an input is a previous outpoint, a
signature script and a sequence number; an output a value and a pkScript), and so are the
serialized sizes. -/

namespace Dmgd.Wire

open Txscript

/-- `chainhash.Hash`: 32 bytes. -/
structure Hash where
  bytes : List UInt8
  length_eq : bytes.length = 32
  deriving DecidableEq

/-- `Hash.String`: the bytes in reverse order, in hex. -/
def Hash.toString (h : Hash) : String := hexString h.bytes.reverse

/-- `wire.OutPoint`. -/
structure OutPoint where
  hash : Hash
  index : UInt32
  deriving DecidableEq

/-- `wire.TxIn`. -/
structure TxIn where
  previousOutPoint : OutPoint
  signatureScript : List UInt8
  sequence : UInt32

/-- `wire.TxOut`: the value is an `int64` number of atoms. -/
structure TxOut where
  value : Int
  pkScript : List UInt8

/-- Modelled from the spec: `wire.MaxTxInSequenceNum`, the sequence number of a final input. -/
def maxTxInSequenceNum : UInt32 := 0xffffffff

/-- `wire.MsgTx`. -/
structure MsgTx where
  version : Int
  txIn : List TxIn
  txOut : List TxOut
  lockTime : UInt32

/-- Modelled from the spec (§6): the transaction with every signature script emptied, the form
the txid hashes. -/
def MsgTx.stripped (msg : MsgTx) : MsgTx :=
  { msg with txIn := msg.txIn.map fun txIn => { txIn with signatureScript := [] } }

/-- The reject codes of `wire` that the mempool policy gives. -/
inductive RejectCode where
  | rejectInvalid
  | rejectNonstandard
  | rejectDust
  | rejectInvalidAdmin
  deriving DecidableEq, Repr

/-! ### Serialized sizes -/

/-- Modelled from the spec: `VarIntSerializeSize`, the bytes of a variable-length integer. -/
def varIntSerializeSize (val : Nat) : Nat :=
  if val < 0xfd then 1
  else if val ≤ 0xffff then 3
  else if val ≤ 0xffffffff then 5
  else 9

theorem varIntSerializeSize_le (val : Nat) : varIntSerializeSize val ≤ 9 := by
  unfold varIntSerializeSize
  split_ifs <;> omega

/-- Modelled from the spec: `TxIn.SerializeSize`, outpoint (32 + 4), script with its length,
sequence (4). -/
def TxIn.serializeSize (t : TxIn) : Nat :=
  40 + varIntSerializeSize t.signatureScript.length + t.signatureScript.length

/-- Modelled from the spec: `TxOut.SerializeSize`, value (8) and script with its length. -/
def TxOut.serializeSize (t : TxOut) : Nat :=
  8 + varIntSerializeSize t.pkScript.length + t.pkScript.length

theorem varIntSerializeSize_pos (val : Nat) : 1 ≤ varIntSerializeSize val := by
  unfold varIntSerializeSize
  split_ifs <;> omega

theorem TxIn.serializeSize_le (t : TxIn) : t.serializeSize ≤ 49 + t.signatureScript.length := by
  have := varIntSerializeSize_le t.signatureScript.length
  unfold TxIn.serializeSize
  omega

theorem TxOut.serializeSize_le (t : TxOut) : t.serializeSize ≤ 17 + t.pkScript.length := by
  have := varIntSerializeSize_le t.pkScript.length
  unfold TxOut.serializeSize
  omega

/-- Modelled from the spec: `MsgTx.SerializeSize`, version and lock time (4 + 4), and the
inputs and outputs with their counts. -/
def MsgTx.serializeSize (msg : MsgTx) : Nat :=
  8 + varIntSerializeSize msg.txIn.length + varIntSerializeSize msg.txOut.length +
    msg.txIn.foldr (fun t n => t.serializeSize + n) 0 +
    msg.txOut.foldr (fun t n => t.serializeSize + n) 0

/-- Every output takes nine bytes at least. -/
theorem MsgTx.txOut_length_le (msg : MsgTx) : 9 * msg.txOut.length ≤ msg.serializeSize := by
  have hfold : ∀ txOuts : List TxOut,
      9 * txOuts.length ≤ txOuts.foldr (fun t n => t.serializeSize + n) 0 := by
    intro txOuts
    induction txOuts with
    | nil => simp
    | cons t ts ih =>
      have : 9 ≤ t.serializeSize := by
        have := varIntSerializeSize_pos t.pkScript.length
        unfold TxOut.serializeSize
        omega
      rw [List.foldr_cons, List.length_cons]
      omega
  have := hfold msg.txOut
  unfold MsgTx.serializeSize
  omega

theorem foldr_add_le {α : Type} (f : α → Nat) {b : Nat} :
    ∀ {l : List α}, (∀ t ∈ l, f t ≤ b) → l.foldr (fun t n => f t + n) 0 ≤ l.length * b
  | [], _ => by simp
  | _ :: _, h => by
    rw [List.forall_mem_cons] at h
    have := foldr_add_le f h.2
    rw [List.foldr_cons, List.length_cons, Nat.succ_mul]
    have := h.1
    omega

/-- A transaction's size from bounds on its scripts: 26 bytes, and 49 per input and 17 per
output besides the scripts. -/
theorem MsgTx.serializeSize_le (msg : MsgTx) {sigMax pkMax : Nat}
    (hin : ∀ t ∈ msg.txIn, t.signatureScript.length ≤ sigMax)
    (hout : ∀ t ∈ msg.txOut, t.pkScript.length ≤ pkMax) :
    msg.serializeSize ≤ 26 + msg.txIn.length * (49 + sigMax) + msg.txOut.length * (17 + pkMax) := by
  have := foldr_add_le TxIn.serializeSize fun t ht =>
    (t.serializeSize_le).trans (Nat.add_le_add_left (hin t ht) 49)
  have := foldr_add_le TxOut.serializeSize fun t ht =>
    (t.serializeSize_le).trans (Nat.add_le_add_left (hout t ht) 17)
  have := varIntSerializeSize_le msg.txIn.length
  have := varIntSerializeSize_le msg.txOut.length
  unfold MsgTx.serializeSize
  omega

end Dmgd.Wire

namespace Dmgd.Provautil

open Wire

/-- `AtomsPerGram`: the atoms of one gram (1 DMG). -/
def atomsPerGram : Int := 1000000

/-- `MaxAtoms`: the largest amount of a transaction, `21e8` grams. -/
def maxAtoms : Int := 2100000000 * atomsPerGram

/-- `provautil.Tx`: the transaction, its memoized hash, and its index in a block
(`TxIndexUnknown = -1` until one is set). -/
structure Tx where
  msgTx : MsgTx
  hash : Hash
  txIndex : Int

/-- `IsCoinbase`: the transaction at index 0 of its block. -/
def Tx.isCoinbase (t : Tx) : Bool := t.txIndex == 0

end Dmgd.Provautil
