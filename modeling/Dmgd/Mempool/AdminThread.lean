import Dmgd.Mempool.Policy

/-! The admin-thread discipline of the mempool policy. `checkInputsStandard` lets only input 0
spend an admin thread, only in a transaction with an admin output, and only of the thread
whose two bytes output 0 repeats; every input must have spent the thread by the end of its
pass when there is an admin output. `checkTransactionStandard` lets an admin script stand only
at output 0 and puts the Root and Provision transactions under the admin section. Together:
input 0 spends an admin thread exactly when `GetAdminDetails` reads one at output 0, it is the
same thread, and the rest of the transaction has the shape the thread asks for. -/

namespace Dmgd.Mempool

open Provautil Wire Txscript

/-- Two `ProvaAdminTy` scripts with the same first byte are the same script. -/
theorem eq_of_provaAdminTy {s s' : List UInt8} (h : getScriptClass s = .provaAdminTy)
    (h' : getScriptClass s' = .provaAdminTy) (h0 : s[0]? = s'[0]?) : s = s' := by
  rcases (getScriptClass_eq_provaAdminTy s).mp h with rfl | rfl | rfl | rfl <;>
  rcases (getScriptClass_eq_provaAdminTy s').mp h' with rfl | rfl | rfl | rfl <;>
  revert h0 <;> decide

theorem parseScript_of_ne_nonStandardTy {s : List UInt8} (h : getScriptClass s ≠ .nonStandardTy) :
    ∃ pops, parseScript s = .ok pops := by
  unfold getScriptClass at h
  split at h
  · exact absurd rfl h
  · exact ⟨_, ‹_›⟩

theorem threadID_toNat_ne_issue {t : Int}
    (h : t = rootThread ∨ t = provisionThread) :
    (t.toNat = rootThread ∨ t.toNat = provisionThread) ∧ t.toNat ≠ issueThread := by
  rcases h with rfl | rfl <;> decide

/-- A transaction that passes both policy checks keeps the admin-thread discipline: an admin
script only at output 0 and an admin spend only at input 0; input 0 spends an admin thread
exactly when `GetAdminDetails` reads a thread id `t`, and the thread it spends is `t`; on the
Root and Provision threads the transaction has one input, some admin operation, no value, and
a valid operation in every output after output 0. -/
theorem checkStandard_adminThread (ops : AdminOpcodes) (parsePubKey : List UInt8 → Bool)
    (c : Collaborators) (tx : Tx) (utxoView : UtxoViewpoint) (height : UInt32)
    (medianTimePast minRelayTxFee maxTxVersion : Int) (txIn0 : TxIn) (txIns : List TxIn)
    (txOut0 : TxOut) (txOuts : List TxOut)
    (hin : tx.msgTx.txIn = txIn0 :: txIns) (hout : tx.msgTx.txOut = txOut0 :: txOuts)
    (hstd : checkTransactionStandard ops parsePubKey c tx height medianTimePast minRelayTxFee
      maxTxVersion = .ok ())
    (hinputs : checkInputsStandard c tx utxoView = some (.ok ())) :
    (∀ txOut ∈ txOuts, getScriptClass txOut.pkScript ≠ .provaAdminTy) ∧
      (∀ txIn ∈ txIns, getScriptClass (spentPkScript utxoView txIn) ≠ .provaAdminTy) ∧
      (getScriptClass (spentPkScript utxoView txIn0) = .provaAdminTy ↔
        0 ≤ (getAdminDetails tx).1) ∧
      (0 ≤ (getAdminDetails tx).1 →
        (∃ pops, parseScript (spentPkScript utxoView txIn0) = .ok pops ∧
          extractThreadID pops = .ok (getAdminDetails tx).1.toNat) ∧
        ((getAdminDetails tx).1 = rootThread ∨ (getAdminDetails tx).1 = provisionThread →
          txIns = [] ∧ txOuts ≠ [] ∧ (∀ txOut ∈ tx.msgTx.txOut, txOut.value = 0) ∧
          ∀ txOut ∈ txOuts, ∃ pops, parseScript txOut.pkScript = .ok pops ∧
            isValidAdminOp ops parsePubKey pops (getAdminDetails tx).1.toNat = true)) := by
  -- the output loop: output 0, then the rest from index 1
  obtain ⟨-, n, houts, -, hadmin⟩ := checkTransactionStandard_ok hstd
  rw [hout] at houts
  obtain ⟨m, hout0, hrest⟩ := checkOutputs_cons_ok houts
  have hallowOut0 := (checkOutput_ok hout0).1
  have hallowOuts := (checkOutputs_ok hrest).1
  -- the input loop: input 0, then the rest from index 1
  have hloop : checkInputsLoop c utxoView tx.hash.toString (decide ((getAdminDetails tx).1 ≥ 0))
      txOut0.pkScript 0 (txIn0 :: txIns) false = some (.ok ()) := by
    simpa only [checkInputsStandard, hout, hin] using hinputs
  obtain ⟨_, hstep0, hrestIn⟩ := checkInputsLoop_cons_ok hloop
  obtain ⟨hallowIn0, hforce, hset⟩ := checkInput_ok hstep0
  have hiff : getScriptClass (spentPkScript utxoView txIn0) = .provaAdminTy ↔
      0 ≤ (getAdminDetails tx).1 :=
    ⟨fun h => by simpa using (hallowIn0.admin h).2.1,
      fun h => (hset (hforce (by simpa using h))).resolve_left Bool.false_ne_true⟩
  refine ⟨fun o ho h => absurd ((hallowOuts o ho).admin_first h) (Nat.succ_ne_zero 0),
    fun i hi h => absurd ((checkInputsLoop_ok hrestIn i hi).admin h).1 (Nat.succ_ne_zero 0),
    hiff, fun ht0 => ?_⟩
  obtain ⟨_, _, pops, hout', hp, hty, hid, hparse⟩ := getAdminDetailsMsgTx_nonneg ht0
  rw [hout] at hout'
  obtain ⟨rfl, rfl⟩ := List.cons.inj hout'
  refine ⟨?_, fun hthread => ?_⟩
  · -- the spent thread script is output 0's script, byte for byte
    have hcls0 : getScriptClass txOut0.pkScript = .provaAdminTy := by
      simp only [getScriptClass, hp, hty]
    have hspent := hiff.mpr ht0
    rw [← eq_of_provaAdminTy hcls0 hspent (hallowIn0.admin hspent).2.2.1]
    exact ⟨pops, hp, hid⟩
  · obtain ⟨hroot, hissue⟩ := threadID_toNat_ne_issue hthread
    obtain ⟨hlen1, hlen2, hvalid⟩ := checkAdminTx_ok (hadmin ht0) hroot
    have hao : decide ((getAdminDetails tx).1 ≥ 0) = true := by simpa using ht0
    rw [hin, List.length_cons] at hlen1
    rw [hout, List.length_cons] at hlen2
    refine ⟨List.length_eq_zero.mp (by omega), List.ne_nil_of_length_pos (by omega), ?_, ?_⟩
    · rw [hout]
      rintro o (_ | ⟨_, ho⟩)
      · exact hallowOut0.zero_value hao hissue
      · exact (hallowOuts o ho).zero_value hao hissue
    · intro o ho
      obtain ⟨q, hq, hpq⟩ := parseAdminOutputs_mem hparse o ho
      exact ⟨q, hpq, hvalid q hq⟩

/-- Collaborators under which every transaction is final, every signature script push-only,
every script spendable and every input satisfies the script it spends. -/
def permissiveCollaborators : Collaborators :=
  ⟨fun _ _ _ => true, fun _ => true, fun _ => false, fun e => some e.rejectCode, fun _ => 0,
    fun _ _ _ => true⟩

/-- An input spending output 0 of the zero hash. -/
def rootSpend : TxIn := ⟨⟨⟨List.replicate 32 0, rfl⟩, 0⟩, [], 0⟩

/-- A view in which every output is the Root thread script `OP_0 OP_CHECKTHREAD`. -/
def rootThreadView : UtxoViewpoint := ⟨fun _ => some ⟨fun _ => [0x00, 0xbb]⟩⟩

/-- A Root-thread transaction: it continues the thread and carries one operation with the byte
`3` and a 33-byte key. -/
def rootAdminTx : Tx :=
  ⟨⟨1, [rootSpend], [⟨0, [0x00, 0xbb]⟩, ⟨0, [0x6a, 0x22, 3] ++ List.replicate 33 2⟩], 0⟩,
    ⟨List.replicate 32 1, rfl⟩, -1⟩

theorem checkStandard_adminThread_rootAdminTx :
    checkTransactionStandard ⟨1, 2, 3, 4, 17, 18, 19, 20⟩ (fun _ => true) permissiveCollaborators
        rootAdminTx 0 0 0 1 = .ok () ∧
      checkInputsStandard permissiveCollaborators rootAdminTx rootThreadView = some (.ok ()) ∧
      (getScriptClass (spentPkScript rootThreadView rootSpend) = .provaAdminTy ↔
        0 ≤ (getAdminDetails rootAdminTx).1) :=
  have hstd : checkTransactionStandard ⟨1, 2, 3, 4, 17, 18, 19, 20⟩ (fun _ => true)
      permissiveCollaborators rootAdminTx 0 0 0 1 = .ok () := rfl
  have hinputs : checkInputsStandard permissiveCollaborators rootAdminTx rootThreadView =
      some (.ok ()) := rfl
  ⟨hstd, hinputs, (checkStandard_adminThread _ _ _ rootAdminTx rootThreadView 0 0 0 1 rootSpend []
    _ _ rfl rfl hstd hinputs).2.2.1⟩

/-! ### Outside the admin threads -/

/-- A transaction outside the admin threads that passes `checkTransactionStandard` has only
standard output scripts, no admin script among them, and at most one null-data output. -/
theorem checkTransactionStandard_nonAdmin (ops : AdminOpcodes) (parsePubKey : List UInt8 → Bool)
    (c : Collaborators) (tx : Tx) (height : UInt32) (medianTimePast minRelayTxFee maxTxVersion : Int)
    (hstd : checkTransactionStandard ops parsePubKey c tx height medianTimePast minRelayTxFee
      maxTxVersion = .ok ())
    (ht : (getAdminDetails tx).1 < 0) :
    (∀ txOut ∈ tx.msgTx.txOut, getScriptClass txOut.pkScript ≠ .nonStandardTy ∧
      getScriptClass txOut.pkScript ≠ .provaAdminTy) ∧
    tx.msgTx.txOut.countP (fun txOut => getScriptClass txOut.pkScript = .nullDataTy) ≤ 1 := by
  obtain ⟨-, n, houts, hnull, -⟩ := checkTransactionStandard_ok hstd
  obtain ⟨hall, rfl⟩ := checkOutputs_ok houts
  refine ⟨fun o ho => ⟨(hall o ho).standard, fun hadm => ?_⟩, by simpa using hnull ht⟩
  rcases hout : tx.msgTx.txOut with _ | ⟨txOut0, txOuts⟩
  · rw [hout] at ho; cases ho
  rw [hout] at houts ho
  obtain ⟨_, -, hrest⟩ := checkOutputs_cons_ok houts
  have hallRest := (checkOutputs_ok hrest).1
  rcases ho with _ | ⟨_, ho⟩
  · -- an admin output 0 among parsed outputs would give a thread id
    exact absurd (getAdminDetailsMsgTx_nonneg_of hout hadm fun o' ho' =>
      parseScript_of_ne_nonStandardTy (hallRest o' ho').standard) (not_le.mpr ht)
  · exact absurd ((hallRest o ho).admin_first hadm) (Nat.succ_ne_zero 0)

/-- A transaction with one output, the null-data script `OP_RETURN`. -/
def nullDataTx : Tx := ⟨⟨1, [], [⟨0, [0x6a]⟩], 0⟩, ⟨List.replicate 32 1, rfl⟩, -1⟩

theorem checkTransactionStandard_nonAdmin_nullDataTx :
    checkTransactionStandard ⟨1, 2, 3, 4, 17, 18, 19, 20⟩ (fun _ => true) permissiveCollaborators
        nullDataTx 0 0 0 1 = .ok () ∧ (getAdminDetails nullDataTx).1 < 0 ∧
      (∀ txOut ∈ nullDataTx.msgTx.txOut, getScriptClass txOut.pkScript ≠ .nonStandardTy ∧
        getScriptClass txOut.pkScript ≠ .provaAdminTy) ∧
      nullDataTx.msgTx.txOut.countP (fun txOut => getScriptClass txOut.pkScript = .nullDataTy) ≤ 1 :=
  have hstd : checkTransactionStandard ⟨1, 2, 3, 4, 17, 18, 19, 20⟩ (fun _ => true)
      permissiveCollaborators nullDataTx 0 0 0 1 = .ok () := rfl
  have ht : (getAdminDetails nullDataTx).1 < 0 := by decide
  ⟨hstd, ht, checkTransactionStandard_nonAdmin _ _ _ _ _ _ _ _ hstd ht⟩

/-- A one-input transaction passes `checkInputsStandard` when its input spends, with a signature
script of an even number of opcodes, the thread script that its output 0 carries and from
which `GetAdminDetails` reads a thread. -/
theorem checkInputsStandard_threadSpend {c : Collaborators} {tx : Tx} {utxoView : UtxoViewpoint}
    {entry : UtxoEntry}
    {txIn0 : TxIn} {txOut0 : TxOut} {txOuts : List TxOut} {sigPops : List ParsedOpcode}
    (hin : tx.msgTx.txIn = [txIn0]) (hout : tx.msgTx.txOut = txOut0 :: txOuts)
    (hthread : 0 ≤ (getAdminDetails tx).1)
    (hentry : utxoView.lookupEntry txIn0.previousOutPoint.hash = some entry)
    (hspent : entry.pkScriptByIndex txIn0.previousOutPoint.index = txOut0.pkScript)
    (hs : getScriptClass txOut0.pkScript = .provaAdminTy)
    (hsig : parseScript txIn0.signatureScript = .ok sigPops) (heven : sigPops.length % 2 = 0) :
    checkInputsStandard c tx utxoView = some (.ok ()) := by
  obtain ⟨a, b, hab⟩ : ∃ a b, txOut0.pkScript = [a, b] := by
    rcases (getScriptClass_eq_provaAdminTy _).mp hs with h | h | h | h <;> exact ⟨_, _, h⟩
  rw [hab] at hs hspent
  simp [checkInputsStandard, hout, hin, hab, checkInputsLoop, checkInput, hentry, hspent, hs,
    checkAdminSpend, hsig, heven, checkHasAdminIn, hthread]

end Dmgd.Mempool
