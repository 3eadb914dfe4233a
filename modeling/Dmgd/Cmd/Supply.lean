import Dmgd.Cmd.Utils
import Dmgd.Txscript.ProvaAddress

/-! The supply tool of `cmd/utils` (`manageDMGsupply.go`) and the address tool
(`generateAddress.go`). `createIssueTx` spends the Issue thread tip at input 0 and pays the
thread script `52 bb` at output 0; with nothing to revoke it issues `value` to an address,
otherwise it spends the coins to destroy at input 1 and binds their value in an `OP_RETURN`
output. `issueDMG` and `destroyDMG` read an amount of DMG and pass `amount * 10^6` atoms, an
`int64` product that wraps. The prompts and the decoding of hashes, indices and addresses are
left out: what they give is an argument. The signer (`SignTxOutput`) is a parameter, and so is
the `Hash160` of the new key of `generateAddress`.

Proved: for every amount and every address with two distinct key ids, the transaction of
`issueDMG` pays nothing to the Issue thread script and the atom count to the address's script,
and passes `checkTransactionStandard` whatever that count, which is negative for some amounts; `destroyDMG` builds a destroy transaction exactly when the amount is not a
multiple of `2^58`, and otherwise an issue of 0; and the address `generateAddress` prints has a
standard script exactly when its two key ids differ. -/

namespace Dmgd.Cmd

open Provautil Wire Txscript Mempool

/-! ### `createIssueTx` -/

/-- Go's `spendTx.TxIn[i].SignatureScript = sigScript`. -/
def setSignatureScript (tx : MsgTx) (i : Nat) (sigScript : List UInt8) : MsgTx :=
  { tx with txIn := tx.txIn.modify (fun txIn => { txIn with signatureScript := sigScript }) i }

/-- `createIssueTx`. `signTxOutput tx i amount pkScript` is the signature script of input `i` of
`tx` against the spent script `pkScript`. The error of `PayToAddrScript` is dropped, as in the
source, and leaves an empty script. -/
def createIssueTx (signTxOutput : MsgTx → Nat → Int → List UInt8 → List UInt8)
    (value revokeValue : Int) (previousOutpoint coinsToRevoke : OutPoint) (payToAddr : Address) :
    Option MsgTx := do
  let threadScript ← provaThreadScript issueThread
  let spendTx : MsgTx :=
    if revokeValue = 0 then
      let scriptPkScript := (payToAddrScript payToAddr).toOption.getD []
      ⟨1, [⟨previousOutpoint, [], maxTxInSequenceNum⟩],
        [⟨0, threadScript⟩, ⟨value, scriptPkScript⟩], 0⟩
    else
      ⟨1, [⟨previousOutpoint, [], maxTxInSequenceNum⟩, ⟨coinsToRevoke, [], maxTxInSequenceNum⟩],
        [⟨0, threadScript⟩, ⟨revokeValue, opReturnScript⟩], 0⟩
  let issueThreadpkScript : List UInt8 := [0x52, 0xbb]
  let spendTx := setSignatureScript spendTx 0 (signTxOutput spendTx 0 0 issueThreadpkScript)
  if revokeValue ≠ 0 then
    let scriptPkScript2 := (payToAddrScript payToAddr).toOption.getD []
    pure (setSignatureScript spendTx 1 (signTxOutput spendTx 1 revokeValue scriptPkScript2))
  else pure spendTx

/-- `amountInAtoms` of `issueDMG` and `destroyDMG`: the amount read times `10^6`, an `int64`
product that wraps. -/
def amountInAtoms (amount : Int) : Int := Int.bmod (amount * 1000000) (2 ^ 64)

/-- The transaction `destroyDMG` builds: `amountInAtoms amount` destroyed from the coins of
`payAddr` at `coinsToRevoke`, spending the Issue thread tip `prevOut`. -/
def destroyDMG (signTxOutput : MsgTx → Nat → Int → List UInt8 → List UInt8) (amount : Int)
    (prevOut coinsToRevoke : OutPoint) (payAddr : Address) : Option MsgTx :=
  createIssueTx signTxOutput 0 (amountInAtoms amount) prevOut coinsToRevoke payAddr

variable (signTxOutput : MsgTx → Nat → Int → List UInt8 → List UInt8)
  (previousOutpoint coinsToRevoke : OutPoint) (payToAddr : Address)

/-- What `createIssueTx` builds with nothing to revoke: the spend of the thread tip, signed on the
transaction with empty signature scripts, the thread output and `value` paid to the address. -/
theorem createIssueTx_issue (value : Int) :
    ∃ msgTx, createIssueTx signTxOutput value 0 previousOutpoint coinsToRevoke payToAddr =
        some msgTx ∧ msgTx.version = 1 ∧ msgTx.lockTime = 0 ∧
      msgTx.txIn =
        [⟨previousOutpoint, signTxOutput msgTx.stripped 0 0 [0x52, 0xbb], maxTxInSequenceNum⟩] ∧
      msgTx.txOut = [⟨0, [0x52, 0xbb]⟩, ⟨value, (payToAddrScript payToAddr).toOption.getD []⟩] := by
  simp only [createIssueTx, setSignatureScript]
  exact ⟨_, rfl, rfl, rfl, rfl, rfl⟩

/-- What `createIssueTx` builds with a value to revoke: the signed spends of the thread tip and
of the coins, the thread output and the value bound in `OP_RETURN`. -/
theorem createIssueTx_revoke (value : Int) {revokeValue : Int} (h : revokeValue ≠ 0) :
    ∃ msgTx, createIssueTx signTxOutput value revokeValue previousOutpoint coinsToRevoke
        payToAddr = some msgTx ∧ msgTx.version = 1 ∧ msgTx.lockTime = 0 ∧
      (∃ unsignedTx signedTx, msgTx.txIn =
        [⟨previousOutpoint, signTxOutput unsignedTx 0 0 [0x52, 0xbb], maxTxInSequenceNum⟩,
          ⟨coinsToRevoke, signTxOutput signedTx 1 revokeValue
            ((payToAddrScript payToAddr).toOption.getD []), maxTxInSequenceNum⟩]) ∧
      msgTx.txOut = [⟨0, [0x52, 0xbb]⟩, ⟨revokeValue, opReturnScript⟩] := by
  simp only [createIssueTx, setSignatureScript, if_neg h, if_pos h]
  exact ⟨_, rfl, rfl, rfl, ⟨_, _, rfl⟩, rfl⟩

/-! ### The Issue thread in the policy -/

/-- An Issue-thread transaction with one more output reads as the Issue thread, with the opcodes
of that output. -/
theorem getAdminDetails_issueThread {tx : Tx} {value : Int} {s : List UInt8}
    {pops : List ParsedOpcode} (hout : tx.msgTx.txOut = [⟨0, [0x52, 0xbb]⟩, ⟨value, s⟩])
    (hp : parseScript s = .ok pops) : getAdminDetails tx = ((issueThread : Int), [pops]) := by
  simp [getAdminDetails, getAdminDetailsMsgTx, hout, hp, parseAdminOutputs,
    show parseScript [0x52, 0xbb] = .ok [⟨op2, []⟩, ⟨opCheckThread, []⟩] from rfl,
    show typeOfScript [⟨op2, []⟩, ⟨opCheckThread, []⟩] = .provaAdminTy from rfl,
    show extractThreadID [⟨op2, []⟩, ⟨opCheckThread, []⟩] = .ok issueThread from rfl]

/-- An Issue-thread transaction with one more output, of any value, whose script is standard
and no thread script, passes `checkTransactionStandard` when it is final, within the size limit
and signed with push-only scripts. -/
theorem checkTransactionStandard_issueThread {ops : AdminOpcodes}
    {parsePubKey : List UInt8 → Bool} {c : Collaborators} {tx : Tx} {height : UInt32}
    {medianTimePast minRelayTxFee maxTxVersion value : Int} {s : List UInt8}
    (hver : tx.msgTx.version = 1) (hmax : 1 ≤ maxTxVersion)
    (hfin : c.isFinalizedTransaction tx height medianTimePast = true)
    (hsize : tx.msgTx.serializeSize ≤ maxStandardTxSize)
    (hsig : ∀ txIn ∈ tx.msgTx.txIn, txIn.signatureScript.length ≤ maxStandardSigScriptSize ∧
      c.isPushOnlyScript txIn.signatureScript = true)
    (hout : tx.msgTx.txOut = [⟨0, [0x52, 0xbb]⟩, ⟨value, s⟩])
    (hstd : getScriptClass s ≠ .nonStandardTy) (hadm : getScriptClass s ≠ .provaAdminTy) :
    checkTransactionStandard ops parsePubKey c tx height medianTimePast minRelayTxFee
      maxTxVersion = .ok () := by
  obtain ⟨pops, hp⟩ := parseScript_of_ne_nonStandardTy hstd
  have hdet := getAdminDetails_issueThread hout hp
  have h0 : checkOutput c tx minRelayTxFee issueThread true 0 ⟨0, [0x52, 0xbb]⟩ 0 = .ok 0 :=
    checkOutput_threadOutput rfl
  have h1 : checkOutput c tx minRelayTxFee issueThread true 1 ⟨value, s⟩ 0 =
      .ok (0 + if getScriptClass s = .nullDataTy then 1 else 0) :=
    checkOutput_of ⟨hstd, fun h => absurd h hadm, fun _ hi => absurd rfl hi⟩ fun _ => by simp
  refine @checkTransactionStandard_of ops parsePubKey c tx height medianTimePast minRelayTxFee
    maxTxVersion (0 + if getScriptClass s = .nullDataTy then 1 else 0) ⟨hver.ge, hver ▸ hmax⟩
    hfin hsize (checkSigScripts_eq_ok_iff.mpr hsig) ?_ (fun h => absurd h (by simp [hdet]))
    fun _ => checkAdminTx_of fun h => ?_
  · simp only [hdet, hout, checkOutputs]
    simp [h0, h1]
  · simp [hdet, issueThread, rootThread, provisionThread] at h

/-! ### The script of a two-key-id address -/

theorem not_layout_provaPops {pkHash : List UInt8} (hh : pkHash.length = 20) (k : KeyID) :
    ¬ GeneralProvaLayout (provaPops pkHash k k) := by
  intro hl
  have hhp : isKeyHashPush ⟨opData20, pkHash⟩ = true := by simp [isKeyHashPush, hh]
  have hhash : keyIDOf ⟨opData20, pkHash⟩ = none := keyIDOf_of_not_keyID (isKeyIDPush_of_hash hhp)
  have hids : keyIDsOf (keyPops (provaPops pkHash k k)) = [k, k] := by
    simp [keyPops, provaPops, keyIDsOf, hhash, keyIDOf_int64Pop]
  have := hl.valid.nodup
  rw [hids] at this
  simp at this

/-- The script of an address with a 20-byte pkHash and two key ids is `ProvaTy` when the key
ids differ and `NonStandardTy` when they are the same. -/
theorem getScriptClass_provaPops {pkHash : List UInt8} (hh : pkHash.length = 20) (k0 k1 : KeyID) :
    getScriptClass ((provaPops pkHash k0 k1).flatMap ParsedOpcode.bytes) =
      if k0 = k1 then .nonStandardTy else .provaTy := by
  rw [getScriptClass, parseScript_flatMap_bytes _ (provaPops_wellFormed k0 k1 hh)]
  dsimp only
  split_ifs with hk
  · subst hk
    have hg : isGeneralProva (provaPops pkHash k0 k0) = false :=
      Bool.eq_false_iff.mpr fun h => not_layout_provaPops hh k0 ((isGeneralProva_iff _).mp h)
    have hp : isProva (provaPops pkHash k0 k0) = false :=
      Bool.eq_false_iff.mpr fun h => not_layout_provaPops hh k0 ((isProva_iff _).mp h).1
    have hlen : (provaPops pkHash k0 k0).length = 6 := rfl
    simp [typeOfScript, hg, hp, isNullData, isProvaAdmin, hlen]
  · exact (typeOfScript_eq_provaTy _).mpr (provaPops_layout hh hk)

theorem provaPops_bytes_length {pkHash : List UInt8} (hh : pkHash.length = 20) (k0 k1 : KeyID) :
    ((provaPops pkHash k0 k1).flatMap ParsedOpcode.bytes).length ≤ 46 := by
  have h2 := int64Pop_bytes_length 2 (by norm_num)
  have h3 := int64Pop_bytes_length 3 (by norm_num)
  have hk0 := int64Pop_bytes_length _ (toNat_lt_keyID k0)
  have hk1 := int64Pop_bytes_length _ (toNat_lt_keyID k1)
  have hhash : (⟨opData20, pkHash⟩ : ParsedOpcode).bytes.length = 21 := by
    rw [ParsedOpcode.bytes_of_pos (by dsimp only; decide)]
    simp [hh]
  have hlast : (⟨opCheckSafeMultiSig, []⟩ : ParsedOpcode).bytes.length = 1 := rfl
  simp only [Nat.cast_ofNat] at h2 h3
  simp only [provaPops, List.flatMap_cons, List.flatMap_nil, List.length_append, List.length_nil,
    hhash, hlast]
  omega

theorem payToAddrScript_prova {pkHash : List UInt8} (hh : pkHash.length = 20) (k0 k1 : KeyID)
    (netID : UInt8) :
    (payToAddrScript (.prova (some ⟨pkHash, hh, [k0, k1], netID⟩))).toOption.getD [] =
      (provaPops pkHash k0 k1).flatMap ParsedOpcode.bytes := by
  simp only [payToAddrScript, AddressProva.scriptAddress, AddressProva.scriptKeyIDs,
    payToProvaScript_eq k0 k1 hh]
  rfl

/-! ### Issue and destroy -/

theorem bmod_eq_zero_iff {x : Int} {m : Nat} : x.bmod m = 0 ↔ (m : Int) ∣ x := by
  rw [Int.dvd_iff_emod_eq_zero]
  constructor
  · intro h
    rw [← @Int.bmod_emod x m, h, Int.zero_emod]
  · intro h
    simp [Int.bmod, h]
    omega

/-- The atom count wraps to 0 exactly at the multiples of `2^58`: `10^6 = 2^6 * 15625` with
`15625` odd. -/
theorem amountInAtoms_eq_zero (amount : Int) : amountInAtoms amount = 0 ↔ 2 ^ 58 ∣ amount := by
  rw [amountInAtoms, bmod_eq_zero_iff, show ((2 ^ 64 : Nat) : Int) = 2 ^ 58 * 2 ^ 6 by norm_num,
    show amount * 1000000 = amount * 15625 * 2 ^ 6 by omega, mul_dvd_mul_iff_right (by norm_num)]
  exact ⟨fun h => Int.dvd_of_dvd_mul_left_of_gcd_one h rfl, fun h => h.mul_right _⟩

section Tools

variable (ops : AdminOpcodes) (parsePubKey : List UInt8 → Bool) (c : Collaborators)
  {pkHash : List UInt8} (hh : pkHash.length = 20) {k0 k1 : KeyID} (netID : UInt8) (hash : Hash)
  (txIndex : Int) (height : UInt32) (medianTimePast minRelayTxFee maxTxVersion : Int)

/-- What `createIssueTx` builds with nothing to revoke, to an address with two distinct key ids,
as the policy reads it: the signed spend of the Issue thread tip, the thread output and `value`
paid to the address's script, lock time 0, and, once final and signed with push-only scripts
within the size limit, a pass of `checkTransactionStandard` whatever `value`. -/
theorem createIssueTx_issue_policy (value : Int) (prevOut coinsToRevoke : OutPoint) (hk : k0 ≠ k1)
    (hsign : ∀ tx, (signTxOutput tx 0 0 [0x52, 0xbb]).length ≤ maxStandardSigScriptSize ∧
      c.isPushOnlyScript (signTxOutput tx 0 0 [0x52, 0xbb]) = true)
    (hver : 1 ≤ maxTxVersion) :
    ∃ msgTx, createIssueTx signTxOutput value 0 prevOut coinsToRevoke
        (.prova (some ⟨pkHash, hh, [k0, k1], netID⟩)) = some msgTx ∧ msgTx.lockTime = 0 ∧
      msgTx.txIn = [⟨prevOut, signTxOutput msgTx.stripped 0 0 [0x52, 0xbb], maxTxInSequenceNum⟩] ∧
      msgTx.txOut = [⟨0, [0x52, 0xbb]⟩, ⟨value, (provaPops pkHash k0 k1).flatMap ParsedOpcode.bytes⟩] ∧
      (c.isFinalizedTransaction ⟨msgTx, hash, txIndex⟩ height medianTimePast = true →
        checkTransactionStandard ops parsePubKey c ⟨msgTx, hash, txIndex⟩ height medianTimePast
          minRelayTxFee maxTxVersion = .ok ()) := by
  obtain ⟨msgTx, hc, hv, hlock, hin, hout⟩ := createIssueTx_issue signTxOutput prevOut
    coinsToRevoke (.prova (some ⟨pkHash, hh, [k0, k1], netID⟩)) value
  rw [payToAddrScript_prova hh] at hout
  have hclass := getScriptClass_provaPops hh k0 k1
  rw [if_neg hk] at hclass
  have hsig : ∀ t ∈ msgTx.txIn, t.signatureScript.length ≤ maxStandardSigScriptSize ∧
      c.isPushOnlyScript t.signatureScript = true := by
    rw [hin]
    simpa using hsign _
  refine ⟨msgTx, hc, hlock, hin, hout, fun hfin =>
    checkTransactionStandard_issueThread hv hver hfin (serializeSize_twoOutputs (by simp [hin])
      (fun t ht => (hsig t ht).1) hout (by decide) (provaPops_bytes_length hh k0 k1)) hsig hout
      (by rw [hclass]; decide) (by rw [hclass]; decide)⟩

/-- For every amount and every address with two distinct key ids, `destroyDMG` builds a
transaction that spends the coins at input 1 and binds `amount * 10^6` atoms in `OP_RETURN`
when the amount is not a multiple of `2^58`; at the multiples the atom count wraps to 0 and it
builds an issue of value 0 instead. Either passes `checkTransactionStandard` once final and
signed with push-only scripts within the size limit. -/
theorem destroyDMG_standard (amount : Int) (prevOut coinsToRevoke : OutPoint) (hk : k0 ≠ k1)
    (hsign : ∀ tx i v pkScript, (signTxOutput tx i v pkScript).length ≤ maxStandardSigScriptSize ∧
      c.isPushOnlyScript (signTxOutput tx i v pkScript) = true)
    (hver : 1 ≤ maxTxVersion) :
    ∃ msgTx, destroyDMG signTxOutput amount prevOut coinsToRevoke
        (.prova (some ⟨pkHash, hh, [k0, k1], netID⟩)) = some msgTx ∧
      (¬ 2 ^ 58 ∣ amount → msgTx.txIn.map TxIn.previousOutPoint = [prevOut, coinsToRevoke] ∧
        msgTx.txOut = [⟨0, [0x52, 0xbb]⟩, ⟨amountInAtoms amount, opReturnScript⟩]) ∧
      (2 ^ 58 ∣ amount → msgTx.txIn.map TxIn.previousOutPoint = [prevOut] ∧
        msgTx.txOut.map TxOut.value = [0, 0]) ∧
      (c.isFinalizedTransaction ⟨msgTx, hash, txIndex⟩ height medianTimePast = true →
        checkTransactionStandard ops parsePubKey c ⟨msgTx, hash, txIndex⟩ height medianTimePast
          minRelayTxFee maxTxVersion = .ok ()) := by
  by_cases hz : 2 ^ 58 ∣ amount
  · -- the atom count wraps to 0: an issue of 0
    obtain ⟨msgTx, hc, -, hin, hout, hstd⟩ := createIssueTx_issue_policy signTxOutput ops
      parsePubKey c hh netID hash txIndex height medianTimePast minRelayTxFee maxTxVersion 0 prevOut
      coinsToRevoke hk (fun tx => hsign tx 0 0 _) hver
    exact ⟨msgTx, by rw [destroyDMG, (amountInAtoms_eq_zero amount).mpr hz]; exact hc,
      fun h => absurd hz h, fun _ => ⟨by simp [hin], by simp [hout]⟩, hstd⟩
  · -- a destroy transaction
    have hne : amountInAtoms amount ≠ 0 := mt (amountInAtoms_eq_zero amount).mp hz
    obtain ⟨msgTx, hc, hv, -, ⟨unsignedTx, signedTx, hin⟩, hout⟩ := createIssueTx_revoke signTxOutput
      prevOut coinsToRevoke (.prova (some ⟨pkHash, hh, [k0, k1], netID⟩)) 0 hne
    have hsig : ∀ t ∈ msgTx.txIn, t.signatureScript.length ≤ maxStandardSigScriptSize ∧
        c.isPushOnlyScript t.signatureScript = true := by
      rw [hin]
      simp [hsign]
    refine ⟨msgTx, hc, fun _ => ⟨by simp [hin], hout⟩, fun h => absurd h hz, fun hfin =>
      checkTransactionStandard_issueThread hv hver hfin (serializeSize_twoOutputs (by simp [hin])
        (fun t ht => (hsig t ht).1) hout (by decide) (show opReturnScript.length ≤ 46 by decide))
        hsig hout (by decide) (by decide)⟩

/-- The address `generateAddress` prints: `NewAddressProva` of the `Hash160` of a new key and the
two key ids read. -/
def generateAddress (pkHash : List UInt8) (keyID1 keyID2 : KeyID) (netID : UInt8) :
    Except String AddressProva :=
  newAddressProva pkHash [keyID1, keyID2] netID

include hh in
/-- For every `Hash160` and every two key ids, `generateAddress` gives an address whose script
`PayToAddrScript` builds; the script is `ProvaTy` when the key ids differ, and `NonStandardTy`,
which the policy refuses, when the same key id is read twice. -/
theorem generateAddress_standard (keyID1 keyID2 : KeyID) :
    ∃ addr s, generateAddress pkHash keyID1 keyID2 netID = .ok addr ∧
      payToAddrScript (.prova (some addr)) = .ok s ∧
      getScriptClass s = if keyID1 = keyID2 then .nonStandardTy else .provaTy :=
  ⟨⟨pkHash, hh, [keyID1, keyID2], netID⟩, _, by simp only [generateAddress, newAddressProva, hh,
    dif_pos], payToProvaScript_eq keyID1 keyID2 hh, getScriptClass_provaPops hh keyID1 keyID2⟩

end Tools

/-! ### Amounts that wrap -/

theorem destroyDMG_standard_wrapped :
    2 ^ 58 ∣ (2 ^ 58 : Int) ∧ (List.replicate 20 (0 : UInt8)).length = 20 ∧ (1 : KeyID) ≠ 2 ∧
      ∃ msgTx, destroyDMG (fun _ _ _ _ => []) (2 ^ 58) rootSpend.previousOutPoint
          rootSpend.previousOutPoint (.prova (some ⟨List.replicate 20 0, rfl, [1, 2], 0⟩)) =
          some msgTx ∧
        (¬ 2 ^ 58 ∣ (2 ^ 58 : Int) → msgTx.txIn.map TxIn.previousOutPoint =
            [rootSpend.previousOutPoint, rootSpend.previousOutPoint] ∧
          msgTx.txOut = [⟨0, [0x52, 0xbb]⟩, ⟨amountInAtoms (2 ^ 58), opReturnScript⟩]) ∧
        (2 ^ 58 ∣ (2 ^ 58 : Int) → msgTx.txIn.map TxIn.previousOutPoint =
            [rootSpend.previousOutPoint] ∧ msgTx.txOut.map TxOut.value = [0, 0]) ∧
        (permissiveCollaborators.isFinalizedTransaction ⟨msgTx, rootAdminTx.hash, -1⟩ 0 0 = true →
          checkTransactionStandard ⟨1, 2, 3, 4, 17, 18, 19, 20⟩ (fun _ => true)
            permissiveCollaborators ⟨msgTx, rootAdminTx.hash, -1⟩ 0 0 0 1 = .ok ()) :=
  ⟨dvd_refl _, rfl, by decide, destroyDMG_standard (fun _ _ _ _ => []) ⟨1, 2, 3, 4, 17, 18, 19, 20⟩
    (fun _ => true) permissiveCollaborators
    (show (List.replicate 20 (0 : UInt8)).length = 20 from rfl) 0 rootAdminTx.hash (-1) 0 0 0 1
    (2 ^ 58) rootSpend.previousOutPoint rootSpend.previousOutPoint (by decide)
    (fun _ _ _ _ => ⟨Nat.zero_le _, rfl⟩) le_rfl⟩

theorem generateAddress_standard_sameKeyID :
    (List.replicate 20 (0 : UInt8)).length = 20 ∧
      ∃ addr s, generateAddress (List.replicate 20 0) 7 7 0 = .ok addr ∧
        payToAddrScript (.prova (some addr)) = .ok s ∧
        getScriptClass s = if (7 : KeyID) = 7 then .nonStandardTy else .provaTy :=
  ⟨rfl, generateAddress_standard (show (List.replicate 20 (0 : UInt8)).length = 20 from rfl) 0 7 7⟩

end Dmgd.Cmd
