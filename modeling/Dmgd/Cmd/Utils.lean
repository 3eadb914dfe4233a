import Dmgd.Mempool.AdminThread
import Dmgd.Txscript.NullData

/-! The tools of `cmd/utils` that build admin transactions. `manageKeys` adds or revokes a key
on the Root or Provision thread; `manageDMGsupply` issues tokens on the Issue thread or destroys
them. Each spends the thread tip at input 0 and pays the thread script at output 0. The
signature (`SignTxOutput`) is not among the sources and is a parameter, and a public key is
passed as its compressed serialization. A panic of the tools is `none`.

Proved: every operation the key tool's menu offers, with any 33-byte key the node parses, is
valid on the thread the tool chooses; the transaction the tool builds passes
`checkTransactionStandard`, and `checkInputsStandard` when the view holds the thread tip. Its
input 0 is signed against the script of the other admin thread (`threadPkScript`). -/

namespace Dmgd.Cmd

open Provautil Wire Txscript Mempool

/-! ### Scripts -/

/-- Go's `copy(dst, src)` on the result: the first `min(len(dst), len(src))` bytes of `dst`
replaced by those of `src`. -/
def goCopy (dst src : List UInt8) : List UInt8 := src.take dst.length ++ dst.drop src.length

theorem goCopy_of_length {dst src : List UInt8} (h : src.length = dst.length) :
    goCopy dst src = src := by
  simp [goCopy, ← h]

/-- `provaThreadScript` of the tools (both files have it): `<thread id> OP_CHECKTHREAD`. -/
def provaThreadScript (threadID : ThreadID) : Option (List UInt8) :=
  match (ScriptBuilder.new.addInt64 threadID |>.addOp opCheckThread).script with
  | .ok script => some script
  | .error _ => none

/-- `provaAdminScript`: `OP_RETURN` and the push of the operation byte and the key. -/
def provaAdminScript (opcode : UInt8) (pubKey : List UInt8) : Option (List UInt8) :=
  let data := opcode :: goCopy (List.replicate pubKeyBytesLenCompressed 0) pubKey
  match (ScriptBuilder.new.addOp opReturn |>.addData data).script with
  | .ok script => some script
  | .error _ => none

/-- `provaAdminScriptForASP`: the same, with the key id after the key, little-endian. -/
def provaAdminScriptForASP (opcode : UInt8) (pubKey : List UInt8) (keyID : UInt32) :
    Option (List UInt8) :=
  let data := opcode :: goCopy (List.replicate (4 + pubKeyBytesLenCompressed) 0) pubKey
  let bs := leBytes 4 keyID.toNat
  let data := data.take 34 ++ goCopy (data.drop 34) bs
  match (ScriptBuilder.new.addOp opReturn |>.addData data).script with
  | .ok script => some script
  | .error _ => none

/-- `opReturnScript`: `OP_RETURN` alone. -/
def opReturnScript : List UInt8 := [opReturn]

theorem canonicalPush_of_length {data : List UInt8} (h2 : 2 ≤ data.length) (h76 : data.length < 76) :
    canonicalPush data = data.length.toUInt8 :: data := by
  match data, h2 with
  | _ :: _ :: _, _ =>
    simp only [canonicalPush, lengthPush, opPushData1_toNat, if_pos h76, opData1_toNat]
    simp

/-- The script of an operation: `OP_RETURN`, then a push of the `1 + n` bytes. -/
theorem adminScript_eq (op : UInt8) (data : List UInt8) (h1 : 1 ≤ data.length)
    (h : 1 + data.length < 76) :
    (ScriptBuilder.new.addOp opReturn |>.addData (op :: data)).script =
      .ok (opReturn :: (1 + data.length).toUInt8 :: op :: data) := by
  have hpush : canonicalPush (op :: data) = (op :: data).length.toUInt8 :: op :: data :=
    canonicalPush_of_length (by simp; omega) (by simp; omega)
  rw [ScriptBuilder.new, ScriptBuilder.addOp_ok [] _ (by decide),
    ScriptBuilder.addData_ok _ _ (by simp [hpush, maxScriptSize]; omega)
      (by simp [maxScriptElementSize]; omega), hpush]
  simp [ScriptBuilder.script, Nat.add_comm]

theorem provaAdminScript_eq (op : UInt8) {pubKey : List UInt8}
    (hpk : pubKey.length = pubKeyBytesLenCompressed) :
    provaAdminScript op pubKey = some (opReturn :: opData34 :: op :: pubKey) := by
  have h33 : pubKey.length = 33 := hpk
  have hs := adminScript_eq op pubKey (by omega) (by omega)
  rw [h33] at hs
  simp only [provaAdminScript,
    @goCopy_of_length (List.replicate pubKeyBytesLenCompressed 0) pubKey (by simp [hpk]), hs]
  rfl

theorem provaAdminScriptForASP_eq (op : UInt8) {pubKey : List UInt8} (keyID : UInt32)
    (hpk : pubKey.length = pubKeyBytesLenCompressed) :
    provaAdminScriptForASP op pubKey keyID =
      some (opReturn :: opData38 :: op :: (pubKey ++ leBytes 4 keyID.toNat)) := by
  have h33 : pubKey.length = 33 := hpk
  have hdata : (op :: goCopy (List.replicate (4 + pubKeyBytesLenCompressed) 0) pubKey).take 34 ++
      goCopy ((op :: goCopy (List.replicate (4 + pubKeyBytesLenCompressed) 0) pubKey).drop 34)
        (leBytes 4 keyID.toNat) = op :: (pubKey ++ leBytes 4 keyID.toNat) := by
    simp [goCopy, h33, pubKeyBytesLenCompressed, List.take_append_of_le_length,
      List.take_of_length_le (show pubKey.length ≤ 37 by omega)]
  have hs := adminScript_eq op (pubKey ++ leBytes 4 keyID.toNat) (by simp) (by simp; omega)
  simp only [List.length_append, leBytes_length, h33] at hs
  simp only [provaAdminScriptForASP, hdata, hs]
  rfl

/-! ### `manageKeys` -/

section ManageKeys

variable (ops : AdminOpcodes)

/-- The operation `main` reads from its two menus: add or revoke, then the kind of key. -/
def menuOperation (option option2 : String) : Option UInt8 :=
  match option ++ option2 with
  | "11" => some ops.issueKeyAdd
  | "12" => some ops.validateKeyAdd
  | "13" => some ops.provisionKeyAdd
  | "14" => some ops.aspKeyAdd
  | "21" => some ops.issueKeyRevoke
  | "22" => some ops.validateKeyRevoke
  | "23" => some ops.provisionKeyRevoke
  | "24" => some ops.aspKeyRevoke
  | _ => none

/-- The thread `main` spends for an operation: Provision (`1`) for the validate and ASP keys,
Root (`0`) for the others. -/
def menuThread (operation : UInt8) : ThreadID :=
  if operation = ops.validateKeyAdd ∨ operation = ops.aspKeyAdd ∨
      operation = ops.validateKeyRevoke ∨ operation = ops.aspKeyRevoke then 1
  else 0

/-- The operation output of `createAdminTx`: with the key id for an ASP operation. -/
def operationScript (op : UInt8) (pubKey : List UInt8) (keyID : UInt32) : Option (List UInt8) :=
  if op = ops.aspKeyAdd ∨ op = ops.aspKeyRevoke then provaAdminScriptForASP op pubKey keyID
  else provaAdminScript op pubKey

/-- The script `createAdminTx` signs input 0 against: `00 bb` (Root) for thread 1, `51 bb`
(Provision) for any other. -/
def threadPkScript (threadID : ThreadID) : List UInt8 :=
  if threadID = 1 then [0x00, 0xbb] else [0x51, 0xbb]

/-- `createAdminTx`: the spend of the thread tip `outPoint`, the thread output and the operation
output, both of value 0. `signTxOutput` (`txscript.SignTxOutput`, not among the sources) gives
the signature script of input 0 of a transaction against a spent script. -/
def createAdminTx (signTxOutput : MsgTx → List UInt8 → List UInt8) (outPoint : OutPoint)
    (threadID : ThreadID) (op : UInt8) (pubKey : List UInt8) (keyID : UInt32) : Option MsgTx := do
  let txValue : Int := 0
  let threadScript ← provaThreadScript threadID
  let adminScript ← operationScript ops op pubKey keyID
  let spendTx : MsgTx := ⟨1, [⟨outPoint, [], maxTxInSequenceNum⟩],
    [⟨txValue, threadScript⟩, ⟨txValue, adminScript⟩], 0⟩
  let sigScript := signTxOutput spendTx (threadPkScript threadID)
  pure { spendTx with txIn := [⟨outPoint, sigScript, maxTxInSequenceNum⟩] }

/-- The parsed push of the operation output. -/
def operationPop (op : UInt8) (pubKey : List UInt8) (keyID : UInt32) : ParsedOpcode :=
  if op = ops.aspKeyAdd ∨ op = ops.aspKeyRevoke then
    ⟨opData38, op :: (pubKey ++ leBytes 4 keyID.toNat)⟩
  else ⟨opData34, op :: pubKey⟩

theorem menuOperation_mem {option option2 : String} {op : UInt8}
    (h : menuOperation ops option option2 = some op) :
    op = ops.issueKeyAdd ∨ op = ops.validateKeyAdd ∨ op = ops.provisionKeyAdd ∨
      op = ops.aspKeyAdd ∨ op = ops.issueKeyRevoke ∨ op = ops.validateKeyRevoke ∨
      op = ops.provisionKeyRevoke ∨ op = ops.aspKeyRevoke := by
  unfold menuOperation at h
  split at h <;> simp_all

variable {ops} {pubKey : List UInt8}

theorem operationScript_eq (op : UInt8) (keyID : UInt32)
    (hpk : pubKey.length = pubKeyBytesLenCompressed) :
    operationScript ops op pubKey keyID = some (opReturn :: (operationPop ops op pubKey keyID).bytes) := by
  unfold operationScript operationPop
  split_ifs
  · rw [provaAdminScriptForASP_eq op keyID hpk]; rfl
  · rw [provaAdminScript_eq op hpk]; rfl

theorem operationPop_wellFormed (op : UInt8) (keyID : UInt32)
    (hpk : pubKey.length = pubKeyBytesLenCompressed) :
    (operationPop ops op pubKey keyID).WellFormed := by
  have h33 : pubKey.length = 33 := hpk
  unfold operationPop
  split_ifs <;> simp [ParsedOpcode.WellFormed, h33] <;> decide

theorem isNullDataPush_operationPop (op : UInt8) (keyID : UInt32)
    (hpk : pubKey.length = pubKeyBytesLenCompressed) :
    isNullDataPush (operationPop ops op pubKey keyID) = true := by
  have h33 : pubKey.length = 33 := hpk
  unfold operationPop
  split_ifs <;> simp [isNullDataPush, h33, maxDataCarrierSize] <;> decide

/-- Every operation the menu offers is valid on the thread the tool chooses for it. -/
theorem isValidAdminOp_menu (parsePubKey : List UInt8 → Bool) {option option2 : String}
    {op : UInt8} (keyID : UInt32) (hmenu : menuOperation ops option option2 = some op)
    (hpk : pubKey.length = pubKeyBytesLenCompressed) (hparse : parsePubKey pubKey = true) :
    isValidAdminOp ops parsePubKey [⟨opReturn, []⟩, operationPop ops op pubKey keyID]
      (menuThread ops op) = true := by
  have h33 : pubKey.length = 33 := hpk
  have hop := menuOperation_mem ops hmenu
  unfold menuThread operationPop
  by_cases hprov : op = ops.validateKeyAdd ∨ op = ops.aspKeyAdd ∨ op = ops.validateKeyRevoke ∨
      op = ops.aspKeyRevoke
  · rw [if_pos hprov]
    by_cases hasp : op = ops.aspKeyAdd ∨ op = ops.aspKeyRevoke
    · rw [if_pos hasp]
      simp [isValidAdminOp, extractAdminData, List.take_left' h33, h33, hparse,
        pubKeyBytesLenCompressed, keyIDSize, rootThread, provisionThread, hasp]
    · have hv : op = ops.validateKeyAdd ∨ op = ops.validateKeyRevoke := by
        rcases hprov with h | h | h | h <;> simp [h] at hasp ⊢
      rw [if_neg hasp]
      rcases hv with rfl | rfl <;>
      simp [isValidAdminOp, extractAdminData, List.take_of_length_le h33.le, h33, hparse,
        pubKeyBytesLenCompressed, rootThread, provisionThread]
  · have hroot : op = ops.provisionKeyAdd ∨ op = ops.provisionKeyRevoke ∨ op = ops.issueKeyAdd ∨
        op = ops.issueKeyRevoke := by
      rcases hop with h | h | h | h | h | h | h | h <;> simp [h] at hprov ⊢
    rw [if_neg hprov, if_neg fun h => hprov (h.elim (.inr ∘ .inl) (.inr ∘ .inr ∘ .inr))]
    rcases hroot with rfl | rfl | rfl | rfl <;>
    simp [isValidAdminOp, extractAdminData, List.take_of_length_le h33.le, h33, hparse,
      pubKeyBytesLenCompressed, rootThread]

/-! ### The transaction of the key tool -/

theorem menuThread_cases (op : UInt8) :
    menuThread ops op = rootThread ∨ menuThread ops op = provisionThread := by
  unfold menuThread
  split_ifs
  · exact .inr rfl
  · exact .inl rfl

/-- The tool's Root and Provision thread scripts are `ProvaAdminTy` scripts of two bytes from
which `ExtractThreadID` reads the thread. -/
theorem provaThreadScript_adminThread {t : ThreadID} (ht : t = rootThread ∨ t = provisionThread) :
    ∃ s pops, provaThreadScript t = some s ∧ parseScript s = .ok pops ∧
      typeOfScript pops = .provaAdminTy ∧ extractThreadID pops = .ok t ∧ s.length = 2 := by
  rcases ht with rfl | rfl
  · exact ⟨[0x00, 0xbb], [⟨op0, []⟩, ⟨opCheckThread, []⟩], rfl, rfl, rfl, rfl, rfl⟩
  · exact ⟨[0x51, 0xbb], [⟨op1, []⟩, ⟨opCheckThread, []⟩], rfl, rfl, rfl, rfl, rfl⟩

theorem parseScript_operation (op : UInt8) (keyID : UInt32)
    (hpk : pubKey.length = pubKeyBytesLenCompressed) :
    parseScript (opReturn :: (operationPop ops op pubKey keyID).bytes) =
      .ok [⟨opReturn, []⟩, operationPop ops op pubKey keyID] := by
  have hr : (⟨opReturn, []⟩ : ParsedOpcode).bytes = [opReturn] := rfl
  rw [← parseScript_flatMap_bytes [⟨opReturn, []⟩, operationPop ops op pubKey keyID]]
  · simp [hr]
  · simp only [List.mem_cons, List.not_mem_nil, or_false]
    rintro p (rfl | rfl)
    exacts [by decide, operationPop_wellFormed op keyID hpk]

theorem getScriptClass_operation (op : UInt8) (keyID : UInt32)
    (hpk : pubKey.length = pubKeyBytesLenCompressed) :
    getScriptClass (opReturn :: (operationPop ops op pubKey keyID).bytes) = .nullDataTy := by
  simp [getScriptClass, parseScript_operation op keyID hpk, typeOfScript, isNullData_pair,
    isNullDataPush_operationPop op keyID hpk]

theorem operationPop_bytes_length (op : UInt8) (keyID : UInt32)
    (hpk : pubKey.length = pubKeyBytesLenCompressed) :
    (operationPop ops op pubKey keyID).bytes.length ≤ 39 := by
  have h33 : pubKey.length = 33 := hpk
  unfold operationPop
  split_ifs <;> rw [ParsedOpcode.bytes_of_pos (by dsimp only; decide)] <;> simp [h33]

/-- A transaction of the tools, of two inputs at most, signed within the limit of signature
scripts, with two outputs of scripts of 46 bytes at most, is within the standard size. -/
theorem serializeSize_twoOutputs {msgTx : MsgTx} {txOut0 txOut1 : TxOut}
    (hin : msgTx.txIn.length ≤ 2)
    (hsig : ∀ t ∈ msgTx.txIn, t.signatureScript.length ≤ maxStandardSigScriptSize)
    (hout : msgTx.txOut = [txOut0, txOut1]) (h0 : txOut0.pkScript.length ≤ 46)
    (h1 : txOut1.pkScript.length ≤ 46) : msgTx.serializeSize ≤ maxStandardTxSize := by
  have := @MsgTx.serializeSize_le msgTx maxStandardSigScriptSize 46 hsig (by
    simp only [hout, List.mem_cons, List.mem_singleton, List.not_mem_nil, or_false]
    rintro t (rfl | rfl)
    exacts [h0, h1])
  rw [hout] at this
  simp only [List.length_cons, List.length_nil, maxStandardSigScriptSize, maxStandardTxSize] at *
  omega

/-- The thread output of the tools, of value 0 at index 0, passes `checkOutput` and counts no
null data. -/
theorem checkOutput_threadOutput {c : Collaborators} {tx : Tx} {minRelayTxFee threadInt : Int}
    {s : List UInt8} (hs : getScriptClass s = .provaAdminTy) :
    checkOutput c tx minRelayTxFee threadInt true 0 ⟨0, s⟩ 0 = .ok 0 := by
  refine (checkOutput_of ⟨by simp [hs], fun _ => rfl, fun _ _ => rfl⟩ fun _ => by simp).trans ?_
  simp [hs]

/-- What `createAdminTx` builds: version 1, lock time 0, the spend of `outPoint` signed on the
transaction with empty signature scripts, and the thread output and the operation output, both
of value 0. -/
theorem createAdminTx_spec (signTxOutput : MsgTx → List UInt8 → List UInt8) (outPoint : OutPoint)
    (threadID : ThreadID) (op : UInt8) (keyID : UInt32)
    (hpk : pubKey.length = pubKeyBytesLenCompressed) {threadScript : List UInt8}
    (hs : provaThreadScript threadID = some threadScript) :
    ∃ msgTx, createAdminTx ops signTxOutput outPoint threadID op pubKey keyID = some msgTx ∧
      msgTx.version = 1 ∧ msgTx.lockTime = 0 ∧
      msgTx.txIn =
        [⟨outPoint, signTxOutput msgTx.stripped (threadPkScript threadID), maxTxInSequenceNum⟩] ∧
      msgTx.txOut = [⟨0, threadScript⟩, ⟨0, opReturn :: (operationPop ops op pubKey keyID).bytes⟩] :=
  by
  simp only [createAdminTx, hs, operationScript_eq op keyID hpk]
  exact ⟨_, rfl, rfl, rfl, rfl, rfl⟩

theorem getAdminDetailsMsgTx_adminTx {msgTx : MsgTx} {s : List UInt8} {pops0 : List ParsedOpcode}
    {t : ThreadID} {op : UInt8} {keyID : UInt32} (hpk : pubKey.length = pubKeyBytesLenCompressed)
    (hout : msgTx.txOut = [⟨0, s⟩, ⟨0, opReturn :: (operationPop ops op pubKey keyID).bytes⟩])
    (hp0 : parseScript s = .ok pops0) (hty0 : typeOfScript pops0 = .provaAdminTy)
    (hext0 : extractThreadID pops0 = .ok t) :
    getAdminDetailsMsgTx msgTx = ((t : Int), [[⟨opReturn, []⟩, operationPop ops op pubKey keyID]]) := by
  simp [getAdminDetailsMsgTx, hout, hp0, hty0, hext0, parseAdminOutputs,
    parseScript_operation op keyID hpk]

/-- What the key tool builds, as the policy reads it: the signed spend of `outPoint`, the
thread output and the operation output, lock time 0, the thread `GetAdminDetails` reads, and,
once final and signed with push-only scripts within the size limit, a pass of
`checkTransactionStandard`. -/
theorem createAdminTx_policy (parsePubKey : List UInt8 → Bool) (c : Collaborators)
    (signTxOutput : MsgTx → List UInt8 → List UInt8) {option option2 : String} {op : UInt8}
    (outPoint : OutPoint) (keyID : UInt32) (hash : Hash) (txIndex : Int) (height : UInt32)
    (medianTimePast minRelayTxFee maxTxVersion : Int)
    (hmenu : menuOperation ops option option2 = some op)
    (hpk : pubKey.length = pubKeyBytesLenCompressed) (hparse : parsePubKey pubKey = true)
    (hsign : ∀ tx pkScript, (signTxOutput tx pkScript).length ≤ maxStandardSigScriptSize ∧
      c.isPushOnlyScript (signTxOutput tx pkScript) = true)
    (hver : 1 ≤ maxTxVersion) :
    ∃ msgTx s,
      createAdminTx ops signTxOutput outPoint (menuThread ops op) op pubKey keyID = some msgTx ∧
      provaThreadScript (menuThread ops op) = some s ∧ msgTx.lockTime = 0 ∧
      msgTx.txIn = [⟨outPoint, signTxOutput msgTx.stripped (threadPkScript (menuThread ops op)),
        maxTxInSequenceNum⟩] ∧
      msgTx.txOut = [⟨0, s⟩, ⟨0, opReturn :: (operationPop ops op pubKey keyID).bytes⟩] ∧
      getAdminDetails ⟨msgTx, hash, txIndex⟩ =
        ((menuThread ops op : Int), [[⟨opReturn, []⟩, operationPop ops op pubKey keyID]]) ∧
      (c.isFinalizedTransaction ⟨msgTx, hash, txIndex⟩ height medianTimePast = true →
        checkTransactionStandard ops parsePubKey c ⟨msgTx, hash, txIndex⟩ height medianTimePast
          minRelayTxFee maxTxVersion = .ok ()) := by
  have ht := @menuThread_cases ops op
  obtain ⟨s, pops0, hs, hp0, hty0, hext0, hlen0⟩ := provaThreadScript_adminThread ht
  obtain ⟨msgTx, hc, hv, hlock, hin, hout⟩ :=
    @createAdminTx_spec ops _ signTxOutput outPoint _ op keyID hpk _ hs
  have hdet : getAdminDetails ⟨msgTx, hash, txIndex⟩ =
      ((menuThread ops op : Int), [[⟨opReturn, []⟩, operationPop ops op pubKey keyID]]) :=
    getAdminDetailsMsgTx_adminTx hpk hout hp0 hty0 hext0
  have hclass0 : getScriptClass s = .provaAdminTy := by simp [getScriptClass, hp0, hty0]
  have hclass1 := @getScriptClass_operation ops _ op keyID hpk
  refine ⟨msgTx, s, hc, hs, hlock, hin, hout, hdet, fun hfin => ?_⟩
  have hsize : msgTx.serializeSize ≤ maxStandardTxSize := by
    have hop := @operationPop_bytes_length ops _ op keyID hpk
    refine serializeSize_twoOutputs (by simp [hin]) (by simpa [hin] using (hsign _ _).1) hout
      (by rw [hlen0]; decide) ?_
    rw [List.length_cons]
    omega
  have hsig : checkSigScripts c 0 msgTx.txIn = .ok () := by
    simpa [hin, checkSigScripts_eq_ok_iff] using hsign _ _
  have houts : checkOutputs c ⟨msgTx, hash, txIndex⟩ minRelayTxFee (menuThread ops op) true 0
      msgTx.txOut 0 = .ok 1 := by
    have h0 : checkOutput c ⟨msgTx, hash, txIndex⟩ minRelayTxFee (menuThread ops op) true 0
        ⟨0, s⟩ 0 = .ok 0 := checkOutput_threadOutput hclass0
    have h1 : checkOutput c ⟨msgTx, hash, txIndex⟩ minRelayTxFee (menuThread ops op) true 1
        ⟨0, opReturn :: (operationPop ops op pubKey keyID).bytes⟩ 0 = .ok 1 := by
      refine (checkOutput_of ⟨?_, fun h => ?_, fun _ _ => rfl⟩ fun h => absurd hclass1 h).trans ?_ <;>
        simp_all
    simp only [hout, checkOutputs, h0, h1]
  have hadmin : checkAdminTx ops parsePubKey msgTx (menuThread ops op)
      [[⟨opReturn, []⟩, operationPop ops op pubKey keyID]] = .ok () :=
    checkAdminTx_of fun _ => ⟨by simp [hin], by simp [hout],
      by simpa using isValidAdminOp_menu parsePubKey keyID hmenu hpk hparse⟩
  refine @checkTransactionStandard_of ops parsePubKey c ⟨msgTx, hash, txIndex⟩ height medianTimePast
    minRelayTxFee maxTxVersion 1 ⟨hv.ge, hv ▸ hver⟩ hfin hsize hsig ?_
    (fun h => absurd h (by simp [hdet])) fun _ => ?_
  · simpa [hdet] using houts
  · simpa [hdet] using hadmin

/-- For every operation the key tool's menu offers and every 33-byte key the node parses, the
tool builds its transaction, `GetAdminDetails` reads from it the thread the tool chose, and,
once final and signed with a push-only script within the size limit, it passes
`checkTransactionStandard`. -/
theorem createAdminTx_standard (parsePubKey : List UInt8 → Bool) (c : Collaborators)
    (signTxOutput : MsgTx → List UInt8 → List UInt8) {option option2 : String} {op : UInt8}
    (outPoint : OutPoint) (keyID : UInt32) (hash : Hash) (txIndex : Int) (height : UInt32)
    (medianTimePast minRelayTxFee maxTxVersion : Int)
    (hmenu : menuOperation ops option option2 = some op)
    (hpk : pubKey.length = pubKeyBytesLenCompressed) (hparse : parsePubKey pubKey = true)
    (hsign : ∀ tx pkScript, (signTxOutput tx pkScript).length ≤ maxStandardSigScriptSize ∧
      c.isPushOnlyScript (signTxOutput tx pkScript) = true)
    (hver : 1 ≤ maxTxVersion) :
    ∃ msgTx, createAdminTx ops signTxOutput outPoint (menuThread ops op) op pubKey keyID =
        some msgTx ∧
      (getAdminDetails ⟨msgTx, hash, txIndex⟩).1 = menuThread ops op ∧
      (c.isFinalizedTransaction ⟨msgTx, hash, txIndex⟩ height medianTimePast = true →
        checkTransactionStandard ops parsePubKey c ⟨msgTx, hash, txIndex⟩ height medianTimePast
          minRelayTxFee maxTxVersion = .ok ()) := by
  obtain ⟨msgTx, -, hc, -, -, -, -, hdet, hstd⟩ := createAdminTx_policy parsePubKey c
    signTxOutput outPoint keyID hash txIndex height medianTimePast minRelayTxFee maxTxVersion hmenu
    hpk hparse hsign hver
  exact ⟨msgTx, hc, by rw [hdet], hstd⟩

/-- With the view holding the thread script at the outpoint the tool spends, the tool's
transaction passes `checkInputsStandard` when its signature script parses to an even number of
opcodes. -/
theorem createAdminTx_inputsStandard (c : Collaborators)
    (signTxOutput : MsgTx → List UInt8 → List UInt8)
    (op : UInt8) (outPoint : OutPoint) (keyID : UInt32) (hash : Hash) (txIndex : Int)
    (utxoView : UtxoViewpoint) (entry : UtxoEntry) (hpk : pubKey.length = pubKeyBytesLenCompressed)
    (hentry : utxoView.lookupEntry outPoint.hash = some entry)
    (htip : some (entry.pkScriptByIndex outPoint.index) = provaThreadScript (menuThread ops op))
    (hsig : ∀ tx pkScript, ∃ sigPops, parseScript (signTxOutput tx pkScript) = .ok sigPops ∧
      sigPops.length % 2 = 0) :
    ∃ msgTx, createAdminTx ops signTxOutput outPoint (menuThread ops op) op pubKey keyID =
        some msgTx ∧ checkInputsStandard c ⟨msgTx, hash, txIndex⟩ utxoView = some (.ok ()) := by
  obtain ⟨s, pops0, hs, hp0, hty0, hext0, -⟩ :=
    provaThreadScript_adminThread (@menuThread_cases ops op)
  obtain ⟨msgTx, hc, -, -, hin, hout⟩ :=
    @createAdminTx_spec ops _ signTxOutput outPoint _ op keyID hpk _ hs
  obtain ⟨sigPops, hsp, heven⟩ := hsig msgTx.stripped (threadPkScript (menuThread ops op))
  refine ⟨msgTx, hc, checkInputsStandard_threadSpend hin hout ?_ hentry
    (Option.some.inj (htip.trans hs)) (by simp [getScriptClass, hp0, hty0]) hsp heven⟩
  simp [getAdminDetails, getAdminDetailsMsgTx_adminTx hpk hout hp0 hty0 hext0]

end ManageKeys

/-! ### A Provision-thread operation -/

/-- A signer that gives the empty script. -/
def emptySigner : MsgTx → List UInt8 → List UInt8 := fun _ _ => []

/-- A view in which every output is the Provision thread script `OP_1 OP_CHECKTHREAD`. -/
def provisionThreadView : UtxoViewpoint := ⟨fun _ => some ⟨fun _ => [0x51, 0xbb]⟩⟩

theorem createAdminTx_standard_aspKeyAdd :
    menuOperation ⟨1, 2, 3, 4, 17, 18, 19, 20⟩ "1" "4" = some 19 ∧
      ∃ msgTx, createAdminTx ⟨1, 2, 3, 4, 17, 18, 19, 20⟩ emptySigner rootSpend.previousOutPoint
          (menuThread ⟨1, 2, 3, 4, 17, 18, 19, 20⟩ 19) 19 (List.replicate 33 2) 7 = some msgTx ∧
        (getAdminDetails ⟨msgTx, rootAdminTx.hash, -1⟩).1 =
          menuThread ⟨1, 2, 3, 4, 17, 18, 19, 20⟩ 19 ∧
        (permissiveCollaborators.isFinalizedTransaction ⟨msgTx, rootAdminTx.hash, -1⟩ 0 0 = true →
          checkTransactionStandard ⟨1, 2, 3, 4, 17, 18, 19, 20⟩ (fun _ => true)
            permissiveCollaborators ⟨msgTx, rootAdminTx.hash, -1⟩ 0 0 0 1 = .ok ()) :=
  ⟨by decide, createAdminTx_standard (fun _ => true) permissiveCollaborators emptySigner
    rootSpend.previousOutPoint 7 rootAdminTx.hash (-1) 0 0 0 1
    (show menuOperation _ "1" "4" = some 19 by decide) rfl rfl
    (fun _ _ => ⟨Nat.zero_le _, rfl⟩) le_rfl⟩

theorem createAdminTx_inputsStandard_aspKeyAdd :
    provisionThreadView.lookupEntry rootSpend.previousOutPoint.hash = some ⟨fun _ => [0x51, 0xbb]⟩ ∧
      some [0x51, 0xbb] = provaThreadScript (menuThread ⟨1, 2, 3, 4, 17, 18, 19, 20⟩ 19) ∧
      ∃ msgTx, createAdminTx ⟨1, 2, 3, 4, 17, 18, 19, 20⟩ emptySigner rootSpend.previousOutPoint
          (menuThread ⟨1, 2, 3, 4, 17, 18, 19, 20⟩ 19) 19 (List.replicate 33 2) 7 = some msgTx ∧
        checkInputsStandard permissiveCollaborators ⟨msgTx, rootAdminTx.hash, -1⟩ provisionThreadView =
          some (.ok ()) :=
  ⟨rfl, rfl, createAdminTx_inputsStandard permissiveCollaborators emptySigner 19 rootSpend.previousOutPoint 7
    rootAdminTx.hash (-1) provisionThreadView ⟨fun _ => [0x51, 0xbb]⟩ rfl rfl rfl
    fun _ _ => ⟨[], rfl, rfl⟩⟩

end Dmgd.Cmd
