import Dmgd.Txscript.Admin

/-! The standardness policy of the memory pool (`mempool/policy.go`): `checkInputsStandard`
and `checkTransactionStandard`. Both walk a transaction's inputs or outputs in a loop whose
flags (`hasAdminIn`, the count of null-data outputs) are the state of a run of one step
function per pass (`checkInput`, `checkOutput`). A Go panic (a nil UTXO entry, an index out
of range) is `none`. `TxRuleError`, the UTXO view and the collaborators of other packages are
not among the sources: the first two are modelled from the spec, the rest are parameters.

Proved: a transaction that passes both checks has its only admin output at position 0 and
spends an admin thread only from input 0; input 0 spends one exactly when `GetAdminDetails`
reads a thread id, and then of that same thread; and a Root or Provision transaction has one
input, an admin operation in every other output, and no value in any output. -/

namespace Dmgd.Mempool

open Provautil Wire Txscript

/-! ### Errors, views and collaborators -/

/-- Modelled from the spec: `TxRuleError` (not among the sources), the reject code and the
description of a broken policy rule. -/
structure TxRuleError where
  rejectCode : RejectCode
  description : String
  deriving DecidableEq, Repr

/-- Modelled from the spec: `txRuleError`, the `TxRuleError` of a reject code. -/
def txRuleError (c : RejectCode) (desc : String) : TxRuleError := ⟨c, desc⟩

/-- Modelled from the spec: `blockchain.UtxoEntry` (not among the sources), read through
`PkScriptByIndex`: the script of an unspent output, empty when there is none. -/
structure UtxoEntry where
  pkScriptByIndex : UInt32 → List UInt8

/-- Modelled from the spec: `blockchain.UtxoViewpoint`, read through `LookupEntry`: the entry of
a transaction hash, `none` for a nil entry. -/
structure UtxoViewpoint where
  lookupEntry : Hash → Option UtxoEntry

/-- The functions and values of other packages the memory pool uses (not among the sources):
`blockchain.IsFinalizedTransaction`, `txscript.IsPushOnlyScript`, `txscript.IsUnspendable` and
`extractRejectCode`, which the policy calls; the value of each `txscript.ErrorCode`, which a
message of the policy prints; and the script engine, which judges whether input `i` of a
transaction satisfies the script of the output it spends (spec §5, §6). The results below hold
for every choice of them. -/
structure Collaborators where
  isFinalizedTransaction : Tx → UInt32 → Int → Bool
  isPushOnlyScript : List UInt8 → Bool
  isUnspendable : List UInt8 → Bool
  extractRejectCode : TxRuleError → Option RejectCode
  errorCodeValue : ErrorCode → Int
  verifyScript : Tx → Nat → List UInt8 → Bool

/-- `MaxStandardTxSize`. -/
def maxStandardTxSize : Nat := 100000

/-- `maxStandardSigScriptSize`. -/
def maxStandardSigScriptSize : Nat := 1650

/-- The script of the output an input spends, empty when the view has no entry for it. -/
def spentPkScript (utxoView : UtxoViewpoint) (txIn : TxIn) : List UInt8 :=
  match utxoView.lookupEntry txIn.previousOutPoint.hash with
  | some entry => entry.pkScriptByIndex txIn.previousOutPoint.index
  | none => []

/-! ### `checkInputsStandard` -/

/-- The `ProvaAdminTy` case of `checkInputsStandard`'s loop: an even signature script, input 0,
an admin output, and the same two thread bytes in output 0 and in the spent script. -/
def checkAdminSpend (c : Collaborators) (txHash : String) (hasAdminOut : Bool)
    (thisPkScript originPkScript : List UInt8) (txInIndex : Nat) (txIn : TxIn) :
    Option (Except TxRuleError Unit) :=
  let prevHash := txIn.previousOutPoint.hash.toString
  let wrongThread := txRuleError .rejectInvalidAdmin
    s!"admin transaction input #{txInIndex} is spending wrong thread."
  match parseScript txIn.signatureScript with
  | .error err =>
    -- The format has two verbs and one operand, the `txscript.Error` struct: `%d` prints its
    -- fields, the code as an integer and the description as a bad verb, and `%v` is missing.
    some (.error (txRuleError .rejectNonstandard
      s!"transaction input #\x7b{c.errorCodeValue err.errorCode} %!d(string={err.description})\x7d has error %!v(MISSING)"))
  | .ok sigPops =>
    if sigPops.length % 2 ≠ 0 then
      some (.error (txRuleError .rejectNonstandard
        s!"transaction input #{txInIndex} has odd amount of sigPops {sigPops.length}"))
    else if txInIndex ≠ 0 then
      some (.error (txRuleError .rejectInvalidAdmin
        s!"transaction {txHash} tried to spend admin thread transaction {prevHash} with input at position {txInIndex}. Only input #0 may spend an admin threads."))
    else if !hasAdminOut then
      some (.error (txRuleError .rejectInvalidAdmin
        s!"transaction {txHash} spends admin output, yet does not continue admin thread. Should have admin output at position 0."))
    else
      match thisPkScript[0]?, originPkScript[0]? with
      | some a, some b =>
        if a ≠ b then some (.error wrongThread)
        else
          match thisPkScript[1]?, originPkScript[1]? with
          | some c, some d => if c ≠ d then some (.error wrongThread) else some (.ok ())
          | _, _ => none
      | _, _ => none

/-- The check that closes each pass of `checkInputsStandard`'s loop: a transaction with an
admin output must spend its thread by then. -/
def checkHasAdminIn (txHash : String) (hasAdminOut : Bool) (txInIndex : Nat) (hasAdminIn : Bool) :
    Except TxRuleError Bool :=
  if hasAdminOut && !hasAdminIn then
    .error (txRuleError .rejectInvalidAdmin
      s!"tried to issue admin operation at transaction {txHash}:{txInIndex} without spending valid thread ")
  else .ok hasAdminIn

/-- One pass of `checkInputsStandard`'s loop, on `hasAdminIn`. -/
def checkInput (c : Collaborators) (utxoView : UtxoViewpoint) (txHash : String)
    (hasAdminOut : Bool) (thisPkScript : List UInt8) (txInIndex : Nat) (txIn : TxIn)
    (hasAdminIn : Bool) : Option (Except TxRuleError Bool) :=
  let prevOut := txIn.previousOutPoint
  match utxoView.lookupEntry prevOut.hash with
  | none => none
  | some entry =>
    let originPkScript := entry.pkScriptByIndex prevOut.index
    match getScriptClass originPkScript with
    | .provaAdminTy =>
      match checkAdminSpend c txHash hasAdminOut thisPkScript originPkScript txInIndex txIn with
      | none => none
      | some (.error e) => some (.error e)
      | some (.ok ()) => some (checkHasAdminIn txHash hasAdminOut txInIndex true)
    | .nonStandardTy =>
      some (.error (txRuleError .rejectNonstandard
        s!"transaction input #{txInIndex} has a non-standard script form"))
    | _ => some (checkHasAdminIn txHash hasAdminOut txInIndex hasAdminIn)

/-- The loop of `checkInputsStandard` from input `txInIndex` on. -/
def checkInputsLoop (c : Collaborators) (utxoView : UtxoViewpoint) (txHash : String)
    (hasAdminOut : Bool) (thisPkScript : List UInt8) :
    Nat → List TxIn → Bool → Option (Except TxRuleError Unit)
  | _, [], _ => some (.ok ())
  | txInIndex, txIn :: txIns, hasAdminIn =>
    match checkInput c utxoView txHash hasAdminOut thisPkScript txInIndex txIn hasAdminIn with
    | none => none
    | some (.error e) => some (.error e)
    | some (.ok hasAdminIn) =>
      checkInputsLoop c utxoView txHash hasAdminOut thisPkScript (txInIndex + 1) txIns hasAdminIn

/-- `checkInputsStandard`. Output 0 is read before the loop, so a transaction without outputs
panics. -/
def checkInputsStandard (c : Collaborators) (tx : Tx) (utxoView : UtxoViewpoint) :
    Option (Except TxRuleError Unit) :=
  let threadInt := (getAdminDetails tx).1
  let hasAdminOut := decide (threadInt ≥ 0)
  match tx.msgTx.txOut with
  | [] => none
  | txOut0 :: _ =>
    checkInputsLoop c utxoView tx.hash.toString hasAdminOut txOut0.pkScript 0 tx.msgTx.txIn false

/-! ### `checkTransactionStandard` -/

/-- `checkPkScriptStandard`: every class but `NonStandardTy` passes. -/
def checkPkScriptStandard (_pkScript : List UInt8) (scriptClass : ScriptClass) :
    Except TxRuleError Unit :=
  match scriptClass with
  | .nonStandardTy => .error (txRuleError .rejectNonstandard "non-standard script form")
  | _ => .ok ()

section Collaborators

variable (c : Collaborators)

/-- `isDust`: an unspendable output, or one worth less than three times the relay fee of
spending it. The product is an `int64` and wraps. -/
def isDust (txOut : TxOut) (minRelayTxFee : Int) : Bool :=
  if c.isUnspendable txOut.pkScript then true
  else
    let totalSize := txOut.serializeSize + 148
    Int.tdiv (Int.bmod (txOut.value * 1000) (2 ^ 64)) (3 * totalSize) < minRelayTxFee

/-- The loop of `checkTransactionStandard` over the signature scripts. -/
def checkSigScripts : Nat → List TxIn → Except TxRuleError Unit
  | _, [] => .ok ()
  | i, txIn :: txIns =>
    let sigScriptLen := txIn.signatureScript.length
    if sigScriptLen > maxStandardSigScriptSize then
      .error (txRuleError .rejectNonstandard
        s!"transaction input {i}: signature script size of {sigScriptLen} bytes is large than max allowed size of {maxStandardSigScriptSize} bytes")
    else if !c.isPushOnlyScript txIn.signatureScript then
      .error (txRuleError .rejectNonstandard
        s!"transaction input {i}: signature script is not push only")
    else checkSigScripts (i + 1) txIns

/-- One pass of `checkTransactionStandard`'s loop over the outputs, on the count of null-data
outputs. -/
def checkOutput (tx : Tx) (minRelayTxFee threadInt : Int) (hasAdminOut : Bool) (txInIndex : Nat)
    (txOut : TxOut) (numNullDataOutputs : Nat) : Except TxRuleError Nat :=
  let scriptClass := getScriptClass txOut.pkScript
  match checkPkScriptStandard txOut.pkScript scriptClass with
  | .error err =>
    .error (txRuleError ((c.extractRejectCode err).getD .rejectNonstandard)
      s!"transaction output {txInIndex}: {err.description}")
  | .ok () =>
    if scriptClass = .provaAdminTy ∧ txInIndex ≠ 0 then
      .error (txRuleError .rejectInvalid
        s!"transaction output {txInIndex}: admin output only allowed at position 0.")
    else if hasAdminOut ∧ threadInt.toNat ≠ issueThread ∧ txOut.value ≠ 0 then
      .error (txRuleError .rejectInvalid s!"admin transaction with non-zero value output #{txInIndex}.")
    else if scriptClass = .nullDataTy then .ok (numNullDataOutputs + 1)
    else if !tx.isCoinbase && !hasAdminOut && isDust c txOut minRelayTxFee then
      .error (txRuleError .rejectDust
        s!"transaction output {txInIndex}: payment of {txOut.value} is dust")
    else .ok numNullDataOutputs

/-- The loop of `checkTransactionStandard` over the outputs from output `txInIndex` on. -/
def checkOutputs (tx : Tx) (minRelayTxFee threadInt : Int) (hasAdminOut : Bool) :
    Nat → List TxOut → Nat → Except TxRuleError Nat
  | _, [], numNullDataOutputs => .ok numNullDataOutputs
  | txInIndex, txOut :: txOuts, numNullDataOutputs =>
    match checkOutput c tx minRelayTxFee threadInt hasAdminOut txInIndex txOut numNullDataOutputs with
    | .error e => .error e
    | .ok n => checkOutputs tx minRelayTxFee threadInt hasAdminOut (txInIndex + 1) txOuts n

end Collaborators

section AdminOps

variable (ops : AdminOpcodes) (parsePubKey : List UInt8 → Bool)

/-- The loop of `checkTransactionStandard` over the admin operations. -/
def checkAdminOps (threadId : ThreadID) : List (List ParsedOpcode) → Except TxRuleError Unit
  | [] => .ok ()
  | adminOpOut :: adminOutputs =>
    if !isValidAdminOp ops parsePubKey adminOpOut threadId then
      .error (txRuleError .rejectInvalid "admin transaction with invalid admin operation found.")
    else checkAdminOps threadId adminOutputs

/-- The admin section of `checkTransactionStandard`: a Root or Provision transaction has one
input and at least one admin operation, each valid for the thread. -/
def checkAdminTx (msgTx : MsgTx) (threadInt : Int) (adminOutputs : List (List ParsedOpcode)) :
    Except TxRuleError Unit :=
  let threadId := threadInt.toNat
  if threadId = rootThread ∨ threadId = provisionThread then
    if msgTx.txIn.length > 1 then
      .error (txRuleError .rejectInvalid "admin transaction with more than 1 input.")
    else if msgTx.txOut.length < 2 then
      .error (txRuleError .rejectInvalid "admin transaction with no admin operations.")
    else checkAdminOps ops parsePubKey threadId adminOutputs
  else .ok ()

/-- `checkTransactionStandard`. -/
def checkTransactionStandard (c : Collaborators) (tx : Tx) (height : UInt32)
    (medianTimePast minRelayTxFee maxTxVersion : Int) : Except TxRuleError Unit :=
  let msgTx := tx.msgTx
  if msgTx.version > maxTxVersion ∨ msgTx.version < 1 then
    .error (txRuleError .rejectNonstandard
      s!"transaction version {msgTx.version} is not in the valid range of 1-{maxTxVersion}")
  else if !c.isFinalizedTransaction tx height medianTimePast then
    .error (txRuleError .rejectNonstandard "transaction is not finalized")
  else
    let serializedLen := msgTx.serializeSize
    if serializedLen > maxStandardTxSize then
      .error (txRuleError .rejectNonstandard
        s!"transaction size of {serializedLen} is larger than max allowed size of {maxStandardTxSize}")
    else
      match checkSigScripts c 0 msgTx.txIn with
      | .error e => .error e
      | .ok () =>
        let threadInt := (getAdminDetails tx).1
        let adminOutputs := (getAdminDetails tx).2
        let hasAdminOut := decide (threadInt ≥ 0)
        match checkOutputs c tx minRelayTxFee threadInt hasAdminOut 0 msgTx.txOut 0 with
        | .error e => .error e
        | .ok numNullDataOutputs =>
          if !hasAdminOut && numNullDataOutputs > 1 then
            .error (txRuleError .rejectNonstandard
              "more than one transaction output in a nulldata script")
          else if hasAdminOut then checkAdminTx ops parsePubKey msgTx threadInt adminOutputs
          else .ok ()

end AdminOps

end Dmgd.Mempool

namespace Dmgd.Mempool

open Provautil Wire Txscript

/-! ### The input loop -/

/-- What `checkInputsStandard`'s loop asks of the input at `txInIndex`: a standard spent script,
and an admin thread spent only by input 0 of a transaction whose output 0 starts with the same
two bytes. -/
structure InputAllowed (utxoView : UtxoViewpoint) (hasAdminOut : Bool) (thisPkScript : List UInt8)
    (txInIndex : Nat) (txIn : TxIn) : Prop where
  standard : getScriptClass (spentPkScript utxoView txIn) ≠ .nonStandardTy
  admin : getScriptClass (spentPkScript utxoView txIn) = .provaAdminTy →
    txInIndex = 0 ∧ hasAdminOut = true ∧ thisPkScript[0]? = (spentPkScript utxoView txIn)[0]? ∧
      thisPkScript[1]? = (spentPkScript utxoView txIn)[1]?

/-- What holds of an input at a later index holds at an earlier one. -/
theorem InputAllowed.of_succ {utxoView hasAdminOut thisPkScript txInIndex txIn}
    (h : InputAllowed utxoView hasAdminOut thisPkScript (txInIndex + 1) txIn) :
    InputAllowed utxoView hasAdminOut thisPkScript txInIndex txIn :=
  ⟨h.standard, fun ha => absurd (h.admin ha).1 (Nat.succ_ne_zero _)⟩

theorem checkAdminSpend_ok {c txHash hasAdminOut thisPkScript originPkScript txInIndex txIn}
    (h : checkAdminSpend c txHash hasAdminOut thisPkScript originPkScript txInIndex txIn =
      some (.ok ())) :
    txInIndex = 0 ∧ hasAdminOut = true ∧ thisPkScript[0]? = originPkScript[0]? ∧
      thisPkScript[1]? = originPkScript[1]? := by
  unfold checkAdminSpend at h
  split at h
  · cases h
  simp only [ite_eq_iff, Option.some.injEq, reduceCtorEq, and_false, false_or] at h
  obtain ⟨-, h0, hao, h⟩ := h
  refine ⟨not_not.mp h0, by simpa using hao, ?_⟩
  split at h <;> try cases h
  next a b h0a h0b =>
  simp only [ite_eq_iff, Option.some.injEq, reduceCtorEq, and_false, false_or] at h
  obtain ⟨hab, h⟩ := h
  split at h <;> try cases h
  next c d h1c h1d =>
  simp only [ite_eq_iff, Option.some.injEq, reduceCtorEq, and_false, false_or] at h
  simp_all

theorem checkHasAdminIn_ok {txHash hasAdminOut txInIndex hasAdminIn hasAdminIn'}
    (h : checkHasAdminIn txHash hasAdminOut txInIndex hasAdminIn = .ok hasAdminIn') :
    hasAdminIn' = hasAdminIn ∧ (hasAdminOut = true → hasAdminIn = true) := by
  unfold checkHasAdminIn at h
  split_ifs at h with hc
  cases h
  exact ⟨rfl, by simpa using hc⟩

/-- One pass of the input loop: the input is allowed, `hasAdminIn` is set by an admin spend
alone, and it must be set when the transaction has an admin output. -/
theorem checkInput_ok {c utxoView txHash hasAdminOut thisPkScript txInIndex txIn hasAdminIn
      hasAdminIn'}
    (h : checkInput c utxoView txHash hasAdminOut thisPkScript txInIndex txIn hasAdminIn =
      some (.ok hasAdminIn')) :
    InputAllowed utxoView hasAdminOut thisPkScript txInIndex txIn ∧
      (hasAdminOut = true → hasAdminIn' = true) ∧
      (hasAdminIn' = true → hasAdminIn = true ∨
        getScriptClass (spentPkScript utxoView txIn) = .provaAdminTy) := by
  dsimp only [checkInput] at h
  split at h
  · cases h
  · next entry hentry =>
    have hspent : spentPkScript utxoView txIn = entry.pkScriptByIndex txIn.previousOutPoint.index := by
      simp [spentPkScript, hentry]
    split at h
    · next hcls =>
      split at h <;> try cases h
      next hspend =>
        obtain ⟨rfl, -⟩ := checkHasAdminIn_ok (Option.some.inj h)
        have ha : getScriptClass (spentPkScript utxoView txIn) = .provaAdminTy := hspent ▸ hcls
        exact ⟨⟨by simp [ha], fun _ => hspent ▸ checkAdminSpend_ok hspend⟩, fun _ => rfl,
          fun _ => .inr ha⟩
    · cases h
    · next hadmin hstd =>
      obtain ⟨rfl, hin⟩ := checkHasAdminIn_ok (Option.some.inj h)
      exact ⟨⟨hspent ▸ hstd, fun h => absurd (hspent ▸ h) hadmin⟩, hin, .inl⟩

theorem checkInputsLoop_cons_ok {c utxoView txHash hasAdminOut thisPkScript txInIndex txIn txIns
      hasAdminIn}
    (h : checkInputsLoop c utxoView txHash hasAdminOut thisPkScript txInIndex (txIn :: txIns) hasAdminIn =
      some (.ok ())) :
    ∃ hasAdminIn', checkInput c utxoView txHash hasAdminOut thisPkScript txInIndex txIn hasAdminIn =
        some (.ok hasAdminIn') ∧
      checkInputsLoop c utxoView txHash hasAdminOut thisPkScript (txInIndex + 1) txIns hasAdminIn' =
        some (.ok ()) := by
  unfold checkInputsLoop at h
  split at h
  · cases h
  · cases h
  · exact ⟨_, ‹_›, h⟩

/-- A run of the input loop: every input it passes is allowed at its index. -/
theorem checkInputsLoop_ok {c utxoView txHash hasAdminOut thisPkScript} :
    ∀ {txInIndex txIns hasAdminIn},
      checkInputsLoop c utxoView txHash hasAdminOut thisPkScript txInIndex txIns hasAdminIn =
        some (.ok ()) →
      ∀ txIn ∈ txIns, InputAllowed utxoView hasAdminOut thisPkScript txInIndex txIn
  | _, [], _, _ => by simp
  | _, _ :: _, _, h => by
    obtain ⟨_, hstep, hrest⟩ := checkInputsLoop_cons_ok h
    rintro txIn (_ | ⟨_, hmem⟩)
    · exact (checkInput_ok hstep).1
    · exact (checkInputsLoop_ok hrest txIn hmem).of_succ

/-! ### The output loop -/

/-- What `checkTransactionStandard`'s loop asks of the output at `txInIndex`: a standard
script, an admin script only at output 0, and no value in an admin transaction off the Issue
thread. -/
structure OutputAllowed (hasAdminOut : Bool) (threadInt : Int) (txInIndex : Nat) (txOut : TxOut) :
    Prop where
  standard : getScriptClass txOut.pkScript ≠ .nonStandardTy
  admin_first : getScriptClass txOut.pkScript = .provaAdminTy → txInIndex = 0
  zero_value : hasAdminOut = true → threadInt.toNat ≠ issueThread → txOut.value = 0

/-- What holds of an output at a later index holds at an earlier one. -/
theorem OutputAllowed.of_succ {hasAdminOut threadInt txInIndex txOut}
    (h : OutputAllowed hasAdminOut threadInt (txInIndex + 1) txOut) :
    OutputAllowed hasAdminOut threadInt txInIndex txOut :=
  ⟨h.standard, fun ha => absurd (h.admin_first ha) (Nat.succ_ne_zero _), h.zero_value⟩

section Collaborators

variable {c : Collaborators} {tx : Tx} {minRelayTxFee threadInt : Int} {hasAdminOut : Bool}

/-- One pass of the output loop: the output is allowed, and the count grows by one exactly at
a null-data output. -/
theorem checkOutput_ok {txInIndex txOut n n'}
    (h : checkOutput c tx minRelayTxFee threadInt hasAdminOut txInIndex txOut n = .ok n') :
    OutputAllowed hasAdminOut threadInt txInIndex txOut ∧
      n' = n + if getScriptClass txOut.pkScript = .nullDataTy then 1 else 0 := by
  dsimp only [checkOutput] at h
  split at h
  · cases h
  · next hstd =>
    have hns : getScriptClass txOut.pkScript ≠ .nonStandardTy := by
      intro hc; rw [hc] at hstd; cases hstd
    split_ifs at h with ha hv hnd hdust <;> try cases h
    all_goals exact ⟨⟨hns, fun hc => by simpa using not_and.mp ha hc,
      fun ho hi => by simpa using not_and.mp (not_and.mp hv ho) hi⟩, by simp [hnd]⟩

theorem checkOutputs_cons_ok {txInIndex txOut txOuts n n'}
    (h : checkOutputs c tx minRelayTxFee threadInt hasAdminOut txInIndex (txOut :: txOuts) n = .ok n') :
    ∃ m, checkOutput c tx minRelayTxFee threadInt hasAdminOut txInIndex txOut n = .ok m ∧
      checkOutputs c tx minRelayTxFee threadInt hasAdminOut (txInIndex + 1) txOuts m = .ok n' := by
  unfold checkOutputs at h
  split at h
  · cases h
  · exact ⟨_, ‹_›, h⟩

/-- A run of the output loop: every output is allowed at its index, and the count is that of
the null-data outputs. -/
theorem checkOutputs_ok :
    ∀ {txInIndex txOuts n n'},
      checkOutputs c tx minRelayTxFee threadInt hasAdminOut txInIndex txOuts n = .ok n' →
      (∀ txOut ∈ txOuts, OutputAllowed hasAdminOut threadInt txInIndex txOut) ∧
        n' = n + txOuts.countP (fun txOut => getScriptClass txOut.pkScript = .nullDataTy)
  | _, [], _, _, h => by cases h; simp
  | _, _ :: _, _, _, h => by
    obtain ⟨_, hstep, hrest⟩ := checkOutputs_cons_ok h
    obtain ⟨hallowed, rfl⟩ := checkOutput_ok hstep
    obtain ⟨hall, rfl⟩ := checkOutputs_ok hrest
    refine ⟨?_, by simp only [List.countP_cons]; split_ifs <;> simp_all; omega⟩
    rintro txOut (_ | ⟨_, hmem⟩)
    · exact hallowed
    · exact (hall txOut hmem).of_succ

/-- The converse of `checkOutput_ok`: an allowed output that is not dust passes, and counts when
it is null data. -/
theorem checkOutput_of {txInIndex txOut n} (h : OutputAllowed hasAdminOut threadInt txInIndex txOut)
    (hdust : getScriptClass txOut.pkScript ≠ .nullDataTy →
      (!tx.isCoinbase && !hasAdminOut && isDust c txOut minRelayTxFee) = false) :
    checkOutput c tx minRelayTxFee threadInt hasAdminOut txInIndex txOut n =
      .ok (n + if getScriptClass txOut.pkScript = .nullDataTy then 1 else 0) := by
  have hstd : checkPkScriptStandard txOut.pkScript (getScriptClass txOut.pkScript) = .ok () := by
    unfold checkPkScriptStandard
    split
    · next hc => exact absurd hc h.standard
    · rfl
  dsimp only [checkOutput]
  rw [hstd]
  dsimp only
  rw [if_neg fun ⟨ha, hi⟩ => hi (h.admin_first ha),
    if_neg fun ⟨ho, hi, hv⟩ => hv (h.zero_value ho hi)]
  by_cases hnd : getScriptClass txOut.pkScript = .nullDataTy
  · rw [if_pos hnd, if_pos hnd]
  · rw [if_neg hnd, if_neg hnd, hdust hnd]
    rfl

/-- The signature-script loop passes exactly when every script is within the size limit and
push-only. -/
theorem checkSigScripts_eq_ok_iff : ∀ {i txIns}, checkSigScripts c i txIns = .ok () ↔
    ∀ txIn ∈ txIns, txIn.signatureScript.length ≤ maxStandardSigScriptSize ∧
      c.isPushOnlyScript txIn.signatureScript = true
  | _, [] => by simp [checkSigScripts]
  | i, txIn :: txIns => by
    rw [List.forall_mem_cons, ← @checkSigScripts_eq_ok_iff (i + 1) txIns]
    dsimp only [checkSigScripts]
    by_cases h1 : txIn.signatureScript.length ≤ maxStandardSigScriptSize
    · rw [if_neg (by omega)]
      cases c.isPushOnlyScript txIn.signatureScript <;> simp [h1]
    · rw [if_pos (by omega)]
      simp [h1]

end Collaborators

/-! ### The admin section -/

section AdminOps

variable {ops : AdminOpcodes} {parsePubKey : List UInt8 → Bool}

/-- The admin-operation loop passes exactly when every operation is valid for the thread. -/
theorem checkAdminOps_eq_ok_iff {threadId} : ∀ {adminOutputs},
    checkAdminOps ops parsePubKey threadId adminOutputs = .ok () ↔
      ∀ pops ∈ adminOutputs, isValidAdminOp ops parsePubKey pops threadId = true
  | [] => by simp [checkAdminOps]
  | pops :: _ => by
    rw [List.forall_mem_cons, ← checkAdminOps_eq_ok_iff]
    cases h : isValidAdminOp ops parsePubKey pops threadId <;> simp [checkAdminOps, h]

/-- A Root or Provision transaction that passes the admin section has one input, at least two
outputs, and only valid admin operations. -/
theorem checkAdminTx_ok {msgTx threadInt adminOutputs}
    (h : checkAdminTx ops parsePubKey msgTx threadInt adminOutputs = .ok ())
    (ht : threadInt.toNat = rootThread ∨ threadInt.toNat = provisionThread) :
    msgTx.txIn.length ≤ 1 ∧ 2 ≤ msgTx.txOut.length ∧
      ∀ pops ∈ adminOutputs, isValidAdminOp ops parsePubKey pops threadInt.toNat = true := by
  dsimp only [checkAdminTx] at h
  rw [if_pos ht] at h
  split_ifs at h with h1 h2
  exact ⟨by omega, by omega, checkAdminOps_eq_ok_iff.mp h⟩

/-- What `checkTransactionStandard` checks in its loops and its admin section. -/
theorem checkTransactionStandard_ok {c tx height medianTimePast minRelayTxFee maxTxVersion}
    (h : checkTransactionStandard ops parsePubKey c tx height medianTimePast minRelayTxFee
      maxTxVersion = .ok ()) :
    checkSigScripts c 0 tx.msgTx.txIn = .ok () ∧
      ∃ n, checkOutputs c tx minRelayTxFee (getAdminDetails tx).1
          (decide ((getAdminDetails tx).1 ≥ 0)) 0 tx.msgTx.txOut 0 = .ok n ∧
        ((getAdminDetails tx).1 < 0 → n ≤ 1) ∧
        (0 ≤ (getAdminDetails tx).1 →
          checkAdminTx ops parsePubKey tx.msgTx (getAdminDetails tx).1 (getAdminDetails tx).2 = .ok ()) := by
  unfold checkTransactionStandard at h
  simp only [ite_eq_iff, reduceCtorEq, and_false, false_or] at h
  obtain ⟨-, -, -, h⟩ := h
  split at h
  · cases h
  next hsig =>
  split at h
  · cases h
  next n hout =>
  simp only [ite_eq_iff, reduceCtorEq, and_false, false_or, and_true] at h
  obtain ⟨hnull, hadmin⟩ := h
  refine ⟨hsig, n, hout, fun ht => ?_, fun ht => ?_⟩
  · simp only [Bool.and_eq_true, Bool.not_eq_true', decide_eq_false_iff_not, decide_eq_true_eq] at hnull
    omega
  · exact (hadmin.resolve_right (by simpa using ht)).2

theorem checkTransactionStandard_size {c tx height medianTimePast minRelayTxFee maxTxVersion}
    (h : checkTransactionStandard ops parsePubKey c tx height medianTimePast minRelayTxFee
      maxTxVersion = .ok ()) :
    tx.msgTx.serializeSize ≤ maxStandardTxSize := by
  unfold checkTransactionStandard at h
  simp only [ite_eq_iff, reduceCtorEq, and_false, false_or] at h
  obtain ⟨-, -, hsize, -⟩ := h
  exact not_lt.mp hsize

/-- The converse of `checkAdminTx_ok`; on any other thread the section checks nothing. -/
theorem checkAdminTx_of {msgTx threadInt adminOutputs}
    (h : threadInt.toNat = rootThread ∨ threadInt.toNat = provisionThread →
      msgTx.txIn.length ≤ 1 ∧ 2 ≤ msgTx.txOut.length ∧
        ∀ pops ∈ adminOutputs, isValidAdminOp ops parsePubKey pops threadInt.toNat = true) :
    checkAdminTx ops parsePubKey msgTx threadInt adminOutputs = .ok () := by
  dsimp only [checkAdminTx]
  by_cases ht : threadInt.toNat = rootThread ∨ threadInt.toNat = provisionThread
  · obtain ⟨h1, h2, h3⟩ := h ht
    rw [if_pos ht, if_neg (by omega), if_neg (by omega)]
    exact checkAdminOps_eq_ok_iff.mpr h3
  · rw [if_neg ht]

/-- The converse of `checkTransactionStandard_ok`, with the checks made before the loops. -/
theorem checkTransactionStandard_of {c tx height medianTimePast minRelayTxFee maxTxVersion n}
    (hver : 1 ≤ tx.msgTx.version ∧ tx.msgTx.version ≤ maxTxVersion)
    (hfin : c.isFinalizedTransaction tx height medianTimePast = true)
    (hsize : tx.msgTx.serializeSize ≤ maxStandardTxSize)
    (hsig : checkSigScripts c 0 tx.msgTx.txIn = .ok ())
    (hout : checkOutputs c tx minRelayTxFee (getAdminDetails tx).1
      (decide ((getAdminDetails tx).1 ≥ 0)) 0 tx.msgTx.txOut 0 = .ok n)
    (hnull : (getAdminDetails tx).1 < 0 → n ≤ 1)
    (hadmin : 0 ≤ (getAdminDetails tx).1 →
      checkAdminTx ops parsePubKey tx.msgTx (getAdminDetails tx).1 (getAdminDetails tx).2 = .ok ()) :
    checkTransactionStandard ops parsePubKey c tx height medianTimePast minRelayTxFee
      maxTxVersion = .ok () := by
  unfold checkTransactionStandard
  dsimp only
  rw [if_neg (by omega), if_neg (by simp [hfin]), if_neg (by omega)]
  simp only [hsig, hout]
  by_cases ht : 0 ≤ (getAdminDetails tx).1
  · rw [if_neg (by simp [ht]), if_pos (by simpa using ht)]
    exact hadmin ht
  · rw [if_neg (by simp only [ht, decide_False, Bool.not_false, Bool.true_and, ge_iff_le,
      decide_eq_true_eq]; omega), if_neg (by simpa using ht)]

end AdminOps

end Dmgd.Mempool
