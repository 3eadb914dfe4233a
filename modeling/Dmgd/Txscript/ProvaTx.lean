import Dmgd.Txscript.ProvaLayout
import Dmgd.Wire.MsgTx

/-! Two readers of whole scripts and transactions on top of the classifier. `IsProvaTx` walks
the outputs with one flag, `hasNullOutput`; `CalcMultiSigStats` reads the two counts of a
multisig-shaped script with `asSmallInt`.

Proved: `IsProvaTx` accepts exactly the transactions whose outputs are all Prova or
generalised Prova scripts or null data of no value, at least one output and at most one of
them null data; on a Prova or generalised Prova script `CalcMultiSigStats` gives `n` and `m`
with `2 ≤ m ≤ n`. -/

namespace Dmgd.Txscript

open Provautil Wire

/-! ### Classes from the recognisers -/

theorem isProva_isGeneralProva {pops : List ParsedOpcode} (h : isProva pops = true) :
    isGeneralProva pops = true := by
  unfold isProva at h
  split_ifs at h <;> simp_all

theorem typeOfScript_eq_nullDataTy (pops : List ParsedOpcode) :
    typeOfScript pops = .nullDataTy ↔ isNullData pops = true := by
  unfold typeOfScript
  split_ifs <;> simp_all

theorem typeOfScript_provaClass (pops : List ParsedOpcode) :
    (typeOfScript pops = .provaTy ∨ typeOfScript pops = .generalProvaTy) ↔
      isNullData pops = false ∧ isGeneralProva pops = true := by
  unfold typeOfScript
  split_ifs with h1 h2 h3 <;> simp_all [isProva_isGeneralProva]

/-! ### `IsProvaTx` -/

/-- One pass of `IsProvaTx`'s loop, on `hasNullOutput`; `none` where the Go code returns
`false`. -/
def provaTxOutput (hasNullOutput : Bool) (txOut : TxOut) : Option Bool :=
  let atoms := txOut.value
  match parseScript txOut.pkScript with
  | .error _ => none
  | .ok pops =>
    if isNullData pops then
      if hasNullOutput then none
      else if atoms ≠ 0 then none
      else some true
    else if !isGeneralProva pops then none
    else some hasNullOutput

/-- The loop of `IsProvaTx`. -/
def isProvaTxLoop : Bool → List TxOut → Bool
  | _, [] => true
  | hasNullOutput, txOut :: txOuts =>
    match provaTxOutput hasNullOutput txOut with
    | none => false
    | some hasNullOutput => isProvaTxLoop hasNullOutput txOuts

/-- `IsProvaTx`: at least one output, each a Prova script or the one null-data output. -/
def isProvaTx (tx : Tx) : Bool :=
  let msgTx := tx.msgTx
  if msgTx.txOut.length = 0 then false
  else isProvaTxLoop false msgTx.txOut

/-- The outputs `IsProvaTx` accepts one by one: null data of no value, or a Prova or
generalised Prova script. -/
def IsProvaTxOutput (txOut : TxOut) : Prop :=
  getScriptClass txOut.pkScript = .nullDataTy ∧ txOut.value = 0 ∨
    getScriptClass txOut.pkScript = .provaTy ∨ getScriptClass txOut.pkScript = .generalProvaTy

instance : DecidablePred IsProvaTxOutput := fun _ => inferInstanceAs (Decidable (_ ∨ _))

/-- A pass of the loop reads only the class and the value of the output. -/
theorem provaTxOutput_eq (hasNullOutput : Bool) (txOut : TxOut) :
    provaTxOutput hasNullOutput txOut =
      if getScriptClass txOut.pkScript = .nullDataTy then
        if hasNullOutput ∨ txOut.value ≠ 0 then none else some true
      else if getScriptClass txOut.pkScript = .provaTy ∨
          getScriptClass txOut.pkScript = .generalProvaTy then some hasNullOutput
      else none := by
  rcases hp : parseScript txOut.pkScript with e | pops
  · simp [provaTxOutput, getScriptClass, hp]
  · simp only [provaTxOutput, getScriptClass, hp, typeOfScript_eq_nullDataTy, typeOfScript_provaClass]
    by_cases hn : isNullData pops <;> simp [hn] <;> split_ifs <;> simp_all

/-- A run of the loop: every output is accepted, and the null-data outputs, with the one the
flag records, are at most one. -/
theorem isProvaTxLoop_iff : ∀ (hasNullOutput : Bool) (txOuts : List TxOut),
    isProvaTxLoop hasNullOutput txOuts = true ↔
      (∀ txOut ∈ txOuts, IsProvaTxOutput txOut) ∧
        txOuts.countP (fun txOut => getScriptClass txOut.pkScript = .nullDataTy) +
          (if hasNullOutput then 1 else 0) ≤ 1
  | hasNullOutput, [] => by cases hasNullOutput <;> simp [isProvaTxLoop]
  | hasNullOutput, txOut :: txOuts => by
    have ih := fun b => isProvaTxLoop_iff b txOuts
    simp only [isProvaTxLoop, provaTxOutput_eq, List.mem_cons, forall_eq_or_imp, List.countP_cons]
    by_cases hnd : getScriptClass txOut.pkScript = .nullDataTy
    · have h1 : IsProvaTxOutput txOut ↔ txOut.value = 0 := by simp [IsProvaTxOutput, hnd]
      by_cases hv : txOut.value = 0 <;> cases hasNullOutput <;> simp [hnd, hv, ih, h1]
    · by_cases hp : getScriptClass txOut.pkScript = .provaTy ∨
          getScriptClass txOut.pkScript = .generalProvaTy
      · have h1 : IsProvaTxOutput txOut := .inr hp
        simp [hnd, hp, ih, h1]
      · have h1 : ¬ IsProvaTxOutput txOut := by simp_all [IsProvaTxOutput]
        simp [hnd, hp, h1]

/-- `IsProvaTx` accepts exactly the transactions with at least one output, each a Prova or
generalised Prova script or null data of no value, and at most one null-data output. -/
theorem isProvaTx_iff (tx : Tx) :
    isProvaTx tx = true ↔ tx.msgTx.txOut ≠ [] ∧ (∀ txOut ∈ tx.msgTx.txOut, IsProvaTxOutput txOut) ∧
      tx.msgTx.txOut.countP (fun txOut => getScriptClass txOut.pkScript = .nullDataTy) ≤ 1 := by
  simp only [isProvaTx]
  split_ifs with h
  · simp_all
  · simp [isProvaTxLoop_iff, List.length_eq_zero.not.mp h]

/-! ### `CalcMultiSigStats` -/

/-- `CalcMultiSigStats`: the numbers of public keys and of signatures, read with `asSmallInt`
from the second-to-last and the first opcode. -/
def calcMultiSigStats (script : List UInt8) : Except ScriptError (Nat × Nat) :=
  match parseScript script with
  | .error err => .error err
  | .ok pops =>
    if pops.length < 4 then
      let str := hexString script
      .error ⟨.errNotMultisigScript, s!"script {str} is not a multisig script"⟩
    else
      let numSigs := asSmallInt (pops.getD 0 default).opcode
      let numPubKeys := asSmallInt (pops.getD (pops.length - 2) default).opcode
      .ok (numPubKeys, numSigs)

theorem keyIDsOf_length_le (pops : List ParsedOpcode) :
    (keyIDsOf (keyPops pops)).length ≤ pops.length - 3 := by
  have := List.length_filterMap_le keyIDOf (keyPops pops)
  simp only [keyIDsOf, keyPops, List.length_drop, List.length_take] at *
  omega

/-- On a Prova or generalised Prova script, `CalcMultiSigStats` gives `n`, the number of key
pushes, and `m`, with `2 ≤ m ≤ n`. -/
theorem calcMultiSigStats_provaClass (s : List UInt8)
    (h : getScriptClass s = .provaTy ∨ getScriptClass s = .generalProvaTy) :
    ∃ pops, parseScript s = .ok pops ∧ calcMultiSigStats s = .ok (pops.length - 3, nSigsOf pops) ∧
      2 ≤ nSigsOf pops ∧ nSigsOf pops ≤ pops.length - 3 := by
  unfold getScriptClass at h
  split at h
  · simp at h
  · next pops hp =>
    have hl := (isGeneralProva_iff pops).mp ((typeOfScript_provaClass pops).mp h).2
    refine ⟨pops, hp, ?_, hl.two_le_m, hl.le_keyIDs.trans (keyIDsOf_length_le pops)⟩
    have h4 : ¬ pops.length < 4 := by have := hl.length_ge; omega
    simp only [calcMultiSigStats, hp, if_neg h4, nSigsOf]
    congr
    have := hl.length_eq
    unfold nKeysOf at this
    omega

theorem calcMultiSigStats_provaClass_twoOfThree :
    (getScriptClass ([0x52, 0x14] ++ List.replicate 20 0 ++ [0x51, 0x52, 0x53, 0xba]) = .provaTy ∨
      getScriptClass ([0x52, 0x14] ++ List.replicate 20 0 ++ [0x51, 0x52, 0x53, 0xba]) =
        .generalProvaTy) ∧
    ∃ pops, parseScript ([0x52, 0x14] ++ List.replicate 20 0 ++ [0x51, 0x52, 0x53, 0xba]) = .ok pops ∧
      calcMultiSigStats ([0x52, 0x14] ++ List.replicate 20 0 ++ [0x51, 0x52, 0x53, 0xba]) =
        .ok (pops.length - 3, nSigsOf pops) ∧ 2 ≤ nSigsOf pops ∧ nSigsOf pops ≤ pops.length - 3 :=
  have hc : getScriptClass ([0x52, 0x14] ++ List.replicate 20 0 ++ [0x51, 0x52, 0x53, 0xba]) =
      .provaTy := by decide
  ⟨.inl hc, calcMultiSigStats_provaClass _ (.inl hc)⟩

end Dmgd.Txscript
