import Dmgd.Txscript.Builder

/-! The standard-script classifier of `txscript/standard.go`: the five recognisers
(`isNullData`, `isProva`, `isGeneralProva`, `isProvaAdmin`) and `typeOfScript`, which tries
them in that order. `isGeneralProva`'s loop over the keys is `countKeys`, a run of
`countKey` over the opcodes between `m` and `n`; its counters are a `KeyCount`. The thread ids
of `provautil` are modelled from §3 of the spec (Root = 0, Provision = 1, Issue = 2). -/

namespace Dmgd.Provautil

/-- `provautil.ThreadID`. -/
abbrev ThreadID := Nat

def rootThread : ThreadID := 0
def provisionThread : ThreadID := 1
def issueThread : ThreadID := 2

end Dmgd.Provautil

namespace Dmgd.Txscript

open Provautil

/-- `MaxDataCarrierSize`. -/
def maxDataCarrierSize : Nat := 80

/-- `ScriptClass`. -/
inductive ScriptClass where
  | nonStandardTy
  | pubKeyTy
  | pubKeyHashTy
  | scriptHashTy
  | multiSigTy
  | nullDataTy
  | provaTy
  | generalProvaTy
  | provaAdminTy
  deriving DecidableEq, Repr

/-! ### Generalised Prova scripts -/

/-- The counters of `isGeneralProva`'s loop: key ids and key hashes met, and the key ids
seen so far (the Go code's `seenKeyIDs` map). -/
structure KeyCount where
  nKeyIDs : Nat
  nKeyHashes : Nat
  seenKeyIDs : List KeyID
  deriving DecidableEq, Repr

/-- One iteration of the loop of `isGeneralProva`; `none` is its `return false`. A 20-byte
push is a key hash and must come before every key id; an opcode that `isUint32` accepts is
a key id, which must decode and be new; any other opcode is passed over. -/
def countKey (c : KeyCount) (pop : ParsedOpcode) : Option KeyCount :=
  if pop.data.length = 20 then
    if c.nKeyIDs > 0 then none else some { c with nKeyHashes := c.nKeyHashes + 1 }
  else if isUint32 pop.opcode then
    match asInt32 pop with
    | .error _ => none
    | .ok keyID =>
      if keyID ∈ c.seenKeyIDs then none
      else some { c with seenKeyIDs := keyID :: c.seenKeyIDs, nKeyIDs := c.nKeyIDs + 1 }
  else some c

/-- The loop of `isGeneralProva` over `pops[1 : sLen-2]`. -/
def countKeys : KeyCount → List ParsedOpcode → Option KeyCount
  | c, [] => some c
  | c, pop :: pops => (countKey c pop).bind (countKeys · pops)

/-- The opcodes between `m` and `n`: `pops[1 : len(pops)-2]`. -/
def keyPops (pops : List ParsedOpcode) : List ParsedOpcode :=
  (pops.take (pops.length - 2)).drop 1

/-- `isGeneralProva`: `m <keys> n OP_CHECKSAFEMULTISIG` with `m ≥ 2`, `n` the number of
opcodes between them, fewer key hashes than `m` and at least `m` distinct key ids. -/
def isGeneralProva (pops : List ParsedOpcode) : Bool :=
  let sLen := pops.length
  if sLen < 6 then false
  else if !isSmallInt (pops.getD 0 default).opcode then false
  else if !isSmallInt (pops.getD (sLen - 2) default).opcode then false
  else if (pops.getD (sLen - 1) default).opcode ≠ opCheckSafeMultiSig then false
  else
    let nSigs := asSmallInt (pops.getD 0 default).opcode
    let nKeys := asSmallInt (pops.getD (sLen - 2) default).opcode
    if nSigs < 2 then false
    else if sLen - 2 - 1 ≠ nKeys then false
    else match countKeys ⟨0, 0, []⟩ (keyPops pops) with
      | none => false
      | some c =>
        if c.nKeyHashes ≥ nSigs then false
        else if c.nKeyIDs < nSigs then false
        else true

/-- `isProva`: a generalised Prova script that is the common 2-of-3 case, or `m = n - 1`. -/
def isProva (pops : List ParsedOpcode) : Bool :=
  if pops.length < 6 then false
  else if !isGeneralProva pops then false
  else if pops.length = 6 ∧ (pops.getD 0 default).opcode = op2 ∧
      (pops.getD 4 default).opcode = op3 then true
  else
    let m := ((asInt32 (pops.getD 0 default)).toOption).getD 0
    let n := ((asInt32 (pops.getD (pops.length - 2) default)).toOption).getD 0
    m = n - 1

/-! ### Admin threads and null data -/

/-- `isProvaAdmin`: `<thread id> OP_CHECKTHREAD`. The first opcode is read with `asSmallInt`
alone. -/
def isProvaAdmin (pops : List ParsedOpcode) : Bool :=
  let sLen := pops.length
  if sLen ≠ 2 then false
  else if (pops.getD (sLen - 1) default).opcode ≠ opCheckThread then false
  else
    let threadID : ThreadID := asSmallInt (pops.getD 0 default).opcode
    if threadID < rootThread ∨ threadID > issueThread then false
    else true

/-- `isNullData`: `OP_RETURN`, or `OP_RETURN` and one push of at most `MaxDataCarrierSize`
bytes. -/
def isNullData (pops : List ParsedOpcode) : Bool :=
  let l := pops.length
  if l = 1 ∧ (pops.getD 0 default).opcode = opReturn then true
  else
    l = 2 ∧ (pops.getD 0 default).opcode = opReturn ∧
      (isSmallInt (pops.getD 1 default).opcode ∨ (pops.getD 1 default).opcode ≤ opPushData4) ∧
      (pops.getD 1 default).data.length ≤ maxDataCarrierSize

/-! ### Classification -/

/-- `typeOfScript`. -/
def typeOfScript (pops : List ParsedOpcode) : ScriptClass :=
  if isNullData pops then .nullDataTy
  else if isProva pops then .provaTy
  else if isGeneralProva pops then .generalProvaTy
  else if isProvaAdmin pops then .provaAdminTy
  else .nonStandardTy

/-- `GetScriptClass`: `NonStandardTy` when the script does not parse. -/
def getScriptClass (script : List UInt8) : ScriptClass :=
  match parseScript script with
  | .error _ => .nonStandardTy
  | .ok pops => typeOfScript pops

end Dmgd.Txscript
