import Dmgd.Wire.MsgTx
import Dmgd.Txscript.Standard

/-! Admin threads and admin operations. A thread output is `<thread id> OP_CHECKTHREAD`
(`ProvaThreadScript`); an admin transaction has one at output 0, and `GetAdminDetailsMsgTx`
reads its thread id and parses the other outputs. An admin operation is `OP_RETURN <data>`
with the operation byte and a public key in `data`; `IsValidAdminOp` decides whether a thread
may carry it. The operation bytes, `ExtractThreadID`, `ExtractAdminData` and the public-key
parser live in files that are not among the sources: the bytes are parameters (`AdminOpcodes`),
the key parser is `parsePubKey`, and the two extractors are modelled from §4.2 of the spec.

Proved: `ProvaAdminTy` scripts are exactly four two-byte scripts, `OP_0`, `OP_RESERVED`,
`OP_1` or `OP_2` before `OP_CHECKTHREAD`, since `isProvaAdmin` reads the first opcode with
`asSmallInt` alone; `OP_RESERVED OP_CHECKTHREAD` is none of the thread scripts. An operation
that `IsValidAdminOp` accepts is `OP_RETURN` and a push of 34 or 38 bytes whose first byte the
thread allows, 38 for an ASP operation; a key-set operation is accepted in a 38-byte push too. -/

namespace Dmgd.Txscript

open Provautil Wire

/-! ### Thread scripts -/

/-- `ProvaThreadScript`: `<thread id> OP_CHECKTHREAD`. -/
def provaThreadScript (threadID : ThreadID) : Except ScriptError (List UInt8) :=
  (ScriptBuilder.new.addInt64 threadID |>.addOp opCheckThread).script

/-- Modelled from the spec: `ExtractThreadID` (not among the sources), `extractAdminThreadId`
of §4.2, which gives a thread id only for a `ProvaAdmin` script. -/
def extractThreadID (pops : List ParsedOpcode) : Except String ThreadID :=
  if isProvaAdmin pops then .ok (asSmallInt (pops.getD 0 default).opcode)
  else .error "script is not an admin thread script"

/-- The loop of `GetAdminDetailsMsgTx` over outputs `1..`: every script parsed, or `none` at
the first that does not parse. -/
def parseAdminOutputs : List TxOut → Option (List (List ParsedOpcode))
  | [] => some []
  | txOut :: txOuts =>
    match parseScript txOut.pkScript with
    | .error _ => none
    | .ok pops => (pops :: ·) <$> parseAdminOutputs txOuts

/-- `GetAdminDetailsMsgTx`: the thread id of output 0 and the parsed scripts of the other
outputs, or `-1` when output 0 is not a thread output or a script does not parse. -/
def getAdminDetailsMsgTx (msgTx : MsgTx) : Int × List (List ParsedOpcode) :=
  match msgTx.txOut with
  | [] => (-1, [])
  | txOut0 :: txOuts =>
    match parseScript txOut0.pkScript with
    | .error _ => (-1, [])
    | .ok pops =>
      if typeOfScript pops ≠ .provaAdminTy then (-1, [])
      else match extractThreadID pops with
        | .error _ => (-1, [])
        | .ok threadID =>
          match parseAdminOutputs txOuts with
          | none => (-1, [])
          | some adminOutputs => (threadID, adminOutputs)

/-- `GetAdminDetails`: `GetAdminDetailsMsgTx` of the transaction's message. -/
def getAdminDetails (tx : Tx) : Int × List (List ParsedOpcode) := getAdminDetailsMsgTx tx.msgTx

theorem parseAdminOutputs_mem {txOuts : List TxOut} {adminOutputs : List (List ParsedOpcode)}
    (h : parseAdminOutputs txOuts = some adminOutputs) :
    ∀ txOut ∈ txOuts, ∃ pops ∈ adminOutputs, parseScript txOut.pkScript = .ok pops := by
  induction txOuts generalizing adminOutputs with
  | nil => simp
  | cons txOut txOuts ih =>
    unfold parseAdminOutputs at h
    split at h
    · cases h
    · next pops hp =>
      obtain ⟨rest, hrest, rfl⟩ := Option.map_eq_some'.mp h
      rintro o (_ | ⟨_, ho⟩)
      · exact ⟨pops, List.mem_cons_self _ _, hp⟩
      · obtain ⟨q, hq, hq'⟩ := ih hrest o ho
        exact ⟨q, List.mem_cons_of_mem _ hq, hq'⟩

/-- A thread id of at least `0` comes from an admin-thread output 0 whose id `ExtractThreadID`
reads, and every other output parses. -/
theorem getAdminDetailsMsgTx_nonneg {msgTx : MsgTx} (h : 0 ≤ (getAdminDetailsMsgTx msgTx).1) :
    ∃ txOut0 txOuts pops, msgTx.txOut = txOut0 :: txOuts ∧ parseScript txOut0.pkScript = .ok pops ∧
      typeOfScript pops = .provaAdminTy ∧
      extractThreadID pops = .ok (getAdminDetailsMsgTx msgTx).1.toNat ∧
      parseAdminOutputs txOuts = some (getAdminDetailsMsgTx msgTx).2 := by
  unfold getAdminDetailsMsgTx at h ⊢
  split at h
  · simp at h
  · next txOut0 txOuts hout =>
    split at h
    · simp at h
    · next pops hp =>
      split_ifs at h ⊢ with ht
      · simp at h
      · split at h
        · simp at h
        · next threadID hid =>
          split at h
          · simp at h
          · next adminOutputs hadmin =>
            exact ⟨txOut0, txOuts, pops, hout, hp, not_not.mp ht, by simpa using hid, hadmin⟩

/-! ### Admin operations -/

/-- The operation bytes `AdminOp*` (not among the sources). -/
structure AdminOpcodes where
  issueKeyAdd : UInt8
  issueKeyRevoke : UInt8
  provisionKeyAdd : UInt8
  provisionKeyRevoke : UInt8
  validateKeyAdd : UInt8
  validateKeyRevoke : UInt8
  aspKeyAdd : UInt8
  aspKeyRevoke : UInt8

/-- Modelled from the spec: `btcec.PubKeyBytesLenCompressed`. -/
def pubKeyBytesLenCompressed : Nat := 33

/-- Modelled from the spec: `btcec.KeyIDSize`. -/
def keyIDSize : Nat := 4

/-- Modelled from the spec: `ExtractAdminData` (not among the sources), `extractAdminOp` of
§4.2: the operation byte `data[0]` of `pops[1]` and the compressed public key in the next 33
bytes, which `parsePubKey` (`btcec.ParsePubKey`) must accept. -/
def extractAdminData (parsePubKey : List UInt8 → Bool) (pops : List ParsedOpcode) :
    Except String (UInt8 × List UInt8) :=
  match (pops.getD 1 default).data with
  | [] => .error "admin operation without data"
  | op :: rest =>
    let pubKey := rest.take pubKeyBytesLenCompressed
    if pubKey.length = pubKeyBytesLenCompressed ∧ parsePubKey pubKey then .ok (op, pubKey)
    else .error "malformed public key"

/-- `IsValidAdminOp`: `OP_RETURN` and an `OP_DATA_34` or `OP_DATA_38` push whose operation the
thread allows; only the ASP operations have their data length checked. -/
def isValidAdminOp (ops : AdminOpcodes) (parsePubKey : List UInt8 → Bool)
    (pops : List ParsedOpcode) (threadID : ThreadID) : Bool :=
  if pops.length ≠ 2 then false
  else if (pops.getD 0 default).opcode ≠ opReturn then false
  else if (pops.getD 1 default).opcode ≠ opData34 ∧ (pops.getD 1 default).opcode ≠ opData38 then
    false
  else match extractAdminData parsePubKey pops with
    | .error _ => false
    | .ok (op, _) =>
      if threadID = rootThread then
        op = ops.provisionKeyAdd ∨ op = ops.provisionKeyRevoke ∨ op = ops.issueKeyAdd ∨
          op = ops.issueKeyRevoke
      else if threadID = provisionThread then
        if op = ops.validateKeyAdd ∨ op = ops.validateKeyRevoke then true
        else if op = ops.aspKeyAdd ∨ op = ops.aspKeyRevoke then
          (pops.getD 1 default).data.length = 1 + pubKeyBytesLenCompressed + keyIDSize
        else false
      else false

/-! ### The scripts classified `ProvaAdminTy` -/

/-- The opcodes that `asSmallInt` reads as a thread id. -/
theorem asSmallInt_le_two (op : UInt8) :
    asSmallInt op ≤ 2 ↔ op = 0x00 ∨ op = 0x50 ∨ op = 0x51 ∨ op = 0x52 := by
  have := toNat_lt_256 op
  simp only [asSmallInt_eq, uint8_eq_iff, show (0x00 : UInt8).toNat = 0 from rfl,
    show (0x50 : UInt8).toNat = 80 from rfl, show (0x51 : UInt8).toNat = 81 from rfl,
    show (0x52 : UInt8).toNat = 82 from rfl]
  split <;> omega

theorem isProvaAdmin_iff (pops : List ParsedOpcode) :
    isProvaAdmin pops = true ↔
      ∃ p0 p1, pops = [p0, p1] ∧ p1.opcode = opCheckThread ∧ asSmallInt p0.opcode ≤ 2 := by
  constructor
  · intro h
    match pops, h with
    | [p0, p1], h =>
      simp only [isProvaAdmin, List.length_cons, List.length_nil, ne_eq, List.getD_cons_succ,
        List.getD_cons_zero] at h
      refine ⟨p0, p1, rfl, ?_⟩
      split_ifs at h
      simp_all [issueThread]
  · rintro ⟨p0, p1, rfl, h1, h0⟩
    simp [isProvaAdmin, h1, issueThread, rootThread, h0]

theorem typeOfScript_eq_provaAdminTy {pops : List ParsedOpcode}
    (h : typeOfScript pops = .provaAdminTy) : isProvaAdmin pops = true := by
  unfold typeOfScript at h
  split_ifs at h
  simp_all

theorem ParsedOpcode.bytes_of_length_one {p : ParsedOpcode} (hw : p.WellFormed)
    (h : opcodeLength p.opcode = 1) : p.bytes = [p.opcode] := by
  have : p.data = [] := by simpa [ParsedOpcode.WellFormed, h] using hw
  rw [ParsedOpcode.bytes_of_pos (by rw [h]; decide), this]

/-- The scripts classified `ProvaAdminTy`: one of four opcodes, then `OP_CHECKTHREAD`. -/
theorem getScriptClass_eq_provaAdminTy (s : List UInt8) :
    getScriptClass s = .provaAdminTy ↔
      s = [0x00, 0xbb] ∨ s = [0x50, 0xbb] ∨ s = [0x51, 0xbb] ∨ s = [0x52, 0xbb] := by
  constructor
  · intro h
    unfold getScriptClass at h
    split at h
    · cases h
    · next pops hparse =>
      obtain ⟨p0, p1, rfl, h1, h0⟩ := (isProvaAdmin_iff _).mp (typeOfScript_eq_provaAdminTy h)
      obtain ⟨rfl, hw⟩ := parseScript_eq_ok hparse
      have hop := (asSmallInt_le_two p0.opcode).mp h0
      have e0 := ParsedOpcode.bytes_of_length_one (hw p0 (by simp))
        (by rcases hop with h | h | h | h <;> rw [h] <;> rfl)
      have e1 := ParsedOpcode.bytes_of_length_one (hw p1 (by simp)) (by rw [h1]; rfl)
      simp only [List.flatMap_cons, List.flatMap_nil, e0, e1, h1, List.singleton_append,
        List.append_nil]
      rcases hop with h | h | h | h <;> simp [h, opCheckThread]
  · rintro (rfl | rfl | rfl | rfl) <;> decide

/-- `OP_RESERVED OP_CHECKTHREAD` is classified `ProvaAdminTy`, as the Root thread, yet it is
none of the three thread scripts. -/
theorem provaAdmin_opReserved :
    getScriptClass [0x50, 0xbb] = .provaAdminTy ∧
      ∀ t ∈ [rootThread, provisionThread, issueThread],
        ∃ s, provaThreadScript t = .ok s ∧ s ≠ [0x50, 0xbb] := by
  refine ⟨by decide, ?_⟩
  simp only [List.mem_cons, List.mem_singleton, List.not_mem_nil, or_false]
  rintro t (rfl | rfl | rfl) <;> exact ⟨_, rfl, by decide⟩

/-! ### What `GetAdminDetailsMsgTx` reads -/

theorem parseAdminOutputs_of_parse {txOuts : List TxOut}
    (h : ∀ txOut ∈ txOuts, ∃ pops, parseScript txOut.pkScript = .ok pops) :
    ∃ adminOutputs, parseAdminOutputs txOuts = some adminOutputs := by
  induction txOuts with
  | nil => exact ⟨[], rfl⟩
  | cons txOut txOuts ih =>
    obtain ⟨pops, hp⟩ := h txOut (List.mem_cons_self _ _)
    obtain ⟨rest, hrest⟩ := ih fun o ho => h o (List.mem_cons_of_mem _ ho)
    exact ⟨pops :: rest, by simp [parseAdminOutputs, hp, hrest]⟩

theorem getAdminDetailsMsgTx_nonneg_of {msgTx : MsgTx} {txOut0 : TxOut} {txOuts : List TxOut}
    (hout : msgTx.txOut = txOut0 :: txOuts) (h0 : getScriptClass txOut0.pkScript = .provaAdminTy)
    (hrest : ∀ txOut ∈ txOuts, ∃ pops, parseScript txOut.pkScript = .ok pops) :
    0 ≤ (getAdminDetailsMsgTx msgTx).1 := by
  obtain ⟨adminOutputs, hparse⟩ := parseAdminOutputs_of_parse hrest
  unfold getScriptClass at h0
  split at h0
  · cases h0
  · next pops hp =>
    simp [getAdminDetailsMsgTx, hout, hp, h0, extractThreadID, typeOfScript_eq_provaAdminTy h0,
      hparse]

/-! ### The admin operations a thread accepts -/

section AdminOps

variable (ops : AdminOpcodes) (parsePubKey : List UInt8 → Bool)

theorem extractAdminData_eq_ok {pops : List ParsedOpcode} {op : UInt8} {pubKey : List UInt8}
    (h : extractAdminData parsePubKey pops = .ok (op, pubKey)) :
    ∃ rest, (pops.getD 1 default).data = op :: rest ∧ pubKey = rest.take 33 ∧
      pubKey.length = 33 ∧ parsePubKey pubKey = true := by
  unfold extractAdminData at h
  split at h
  · cases h
  · next op' rest hd =>
    dsimp only at h
    split_ifs at h with hk
    cases h
    exact ⟨rest, hd, rfl, hk.1, hk.2⟩

/-- An operation that `IsValidAdminOp` accepts, in a parsed script: `OP_RETURN` and an
`OP_DATA_34` or `OP_DATA_38` push of an operation byte and a public key that parses, the
operation one the thread allows, and 38 bytes for an ASP operation. -/
theorem isValidAdminOp_spec (pops : List ParsedOpcode) (threadID : ThreadID)
    (hw : ∀ p ∈ pops, p.WellFormed) (h : isValidAdminOp ops parsePubKey pops threadID = true) :
    ∃ o op rest, pops = [⟨opReturn, []⟩, ⟨o, op :: rest⟩] ∧
      (o = opData34 ∧ rest.length = 33 ∨ o = opData38 ∧ rest.length = 37) ∧
      parsePubKey (rest.take 33) = true ∧
      (threadID = rootThread ∧ (op = ops.provisionKeyAdd ∨ op = ops.provisionKeyRevoke ∨
          op = ops.issueKeyAdd ∨ op = ops.issueKeyRevoke) ∨
        threadID = provisionThread ∧ (op = ops.validateKeyAdd ∨ op = ops.validateKeyRevoke ∨
          (op = ops.aspKeyAdd ∨ op = ops.aspKeyRevoke) ∧ rest.length = 37)) := by
  match pops, hw, h with
  | [⟨o0, d0⟩, ⟨o, d⟩], hw, h =>
    have hw0 := hw _ (List.mem_cons_self _ _)
    have hw1 := hw _ (List.mem_cons_of_mem _ (List.mem_singleton_self _))
    rw [isValidAdminOp, if_neg (by simp)] at h
    simp only [List.getD_cons_zero, List.getD_cons_succ] at h
    by_cases h0 : o0 = opReturn
    swap
    · rw [if_pos h0] at h; cases h
    rw [if_neg (not_not.mpr h0)] at h
    by_cases h1 : o ≠ opData34 ∧ o ≠ opData38
    · rw [if_pos h1] at h; cases h
    rw [if_neg h1] at h
    cases he : extractAdminData parsePubKey [⟨o0, d0⟩, ⟨o, d⟩] with
    | error e => rw [he] at h; cases h
    | ok r =>
      obtain ⟨op, pubKey⟩ := r
      rw [he] at h
      dsimp only at h
      obtain ⟨rest, hd, rfl, -, hpk⟩ := extractAdminData_eq_ok parsePubKey he
      simp only [List.getD_cons_succ, List.getD_cons_zero] at hd
      subst hd h0
      have hd0 : d0 = [] := by
        simpa [ParsedOpcode.WellFormed, show opcodeLength opReturn = 1 from rfl] using hw0
      have hlen : o = opData34 ∧ rest.length = 33 ∨ o = opData38 ∧ rest.length = 37 := by
        rcases not_and_or.mp h1 with h1 | h1 <;> simp only [not_not] at h1 <;> subst h1
        · exact .inl ⟨rfl, by
            simpa [ParsedOpcode.WellFormed, show opcodeLength opData34 = 35 from rfl] using hw1⟩
        · exact .inr ⟨rfl, by
            simpa [ParsedOpcode.WellFormed, show opcodeLength opData38 = 39 from rfl] using hw1⟩
      refine ⟨o, op, rest, by rw [hd0], hlen, hpk, ?_⟩
      by_cases ht : threadID = rootThread
      · rw [if_pos ht] at h; exact .inl ⟨ht, of_decide_eq_true h⟩
      rw [if_neg ht] at h
      by_cases hp : threadID = provisionThread
      swap
      · rw [if_neg hp] at h; cases h
      rw [if_pos hp] at h
      refine .inr ⟨hp, ?_⟩
      split_ifs at h with hv ha
      · exact hv.elim .inl (.inr ∘ .inl)
      · exact .inr (.inr ⟨ha, by simpa [pubKeyBytesLenCompressed, keyIDSize] using h⟩)

/-- A key-set operation in a 38-byte push, as an ASP operation is pushed, is accepted on the
Root thread: its length is not checked. -/
theorem isValidAdminOp_keySetOp_data38 (pubKey keyID : List UInt8) (hpk : pubKey.length = 33)
    (hkid : keyID.length = 4) (hparse : parsePubKey pubKey = true) :
    parseScript ([opReturn, opData38, ops.issueKeyAdd] ++ pubKey ++ keyID) =
        .ok [⟨opReturn, []⟩, ⟨opData38, ops.issueKeyAdd :: (pubKey ++ keyID)⟩] ∧
      isValidAdminOp ops parsePubKey [⟨opReturn, []⟩, ⟨opData38, ops.issueKeyAdd :: (pubKey ++ keyID)⟩]
        rootThread = true := by
  constructor
  · have := parseScript_flatMap_bytes [⟨opReturn, []⟩, ⟨opData38, ops.issueKeyAdd :: (pubKey ++ keyID)⟩]
      (by
        simp only [List.mem_cons, List.mem_singleton, List.not_mem_nil, or_false]
        rintro p (rfl | rfl)
        · decide
        · simp [ParsedOpcode.WellFormed, hpk, hkid]; decide)
    simpa [@ParsedOpcode.bytes_of_pos ⟨opReturn, []⟩ (by decide),
      @ParsedOpcode.bytes_of_pos ⟨opData38, ops.issueKeyAdd :: (pubKey ++ keyID)⟩
        (show 0 < opcodeLength opData38 by decide)] using this
  · simp [isValidAdminOp, extractAdminData, List.take_left' hpk, hpk, hparse,
      pubKeyBytesLenCompressed, rootThread]

theorem isValidAdminOp_keySetOp_data38_root :
    (List.replicate 33 2).length = 33 ∧ [0, 0, 0, 1].length = 4 ∧
    (fun _ => true : List UInt8 → Bool) (List.replicate 33 2) = true ∧
    parseScript ([opReturn, opData38, 1] ++ List.replicate 33 2 ++ [0, 0, 0, 1]) =
        .ok [⟨opReturn, []⟩, ⟨opData38, 1 :: (List.replicate 33 2 ++ [0, 0, 0, 1])⟩] ∧
      isValidAdminOp ⟨1, 2, 3, 4, 17, 18, 19, 20⟩ (fun _ => true)
        [⟨opReturn, []⟩, ⟨opData38, 1 :: (List.replicate 33 2 ++ [0, 0, 0, 1])⟩] rootThread = true :=
  ⟨rfl, rfl, rfl, isValidAdminOp_keySetOp_data38 ⟨1, 2, 3, 4, 17, 18, 19, 20⟩ (fun _ => true)
    (List.replicate 33 2) [0, 0, 0, 1] rfl rfl rfl⟩

end AdminOps

end Dmgd.Txscript
