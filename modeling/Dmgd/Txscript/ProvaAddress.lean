import Dmgd.Txscript.ProvaLayout

/-! Prova addresses and their scripts. `payToProvaScript` and `PayToAddrScript` build the
output script of an address; `ExtractPkScriptAddrs` reads the address of a `ProvaTy` script
back, taking `pops[1]`'s data as the pkHash and `pops[2 : len(pops)-2]` as the key ids.
`AddressProva` and `NewAddressProva` live in `provautil/address.go`, which is not among the
sources, and are modelled from §3 of the spec: a 20-byte pkHash, the key ids, and the network.

Proved: for every 20-byte pkHash and two distinct key ids, the script of the address parses,
is classified `ProvaTy`, and gives back the same pkHash and key ids (`payToProvaScript_extract`).
An address read from a `ProvaTy` script is built back by `PayToAddrScript` when it has two key
ids and refused otherwise; the script built need not be the one it was read from, since the
classifier also takes the pkHash under `OP_PUSHDATA1`. A `ProvaTy` script need not have a
pkHash at `pops[1]` at all, and then no address is read from it. -/

namespace Dmgd.Provautil

open Txscript

/-- Modelled from the spec: `AddressProva` (not among the sources), a pkHash of 20 bytes, the
key ids and the network's address id. -/
structure AddressProva where
  hash : List UInt8
  hash_length : hash.length = 20
  keyIDs : List KeyID
  netID : UInt8
  deriving DecidableEq

/-- `ScriptAddress`: the pkHash. -/
def AddressProva.scriptAddress (addr : AddressProva) : List UInt8 := addr.hash

/-- `ScriptKeyIDs`: the key ids. -/
def AddressProva.scriptKeyIDs (addr : AddressProva) : List KeyID := addr.keyIDs

/-- Modelled from the spec: `NewAddressProva` (not among the sources), which refuses a pkHash
of other than 20 bytes. -/
def newAddressProva (pkHash : List UInt8) (keyIDs : List KeyID) (netID : UInt8) :
    Except String AddressProva :=
  if h : pkHash.length = 20 then .ok ⟨pkHash, h, keyIDs, netID⟩
  else .error "pkHash must be 20 bytes"

/-- `provautil.Address` as `PayToAddrScript` tells its cases apart: a pointer to an
`AddressProva`, which may be nil, or an address of another type. -/
inductive Address where
  | prova (addr : Option AddressProva)
  | other
  deriving DecidableEq

end Dmgd.Provautil

namespace Dmgd.Txscript

open Provautil

/-! ### Building the script of an address -/

/-- `payToProvaScript`: `2 <pkHash> <keyID0> <keyID1> 3 OP_CHECKSAFEMULTISIG`. -/
def payToProvaScript (pubKeyHash : List UInt8) (keyIDs : List KeyID) :
    Except ScriptError (List UInt8) :=
  if keyIDs.length ≠ 2 then .error ⟨.errInvalidNumberOfKeyIds, "prova script must have 2 key ids"⟩
  else
    (ScriptBuilder.new.addInt64 keyIDs.length
      |>.addData pubKeyHash
      |>.addInt64 (keyIDs.getD 0 0).toNat
      |>.addInt64 (keyIDs.getD 1 0).toNat
      |>.addInt64 (keyIDs.length + 1)
      |>.addOp opCheckSafeMultiSig).script

/-- `PayToAddrScript`. -/
def payToAddrScript : Address → Except ScriptError (List UInt8)
  | .prova none => .error ⟨.errUnsupportedAddress, "address is nil"⟩
  | .prova (some addr) => payToProvaScript addr.scriptAddress addr.scriptKeyIDs
  | .other => .error ⟨.errUnsupportedAddress, "unsupported address type"⟩

/-! ### Reading the address of a script -/

/-- The key-id loop of the `ProvaTy` branch of `ExtractPkScriptAddrs`: every opcode is read
with `asInt32`; one that fails sets `keyIDError` and is read as key id 0. -/
def readKeyIDs : List ParsedOpcode → List KeyID × Bool
  | [] => ([], false)
  | pop :: pops =>
    let (keyIDs, keyIDError) := readKeyIDs pops
    match asInt32 pop with
    | .ok keyID => (keyID :: keyIDs, keyIDError)
    | .error _ => (0 :: keyIDs, true)

/-- What the `ProvaTy` branch hands to `NewAddressProva`, with `keyIDError`: `pops[1]`'s data
and the key ids of `pops[2 : len(pops)-2]`. -/
def provaAddressArgs (pops : List ParsedOpcode) : List UInt8 × List KeyID × Bool :=
  ((pops.getD 1 default).data, readKeyIDs ((pops.drop 2).take (pops.length - 4)))

/-- `ExtractPkScriptAddrs`: the class, the addresses, the number of required signatures and
the parse error. A `ProvaTy` script has one address when its pkHash has 20 bytes and every key
id decodes; `len(pops) - 4` signatures are required. -/
def extractPkScriptAddrs (pkScript : List UInt8) (provaAddrID : UInt8) :
    ScriptClass × List Address × Nat × Option ScriptError :=
  match parseScript pkScript with
  | .error e => (.nonStandardTy, [], 0, some e)
  | .ok pops =>
    match typeOfScript pops with
    | .provaTy =>
      let numKeyIDs := pops.length - 4
      let (pkHash, keyIDs, keyIDError) := provaAddressArgs pops
      match newAddressProva pkHash keyIDs provaAddrID with
      | .ok addr => (.provaTy, if keyIDError then [] else [.prova (some addr)], numKeyIDs, none)
      | .error _ => (.provaTy, [], numKeyIDs, none)
    | .provaAdminTy => (.provaAdminTy, [], 2, none)
    | scriptClass => (scriptClass, [], 0, none)

/-! ### The script of a two-key-id address -/

/-- The opcodes of `payToProvaScript pkHash [k0, k1]`. -/
def provaPops (pkHash : List UInt8) (k0 k1 : KeyID) : List ParsedOpcode :=
  [int64Pop 2, ⟨opData20, pkHash⟩, int64Pop k0.toNat, int64Pop k1.toNat, int64Pop 3,
    ⟨opCheckSafeMultiSig, []⟩]

theorem int64Pop_bytes (n : Nat) (hn : n < 2 ^ 32) :
    (int64Pop n).bytes = (int64Pop n).opcode :: (int64Pop n).data :=
  ParsedOpcode.bytes_of_pos (opcodeLength_pos_of_isUint32 _ (int64Pop_props n hn).2.1)

theorem int64Pop_bytes_length (n : Nat) (hn : n < 2 ^ 32) : (int64Pop n).bytes.length ≤ 6 := by
  rw [int64Pop_bytes n hn]; simpa using (int64Pop_props n hn).2.2

theorem canonicalPush_keyHash {pkHash : List UInt8} (hh : pkHash.length = 20) :
    canonicalPush pkHash = opData20 :: pkHash := by
  match pkHash, hh with
  | _ :: _ :: _, hh => simp [canonicalPush, lengthPush, hh]; rfl

theorem payToProvaScript_eq {pkHash : List UInt8} (k0 k1 : KeyID) (hh : pkHash.length = 20) :
    payToProvaScript pkHash [k0, k1] = .ok ((provaPops pkHash k0 k1).flatMap ParsedOpcode.bytes) := by
  have h2 : (int64Pop 2).bytes.length ≤ 6 := int64Pop_bytes_length 2 (by norm_num)
  have h3 : (int64Pop 3).bytes.length ≤ 6 := int64Pop_bytes_length 3 (by norm_num)
  have h0 := int64Pop_bytes_length _ (toNat_lt_keyID k0)
  have h1 := int64Pop_bytes_length _ (toNat_lt_keyID k1)
  have e20 : (⟨opData20, pkHash⟩ : ParsedOpcode).bytes = opData20 :: pkHash :=
    ParsedOpcode.bytes_of_pos (show 0 < opcodeLength opData20 by decide)
  have eC : (⟨opCheckSafeMultiSig, []⟩ : ParsedOpcode).bytes = [opCheckSafeMultiSig] :=
    ParsedOpcode.bytes_of_pos (by decide)
  rw [payToProvaScript, if_neg (by simp)]
  show (((((((ScriptBuilder.mk [] none).addInt64 ((2 : Nat) : Int)).addData pkHash).addInt64
    (k0.toNat : Int)).addInt64 (k1.toNat : Int)).addInt64 ((3 : Nat) : Int)).addOp
    opCheckSafeMultiSig).script = _
  rw [ScriptBuilder.addInt64_eq _ _ (by norm_num) (by decide),
    ScriptBuilder.addData_ok _ _ (by simp [maxScriptSize, canonicalPush_keyHash hh, hh]; omega)
      (by simp [hh, maxScriptElementSize]), canonicalPush_keyHash hh,
    ScriptBuilder.addInt64_eq _ _ (toNat_lt_keyID k0) (by simp [maxScriptSize, hh]; omega),
    ScriptBuilder.addInt64_eq _ _ (toNat_lt_keyID k1) (by simp [maxScriptSize, hh]; omega),
    ScriptBuilder.addInt64_eq _ _ (by norm_num) (by simp [maxScriptSize, hh]; omega),
    ScriptBuilder.addOp_ok _ _ (by simp [maxScriptSize, hh]; omega)]
  simp only [ScriptBuilder.script, provaPops, List.flatMap_cons, List.flatMap_nil, e20, eC,
    List.nil_append, List.append_assoc, List.append_nil, List.cons_append, Nat.cast_ofNat]

theorem isKeyHashPush_int64Pop (n : Nat) (hn : n < 2 ^ 32) : isKeyHashPush (int64Pop n) = false := by
  have := (int64Pop_props n hn).2.2
  simp only [isKeyHashPush, decide_eq_false_iff_not]; omega

theorem keyIDOf_int64Pop (k : KeyID) : keyIDOf (int64Pop k.toNat) = some k :=
  keyIDOf_eq_some.mpr ⟨by simp [isKeyIDPush, isKeyHashPush_int64Pop _ (toNat_lt_keyID k),
    (int64Pop_props _ (toNat_lt_keyID k)).2.1], asInt32_int64Pop k⟩

theorem provaPops_wellFormed {pkHash : List UInt8} (k0 k1 : KeyID) (hh : pkHash.length = 20) :
    ∀ p ∈ provaPops pkHash k0 k1, p.WellFormed := by
  have hw : ∀ n : Nat, n < 2 ^ 32 → (int64Pop n).WellFormed := fun n hn => (int64Pop_props n hn).1
  simp only [provaPops, List.mem_cons, List.mem_singleton, List.not_mem_nil, or_false]
  rintro p (rfl | rfl | rfl | rfl | rfl | rfl)
  · exact hw 2 (by norm_num)
  · simp [ParsedOpcode.WellFormed, hh]; decide
  · exact hw _ (toNat_lt_keyID k0)
  · exact hw _ (toNat_lt_keyID k1)
  · exact hw 3 (by norm_num)
  · decide

/-- The opcodes of the script of a two-key-id address have the layout, with `m = 2` and
`n = 3`. -/
theorem provaPops_layout {pkHash : List UInt8} {k0 k1 : KeyID} (hh : pkHash.length = 20)
    (hk : k0 ≠ k1) :
    GeneralProvaLayout (provaPops pkHash k0 k1) ∧
      nSigsOf (provaPops pkHash k0 k1) + 1 = nKeysOf (provaPops pkHash k0 k1) := by
  have h0 := isKeyHashPush_int64Pop _ (toNat_lt_keyID k0)
  have h1 := isKeyHashPush_int64Pop _ (toNat_lt_keyID k1)
  have hhp : isKeyHashPush ⟨opData20, pkHash⟩ = true := by simp [isKeyHashPush, hh]
  have hhash : keyIDOf ⟨opData20, pkHash⟩ = none := keyIDOf_of_not_keyID (isKeyIDPush_of_hash hhp)
  have hids : keyIDsOf (keyPops (provaPops pkHash k0 k1)) = [k0, k1] := by
    simp [keyPops, provaPops, keyIDsOf, hhash, keyIDOf_int64Pop]
  have hm : nSigsOf (provaPops pkHash k0 k1) = 2 := show asSmallInt (int64Pop 2).opcode = 2 by decide
  have hn : nKeysOf (provaPops pkHash k0 k1) = 3 := show asSmallInt (int64Pop 3).opcode = 3 by decide
  refine ⟨⟨Nat.le_refl 6, show isSmallInt (int64Pop 2).opcode by decide,
    show isSmallInt (int64Pop 3).opcode by decide, rfl, hm.ge, by rw [hn]; rfl, ⟨?_, ?_, ?_⟩, ?_, ?_⟩,
    by rw [hm, hn]⟩
  · simp [keyPops, provaPops, h0, h1]
  · simp [keyPops, provaPops, keyIDOf_int64Pop, hhash, isKeyIDPush, isKeyHashPush, hh]
  · simp [hids, hk]
  · rw [hm]; simp [keyPops, provaPops, List.countP_cons, h0, h1, hhp]
  · rw [hids, hm]; rfl

theorem provaAddressArgs_provaPops (pkHash : List UInt8) (k0 k1 : KeyID) :
    provaAddressArgs (provaPops pkHash k0 k1) = (pkHash, [k0, k1], false) := by
  simp [provaAddressArgs, provaPops, readKeyIDs, asInt32_int64Pop]

theorem extractPkScriptAddrs_provaPops {pkHash : List UInt8} {k0 k1 : KeyID} (provaAddrID : UInt8)
    (hh : pkHash.length = 20) (hk : k0 ≠ k1) :
    extractPkScriptAddrs ((provaPops pkHash k0 k1).flatMap ParsedOpcode.bytes) provaAddrID =
      (.provaTy, [.prova (some ⟨pkHash, hh, [k0, k1], provaAddrID⟩)], 2, none) := by
  simp [extractPkScriptAddrs, parseScript_flatMap_bytes _ (provaPops_wellFormed k0 k1 hh),
    (typeOfScript_eq_provaTy _).mpr (provaPops_layout hh hk), provaAddressArgs_provaPops,
    newAddressProva, hh]
  rfl

/-- The script of a Prova address with a 20-byte pkHash and two distinct key ids parses, is
classified `ProvaTy`, and `ExtractPkScriptAddrs` hands `NewAddressProva` the same pkHash and
key ids, requiring two signatures. -/
theorem payToProvaScript_extract (pkHash : List UInt8) (k0 k1 : KeyID) (provaAddrID : UInt8)
    (hh : pkHash.length = 20) (hk : k0 ≠ k1) :
    ∃ s pops, payToProvaScript pkHash [k0, k1] = .ok s ∧ parseScript s = .ok pops ∧
      getScriptClass s = .provaTy ∧ provaAddressArgs pops = (pkHash, [k0, k1], false) ∧
      extractPkScriptAddrs s provaAddrID =
        (.provaTy, [.prova (some ⟨pkHash, hh, [k0, k1], provaAddrID⟩)], 2, none) := by
  have hparse := parseScript_flatMap_bytes _ (provaPops_wellFormed k0 k1 hh)
  have hclass := (typeOfScript_eq_provaTy _).mpr (provaPops_layout hh hk)
  exact ⟨_, _, payToProvaScript_eq k0 k1 hh, hparse, by simp [getScriptClass, hparse, hclass],
    provaAddressArgs_provaPops pkHash k0 k1, extractPkScriptAddrs_provaPops provaAddrID hh hk⟩

theorem payToProvaScript_extract_testVector :
    (List.replicate 20 0x35).length = 20 ∧ (0x10000 : KeyID) ≠ 1 ∧
    ∃ s pops, payToProvaScript (List.replicate 20 0x35) [0x10000, 1] = .ok s ∧
      parseScript s = .ok pops ∧ getScriptClass s = .provaTy ∧
      provaAddressArgs pops = (List.replicate 20 0x35, [0x10000, 1], false) ∧
      extractPkScriptAddrs s 0 =
        (.provaTy, [.prova (some ⟨List.replicate 20 0x35, rfl, [0x10000, 1], 0⟩)], 2, none) :=
  ⟨rfl, by decide, payToProvaScript_extract (List.replicate 20 0x35) 0x10000 1 0 rfl (by decide)⟩

/-! ### Back from an address to its script -/

/-- What an address read from a script says about the script's opcodes. -/
theorem extractPkScriptAddrs_eq_prova {s : List UInt8} {provaAddrID : UInt8} {a : AddressProva}
    {c : ScriptClass} {r : Nat} {e : Option ScriptError}
    (h : extractPkScriptAddrs s provaAddrID = (c, [.prova (some a)], r, e)) :
    ∃ pops, parseScript s = .ok pops ∧ typeOfScript pops = .provaTy ∧
      provaAddressArgs pops = (a.hash, a.keyIDs, false) ∧ a.netID = provaAddrID := by
  unfold extractPkScriptAddrs at h
  split at h
  · cases h
  · next pops hparse =>
    refine ⟨pops, hparse, ?_⟩
    split at h <;> try cases h
    next hclass =>
    refine ⟨hclass, ?_⟩
    rcases hargs : provaAddressArgs pops with ⟨pkHash, keyIDs, keyIDError⟩
    rw [hargs] at h
    dsimp only at h
    split at h
    · next addr haddr =>
      unfold newAddressProva at haddr
      split at haddr <;> cases haddr
      cases keyIDError <;> simp at h
      obtain ⟨-, rfl, -⟩ := h
      exact ⟨rfl, rfl⟩
    · cases h

/-- Over opcodes that are all decoding key-id pushes, the loop of `ExtractPkScriptAddrs` reads
the key ids the classifier counted, without error. -/
theorem readKeyIDs_eq {pops : List ParsedOpcode} (h : (keyIDsOf pops).length = pops.length) :
    readKeyIDs pops = (keyIDsOf pops, false) := by
  induction pops with
  | nil => rfl
  | cons p pops ih =>
    have hle := List.length_filterMap_le keyIDOf pops
    cases hk : keyIDOf p with
    | none => simp [keyIDsOf, hk] at h; omega
    | some k =>
      simp only [keyIDsOf, List.filterMap_cons, hk, List.length_cons, add_left_inj] at h
      simp [readKeyIDs, (keyIDOf_eq_some.mp hk).2, ih h, keyIDsOf, hk]

theorem keyPops_eq_cons {pops : List ParsedOpcode} (h : 6 ≤ pops.length) :
    keyPops pops = pops.getD 1 default :: (pops.drop 2).take (pops.length - 4) := by
  match pops, h with
  | p0 :: p1 :: tl, h =>
    simp only [keyPops, List.length_cons] at h ⊢
    rw [List.take_cons (by omega), List.take_cons (by omega)]
    simp only [List.drop_one, List.tail_cons, List.getD_cons_succ, List.getD_cons_zero,
      List.drop_succ_cons, List.drop_zero]
    congr 2

/-- The key ids of an address read from a `ProvaTy` script are the key ids the classifier
counted: all of `pops[2 : len(pops)-2]`, `m` of them, and no two the same. -/
theorem provaTy_address_keyIDs {pops : List ParsedOpcode} {pkHash : List UInt8}
    {keyIDs : List KeyID} (hclass : typeOfScript pops = .provaTy)
    (hargs : provaAddressArgs pops = (pkHash, keyIDs, false)) (hh : pkHash.length = 20) :
    keyIDs = keyIDsOf (keyPops pops) ∧ keyIDs.Nodup ∧ keyIDs.length = nSigsOf pops := by
  obtain ⟨hl, hmn⟩ := (typeOfScript_eq_provaTy pops).mp hclass
  simp only [provaAddressArgs, Prod.mk.injEq] at hargs
  obtain ⟨h1, hread⟩ := hargs
  have hhash : keyIDOf (pops.getD 1 default) = none :=
    keyIDOf_of_not_keyID (isKeyIDPush_of_hash (by simp only [isKeyHashPush, h1, hh, decide_True]))
  have hkeys : keyIDsOf (keyPops pops) = keyIDsOf ((pops.drop 2).take (pops.length - 4)) := by
    rw [keyPops_eq_cons hl.length_ge, keyIDsOf, List.filterMap_cons, hhash]; rfl
  have hlen : ((pops.drop 2).take (pops.length - 4)).length = nSigsOf pops := by
    have := hl.length_eq; simp; omega
  have hall : (keyIDsOf ((pops.drop 2).take (pops.length - 4))).length =
      ((pops.drop 2).take (pops.length - 4)).length :=
    le_antisymm (List.length_filterMap_le _ _) (hlen ▸ hkeys ▸ hl.le_keyIDs)
  rw [readKeyIDs_eq hall, Prod.mk.injEq] at hread
  rw [← hread.1, hkeys]
  exact ⟨rfl, hkeys ▸ hl.valid.nodup, hall.trans hlen⟩

/-- An address read from a `ProvaTy` script has a script of its own when it has two key ids,
and that script gives the same address back; with any other number of key ids
`PayToAddrScript` refuses it. -/
theorem extractPkScriptAddrs_payToAddrScript {s : List UInt8} {provaAddrID : UInt8}
    {a : AddressProva} {r : Nat}
    (h : extractPkScriptAddrs s provaAddrID = (.provaTy, [.prova (some a)], r, none)) :
    (a.keyIDs.length = 2 → ∃ s', payToAddrScript (.prova (some a)) = .ok s' ∧
        extractPkScriptAddrs s' provaAddrID = (.provaTy, [.prova (some a)], 2, none)) ∧
      (a.keyIDs.length ≠ 2 → payToAddrScript (.prova (some a)) =
        .error ⟨.errInvalidNumberOfKeyIds, "prova script must have 2 key ids"⟩) := by
  obtain ⟨pops, -, hclass, hargs, rfl⟩ := extractPkScriptAddrs_eq_prova h
  obtain ⟨-, hnd, -⟩ := provaTy_address_keyIDs hclass hargs a.hash_length
  refine ⟨fun h2 => ?_, fun h2 => by simp [payToAddrScript, payToProvaScript,
    AddressProva.scriptKeyIDs, h2]⟩
  match a, h2, hnd with
  | ⟨pkHash, hh, [k0, k1], _⟩, _, hnd =>
    exact ⟨_, payToProvaScript_eq k0 k1 hh,
      extractPkScriptAddrs_provaPops _ hh (by simpa using hnd)⟩

theorem extractPkScriptAddrs_payToAddrScript_pushData1 :
    extractPkScriptAddrs ([0x52, 0x4c, 0x14] ++ List.replicate 20 0 ++ [0x51, 0x52, 0x53, 0xba]) 0 =
      (.provaTy, [.prova (some ⟨List.replicate 20 0, rfl, [1, 2], 0⟩)], 2, none) ∧
    ([1, 2].length = 2 → ∃ s', payToAddrScript (.prova (some ⟨List.replicate 20 0, rfl, [1, 2], 0⟩)) = .ok s' ∧
        extractPkScriptAddrs s' 0 = (.provaTy, [.prova (some ⟨List.replicate 20 0, rfl, [1, 2], 0⟩)], 2, none)) ∧
      ([1, 2].length ≠ 2 → payToAddrScript (.prova (some ⟨List.replicate 20 0, rfl, [1, 2], 0⟩)) =
        .error ⟨.errInvalidNumberOfKeyIds, "prova script must have 2 key ids"⟩) :=
  have h : extractPkScriptAddrs ([0x52, 0x4c, 0x14] ++ List.replicate 20 0 ++ [0x51, 0x52, 0x53, 0xba]) 0 =
      (.provaTy, [.prova (some ⟨List.replicate 20 0, rfl, [1, 2], 0⟩)], 2, none) := rfl
  ⟨h, extractPkScriptAddrs_payToAddrScript h⟩

/-- The classifier takes the pkHash under `OP_PUSHDATA1` too: the address read from
`2 OP_PUSHDATA1 0x14 <20 bytes> 1 2 3 OP_CHECKSAFEMULTISIG` has a script of its own that is
a different one. -/
theorem provaTy_pushData1_keyHash :
    getScriptClass ([0x52, 0x4c, 0x14] ++ List.replicate 20 0 ++ [0x51, 0x52, 0x53, 0xba]) = .provaTy ∧
    extractPkScriptAddrs ([0x52, 0x4c, 0x14] ++ List.replicate 20 0 ++ [0x51, 0x52, 0x53, 0xba]) 0 =
      (.provaTy, [.prova (some ⟨List.replicate 20 0, rfl, [1, 2], 0⟩)], 2, none) ∧
    ∃ s', payToAddrScript (.prova (some ⟨List.replicate 20 0, rfl, [1, 2], 0⟩)) = .ok s' ∧
      s' ≠ [0x52, 0x4c, 0x14] ++ List.replicate 20 0 ++ [0x51, 0x52, 0x53, 0xba] :=
  ⟨by decide, rfl, _, rfl, by decide⟩

/-- `isProva` asks only `m + 1 = n` of a script of the layout, which counts key hashes to keep
them below `m`: four key ids under `OP_3 ... OP_4`, or `OP_NOP`, passed over, before two key ids
under `OP_2 ... OP_3`, are `ProvaTy` scripts with no key hash at `pops[1]`, and
`ExtractPkScriptAddrs` reads no address from them. -/
theorem provaTy_withoutKeyHash (provaAddrID : UInt8) :
    getScriptClass [0x53, 0x51, 0x52, 0x53, 0x54, 0x54, 0xba] = .provaTy ∧
      extractPkScriptAddrs [0x53, 0x51, 0x52, 0x53, 0x54, 0x54, 0xba] provaAddrID =
        (.provaTy, [], 3, none) ∧
    getScriptClass [0x52, 0x61, 0x51, 0x52, 0x53, 0xba] = .provaTy ∧
      extractPkScriptAddrs [0x52, 0x61, 0x51, 0x52, 0x53, 0xba] provaAddrID =
        (.provaTy, [], 2, none) :=
  ⟨by decide, rfl, by decide, rfl⟩

end Dmgd.Txscript
