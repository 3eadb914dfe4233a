import Dmgd.Txscript.ScriptNum

/-! The script builder. `addData` appends the canonical push of a byte string (an empty
string or a single small byte as a small-int opcode, `0x81` as `OP_1NEGATE`, anything else
with the shortest length prefix), `addInt64` the canonical push of a number, and `addOp` an
opcode; the first error sticks and every later call is a no-op. The builder is not among the
sources and is modelled from btcd's `ScriptBuilder`, whose behaviour the sources' test
vectors describe (`RETURN 1` for the data `01`, `RETURN 0x18 ...` for 24 bytes).

Proved: each canonical push is the bytes of one well-formed parsed opcode (`canonicalPop`,
`int64Pop`), so a builder's output parses back to the opcodes that were pushed; a key id is
pushed as an opcode that `asInt32` reads back (`asInt32_int64Pop`). -/

namespace Dmgd.Txscript

/-- Modelled from the spec: the largest script the builder produces (not among the sources). -/
def maxScriptSize : Nat := 10000

/-- Modelled from the spec: the largest data element the builder pushes (not among the
sources). -/
def maxScriptElementSize : Nat := 520

/-! ### Canonical pushes -/

theorem opcodeLength_of_data (op : UInt8) (h1 : 1 ≤ op.toNat) (h2 : op.toNat ≤ 75) :
    opcodeLength op = op.toNat + 1 := by
  have : op ≠ op0 := fun h => by subst h; simp at h1
  have : op ≤ opData75 := h2
  simp [opcodeLength, *]

/-- The push `addData` falls back to: `OP_DATA_n`, or the smallest `OP_PUSHDATAk`. -/
def lengthPush (data : List UInt8) : List UInt8 :=
  let dataLen := data.length
  if dataLen < opPushData1.toNat then (opData1.toNat - 1 + dataLen).toUInt8 :: data
  else if dataLen ≤ 0xff then opPushData1 :: dataLen.toUInt8 :: data
  else if dataLen ≤ 0xffff then opPushData2 :: (leBytes 2 dataLen ++ data)
  else opPushData4 :: (leBytes 4 dataLen ++ data)

/-- The bytes btcd's `addData` appends for `data`. -/
def canonicalPush (data : List UInt8) : List UInt8 :=
  match data with
  | [] => [op0]
  | [b] =>
    if b = 0 then [op0]
    else if b ≤ 16 then [(op1 - 1) + b]
    else if b = 0x81 then [op1Negate]
    else lengthPush [b]
  | _ => lengthPush data

/-- `canonicalDataSize`: the number of bytes `addData` appends. -/
def canonicalDataSize (data : List UInt8) : Nat :=
  let dataLen := data.length
  if dataLen = 0 then 1
  else if dataLen = 1 ∧ data.headD 0 ≤ 16 then 1
  else if dataLen = 1 ∧ data.headD 0 = 0x81 then 1
  else if dataLen < opPushData1.toNat then 1 + dataLen
  else if dataLen ≤ 0xff then 2 + dataLen
  else if dataLen ≤ 0xffff then 3 + dataLen
  else 5 + dataLen

theorem canonicalDataSize_le (data : List UInt8) : canonicalDataSize data ≤ data.length + 5 := by
  unfold canonicalDataSize
  dsimp only
  repeat' refine (ite_le_sup _ _ _).trans (sup_le ?_ ?_)
  all_goals omega

/-- The parsed opcode of `lengthPush data`. -/
def lengthPop (data : List UInt8) : ParsedOpcode :=
  let dataLen := data.length
  if dataLen < opPushData1.toNat then ⟨(opData1.toNat - 1 + dataLen).toUInt8, data⟩
  else if dataLen ≤ 0xff then ⟨opPushData1, data⟩
  else if dataLen ≤ 0xffff then ⟨opPushData2, data⟩
  else ⟨opPushData4, data⟩

/-- The parsed opcode of `canonicalPush data`. -/
def canonicalPop (data : List UInt8) : ParsedOpcode :=
  match data with
  | [] => ⟨op0, []⟩
  | [b] =>
    if b = 0 then ⟨op0, []⟩
    else if b ≤ 16 then ⟨(op1 - 1) + b, []⟩
    else if b = 0x81 then ⟨op1Negate, []⟩
    else lengthPop [b]
  | _ => lengthPop data

theorem opcodeLength_pushData :
    opcodeLength opPushData1 = -1 ∧ opcodeLength opPushData2 = -2 ∧
      opcodeLength opPushData4 = -4 := ⟨rfl, rfl, rfl⟩

theorem lengthPush_eq {data : List UInt8} (h0 : data ≠ []) (h : data.length < 2 ^ 32) :
    lengthPush data = (lengthPop data).bytes ∧ (lengthPop data).WellFormed := by
  have hpos := List.length_pos.mpr h0
  have h76 : opPushData1.toNat = 76 := rfl
  obtain ⟨hl1, hl2, hl4⟩ := opcodeLength_pushData
  unfold lengthPush lengthPop
  by_cases h1 : data.length < opPushData1.toNat
  · have hop : (opData1.toNat - 1 + data.length).toUInt8.toNat = data.length := by
      rw [toNat_toUInt8, opData1_toNat]; omega
    simp only [if_pos h1, ParsedOpcode.bytes, ParsedOpcode.WellFormed,
      opcodeLength_of_data _ (hop ▸ hpos) (by omega), hop]
    simp
  · by_cases h2 : data.length ≤ 0xff
    · simp only [if_neg h1, if_pos h2, ParsedOpcode.bytes, ParsedOpcode.WellFormed, hl1]
      simp [leBytes]; omega
    · by_cases h3 : data.length ≤ 0xffff
      · simp only [if_neg h1, if_neg h2, if_pos h3, ParsedOpcode.bytes, ParsedOpcode.WellFormed, hl2]
        simp; omega
      · simp only [if_neg h1, if_neg h2, if_neg h3, ParsedOpcode.bytes, ParsedOpcode.WellFormed, hl4]
        simp; omega

set_option maxRecDepth 20000 in
theorem opcodeLength_smallInt : ∀ b : UInt8, b ≠ 0 → b ≤ 16 → opcodeLength ((op1 - 1) + b) = 1 := by
  rw [forall_uint8]; decide

/-- Every canonical push is the bytes of its parsed opcode, which is well formed. -/
theorem canonicalPush_eq (data : List UInt8) (h : data.length < 2 ^ 32) :
    canonicalPush data = (canonicalPop data).bytes ∧ (canonicalPop data).WellFormed := by
  match data with
  | [] => exact ⟨rfl, by decide⟩
  | [b] =>
    simp only [canonicalPush, canonicalPop]
    split_ifs with h0 h16 h81
    · exact ⟨rfl, by decide⟩
    · simp [ParsedOpcode.bytes, ParsedOpcode.WellFormed, opcodeLength_smallInt b h0 h16]
    · exact ⟨rfl, by decide⟩
    · exact lengthPush_eq (by simp) h
  | _ :: _ :: _ => exact lengthPush_eq (by simp) h

theorem canonicalDataSize_eq (data : List UInt8) :
    canonicalDataSize data = (canonicalPush data).length := by
  match data with
  | [] => rfl
  | [b] =>
    have hl : (lengthPush [b]).length = 2 := rfl
    unfold canonicalDataSize canonicalPush
    by_cases h16 : b ≤ 16
    · by_cases h0 : b = 0 <;> simp [h16, h0]
    · by_cases h81 : b = 0x81
      · subst h81; rfl
      · have h0 : b ≠ 0 := by rintro rfl; exact h16 (by decide)
        have h76 : 1 < opPushData1.toNat := by decide
        simp [h16, h81, h0, hl, h76]
  | _ :: _ :: _ =>
    simp only [canonicalDataSize, canonicalPush, lengthPush, apply_ite List.length, List.length_cons,
      List.length_append, leBytes_length]
    rw [if_neg (by omega), if_neg (by omega), if_neg (by omega)]
    split_ifs <;> omega

/-! ### The builder -/

/-- `ScriptBuilder`: the script so far and the first error met. -/
structure ScriptBuilder where
  bytes : List UInt8
  err : Option ScriptError

/-- `NewScriptBuilder`. -/
def ScriptBuilder.new : ScriptBuilder := ⟨[], none⟩

/-- The error of a builder whose script would outgrow `maxScriptSize`. -/
def notCanonical (what : String) : ScriptError :=
  ⟨.errScriptNotCanonical, s!"adding {what} would exceed the maximum allowed canonical script length of {maxScriptSize}"⟩

/-- `AddOp`. -/
def ScriptBuilder.addOp (b : ScriptBuilder) (opcode : UInt8) : ScriptBuilder :=
  match b.err with
  | some _ => b
  | none =>
    if b.bytes.length + 1 > maxScriptSize then { b with err := some (notCanonical "an opcode") }
    else { b with bytes := b.bytes ++ [opcode] }

/-- `AddData`: the canonical push of `data`, refused when the script or the element would be
too large. -/
def ScriptBuilder.addData (b : ScriptBuilder) (data : List UInt8) : ScriptBuilder :=
  match b.err with
  | some _ => b
  | none =>
    let dataSize := canonicalDataSize data
    if b.bytes.length + dataSize > maxScriptSize then
      { b with err := some (notCanonical s!"{dataSize} bytes of data") }
    else if data.length > maxScriptElementSize then
      { b with err := some ⟨.errScriptNotCanonical, s!"adding a data element of {data.length} bytes would exceed the maximum allowed script element size of {maxScriptElementSize}"⟩ }
    else { b with bytes := b.bytes ++ canonicalPush data }

/-- `AddInt64`: a small-int opcode for `-1` and `0..16`, otherwise the script number's bytes. -/
def ScriptBuilder.addInt64 (b : ScriptBuilder) (val : Int) : ScriptBuilder :=
  match b.err with
  | some _ => b
  | none =>
    if b.bytes.length + 1 > maxScriptSize then { b with err := some (notCanonical "an integer") }
    else if val = 0 then { b with bytes := b.bytes ++ [op0] }
    else if val = -1 ∨ (1 ≤ val ∧ val ≤ 16) then
      { b with bytes := b.bytes ++ [((op1 - 1).toNat + val).toNat.toUInt8] }
    else b.addData (scriptNumBytes val)

/-- `Script`: the script, or the first error. -/
def ScriptBuilder.script (b : ScriptBuilder) : Except ScriptError (List UInt8) :=
  match b.err with
  | some e => .error e
  | none => .ok b.bytes

theorem ScriptBuilder.addOp_ok (bytes : List UInt8) (op : UInt8)
    (h : bytes.length + 1 ≤ maxScriptSize) : (ScriptBuilder.mk bytes none).addOp op = ⟨bytes ++ [op], none⟩ := by
  simp [addOp, show ¬ bytes.length + 1 > maxScriptSize by omega]

theorem ScriptBuilder.addData_ok (bytes data : List UInt8)
    (h : bytes.length + (canonicalPush data).length ≤ maxScriptSize)
    (hd : data.length ≤ maxScriptElementSize) :
    (ScriptBuilder.mk bytes none).addData data = ⟨bytes ++ canonicalPush data, none⟩ := by
  simp [addData, canonicalDataSize_eq, show ¬ bytes.length + (canonicalPush data).length > maxScriptSize by omega,
    show ¬ data.length > maxScriptElementSize by omega]

/-! ### Numbers and key ids -/

/-- The parsed opcode that `addInt64 val` appends. -/
def int64Pop (val : Int) : ParsedOpcode :=
  if val = 0 then ⟨op0, []⟩
  else if val = -1 ∨ (1 ≤ val ∧ val ≤ 16) then ⟨((op1 - 1).toNat + val).toNat.toUInt8, []⟩
  else canonicalPop (scriptNumBytes val)

/-- A number from 17 to `2 ^ 32 - 1` is pushed as `OP_DATA_n` with its script-number bytes. -/
theorem canonicalPop_scriptNumBytes {n : Nat} (h17 : 17 ≤ n) (h : n < 2 ^ 32) :
    canonicalPop (scriptNumBytes n) = ⟨(scriptNumBytes n).length.toUInt8, scriptNumBytes n⟩ := by
  have hlen := scriptNumBytes_length_le (by omega) h
  have hlp : ∀ bs : List UInt8, bs.length ≤ 5 → lengthPop bs = ⟨bs.length.toUInt8, bs⟩ :=
    fun bs hb => by
      have : bs.length < 76 := by omega
      simp [lengthPop, this]
  have hne := scriptNumBytes_ne_nil (show 0 < n by omega)
  generalize hbs : scriptNumBytes n = bs at hlen hne ⊢
  match bs, hlen with
  | [b], hlen =>
    obtain ⟨hb, -⟩ := scriptNumBytes_eq_singleton (by omega) hbs
    have h0 : b ≠ 0 := fun h => by subst h; rw [show (0 : UInt8).toNat = 0 from rfl] at hb; omega
    have h16 : ¬ b ≤ 16 := fun h => by
      rw [uint8_le_iff, show (16 : UInt8).toNat = 16 from rfl] at h; omega
    have h81 : b ≠ 0x81 := fun h => by
      subst h; obtain ⟨-, h128⟩ := scriptNumBytes_eq_singleton (by omega) hbs
      rw [show (0x81 : UInt8).toNat = 129 from rfl] at hb; omega
    simp only [canonicalPop, if_neg h0, if_neg h16, if_neg h81]
    exact hlp [b] hlen
  | _ :: _ :: _, hlen => exact hlp _ hlen

/-- A key id from 1 to 16 is pushed as `OP_1` to `OP_16`. -/
theorem int64Pop_small {n : Nat} (h1 : 1 ≤ n) (h16 : n ≤ 16) :
    int64Pop n = ⟨(80 + n).toUInt8, []⟩ := by
  have : ((op1 - 1).toNat + (n : Int)).toNat = 80 + n := by
    rw [show (op1 - 1).toNat = 80 from rfl]; omega
  simp [int64Pop, show (n : Int) ≠ 0 by omega, show (1 : Int) ≤ n by omega,
    show (n : Int) ≤ 16 by omega, this]

/-- `asInt32` reads back every key id that `addInt64` pushed. -/
theorem asInt32_int64Pop (k : KeyID) : asInt32 (int64Pop k.toNat) = .ok k := by
  have hk := toNat_lt_keyID k
  rcases Nat.lt_or_ge k.toNat 17 with h | h
  · rcases Nat.eq_zero_or_pos k.toNat with h0 | h0
    · have : k = 0 := UInt32.toNat.inj h0
      subst this; rfl
    · have hb : ((80 + k.toNat).toUInt8).toNat = 80 + k.toNat := by
        rw [toNat_toUInt8]; omega
      have hs : isSmallInt (80 + k.toNat).toUInt8 = true := by
        rw [isSmallInt_iff, hb]; omega
      have ha : asSmallInt (80 + k.toNat).toUInt8 = k.toNat := by
        rw [asSmallInt_of_ge (by omega), hb]; omega
      rw [int64Pop_small h0 (by omega), asInt32, if_pos hs, ha, toUInt32_toNat]
  · have hpop := canonicalPop_scriptNumBytes h hk
    have hlen := scriptNumBytes_length_le (by omega) hk
    have hne := scriptNumBytes_ne_nil (show 0 < k.toNat by omega)
    have hl1 : 1 ≤ (scriptNumBytes k.toNat).length := List.length_pos.mpr hne
    have hs : isSmallInt (scriptNumBytes k.toNat).length.toUInt8 = false := by
      rw [← Bool.not_eq_true, isSmallInt_iff, toNat_toUInt8]; omega
    rw [int64Pop, if_neg (by omega), if_neg (by omega), hpop, asInt32, if_neg (by simp [hs]),
      makeScriptNum_scriptNumBytes (by omega) hlen]
    simp only [if_pos (show (0 : Int) ≤ k.toNat ∧ (k.toNat : Int) < 2 ^ 32 by omega)]
    simp [toUInt32_toNat]

/-- The three ways a number below `2 ^ 32` is pushed: `OP_0`, `OP_1..OP_16`, or `OP_DATA_n`
with `n ≤ 5`. -/
theorem int64Pop_cases (n : Nat) (hn : n < 2 ^ 32) :
    (n = 0 ∧ int64Pop n = ⟨op0, []⟩) ∨
    (1 ≤ n ∧ n ≤ 16 ∧ int64Pop n = ⟨(80 + n).toUInt8, []⟩) ∨
    (17 ≤ n ∧ 1 ≤ (scriptNumBytes n).length ∧ (scriptNumBytes n).length ≤ 5 ∧
      int64Pop n = ⟨(scriptNumBytes n).length.toUInt8, scriptNumBytes n⟩) := by
  rcases Nat.lt_or_ge n 17 with h | h
  · rcases Nat.eq_zero_or_pos n with h0 | h0
    · exact .inl ⟨h0, by rw [h0]; rfl⟩
    · exact .inr (.inl ⟨h0, by omega, int64Pop_small h0 (by omega)⟩)
  · refine .inr (.inr ⟨h, List.length_pos.mpr (scriptNumBytes_ne_nil (by omega)),
      scriptNumBytes_length_le (by omega) hn, ?_⟩)
    rw [int64Pop, if_neg (by omega), if_neg (by omega), canonicalPop_scriptNumBytes h hn]

/-- The push of a number below `2 ^ 32` is well formed, has an opcode `isUint32` accepts, and
at most five bytes of data. -/
theorem int64Pop_props (n : Nat) (hn : n < 2 ^ 32) :
    (int64Pop n).WellFormed ∧ isUint32 (int64Pop n).opcode = true ∧ (int64Pop n).data.length ≤ 5 := by
  rcases int64Pop_cases n hn with ⟨-, h⟩ | ⟨h1, h16, h⟩ | ⟨-, h1, h5, h⟩ <;> rw [h]
  · exact ⟨by decide, rfl, by simp⟩
  · have hb : ((80 + n).toUInt8).toNat = 80 + n := by rw [toNat_toUInt8]; omega
    have hlen := opcodeLength_of_smallInt (80 + n).toUInt8 (by omega) (by omega)
    refine ⟨by simp [ParsedOpcode.WellFormed, hlen], ?_, by simp⟩
    simp [isUint32, (isSmallInt_iff (80 + n).toUInt8).mpr (by rw [hb]; omega)]
  · have hb : ((scriptNumBytes n).length.toUInt8).toNat = (scriptNumBytes n).length := by
      rw [toNat_toUInt8]; omega
    have hlen := opcodeLength_of_data (scriptNumBytes n).length.toUInt8
      (by rw [hb]; omega) (by rw [hb]; omega)
    refine ⟨?_, ?_, h5⟩
    · simp [ParsedOpcode.WellFormed, hlen, hb]
    · simp [isUint32, uint8_le_iff, hb]; omega

/-- `addInt64` of a number below `2 ^ 32` appends its push. -/
theorem ScriptBuilder.addInt64_eq (bytes : List UInt8) (n : Nat) (hn : n < 2 ^ 32)
    (h : bytes.length + 6 ≤ maxScriptSize) :
    (ScriptBuilder.mk bytes none).addInt64 n = ⟨bytes ++ (int64Pop n).bytes, none⟩ := by
  have hroom : ¬ bytes.length + 1 > maxScriptSize := by omega
  rcases int64Pop_cases n hn with ⟨h0, hp⟩ | ⟨h1, h16, hp⟩ | ⟨h17, h1, h5, hp⟩
  · rw [hp]; simp [addInt64, h0, hroom]; rfl
  · have hb : ((80 + n).toUInt8).toNat = 80 + n := by rw [toNat_toUInt8]; omega
    have hlen := opcodeLength_of_smallInt (80 + n).toUInt8 (by omega) (by omega)
    have : ((op1 - 1).toNat + (n : Int)).toNat = 80 + n := by
      rw [show (op1 - 1).toNat = 80 from rfl]; omega
    rw [hp, ParsedOpcode.bytes_of_pos (by rw [hlen]; omega)]
    simp [addInt64, hroom, show (n : Int) ≠ 0 by omega, show (1 : Int) ≤ n by omega,
      show (n : Int) ≤ 16 by omega, this]
  · have hb : ((scriptNumBytes n).length.toUInt8).toNat = (scriptNumBytes n).length := by
      rw [toNat_toUInt8]; omega
    have hlen := opcodeLength_of_data (scriptNumBytes n).length.toUInt8
      (by rw [hb]; omega) (by rw [hb]; omega)
    have hc := (canonicalPush_eq (scriptNumBytes n) (by omega)).1
    rw [canonicalPop_scriptNumBytes h17 hn, ← hp] at hc
    have h6 : (int64Pop n).bytes.length ≤ 6 := by
      rw [hp, ParsedOpcode.bytes_of_pos (by rw [hlen]; omega)]
      simp; omega
    simp only [addInt64, hroom, show (n : Int) ≠ 0 by omega, if_false,
      show ¬ ((n : Int) = -1 ∨ (1 ≤ (n : Int) ∧ (n : Int) ≤ 16)) by omega]
    rw [addData_ok _ _ (by rw [hc]; omega) (by unfold maxScriptElementSize; omega), hc]

end Dmgd.Txscript
