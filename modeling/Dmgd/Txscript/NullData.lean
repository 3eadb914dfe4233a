import Dmgd.Txscript.Builder
import Dmgd.Txscript.Standard

/-! `NullDataScript`, the builder of provably prunable outputs, against the classifier's
`isNullData`. The builder pushes `OP_RETURN` and then the data with `addData`, which turns
an empty payload and the single bytes `0x00` to `0x10` into small-int opcodes and `0x81` into
`OP_1NEGATE`. The classifier takes `OP_RETURN` and one push of at most 80 bytes whose opcode
is a small int or at most `OP_PUSHDATA4`.

Proved: for every payload of at most 80 bytes the builder succeeds, and its script is
`NullDataTy` exactly when the payload is not the single byte `0x81`; `OP_1NEGATE` is neither
a small int nor a data push. -/

namespace Dmgd.Txscript

/-- `NullDataScript`: `OP_RETURN` followed by the data, refused above `MaxDataCarrierSize`
bytes. -/
def nullDataScript (data : List UInt8) : Except ScriptError (List UInt8) :=
  if data.length > maxDataCarrierSize then
    .error ⟨.errTooMuchNullData,
      s!"data size {data.length} is larger than max allowed size {maxDataCarrierSize}"⟩
  else (ScriptBuilder.new.addOp opReturn |>.addData data).script

theorem nullDataScript_eq (data : List UInt8) (hd : data.length ≤ maxDataCarrierSize) :
    nullDataScript data = .ok (opReturn :: canonicalPush data) := by
  have hc := canonicalDataSize_eq data ▸ canonicalDataSize_le data
  have h80 : maxDataCarrierSize = 80 := rfl
  rw [nullDataScript, if_neg (by omega), ScriptBuilder.new, ScriptBuilder.addOp_ok [] _ (by decide),
    ScriptBuilder.addData_ok _ _ (by simp only [List.nil_append, List.length_singleton, maxScriptSize]; omega)
      (by simp only [maxScriptElementSize]; omega)]
  rfl

/-! ### The push of the payload -/

theorem lengthPop_data (data : List UInt8) : (lengthPop data).data = data := by
  simp only [lengthPop]; split_ifs <;> rfl

theorem lengthPop_opcode_le (data : List UInt8) : (lengthPop data).opcode ≤ opPushData4 := by
  simp only [lengthPop]
  split_ifs with h1
  · rw [uint8_le_iff, toNat_toUInt8, opData1_toNat]
    rw [opPushData1_toNat] at h1
    exact (Nat.mod_le _ _).trans (by simp only [opPushData4_toNat]; omega)
  all_goals dsimp only; decide

set_option maxRecDepth 20000 in
theorem isSmallInt_smallInt : ∀ b : UInt8, b ≠ 0 → b ≤ 16 → isSmallInt ((op1 - 1) + b) = true := by
  rw [forall_uint8]; decide

/-- What `isNullData` asks of the push after `OP_RETURN`. -/
def isNullDataPush (p : ParsedOpcode) : Bool :=
  (isSmallInt p.opcode || p.opcode ≤ opPushData4) && p.data.length ≤ maxDataCarrierSize

theorem isNullData_pair (p : ParsedOpcode) :
    isNullData [⟨opReturn, []⟩, p] = isNullDataPush p := by
  simp [isNullData, isNullDataPush]

/-- Every canonical push of at most 80 bytes is a null-data push, but that of `0x81`. -/
theorem isNullDataPush_canonicalPop (data : List UInt8) (hd : data.length ≤ maxDataCarrierSize) :
    isNullDataPush (canonicalPop data) = true ↔ data ≠ [0x81] := by
  match data with
  | [] => decide
  | [b] =>
    simp only [canonicalPop, ne_eq, List.cons.injEq, and_true]
    split_ifs with h0 h16 h81
    · subst h0; decide
    · have h81 : b ≠ 0x81 := by rintro rfl; exact absurd h16 (by decide)
      simp [isNullDataPush, isSmallInt_smallInt b h0 h16, h81]
    · subst h81; decide
    · simp [isNullDataPush, lengthPop_opcode_le, lengthPop_data, h81, maxDataCarrierSize]
  | b :: c :: rest =>
    simpa [canonicalPop, isNullDataPush, lengthPop_opcode_le, lengthPop_data] using hd

/-! ### Builder and classifier -/

/-- For every payload of at most 80 bytes, `NullDataScript` succeeds, and its script is
`NullDataTy` exactly when the payload is not the byte `0x81`. -/
theorem nullDataScript_class_iff (data : List UInt8) (hd : data.length ≤ maxDataCarrierSize) :
    ∃ s, nullDataScript data = .ok s ∧ (getScriptClass s = .nullDataTy ↔ data ≠ [0x81]) := by
  have hw := canonicalPush_eq data (lt_of_le_of_lt hd (by decide))
  have hs : opReturn :: canonicalPush data =
      [(⟨opReturn, []⟩ : ParsedOpcode), canonicalPop data].flatMap ParsedOpcode.bytes := by
    have hr : (⟨opReturn, []⟩ : ParsedOpcode).bytes = [opReturn] := rfl
    simp only [hw.1, List.flatMap_cons, hr, List.flatMap_nil, List.append_nil, List.singleton_append]
  refine ⟨_, nullDataScript_eq data hd, ?_⟩
  rw [← isNullDataPush_canonicalPop data hd, hs, getScriptClass, parseScript_flatMap_bytes]
  · simp only [typeOfScript, isNullData_pair]
    split_ifs <;> simp_all
  · intro p hp
    simp only [List.mem_cons, List.not_mem_nil, or_false] at hp
    rcases hp with rfl | rfl
    exacts [by decide, hw.2]

theorem nullDataScript_class_iff_testVector :
    (List.replicate 24 (1 : UInt8)).length ≤ maxDataCarrierSize ∧
      ∃ s, nullDataScript (List.replicate 24 1) = .ok s ∧
        (getScriptClass s = .nullDataTy ↔ List.replicate 24 (1 : UInt8) ≠ [0x81]) :=
  ⟨by decide, nullDataScript_class_iff _ (by decide)⟩

/-- The payload `0x81`: `NullDataScript` builds `OP_RETURN OP_1NEGATE`, which the classifier
calls non-standard. -/
theorem nullDataScript_opNegate :
    nullDataScript [0x81] = .ok [0x6a, 0x4f] ∧ getScriptClass [0x6a, 0x4f] = .nonStandardTy :=
  ⟨rfl, by decide⟩

end Dmgd.Txscript
