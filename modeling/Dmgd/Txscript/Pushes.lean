import Dmgd.Txscript.NullData

/-! Two functions of `txscript/standard.go` over scripts of pushes: `PushedData`, which reads
the data a script pushes, and `MultiSigScript`, which builds a bare multisig script with the
script builder.

Proved: `PushedData` reads back the items `AddData` pushed, in order, for every list of items
none of which is one byte from 0 to 16 or `0x81`; such a byte `AddData` pushes as a
small-integer opcode, which `PushedData` drops, and `[0]` comes back empty. `MultiSigScript`
builds its script for every list of 33-byte keys it has room for and every `nrequired` up to
their number, and `GetScriptClass` calls that script `NonStandardTy`: no class of this chain is
multisig, so the policy refuses an output paying to it. -/

namespace Dmgd.Txscript

/-! ### `PushedData` -/

/-- The loop body of `PushedData`: the data of a push, empty data for `OP_0`, nothing for
another opcode. An opcode carries data (Go's `pop.data != nil`) when its length is not 1; Go's
`nil` of `OP_0` and an empty slice are both `[]`. -/
def pushedDataOf (pop : ParsedOpcode) : Option (List UInt8) :=
  if opcodeLength pop.opcode ≠ 1 then some pop.data
  else if pop.opcode = op0 then some []
  else none

/-- `PushedData`: the data pushed by each opcode of the script, in order. -/
def pushedData (script : List UInt8) : Except ScriptError (List (List UInt8)) :=
  match parseScript script with
  | .error err => .error err
  | .ok pops => .ok (pops.filterMap pushedDataOf)

/-- What `PushedData` reads back of an item that `AddData` pushed. -/
def pushedItem : List UInt8 → Option (List UInt8)
  | [b] => if b = 0 then some [] else if b ≤ 16 ∨ b = 0x81 then none else some [b]
  | data => some data

set_option maxRecDepth 20000 in
theorem pushedDataOf_smallInt : ∀ b : UInt8, b ≠ 0 → b ≤ 16 →
    pushedDataOf ⟨(op1 - 1) + b, []⟩ = none := by
  rw [forall_uint8]; decide

theorem opcodeLength_lengthPop {data : List UInt8} (h0 : data ≠ []) :
    opcodeLength (lengthPop data).opcode ≠ 1 := by
  have hpos := List.length_pos.mpr h0
  obtain ⟨hl1, hl2, hl4⟩ := opcodeLength_pushData
  unfold lengthPop
  dsimp only
  split_ifs with h1
  · rw [opPushData1_toNat] at h1
    have hop : (opData1.toNat - 1 + data.length).toUInt8.toNat = data.length := by
      rw [toNat_toUInt8, opData1_toNat]; omega
    show opcodeLength (opData1.toNat - 1 + data.length).toUInt8 ≠ 1
    rw [opcodeLength_of_data _ (by rw [hop]; omega) (by rw [hop]; omega), hop]
    omega
  all_goals simp [hl1, hl2, hl4]

theorem pushedDataOf_lengthPop {data : List UInt8} (h0 : data ≠ []) :
    pushedDataOf (lengthPop data) = some data := by
  rw [pushedDataOf, if_pos (opcodeLength_lengthPop h0), lengthPop_data]

/-- What `PushedData` reads of the push `AddData` makes of an item. -/
theorem pushedDataOf_canonicalPop (data : List UInt8) :
    pushedDataOf (canonicalPop data) = pushedItem data := by
  match data with
  | [] => rfl
  | [b] =>
    by_cases h0 : b = 0
    · subst h0; rfl
    by_cases h16 : b ≤ 16
    · simp only [canonicalPop, pushedItem, if_neg h0, h16, true_or, if_true]
      exact pushedDataOf_smallInt b h0 h16
    by_cases h81 : b = 0x81
    · subst h81; rfl
    · simp only [canonicalPop, pushedItem, if_neg h0, if_neg h16, if_neg h81,
        if_neg (not_or.mpr ⟨h16, h81⟩)]
      exact pushedDataOf_lengthPop (List.cons_ne_nil _ _)
  | _ :: _ :: _ => exact pushedDataOf_lengthPop (List.cons_ne_nil _ _)

/-- `PushedData` of the pushes `AddData` makes of a list of items reads back what
`pushedItem` keeps of each. -/
theorem pushedData_flatMap_canonicalPush (ds : List (List UInt8))
    (h : ∀ d ∈ ds, d.length < 2 ^ 32) :
    pushedData (ds.flatMap canonicalPush) = .ok (ds.filterMap pushedItem) := by
  have hpush : ds.flatMap canonicalPush = (ds.map canonicalPop).flatMap ParsedOpcode.bytes := by
    rw [List.flatMap_map]
    exact List.flatMap_congr fun d hd => (canonicalPush_eq d (h d hd)).1
  have hwf : ∀ p ∈ ds.map canonicalPop, p.WellFormed := by
    rintro p hp
    obtain ⟨d, hd, rfl⟩ := List.mem_map.mp hp
    exact (canonicalPush_eq d (h d hd)).2
  rw [pushedData, hpush, parseScript_flatMap_bytes _ hwf]
  simp only [List.filterMap_map, Function.comp_def, pushedDataOf_canonicalPop]

/-- `PushedData` reads back every list of items `AddData` pushed, when no item is one byte
that `AddData` pushes as a small-integer opcode. -/
theorem pushedData_roundTrip (ds : List (List UInt8))
    (h : ∀ d ∈ ds, d.length < 2 ^ 32 ∧ ∀ b, d = [b] → 16 < b ∧ b ≠ 0x81) :
    pushedData (ds.flatMap canonicalPush) = .ok ds := by
  rw [pushedData_flatMap_canonicalPush ds fun d hd => (h d hd).1]
  congr 1
  refine (List.filterMap_congr fun d hd => ?_).trans (List.filterMap_some ds)
  match d, h d hd with
  | [b], ⟨_, hb⟩ =>
    obtain ⟨h16, h81⟩ := hb b rfl
    have h16' : ¬ b ≤ 16 := by
      rw [uint8_le_iff]; rw [uint8_lt_iff] at h16; exact Nat.not_le.mpr h16
    have h0 : b ≠ 0 := by rintro rfl; exact h16' (by decide)
    simp [pushedItem, h0, h16', h81]
  | [], _ => rfl
  | _ :: _ :: _, _ => rfl

theorem pushedData_roundTrip_keys :
    (∀ d ∈ [List.replicate 33 2, [], [0x11], [1, 2]], d.length < 2 ^ 32 ∧
      ∀ b : UInt8, d = [b] → 16 < b ∧ b ≠ 0x81) ∧
      pushedData ([List.replicate 33 2, [], [0x11], [1, 2]].flatMap canonicalPush) =
        .ok [List.replicate 33 2, [], [0x11], [1, 2]] :=
  have h : ∀ d ∈ [List.replicate 33 2, [], [0x11], [1, 2]], d.length < 2 ^ 32 ∧
      ∀ b : UInt8, d = [b] → 16 < b ∧ b ≠ 0x81 := by
    simp only [List.mem_cons, List.mem_singleton, List.not_mem_nil, or_false]
    rintro d (rfl | rfl | rfl | rfl) <;> refine ⟨by simp, ?_⟩ <;> simp
  ⟨h, pushedData_roundTrip _ h⟩

/-! ### `MultiSigScript` -/

/-- `MultiSigScript`, each key given by the bytes `ScriptAddress` gives of an `AddressPubKey`
(not among the sources): `nrequired`, a push of each key, the number of keys and
`OP_CHECKMULTISIG`, refused when fewer keys than `nrequired` are given. -/
def multiSigScript (pubkeys : List (List UInt8)) (nrequired : Int) :
    Except ScriptError (List UInt8) :=
  if (pubkeys.length : Int) < nrequired then
    .error ⟨.errTooManyRequiredSigs, s!"unable to generate multisig script with {nrequired} required signatures when there are only {pubkeys.length} public keys available"⟩
  else
    (((pubkeys.foldl ScriptBuilder.addData (ScriptBuilder.new.addInt64 nrequired)).addInt64
      pubkeys.length).addOp opCheckMultiSig).script

/-- A script of at least three opcodes, not starting with `OP_RETURN` and not ending with
`OP_CHECKSAFEMULTISIG`, is of no class. -/
theorem typeOfScript_of_not_prova {a c : ParsedOpcode} {mid : List ParsedOpcode}
    (hmid : mid ≠ []) (ha : a.opcode ≠ opReturn) (hc : c.opcode ≠ opCheckSafeMultiSig) :
    typeOfScript (a :: (mid ++ [c])) = .nonStandardTy := by
  have hlast : ((a :: (mid ++ [c])).getD ((a :: (mid ++ [c])).length - 1) default).opcode ≠
      opCheckSafeMultiSig := by
    simpa [List.getD_eq_getElem?_getD, List.getElem?_append_right] using hc
  have hlen : (a :: (mid ++ [c])).length ≠ 2 := by
    have := List.length_pos.mpr hmid
    simp only [List.length_cons, List.length_append, List.length_singleton]
    omega
  have hg : isGeneralProva (a :: (mid ++ [c])) = false := by
    simp only [isGeneralProva, hlast]
    split_ifs <;> rfl
  simp [typeOfScript, isNullData, ha, isProva, hg, isProvaAdmin, hmid]

/-- A push of a number below `2 ^ 32` is not `OP_RETURN`. -/
theorem int64Pop_ne_opReturn (n : Nat) (hn : n < 2 ^ 32) : (int64Pop n).opcode ≠ opReturn := by
  have h := (int64Pop_props n hn).2.1
  intro heq
  rw [heq] at h
  exact absurd h (by decide)

theorem canonicalPush_key {k : List UInt8} (hk : k.length = 33) :
    (canonicalPush k).length = 34 ∧ k.length ≤ maxScriptElementSize := by
  refine ⟨?_, by rw [hk]; decide⟩
  match k, hk with
  | _ :: _ :: k', hk =>
    have hk' : k'.length = 31 := by simp only [List.length_cons] at hk; omega
    simp [canonicalPush, lengthPush, hk', opPushData1_toNat]

theorem length_flatMap_canonicalPush_keys :
    ∀ {pubkeys : List (List UInt8)}, (∀ k ∈ pubkeys, k.length = 33) →
      (pubkeys.flatMap canonicalPush).length = 34 * pubkeys.length
  | [], _ => rfl
  | k :: pubkeys, hkeys => by
    rw [List.flatMap_cons, List.length_append, List.length_cons,
      (canonicalPush_key (hkeys k (List.mem_cons_self _ _))).1,
      length_flatMap_canonicalPush_keys fun k hk => hkeys k (List.mem_cons_of_mem _ hk)]
    omega

/-- `AddData` of 33-byte keys, with room, appends their pushes. -/
theorem foldl_addData_keys (bytes : List UInt8) :
    ∀ {pubkeys : List (List UInt8)}, (∀ k ∈ pubkeys, k.length = 33) →
      bytes.length + 34 * pubkeys.length ≤ maxScriptSize →
      pubkeys.foldl ScriptBuilder.addData ⟨bytes, none⟩ =
        ⟨bytes ++ pubkeys.flatMap canonicalPush, none⟩
  | [], _, _ => by simp
  | k :: pubkeys, hkeys, hroom => by
    obtain ⟨h34, hel⟩ := canonicalPush_key (hkeys k (List.mem_cons_self _ _))
    rw [List.length_cons] at hroom
    rw [List.foldl_cons, ScriptBuilder.addData_ok _ _ (by omega) hel,
      foldl_addData_keys _ (fun k hk => hkeys k (List.mem_cons_of_mem _ hk))
        (by rw [List.length_append, h34]; omega), List.flatMap_cons, List.append_assoc]

/-- The opcodes of `MultiSigScript`, each well formed: `nrequired`, the key pushes, the number of
keys and `OP_CHECKMULTISIG`. -/
theorem multiSigPops_wellFormed {pubkeys : List (List UInt8)} {nrequired : Nat}
    (hkeys : ∀ k ∈ pubkeys, k.length = 33) (hn : nrequired ≤ pubkeys.length)
    (hroom : 34 * pubkeys.length + 13 ≤ maxScriptSize) :
    ∀ p ∈ int64Pop nrequired ::
      ((pubkeys.map canonicalPop ++ [int64Pop pubkeys.length]) ++ [⟨opCheckMultiSig, []⟩]),
      p.WellFormed := by
  rw [show maxScriptSize = 10000 from rfl] at hroom
  simp only [List.forall_mem_cons, List.forall_mem_append, List.forall_mem_map,
    List.not_mem_nil, false_implies, implies_true, and_true]
  exact ⟨(int64Pop_props _ (by omega)).1,
    ⟨fun k hk => (canonicalPush_eq k (by rw [hkeys k hk]; omega)).2,
      (int64Pop_props _ (by omega)).1⟩, by decide⟩

/-- With 33-byte keys and room, `MultiSigScript` builds the bytes of those opcodes. -/
theorem multiSigScript_eq_ok {pubkeys : List (List UInt8)} {nrequired : Nat}
    (hkeys : ∀ k ∈ pubkeys, k.length = 33) (hn : nrequired ≤ pubkeys.length)
    (hroom : 34 * pubkeys.length + 13 ≤ maxScriptSize) :
    multiSigScript pubkeys nrequired = .ok ((int64Pop nrequired ::
      ((pubkeys.map canonicalPop ++ [int64Pop pubkeys.length]) ++ [⟨opCheckMultiSig, []⟩])).flatMap
        ParsedOpcode.bytes) := by
  have hmax : maxScriptSize = 10000 := rfl
  have hbytes : ∀ n : Nat, n < 2 ^ 32 → (int64Pop n).bytes.length ≤ 6 := fun n hn => by
    have h := int64Pop_props n hn
    rw [ParsedOpcode.bytes_of_pos (opcodeLength_pos_of_isUint32 _ h.2.1), List.length_cons]
    omega
  have h1 := hbytes nrequired (by omega)
  have h2 := hbytes pubkeys.length (by omega)
  have hk := length_flatMap_canonicalPush_keys hkeys
  have hpush : pubkeys.flatMap canonicalPush =
      (pubkeys.map canonicalPop).flatMap ParsedOpcode.bytes := by
    rw [List.flatMap_map]
    exact List.flatMap_congr fun k hk => (canonicalPush_eq k (by rw [hkeys k hk]; omega)).1
  rw [multiSigScript, if_neg (by omega), ScriptBuilder.new,
    ScriptBuilder.addInt64_eq [] _ (by omega) (by simp only [List.length_nil]; omega),
    foldl_addData_keys _ hkeys (by rw [List.nil_append]; omega),
    ScriptBuilder.addInt64_eq _ _ (by omega) (by simp only [List.length_append, List.length_nil]; omega),
    ScriptBuilder.addOp_ok _ _ (by simp only [List.length_append, List.length_nil]; omega)]
  simp only [ScriptBuilder.script, List.flatMap_cons, List.flatMap_append, hpush,
    List.nil_append, List.append_assoc]
  rfl

/-- For every list of 33-byte keys that fits in a script and every `nrequired` up to their
number, `MultiSigScript` builds its script, and the script is `NonStandardTy`. -/
theorem multiSigScript_nonStandard (pubkeys : List (List UInt8)) (nrequired : Nat)
    (hkeys : ∀ k ∈ pubkeys, k.length = 33) (hn : nrequired ≤ pubkeys.length)
    (hroom : 34 * pubkeys.length + 13 ≤ maxScriptSize) :
    ∃ script, multiSigScript pubkeys nrequired = .ok script ∧
      getScriptClass script = .nonStandardTy := by
  refine ⟨_, multiSigScript_eq_ok hkeys hn hroom, ?_⟩
  rw [getScriptClass, parseScript_flatMap_bytes _ (multiSigPops_wellFormed hkeys hn hroom)]
  have hlen : pubkeys.length < 2 ^ 32 := by
    rw [show maxScriptSize = 10000 from rfl] at hroom; omega
  exact typeOfScript_of_not_prova (by simp) (int64Pop_ne_opReturn _ (by omega)) (by decide)

theorem multiSigScript_nonStandard_twoKeys :
    (∀ k ∈ [List.replicate 33 (2 : UInt8), List.replicate 33 3], k.length = 33) ∧ 1 ≤ 2 ∧
      34 * 2 + 13 ≤ maxScriptSize ∧
      ∃ script, multiSigScript [List.replicate 33 2, List.replicate 33 3] (1 : Nat) = .ok script ∧
        getScriptClass script = .nonStandardTy :=
  have h : ∀ k ∈ [List.replicate 33 (2 : UInt8), List.replicate 33 3], k.length = 33 := by
    simp only [List.mem_cons, List.mem_singleton, List.not_mem_nil, or_false]
    rintro k (rfl | rfl) <;> rfl
  ⟨h, by decide, by decide, multiSigScript_nonStandard _ 1 h (by decide) (by decide)⟩

end Dmgd.Txscript
