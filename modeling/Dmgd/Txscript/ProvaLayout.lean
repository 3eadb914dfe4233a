import Mathlib.Data.List.Nodup
import Dmgd.Txscript.Standard

/-! What `isGeneralProva` and `isProva` accept, said without their loop. Between `m` and `n`
stand the key pushes: a 20-byte push is a key hash, any other opcode that `isUint32` accepts a
key id, and any other opcode is passed over. `ValidKeys` is what the loop asks of them: every
key hash before every key id, every key id decoding, and no key id twice. `keyCountOf`
is the abstraction of the loop's counters: after a run over a valid prefix they are the
counts and the key ids of that prefix (`countKeys_keyCountOf`).

Proved: `isGeneralProva` holds exactly of the scripts of `GeneralProvaLayout`
(`isGeneralProva_iff`); `isProva` adds `m + 1 = n`. The loop counts key hashes only to keep
them below `m`, so the layout requires none, and none at `pops[1]`, where `ExtractPkScriptAddrs`
reads one. -/

namespace Dmgd.Txscript

/-! ### Key pushes -/

/-- A key-hash push: 20 bytes of data. -/
def isKeyHashPush (pop : ParsedOpcode) : Bool := pop.data.length = 20

/-- A key-id push: an opcode that `isUint32` accepts, with other than 20 bytes of data. -/
def isKeyIDPush (pop : ParsedOpcode) : Bool := !isKeyHashPush pop && isUint32 pop.opcode

/-- The key id of a key-id push, when it decodes. -/
def keyIDOf (pop : ParsedOpcode) : Option KeyID :=
  if isKeyIDPush pop then (asInt32 pop).toOption else none

/-- The key ids of a list of key pushes, in order. -/
def keyIDsOf (pops : List ParsedOpcode) : List KeyID := pops.filterMap keyIDOf

/-- What the loop of `isGeneralProva` accepts. -/
structure ValidKeys (pops : List ParsedOpcode) : Prop where
  hashes_first : pops.Pairwise fun a b => isKeyIDPush a → isKeyHashPush b = false
  decode : ∀ p ∈ pops, isKeyIDPush p → (keyIDOf p).isSome
  nodup : (keyIDsOf pops).Nodup

instance (pops : List ParsedOpcode) : Decidable (ValidKeys pops) :=
  decidable_of_iff
    ((pops.Pairwise fun a b => isKeyIDPush a → isKeyHashPush b = false) ∧
      (∀ p ∈ pops, isKeyIDPush p → (keyIDOf p).isSome) ∧ (keyIDsOf pops).Nodup)
    ⟨fun ⟨a, b, c⟩ => ⟨a, b, c⟩, fun ⟨a, b, c⟩ => ⟨a, b, c⟩⟩

/-- The counters of the loop after a run over `done`. -/
def keyCountOf (done : List ParsedOpcode) : KeyCount :=
  ⟨(keyIDsOf done).length, done.countP isKeyHashPush, (keyIDsOf done).reverse⟩

theorem keyIDOf_eq_some {pop : ParsedOpcode} {k : KeyID} :
    keyIDOf pop = some k ↔ isKeyIDPush pop ∧ asInt32 pop = .ok k := by
  unfold keyIDOf
  split <;> cases asInt32 pop <;> simp_all [Except.toOption]

theorem keyIDOf_of_not_keyID {pop : ParsedOpcode} (h : isKeyIDPush pop = false) :
    keyIDOf pop = none := by
  simp [keyIDOf, h]

theorem isKeyIDPush_of_hash {pop : ParsedOpcode} (h : isKeyHashPush pop = true) :
    isKeyIDPush pop = false := by
  simp [isKeyIDPush, h]

theorem keyIDsOf_append (a b : List ParsedOpcode) :
    keyIDsOf (a ++ b) = keyIDsOf a ++ keyIDsOf b := List.filterMap_append ..

@[simp] theorem keyIDsOf_singleton (pop : ParsedOpcode) : keyIDsOf [pop] = (keyIDOf pop).toList := by
  cases h : keyIDOf pop <;> simp [keyIDsOf, h]

/-- Among decoding key pushes, no key id is the same as no key-id push. -/
theorem keyIDsOf_eq_nil {done : List ParsedOpcode} (hv : ValidKeys done) :
    keyIDsOf done = [] ↔ ∀ q ∈ done, isKeyIDPush q = false := by
  rw [keyIDsOf, List.filterMap_eq_nil_iff]
  refine ⟨fun h q hq => ?_, fun h q hq => keyIDOf_of_not_keyID (h q hq)⟩
  by_contra hk
  simpa [h q hq] using hv.decode q hq (by simpa using hk)

/-- A prefix is valid, and one more push keeps it so exactly when the loop would take it. -/
theorem validKeys_append_singleton {done : List ParsedOpcode} {p : ParsedOpcode} :
    ValidKeys (done ++ [p]) ↔ ValidKeys done ∧
      (isKeyHashPush p → ∀ q ∈ done, isKeyIDPush q = false) ∧
      (isKeyIDPush p → ∃ k, keyIDOf p = some k ∧ k ∉ keyIDsOf done) := by
  constructor
  · rintro ⟨hpw, hdec, hnd⟩
    rw [List.pairwise_append] at hpw
    rw [keyIDsOf_append, List.nodup_append] at hnd
    refine ⟨⟨hpw.1, fun q hq => hdec q (List.mem_append_left _ hq), hnd.1⟩, fun hp q hq => ?_,
      fun hp => ?_⟩
    · by_contra hq'
      simp [hpw.2.2 q hq p (List.mem_singleton_self p) (by simpa using hq')] at hp
    · obtain ⟨k, hk⟩ := Option.isSome_iff_exists.mp (hdec p (by simp) hp)
      exact ⟨k, hk, fun hkd => hnd.2.2 hkd (by simp [hk])⟩
  · rintro ⟨hv, hh, hk⟩
    refine ⟨List.pairwise_append.mpr ⟨hv.hashes_first, List.pairwise_singleton _ _, ?_⟩, ?_, ?_⟩
    · intro a ha b hb hab
      rw [List.mem_singleton.mp hb]
      by_contra hp
      simp [hh (by simpa using hp) a ha] at hab
    · intro q hq hq'
      rcases List.mem_append.mp hq with hq | hq
      · exact hv.decode q hq hq'
      · obtain ⟨k, hk, -⟩ := hk (List.mem_singleton.mp hq ▸ hq')
        rw [List.mem_singleton.mp hq, hk]; rfl
    · rw [keyIDsOf_append, keyIDsOf_singleton, List.nodup_append]
      cases hp : keyIDOf p with
      | none => simp [hv.nodup]
      | some k =>
        obtain ⟨k', hk', hnot⟩ := hk (keyIDOf_eq_some.mp hp).1
        rw [hp, Option.some_inj] at hk'
        subst hk'
        simpa [hv.nodup] using hnot

/-- Validity passes to every sublist. -/
theorem ValidKeys.sublist {l₁ l₂ : List ParsedOpcode} (h : ValidKeys l₂) (hs : l₁.Sublist l₂) :
    ValidKeys l₁ :=
  ⟨h.hashes_first.sublist hs, fun q hq => h.decode q (hs.subset hq), h.nodup.sublist (hs.filterMap _)⟩

/-! ### The loop -/

theorem keyCountOf_append_singleton (done : List ParsedOpcode) (p : ParsedOpcode) :
    keyCountOf (done ++ [p]) =
      ⟨(keyIDsOf done).length + (keyIDOf p).toList.length,
        done.countP isKeyHashPush + (if isKeyHashPush p then 1 else 0),
        (keyIDOf p).toList ++ (keyIDsOf done).reverse⟩ := by
  cases h : keyIDOf p <;> simp [keyCountOf, keyIDsOf_append, List.countP_append, List.countP_cons, h]

/-- One step of the loop from the counters of a valid prefix: it fails exactly when the
longer prefix is not valid, and otherwise gives the longer prefix's counters. -/
theorem countKey_keyCountOf {done : List ParsedOpcode} (hv : ValidKeys done) (p : ParsedOpcode) :
    countKey (keyCountOf done) p =
      if ValidKeys (done ++ [p]) then some (keyCountOf (done ++ [p])) else none := by
  rw [keyCountOf_append_singleton]
  by_cases hh : isKeyHashPush p = true
  · -- a key hash: taken while no key id has been seen
    have h20 : p.data.length = 20 := by simpa [isKeyHashPush] using hh
    have hid := keyIDOf_of_not_keyID (isKeyIDPush_of_hash hh)
    simp only [validKeys_append_singleton, hv, hh, isKeyIDPush_of_hash hh, ← keyIDsOf_eq_nil hv,
      countKey, if_pos h20, keyCountOf, hid]
    by_cases hnil : keyIDsOf done = [] <;> simp [hnil]
  · by_cases hk : isKeyIDPush p = true
    · -- a key id: taken when it decodes and is new
      have h20 : ¬ p.data.length = 20 := by simpa [isKeyHashPush] using hh
      have hu : isUint32 p.opcode = true := by simp_all [isKeyIDPush]
      cases hp : asInt32 p with
      | error e =>
        have : ¬ ValidKeys (done ++ [p]) := fun h => by
          obtain ⟨k, hk', -⟩ := (validKeys_append_singleton.mp h).2.2 hk
          simp [keyIDOf_eq_some, hp] at hk'
        simp [countKey, h20, hu, hp, this]
      | ok k =>
        have hid : keyIDOf p = some k := keyIDOf_eq_some.mpr ⟨hk, hp⟩
        have hvalid : ValidKeys (done ++ [p]) ↔ k ∉ keyIDsOf done := by
          simp [validKeys_append_singleton, hv, hh, hk, hid]
        by_cases hmem : k ∈ keyIDsOf done <;> simp [countKey, h20, hu, hp, hvalid, hmem, hid, hh, keyCountOf]
    · -- any other opcode: passed over
      have h20 : ¬ p.data.length = 20 := by simpa [isKeyHashPush] using hh
      have hu : isUint32 p.opcode = false := by simp_all [isKeyIDPush]
      simp [validKeys_append_singleton, hv, hh, hk, countKey, h20, hu, keyCountOf,
        keyIDOf_of_not_keyID (Bool.of_not_eq_true hk)]

/-- A run of the loop from the counters of a valid prefix: it fails exactly when the whole
list is not valid, and otherwise gives the whole list's counters. -/
theorem countKeys_keyCountOf {done : List ParsedOpcode} (hv : ValidKeys done) (ps : List ParsedOpcode) :
    countKeys (keyCountOf done) ps =
      if ValidKeys (done ++ ps) then some (keyCountOf (done ++ ps)) else none := by
  induction ps generalizing done with
  | nil => simp [countKeys, hv]
  | cons p ps ih =>
    rw [countKeys, countKey_keyCountOf hv]
    by_cases hp : ValidKeys (done ++ [p])
    · simp only [if_pos hp, Option.some_bind, ih hp, List.append_assoc, List.singleton_append]
    · have : ¬ ValidKeys (done ++ p :: ps) := fun h =>
        hp (h.sublist ((List.singleton_sublist.mpr (List.mem_cons_self p ps)).append_left done))
      simp [hp, this]

/-- The loop of `isGeneralProva` succeeds exactly on valid key pushes, with their counts. -/
theorem countKeys_eq (ps : List ParsedOpcode) :
    countKeys ⟨0, 0, []⟩ ps = if ValidKeys ps then some (keyCountOf ps) else none :=
  @countKeys_keyCountOf [] ⟨.nil, by simp, .nil⟩ ps

/-! ### The script layout -/

/-- `nSigs`: the number `pops[0]` pushes. -/
def nSigsOf (pops : List ParsedOpcode) : Nat := asSmallInt (pops.getD 0 default).opcode

/-- `nKeys`: the number `pops[len(pops)-2]` pushes. -/
def nKeysOf (pops : List ParsedOpcode) : Nat :=
  asSmallInt (pops.getD (pops.length - 2) default).opcode

/-- The scripts `isGeneralProva` accepts: `m <key pushes> n OP_CHECKSAFEMULTISIG` with
small-int `m ≥ 2` and `n`, `n` key pushes between them, valid key pushes, fewer key hashes
than `m` and at least `m` key ids. -/
structure GeneralProvaLayout (pops : List ParsedOpcode) : Prop where
  length_ge : 6 ≤ pops.length
  m_smallInt : isSmallInt (pops.getD 0 default).opcode
  n_smallInt : isSmallInt (pops.getD (pops.length - 2) default).opcode
  checkSafeMultiSig : (pops.getD (pops.length - 1) default).opcode = opCheckSafeMultiSig
  two_le_m : 2 ≤ nSigsOf pops
  length_eq : pops.length = nKeysOf pops + 3
  valid : ValidKeys (keyPops pops)
  keyHashes_lt : (keyPops pops).countP isKeyHashPush < nSigsOf pops
  le_keyIDs : nSigsOf pops ≤ (keyIDsOf (keyPops pops)).length

theorem isGeneralProva_iff (pops : List ParsedOpcode) :
    isGeneralProva pops = true ↔ GeneralProvaLayout pops := by
  by_cases hv : ValidKeys (keyPops pops)
  · simp only [isGeneralProva, countKeys_eq, if_pos hv, Bool.if_false_left, Bool.and_eq_true,
      Bool.not_eq_true', Bool.not_eq_false, decide_eq_false_iff_not, Bool.not_eq_eq_eq_not,
      Bool.not_true, decide_eq_true_eq, keyCountOf, not_lt, not_le, ge_iff_le, ne_eq, not_not]
    constructor
    · rintro ⟨h1, h2, h3, h4, h5, h6, h8, h9, -⟩
      exact ⟨h1, h2, h3, h4, h5, by unfold nKeysOf; omega, hv, h8, h9⟩
    · rintro ⟨h1, h2, h3, h4, h5, h6, -, h8, h9⟩
      exact ⟨h1, h2, h3, h4, h5, by unfold nKeysOf at h6; omega, h8, h9, trivial⟩
  · simp only [isGeneralProva, countKeys_eq, if_neg hv, Bool.if_false_left, Bool.and_eq_true,
      Bool.and_false, Bool.false_eq_true, and_false, false_iff]
    exact fun h => hv h.valid

theorem asInt32_of_smallInt {pop : ParsedOpcode} (h : isSmallInt pop.opcode = true) :
    asInt32 pop = .ok (asSmallInt pop.opcode).toUInt32 := by
  simp [asInt32, h]

theorem toUInt32_eq_sub_one (a b : Nat) (ha : a < 2 ^ 32) (hb : b < 2 ^ 32) (h1 : 1 ≤ b) :
    a.toUInt32 = b.toUInt32 - 1 ↔ a + 1 = b := by
  have hle : (1 : UInt32) ≤ b.toUInt32 := by
    show 1 ≤ b.toUInt32.toNat; rw [toNat_toUInt32]; omega
  rw [show a.toUInt32 = b.toUInt32 - 1 ↔ a.toUInt32.toNat = (b.toUInt32 - 1).toNat from
    ⟨fun h => h ▸ rfl, UInt32.toNat.inj⟩, UInt32.toNat_sub_of_le _ _ hle, toNat_toUInt32,
    toNat_toUInt32]
  show _ = _ - 1 ↔ _
  omega

/-- `isProva` is `isGeneralProva` with `m = n - 1`; the common 2-of-3 case it tries first is
one instance. -/
theorem isProva_iff (pops : List ParsedOpcode) :
    isProva pops = true ↔ GeneralProvaLayout pops ∧ nSigsOf pops + 1 = nKeysOf pops := by
  by_cases hg : GeneralProvaLayout pops
  · have h6 := hg.length_ge
    have hsub := toUInt32_eq_sub_one (nSigsOf pops) (nKeysOf pops)
      (Nat.lt_trans (asSmallInt_lt _) (by norm_num)) (Nat.lt_trans (asSmallInt_lt _) (by norm_num))
      (by have := hg.length_eq; omega)
    simp only [isProva, if_neg (show ¬ pops.length < 6 by omega), (isGeneralProva_iff pops).mpr hg,
      Bool.not_true, Bool.false_eq_true, if_false, asInt32_of_smallInt hg.m_smallInt,
      asInt32_of_smallInt hg.n_smallInt, Except.toOption, Option.getD_some, hg, true_and]
    split_ifs with hc
    · obtain ⟨hl, h0, h4⟩ := hc
      simp only [nSigsOf, nKeysOf, hl, h0, show 6 - 2 = 4 from rfl, h4, true_iff]
      rfl
    · simpa [nSigsOf, nKeysOf] using hsub
  · have : isGeneralProva pops = false :=
      Bool.eq_false_iff.mpr fun h => hg ((isGeneralProva_iff pops).mp h)
    simp [isProva, this, hg]

/-! ### Classification -/

/-- A script of the layout does not start with `OP_RETURN`, so it is not null data. -/
theorem isNullData_of_layout {pops : List ParsedOpcode} (hg : GeneralProvaLayout pops) :
    isNullData pops = false := by
  have h0 : (pops.getD 0 default).opcode ≠ opReturn := fun h =>
    absurd (h ▸ hg.m_smallInt) (by decide)
  simp only [isNullData, h0, and_false, false_and, if_false, decide_False]

theorem typeOfScript_prova_cases (pops : List ParsedOpcode) :
    (typeOfScript pops = .provaTy → isProva pops = true) ∧
      (typeOfScript pops = .generalProvaTy → isGeneralProva pops = true) := by
  unfold typeOfScript
  split_ifs <;> simp_all

/-- Every script classified `ProvaTy` or `GeneralProvaTy` has the layout, and a `ProvaTy`
script has `m + 1 = n`. -/
theorem provaClass_layout (pops : List ParsedOpcode)
    (h : typeOfScript pops = .provaTy ∨ typeOfScript pops = .generalProvaTy) :
    GeneralProvaLayout pops ∧ (typeOfScript pops = .provaTy → nSigsOf pops + 1 = nKeysOf pops) := by
  obtain ⟨hp, hg⟩ := typeOfScript_prova_cases pops
  refine ⟨?_, fun h' => ((isProva_iff pops).mp (hp h')).2⟩
  rcases h with h | h
  · exact ((isProva_iff pops).mp (hp h)).1
  · exact (isGeneralProva_iff pops).mp (hg h)

/-- `ProvaTy` is exactly the layout with `m + 1 = n`. -/
theorem typeOfScript_eq_provaTy (pops : List ParsedOpcode) :
    typeOfScript pops = .provaTy ↔ GeneralProvaLayout pops ∧ nSigsOf pops + 1 = nKeysOf pops := by
  rw [← isProva_iff]
  refine ⟨(typeOfScript_prova_cases pops).1, fun hp => ?_⟩
  simp [typeOfScript, hp, isNullData_of_layout ((isProva_iff pops).mp hp).1]

/-- `GeneralProvaTy` is exactly the layout with `m + 1 ≠ n`. -/
theorem typeOfScript_eq_generalProvaTy (pops : List ParsedOpcode) :
    typeOfScript pops = .generalProvaTy ↔
      GeneralProvaLayout pops ∧ nSigsOf pops + 1 ≠ nKeysOf pops := by
  rw [← isGeneralProva_iff]
  by_cases hg : isGeneralProva pops = true
  · have hl := (isGeneralProva_iff pops).mp hg
    have hp : isProva pops = true ↔ nSigsOf pops + 1 = nKeysOf pops := by simp [isProva_iff, hl]
    by_cases hm : nSigsOf pops + 1 = nKeysOf pops <;>
      simp [typeOfScript, hg, hm, hp.mpr, isNullData_of_layout hl, hp]
  · exact ⟨fun h => absurd ((typeOfScript_prova_cases pops).2 h) hg, fun h => absurd h.1 hg⟩

end Dmgd.Txscript
