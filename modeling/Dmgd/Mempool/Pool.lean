import Dmgd.Mempool.AdminThread

/-! The memory pool as a state machine over a set of unspent outputs. A transaction offered to
the pool is taken when it passes the sanity rules that need no chain state, none of its outputs
is in the set yet, and it passes both checks of the policy, `checkTransactionStandard` and
`checkInputsStandard` over the view of the set; its inputs are then spent and its outputs added.
The set, the sanity rules and these steps are not among the sources: they are modelled from the
spec (§4.3 and §4.5), the checks are those of `mempool/policy.go`.

Proved here: what one step does to the set. The thread tips over a run are in
`Mempool/ThreadTips`, the outputs a run spends in `Mempool/Spends`. -/

namespace Dmgd.Mempool

open Provautil Wire Txscript

/-! ### Sets of unspent outputs -/

/-- Modelled from the spec (§4.5): a set of unspent outputs, each outpoint once with the script
of its output. The policy reads nothing else of an output it spends. -/
structure UtxoSet where
  entries : List (OutPoint × List UInt8)
  nodup : (entries.map Prod.fst).Nodup

namespace UtxoSet

/-- The view `checkInputsStandard` reads from a set: an entry for every hash with an unspent
output, whose script at an index is empty when that output is not in the set. -/
def view (u : UtxoSet) : UtxoViewpoint :=
  ⟨fun h => if u.entries.any (fun e => e.1.hash = h) then
    some ⟨fun i => (u.entries.lookup ⟨h, i⟩).getD []⟩ else none⟩

/-- The number of unspent outputs with the script `s`. -/
def count (u : UtxoSet) (s : List UInt8) : Nat := u.entries.countP fun e => e.2 = s

/-- The outpoints of the set. -/
def keys (u : UtxoSet) : List OutPoint := u.entries.map Prod.fst

end UtxoSet

theorem lookup_eq_none {entries : List (OutPoint × List UInt8)} {k : OutPoint}
    (h : ∀ e ∈ entries, e.1 ≠ k) : entries.lookup k = none :=
  List.lookup_eq_none_iff.mpr fun e he => bne_iff_ne.mpr (Ne.symm (h e he))

theorem lookup_eq_some {entries : List (OutPoint × List UInt8)} {e : OutPoint × List UInt8}
    (hnd : (entries.map Prod.fst).Nodup) (he : e ∈ entries) : entries.lookup e.1 = some e.2 := by
  induction entries with
  | nil => cases he
  | cons e' entries ih =>
    obtain ⟨a, b⟩ := e'
    rw [List.map_cons, List.nodup_cons] at hnd
    rcases List.mem_cons.mp he with rfl | he
    · exact List.lookup_cons_self
    · have hne : e.1 ≠ a := fun h => hnd.1 (List.mem_map.mpr ⟨e, he, h⟩)
      simp only [List.lookup_cons, beq_false_of_ne hne]
      exact ih hnd.2 he

theorem mem_of_lookup_eq_some {entries : List (OutPoint × List UInt8)} {k : OutPoint}
    {v : List UInt8} (h : entries.lookup k = some v) : (k, v) ∈ entries := by
  obtain ⟨l₁, l₂, rfl, -⟩ := List.lookup_eq_some_iff.mp h
  exact List.mem_append_right _ (List.mem_cons_self _ _)

theorem spentPkScript_view (u : UtxoSet) (txIn : TxIn) :
    spentPkScript u.view txIn = (u.entries.lookup txIn.previousOutPoint).getD [] := by
  by_cases h : u.entries.any (fun e => e.1.hash = txIn.previousOutPoint.hash) = true
  · simp only [spentPkScript, UtxoSet.view, h, if_true]
  · rw [lookup_eq_none fun e he heq => h (List.any_eq_true.mpr ⟨e, he, by simp [heq]⟩)]
    simp only [spentPkScript, UtxoSet.view, h]
    rfl

/-- An input whose output is not in the set spends the empty script, which is not standard: the
view reads it so, whether the set has other outputs of its hash or none. -/
theorem mem_keys_of_standard {u : UtxoSet} {txIn : TxIn}
    (h : getScriptClass (spentPkScript u.view txIn) ≠ .nonStandardTy) :
    txIn.previousOutPoint ∈ u.keys := by
  rw [spentPkScript_view] at h
  cases hl : u.entries.lookup txIn.previousOutPoint with
  | none => rw [hl] at h; exact absurd rfl h
  | some s => exact List.mem_map.mpr ⟨_, mem_of_lookup_eq_some hl, rfl⟩

/-! ### A step of the pool -/

/-- Modelled from the spec (§4.5), `addOutputs`: the entries of a transaction's outputs from
output `i` on, output `i` at outpoint `(hash, i)`. -/
def outputEntries (hash : Hash) : Nat → List TxOut → List (OutPoint × List UInt8)
  | _, [] => []
  | i, txOut :: txOuts => (⟨hash, i.toUInt32⟩, txOut.pkScript) :: outputEntries hash (i + 1) txOuts

/-- Modelled from the spec (§4.5), `spend`: the entries no input of a transaction spends. -/
def unspentBy (txIns : List TxIn) (entries : List (OutPoint × List UInt8)) :
    List (OutPoint × List UInt8) :=
  entries.filter fun e => !txIns.any fun txIn => txIn.previousOutPoint = e.1

theorem mem_outputEntries {hash : Hash} {e : OutPoint × List UInt8} :
    ∀ {i txOuts}, e ∈ outputEntries hash i txOuts →
      ∃ j, i ≤ j ∧ j < i + txOuts.length ∧ e.1 = ⟨hash, j.toUInt32⟩
  | _, [], h => by cases h
  | i, _ :: _, h => by
    rcases List.mem_cons.mp h with rfl | h
    · exact ⟨i, le_rfl, by simp, rfl⟩
    · obtain ⟨j, hij, hj, he⟩ := mem_outputEntries h
      exact ⟨j, by omega, by simp only [List.length_cons]; omega, he⟩

/-- Below `2 ^ 32` outputs, no two outputs of a transaction share an outpoint. -/
theorem outputEntries_nodup (hash : Hash) : ∀ {i txOuts}, i + txOuts.length ≤ 2 ^ 32 →
    ((outputEntries hash i txOuts).map Prod.fst).Nodup
  | _, [], _ => List.nodup_nil
  | i, _ :: txOuts, h => by
    rw [List.length_cons] at h
    rw [outputEntries, List.map_cons, List.nodup_cons]
    refine ⟨fun hmem => ?_, outputEntries_nodup hash (by omega)⟩
    obtain ⟨e, he, heq⟩ := List.mem_map.mp hmem
    obtain ⟨j, hij, hj, hej⟩ := mem_outputEntries he
    have hidx := congrArg (fun o : OutPoint => o.index.toNat) (hej.symm.trans heq)
    simp only [toNat_toUInt32, Nat.mod_eq_of_lt (show j < 2 ^ 32 by omega),
      Nat.mod_eq_of_lt (show i < 2 ^ 32 by omega)] at hidx
    omega

namespace UtxoSet

theorem nodup_connect (u : UtxoSet) (tx : Tx) (hfresh : ∀ e ∈ u.entries, e.1.hash ≠ tx.hash)
    (hlen : tx.msgTx.txOut.length ≤ 2 ^ 32) :
    ((unspentBy tx.msgTx.txIn u.entries ++ outputEntries tx.hash 0 tx.msgTx.txOut).map
      Prod.fst).Nodup := by
  rw [List.map_append, List.nodup_append]
  refine ⟨u.nodup.sublist ((List.filter_sublist _).map _), outputEntries_nodup _ (by omega),
    fun k hk hk' => ?_⟩
  obtain ⟨e, he, rfl⟩ := List.mem_map.mp hk
  obtain ⟨e', he', hee'⟩ := List.mem_map.mp hk'
  obtain ⟨j, -, -, hj⟩ := mem_outputEntries he'
  exact hfresh e (List.mem_of_mem_filter he) (by rw [← hee', hj])

/-- Modelled from the spec (§4.5): the set after a transaction, its inputs spent and its
outputs added. -/
def connect (u : UtxoSet) (tx : Tx) (hfresh : ∀ e ∈ u.entries, e.1.hash ≠ tx.hash)
    (hlen : tx.msgTx.txOut.length ≤ 2 ^ 32) : UtxoSet :=
  ⟨unspentBy tx.msgTx.txIn u.entries ++ outputEntries tx.hash 0 tx.msgTx.txOut,
    u.nodup_connect tx hfresh hlen⟩

end UtxoSet

/-- An outpoint of the set after a transaction was in the set and no input spends it, or it is
an output of the transaction. -/
theorem mem_keys_of_connect {entries : List (OutPoint × List UInt8)} {txIns : List TxIn}
    {hash : Hash} {txOuts : List TxOut} {k : OutPoint}
    (h : k ∈ (unspentBy txIns entries ++ outputEntries hash 0 txOuts).map Prod.fst) :
    (k ∈ entries.map Prod.fst ∧ k ∉ txIns.map TxIn.previousOutPoint) ∨ k.hash = hash := by
  obtain ⟨e, he, rfl⟩ := List.mem_map.mp h
  rcases List.mem_append.mp he with he | he
  · obtain ⟨he, hns⟩ := List.mem_filter.mp he
    refine .inl ⟨List.mem_map_of_mem _ he, fun hk => ?_⟩
    obtain ⟨txIn, hmem, hk⟩ := List.mem_map.mp hk
    simp only [Bool.not_eq_true', List.any_eq_false] at hns
    exact hns txIn hmem (decide_eq_true hk)
  · obtain ⟨j, -, -, hj⟩ := mem_outputEntries he
    exact .inr (by rw [hj])

/-- Modelled from the spec (§4.3): the thread of an admin transaction, read from output 0 when
its script is a thread script. -/
def adminThreadOf (msgTx : MsgTx) : Option ThreadID :=
  match msgTx.txOut with
  | [] => none
  | txOut0 :: _ =>
    match parseScript txOut0.pkScript with
    | .error _ => none
    | .ok pops => if typeOfScript pops = .provaAdminTy then (extractThreadID pops).toOption else none

/-- Modelled from the spec (§4.3): the shapes of an Issue-thread transaction. With one input it
issues: at least one output after the thread output, each paying a positive value to a Prova
script. With two inputs it destroys: one output after the thread output, whose script starts
with `OP_RETURN`. That the value destroyed is the amount of input 1 needs the value of the
spent output, which the set does not keep, and is left out. -/
def issueThreadShape (msgTx : MsgTx) : Bool :=
  match msgTx.txIn, msgTx.txOut with
  | [_], _ :: txOut1 :: txOuts =>
    (txOut1 :: txOuts).all fun txOut =>
      decide (getScriptClass txOut.pkScript = .provaTy ∧ 0 < txOut.value)
  | [_, _], [_, txOut1] => decide (txOut1.pkScript.head? = some opReturn)
  | _, _ => false

/-- Modelled from the spec (§4.3; `CheckTransactionSanity` is not among the sources): the rules
on a transaction that need no chain state. It has an input and an output, no input appears
twice, each output value and their sum are amounts, in `[0, MaxAtoms]`, and an Issue-thread
transaction has one of the two Issue-thread shapes. The size rule and the rules of the Root and
Provision threads are not repeated here: `checkTransactionStandard` checks them (`checkAdminTx`
and the output loop), while it leaves the Issue thread to a TODO (policy.go:407-411). -/
def checkTransactionSanity (msgTx : MsgTx) : Bool :=
  !msgTx.txIn.isEmpty && !msgTx.txOut.isEmpty &&
    decide (msgTx.txIn.map TxIn.previousOutPoint).Nodup &&
    msgTx.txOut.all (fun txOut => 0 ≤ txOut.value && txOut.value ≤ maxAtoms) &&
    decide ((msgTx.txOut.map TxOut.value).sum ≤ maxAtoms) &&
    (adminThreadOf msgTx != some issueThread || issueThreadShape msgTx)

theorem checkTransactionSanity_eq_true {msgTx : MsgTx} :
    checkTransactionSanity msgTx = true ↔ msgTx.txIn ≠ [] ∧ msgTx.txOut ≠ [] ∧
      (msgTx.txIn.map TxIn.previousOutPoint).Nodup ∧
      (∀ txOut ∈ msgTx.txOut, 0 ≤ txOut.value ∧ txOut.value ≤ maxAtoms) ∧
      (msgTx.txOut.map TxOut.value).sum ≤ maxAtoms ∧
      (adminThreadOf msgTx = some issueThread → issueThreadShape msgTx = true) := by
  simp [checkTransactionSanity, List.isEmpty_iff, and_assoc, imp_iff_not_or]

/-- Modelled from the spec (§5, §6): the pool runs the script engine on every input, against the
script of the output it spends. -/
def checkScripts (c : Collaborators) (tx : Tx) (utxoView : UtxoViewpoint) : Bool :=
  tx.msgTx.txIn.enum.all fun (i, txIn) => c.verifyScript tx i (spentPkScript utxoView txIn)

/-- Modelled from the spec: a transaction offered to the memory pool, with the height and the
median time past of the chain at that moment. -/
structure Submission where
  tx : Tx
  height : UInt32
  medianTimePast : Int

section Pool

variable (ops : AdminOpcodes) (parsePubKey : List UInt8 → Bool) (c : Collaborators)
  (minRelayTxFee maxTxVersion : Int)

theorem txOut_length_le_of_standard {tx : Tx} {height : UInt32} {medianTimePast : Int}
    (h : checkTransactionStandard ops parsePubKey c tx height medianTimePast minRelayTxFee
      maxTxVersion = .ok ()) :
    tx.msgTx.txOut.length ≤ 2 ^ 32 := by
  have := checkTransactionStandard_size h
  have := tx.msgTx.txOut_length_le
  simp only [maxStandardTxSize] at *
  omega

/-- Modelled from the spec: the memory pool takes a transaction when it passes the sanity rules
(§4.3), no output of its hash is unspent yet, it passes `checkTransactionStandard`, then
`checkInputsStandard` over the set's view, and then the script engine on every input (§5, §6);
the set then spends its inputs and adds its outputs. -/
def acceptTransaction (u : UtxoSet) (sub : Submission) : Option UtxoSet :=
  if checkTransactionSanity sub.tx.msgTx then
    if hfresh : ∀ e ∈ u.entries, e.1.hash ≠ sub.tx.hash then
      match hstd : checkTransactionStandard ops parsePubKey c sub.tx sub.height sub.medianTimePast
          minRelayTxFee maxTxVersion with
      | .error _ => none
      | .ok () =>
        match checkInputsStandard c sub.tx u.view with
        | some (.ok ()) =>
          if checkScripts c sub.tx u.view then
            some (u.connect sub.tx hfresh
              (txOut_length_le_of_standard ops parsePubKey c minRelayTxFee maxTxVersion hstd))
          else none
        | _ => none
    else none
  else none

/-- The set after a run of offered transactions, each taken or turned away in turn. -/
def processTransactions (u : UtxoSet) : List Submission → UtxoSet
  | [] => u
  | sub :: subs => processTransactions ((acceptTransaction ops parsePubKey c minRelayTxFee
      maxTxVersion u sub).getD u) subs

variable {ops parsePubKey c minRelayTxFee maxTxVersion}

/-- What a step of the pool does: the transaction is sane, new, passes both checks and the
engine, and the set spends its inputs and adds its outputs. -/
theorem acceptTransaction_eq_some {u u' : UtxoSet} {sub : Submission}
    (h : acceptTransaction ops parsePubKey c minRelayTxFee maxTxVersion u sub = some u') :
    checkTransactionSanity sub.tx.msgTx = true ∧ (∀ e ∈ u.entries, e.1.hash ≠ sub.tx.hash) ∧
      checkTransactionStandard ops parsePubKey c sub.tx sub.height sub.medianTimePast
        minRelayTxFee maxTxVersion = .ok () ∧
      checkInputsStandard c sub.tx u.view = some (.ok ()) ∧ checkScripts c sub.tx u.view = true ∧
      u'.entries = unspentBy sub.tx.msgTx.txIn u.entries ++
        outputEntries sub.tx.hash 0 sub.tx.msgTx.txOut := by
  unfold acceptTransaction at h
  split_ifs at h with hsane hfresh hscripts <;> split at h <;> try cases h
  · next hstd =>
    split at h
    · next hinputs =>
      cases h
      exact ⟨hsane, hfresh, hstd, hinputs, hscripts, rfl⟩
    · cases h
  · split at h <;> cases h

/-- Every input of a transaction the pool takes spends an output of the set, and no two inputs
the same one: `checkInputsStandard` turns away an input whose output the view lacks. -/
theorem acceptTransaction_spends {u u' : UtxoSet} {sub : Submission}
    (h : acceptTransaction ops parsePubKey c minRelayTxFee maxTxVersion u sub = some u') :
    (sub.tx.msgTx.txIn.map TxIn.previousOutPoint).Nodup ∧
      ∀ k ∈ sub.tx.msgTx.txIn.map TxIn.previousOutPoint, k ∈ u.keys := by
  obtain ⟨hsane, -, -, hinputs, -, -⟩ := acceptTransaction_eq_some h
  refine ⟨(checkTransactionSanity_eq_true.mp hsane).2.2.1, fun k hk => ?_⟩
  obtain ⟨txIn, hmem, rfl⟩ := List.mem_map.mp hk
  rcases hout : sub.tx.msgTx.txOut with _ | ⟨txOut0, _⟩
  · simp [checkInputsStandard, hout] at hinputs
  have hloop : checkInputsLoop c u.view sub.tx.hash.toString
      (decide ((getAdminDetails sub.tx).1 ≥ 0)) txOut0.pkScript 0 sub.tx.msgTx.txIn false =
      some (.ok ()) := by
    simpa only [checkInputsStandard, hout] using hinputs
  exact mem_keys_of_standard (checkInputsLoop_ok hloop txIn hmem).standard

/-- An outpoint of the set after a step was in the set before and no input spent it, or it is
an output of the transaction. -/
theorem acceptTransaction_keys {u u' : UtxoSet} {sub : Submission} {k : OutPoint}
    (h : acceptTransaction ops parsePubKey c minRelayTxFee maxTxVersion u sub = some u')
    (hk : k ∈ u'.keys) :
    (k ∈ u.keys ∧ k ∉ sub.tx.msgTx.txIn.map TxIn.previousOutPoint) ∨ k.hash = sub.tx.hash := by
  obtain ⟨-, -, -, -, -, hu'⟩ := acceptTransaction_eq_some h
  rw [UtxoSet.keys, hu'] at hk
  exact mem_keys_of_connect hk

end Pool

/-- A set whose one unspent output is the Root thread tip that `rootSpend` spends. -/
def rootTipSet : UtxoSet := ⟨[(rootSpend.previousOutPoint, [0x00, 0xbb])], by decide⟩

end Dmgd.Mempool
