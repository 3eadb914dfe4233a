import Dmgd.Mempool.Pool

/-! The admin threads in the memory pool of `Mempool/Pool`.

Proved: over every run of offered transactions, the number of unspent outputs that carry each
admin thread script stays the same, so a thread with one tip keeps exactly one; a transaction the
pool takes with a thread script at output 0 moves that thread's tip from the output its input 0
spends to its own output 0, and a sane, standard one-input transaction that spends the only tip
with an even signature script is taken. The sanity rule of one input at least is needed:
`checkInputsStandard` asks for the thread spend pass by pass, and a transaction without inputs
makes no pass. -/

namespace Dmgd.Mempool

open Provautil Wire Txscript

/-! ### What the two checks leave of a transaction -/

/-- A transaction with inputs that passes both checks carries a thread script at most at
output 0 and spends one at most from input 0; when either holds, both do, with the same
script. -/
theorem checkStandard_threadShape {ops : AdminOpcodes} {parsePubKey : List UInt8 → Bool}
    {c : Collaborators} {tx : Tx} {utxoView : UtxoViewpoint} {height : UInt32}
    {medianTimePast minRelayTxFee maxTxVersion : Int} {txIn0 : TxIn} {txIns : List TxIn}
    {txOut0 : TxOut} {txOuts : List TxOut}
    (hin : tx.msgTx.txIn = txIn0 :: txIns) (hout : tx.msgTx.txOut = txOut0 :: txOuts)
    (hstd : checkTransactionStandard ops parsePubKey c tx height medianTimePast minRelayTxFee
      maxTxVersion = .ok ())
    (hinputs : checkInputsStandard c tx utxoView = some (.ok ())) :
    (∀ txOut ∈ txOuts, getScriptClass txOut.pkScript ≠ .provaAdminTy) ∧
      (∀ txIn ∈ txIns, getScriptClass (spentPkScript utxoView txIn) ≠ .provaAdminTy) ∧
      (getScriptClass txOut0.pkScript = .provaAdminTy ∨
          getScriptClass (spentPkScript utxoView txIn0) = .provaAdminTy →
        spentPkScript utxoView txIn0 = txOut0.pkScript) := by
  obtain ⟨-, n, houts, -, -⟩ := checkTransactionStandard_ok hstd
  rw [hout] at houts
  obtain ⟨_, -, hrest⟩ := checkOutputs_cons_ok houts
  have hallowOuts := (checkOutputs_ok hrest).1
  have hloop : checkInputsLoop c utxoView tx.hash.toString (decide ((getAdminDetails tx).1 ≥ 0))
      txOut0.pkScript 0 (txIn0 :: txIns) false = some (.ok ()) := by
    simpa only [checkInputsStandard, hout, hin] using hinputs
  obtain ⟨_, hstep0, hrestIn⟩ := checkInputsLoop_cons_ok hloop
  obtain ⟨hallowIn0, hforce, hset⟩ := checkInput_ok hstep0
  -- output 0 is a thread script exactly when `GetAdminDetails` reads a thread id
  have hthread : getScriptClass txOut0.pkScript = .provaAdminTy ↔ 0 ≤ (getAdminDetails tx).1 := by
    refine ⟨fun h0 => getAdminDetailsMsgTx_nonneg_of hout h0 fun o ho =>
      parseScript_of_ne_nonStandardTy (hallowOuts o ho).standard, fun ht0 => ?_⟩
    obtain ⟨_, _, pops, hout', hp, hty, -⟩ := getAdminDetailsMsgTx_nonneg ht0
    rw [hout] at hout'
    obtain ⟨rfl, -⟩ := List.cons.inj hout'
    simp only [getScriptClass, hp, hty]
  -- and so is the script input 0 spends
  have hspend : getScriptClass (spentPkScript utxoView txIn0) = .provaAdminTy ↔
      0 ≤ (getAdminDetails tx).1 :=
    ⟨fun h => by simpa using (hallowIn0.admin h).2.1,
      fun h => (hset (hforce (by simpa using h))).resolve_left Bool.false_ne_true⟩
  refine ⟨fun o ho h => absurd ((hallowOuts o ho).admin_first h) (Nat.succ_ne_zero 0),
    fun i hi h => absurd ((checkInputsLoop_ok hrestIn i hi).admin h).1 (Nat.succ_ne_zero 0),
    fun h => ?_⟩
  have ht0 : 0 ≤ (getAdminDetails tx).1 := h.elim hthread.mp hspend.mp
  have hspent := hspend.mpr ht0
  exact (eq_of_provaAdminTy (hthread.mpr ht0) hspent (hallowIn0.admin hspent).2.2.1).symm

theorem ne_nil_of_provaAdminTy {s : List UInt8} (h : getScriptClass s = .provaAdminTy) : s ≠ [] := by
  rcases (getScriptClass_eq_provaAdminTy s).mp h with rfl | rfl | rfl | rfl <;> simp

/-! ### Thread tips over a run -/

theorem filter_outputEntries_eq_nil {hash : Hash} {s : List UInt8} :
    ∀ {i txOuts}, (∀ txOut ∈ txOuts, txOut.pkScript ≠ s) →
      (outputEntries hash i txOuts).filter (fun e => e.2 = s) = []
  | _, [], _ => rfl
  | _, _ :: _, h => by
    rw [List.forall_mem_cons] at h
    simp only [outputEntries, List.filter_cons, h.1, decide_False, if_false]
    exact filter_outputEntries_eq_nil h.2

/-- Of the outputs of the set with a thread script `s`, a transaction whose inputs after input 0
spend no thread script spends exactly the one input 0 spends. -/
theorem spends_threadEntry {u : UtxoSet} {s : List UInt8} {txIn0 : TxIn} {txIns : List TxIn}
    (hs : getScriptClass s = .provaAdminTy)
    (hins : ∀ txIn ∈ txIns, getScriptClass (spentPkScript u.view txIn) ≠ .provaAdminTy) :
    ∀ e ∈ u.entries,
      (decide (e.2 = s) && !((txIn0 :: txIns).any fun txIn => txIn.previousOutPoint = e.1)) =
        decide (e.2 = s ∧ e.1 ≠ txIn0.previousOutPoint) := by
  intro e he
  rw [List.any_cons]
  by_cases h0 : e.1 = txIn0.previousOutPoint
  · simp [h0]
  by_cases hes : e.2 = s
  · have hrest : (txIns.any fun txIn => txIn.previousOutPoint = e.1) = false := by
      refine List.any_eq_false.mpr fun txIn hmem hk => hins txIn hmem ?_
      rw [spentPkScript_view, of_decide_eq_true hk, lookup_eq_some u.nodup he,
        Option.getD_some, hes, hs]
    simp [hrest, hes, h0, Ne.symm h0]
  · simp [hes]

/-- When output 0 carries a thread script or input 0 spends one, and both are then the same
script, the set holds `s` at the output input 0 spends exactly when output 0 carries `s`. -/
theorem lookup_threadEntry_iff {u : UtxoSet} {s : List UInt8} {txIn0 : TxIn} {txOut0 : TxOut}
    (hs : getScriptClass s = .provaAdminTy)
    (hsame : getScriptClass txOut0.pkScript = .provaAdminTy ∨
        getScriptClass (spentPkScript u.view txIn0) = .provaAdminTy →
      spentPkScript u.view txIn0 = txOut0.pkScript) :
    u.entries.lookup txIn0.previousOutPoint = some s ↔ txOut0.pkScript = s := by
  have hsp := spentPkScript_view u txIn0
  constructor
  · intro hl
    rw [hl, Option.getD_some] at hsp
    rw [← hsame (.inr (by rw [hsp]; exact hs)), hsp]
  · intro ho
    have h1 := hsame (.inl (by rw [ho]; exact hs))
    rw [ho, hsp] at h1
    cases hl : u.entries.lookup txIn0.previousOutPoint with
    | none => rw [hl] at h1; exact absurd h1.symm (ne_nil_of_provaAdminTy hs)
    | some s' => rw [hl, Option.getD_some] at h1; rw [h1]

section Pool

variable {ops : AdminOpcodes} {parsePubKey : List UInt8 → Bool} {c : Collaborators}
  {minRelayTxFee maxTxVersion : Int}

/-- What a step of the pool does to the outputs of a thread script `s`: the output input 0
spends goes, and output 0 of the transaction comes, exactly when it has the script `s`; the
output input 0 spends has the script `s` exactly then too. -/
theorem acceptTransaction_threadEntries {u u' : UtxoSet} {sub : Submission} {s : List UInt8}
    (h : acceptTransaction ops parsePubKey c minRelayTxFee maxTxVersion u sub = some u')
    (hs : getScriptClass s = .provaAdminTy) :
    ∃ txIn0 txIns txOut0 txOuts, sub.tx.msgTx.txIn = txIn0 :: txIns ∧
      sub.tx.msgTx.txOut = txOut0 :: txOuts ∧
      (u.entries.lookup txIn0.previousOutPoint = some s ↔ txOut0.pkScript = s) ∧
      u'.entries.filter (fun e => e.2 = s) =
        u.entries.filter (fun e => e.2 = s ∧ e.1 ≠ txIn0.previousOutPoint) ++
          if txOut0.pkScript = s then [(⟨sub.tx.hash, 0⟩, s)] else [] := by
  obtain ⟨hsane, -, hstd, hinputs, -, hu'⟩ := acceptTransaction_eq_some h
  obtain ⟨txIn0, txIns, hin⟩ :=
    List.exists_cons_of_ne_nil (checkTransactionSanity_eq_true.mp hsane).1
  obtain ⟨txOut0, txOuts, hout⟩ : ∃ txOut0 txOuts, sub.tx.msgTx.txOut = txOut0 :: txOuts := by
    rcases hout : sub.tx.msgTx.txOut with _ | ⟨txOut0, txOuts⟩
    · simp [checkInputsStandard, hout] at hinputs
    · exact ⟨_, _, rfl⟩
  obtain ⟨houts, hins, hsame⟩ := checkStandard_threadShape hin hout hstd hinputs
  refine ⟨txIn0, txIns, txOut0, txOuts, hin, hout, lookup_threadEntry_iff hs hsame, ?_⟩
  rw [hu', List.filter_append, unspentBy, hin, List.filter_filter,
    List.filter_congr (spends_threadEntry hs hins), hout,
    outputEntries, List.filter_cons, filter_outputEntries_eq_nil fun o ho hos =>
      houts o ho (by rw [hos]; exact hs)]
  by_cases h0 : txOut0.pkScript = s
  · simp only [h0, decide_True, if_true]
    rfl
  · simp only [h0, decide_False, Bool.false_eq_true, if_false]

theorem countP_at {entries : List (OutPoint × List UInt8)} (hnd : (entries.map Prod.fst).Nodup)
    (k : OutPoint) (s : List UInt8) :
    entries.countP (fun e => decide (e.2 = s) && decide (e.1 = k)) =
      if entries.lookup k = some s then 1 else 0 := by
  induction entries with
  | nil => rfl
  | cons e entries ih =>
    obtain ⟨a, b⟩ := e
    rw [List.map_cons, List.nodup_cons] at hnd
    rw [List.countP_cons, ih hnd.2]
    by_cases hk : k = a
    · subst hk
      have hnone : entries.lookup k = none :=
        lookup_eq_none fun e' he' heq => hnd.1 (List.mem_map.mpr ⟨e', he', heq⟩)
      simp [List.lookup_cons, hnone]
    · simp [List.lookup_cons, beq_false_of_ne hk, Ne.symm hk]

/-- A step of the pool keeps the number of unspent outputs of every thread script. -/
theorem acceptTransaction_count {u u' : UtxoSet} {sub : Submission} {s : List UInt8}
    (h : acceptTransaction ops parsePubKey c minRelayTxFee maxTxVersion u sub = some u')
    (hs : getScriptClass s = .provaAdminTy) :
    u'.count s = u.count s := by
  obtain ⟨txIn0, -, txOut0, -, -, -, hlookup, hfilter⟩ := acceptTransaction_threadEntries h hs
  have hsplit := List.countP_eq_countP_filter_add u.entries (fun e => e.2 = s)
    (fun e => e.1 = txIn0.previousOutPoint)
  rw [List.countP_filter, List.countP_filter, countP_at u.nodup] at hsplit
  have hrest : (u.entries.filter fun e => e.2 = s ∧ e.1 ≠ txIn0.previousOutPoint).length =
      u.entries.countP (fun e => decide (e.2 = s) && !decide (e.1 = txIn0.previousOutPoint)) := by
    rw [List.countP_eq_length_filter]
    congr 1
    exact List.filter_congr fun e _ => by simp
  unfold UtxoSet.count
  rw [List.countP_eq_length_filter, hfilter, List.length_append, hrest, hsplit]
  by_cases h0 : txOut0.pkScript = s
  · simp [h0, hlookup.mpr h0]
    omega
  · simp [h0, mt hlookup.mp h0]

/-- Over every run of offered transactions, the pool keeps the number of unspent outputs of each
thread script: a thread with one tip keeps exactly one, and no thread gains a tip. -/
theorem processTransactions_count (u : UtxoSet) (subs : List Submission) {s : List UInt8}
    (hs : getScriptClass s = .provaAdminTy) :
    (processTransactions ops parsePubKey c minRelayTxFee maxTxVersion u subs).count s =
      u.count s := by
  induction subs generalizing u with
  | nil => rfl
  | cons sub subs ih =>
    rw [processTransactions, ih]
    cases h : acceptTransaction ops parsePubKey c minRelayTxFee maxTxVersion u sub with
    | none => rfl
    | some u' => exact acceptTransaction_count h hs

/-- On a thread with one tip, that tip is the set's only output with the thread's script. -/
theorem filter_eq_of_count_one {u : UtxoSet} {k : OutPoint} {s : List UInt8}
    (hone : u.count s = 1) (hmem : (k, s) ∈ u.entries) :
    u.entries.filter (fun e => e.2 = s) = [(k, s)] := by
  obtain ⟨a, ha⟩ := List.length_eq_one.mp
    (show (u.entries.filter fun e => e.2 = s).length = 1 by
      rw [← List.countP_eq_length_filter]; exact hone)
  have hk : (k, s) ∈ u.entries.filter (fun e => e.2 = s) := List.mem_filter.mpr ⟨hmem, by simp⟩
  rw [ha, List.mem_singleton] at hk
  rw [ha, hk]

/-- On a thread with one tip, a transaction the pool takes with the thread's script at output 0
spends that tip from input 0, and its own output 0 becomes the thread's only tip. -/
theorem acceptTransaction_tips {u u' : UtxoSet} {sub : Submission} {s : List UInt8}
    {txOut0 : TxOut} {txOuts : List TxOut}
    (h : acceptTransaction ops parsePubKey c minRelayTxFee maxTxVersion u sub = some u')
    (hs : getScriptClass s = .provaAdminTy) (hone : u.count s = 1)
    (hout : sub.tx.msgTx.txOut = txOut0 :: txOuts) (h0 : txOut0.pkScript = s) :
    ∃ txIn0 txIns, sub.tx.msgTx.txIn = txIn0 :: txIns ∧ (txIn0.previousOutPoint, s) ∈ u.entries ∧
      u'.entries.filter (fun e => e.2 = s) = [(⟨sub.tx.hash, 0⟩, s)] := by
  obtain ⟨txIn0, txIns, txOut0', txOuts', hin, hout', hlookup, hfilter⟩ :=
    acceptTransaction_threadEntries h hs
  obtain ⟨rfl, -⟩ := List.cons.inj (hout'.symm.trans hout)
  -- the one tip is the output input 0 spends
  have hmem := mem_of_lookup_eq_some (hlookup.mpr h0)
  have htip := filter_eq_of_count_one hone hmem
  have hrest : u.entries.filter (fun e => e.2 = s ∧ e.1 ≠ txIn0.previousOutPoint) = [] := by
    refine List.eq_nil_iff_forall_not_mem.mpr fun e he => ?_
    obtain ⟨he, hes⟩ := List.mem_filter.mp he
    simp only [decide_eq_true_eq] at hes
    have : e ∈ u.entries.filter (fun e => e.2 = s) := List.mem_filter.mpr ⟨he, by simp [hes.1]⟩
    rw [htip, List.mem_singleton] at this
    exact hes.2 (by rw [this])
  exact ⟨txIn0, txIns, hin, hmem, by rw [hfilter, hrest, if_pos h0, List.nil_append]⟩

/-- On a thread with one tip, a transaction the pool takes with the thread's script at output 0
spends that tip from input 0 and leaves its own output 0 the thread's only tip. -/
theorem acceptTransaction_moveTip {u u' : UtxoSet} {sub : Submission} {s : List UInt8}
    {txOut0 : TxOut} {txOuts : List TxOut}
    (h : acceptTransaction ops parsePubKey c minRelayTxFee maxTxVersion u sub = some u')
    (hs : getScriptClass s = .provaAdminTy) (hone : u.count s = 1)
    (hout : sub.tx.msgTx.txOut = txOut0 :: txOuts) (h0 : txOut0.pkScript = s) :
    ∃ txIn0 txIns, sub.tx.msgTx.txIn = txIn0 :: txIns ∧
      u.entries.filter (fun e => e.2 = s) = [(txIn0.previousOutPoint, s)] ∧
      u'.entries.filter (fun e => e.2 = s) = [(⟨sub.tx.hash, 0⟩, s)] := by
  obtain ⟨txIn0, txIns, hin, hmem, hnew⟩ := acceptTransaction_tips h hs hone hout h0
  exact ⟨txIn0, txIns, hin, filter_eq_of_count_one hone hmem, hnew⟩

end Pool

/-! ### The Root thread in the pool -/

/-- `rootTipSet` after `rootAdminTx`: its two outputs. -/
def rootTipSet' : UtxoSet :=
  ⟨[(⟨rootAdminTx.hash, 0⟩, [0x00, 0xbb]),
    (⟨rootAdminTx.hash, 1⟩, [0x6a, 0x22, 3] ++ List.replicate 33 2)], by decide⟩

theorem processTransactions_count_rootAdminTx :
    getScriptClass [0x00, 0xbb] = .provaAdminTy ∧
      (processTransactions ⟨1, 2, 3, 4, 17, 18, 19, 20⟩ (fun _ => true) permissiveCollaborators 0 1
        rootTipSet [⟨rootAdminTx, 0, 0⟩, ⟨rootAdminTx, 0, 0⟩]).count [0x00, 0xbb] =
        rootTipSet.count [0x00, 0xbb] :=
  ⟨by decide, processTransactions_count _ _ (by decide)⟩

theorem acceptTransaction_moveTip_rootAdminTx :
    acceptTransaction ⟨1, 2, 3, 4, 17, 18, 19, 20⟩ (fun _ => true) permissiveCollaborators 0 1
        rootTipSet ⟨rootAdminTx, 0, 0⟩ = some rootTipSet' ∧
      ∃ txIn0 txIns, rootAdminTx.msgTx.txIn = txIn0 :: txIns ∧
        rootTipSet.entries.filter (fun e => e.2 = [0x00, 0xbb]) =
          [(txIn0.previousOutPoint, [0x00, 0xbb])] ∧
        rootTipSet'.entries.filter (fun e => e.2 = [0x00, 0xbb]) =
          [(⟨rootAdminTx.hash, 0⟩, [0x00, 0xbb])] :=
  have h : acceptTransaction ⟨1, 2, 3, 4, 17, 18, 19, 20⟩ (fun _ => true) permissiveCollaborators
      0 1 rootTipSet ⟨rootAdminTx, 0, 0⟩ = some rootTipSet' := rfl
  ⟨h, acceptTransaction_moveTip h (by decide) rfl rfl rfl⟩

end Dmgd.Mempool
