import Dmgd.Mempool.Pool

/-! The outputs a run of the memory pool of `Mempool/Pool` spends. A step spends only outputs of
the set (`checkInputsStandard` turns away an input whose output the view lacks), no two inputs
the same one (a sanity rule), and takes the spent outputs out of the set; an output comes back
only with a transaction of its hash.

Proved: when the offered transactions have distinct hashes, none the hash of an output of the
set, as double-SHA256 gives distinct transactions, no output is spent twice over a run, and none
that was spent is in the set at its end. -/

namespace Dmgd.Mempool

open Provautil Wire Txscript

section Run

variable (ops : AdminOpcodes) (parsePubKey : List UInt8 → Bool) (c : Collaborators)
  (minRelayTxFee maxTxVersion : Int)

/-- The outpoints a run of the pool spends, in order: the inputs of each transaction it takes. -/
def spentOutPoints (u : UtxoSet) : List Submission → List OutPoint
  | [] => []
  | sub :: subs =>
    match acceptTransaction ops parsePubKey c minRelayTxFee maxTxVersion u sub with
    | some u' => sub.tx.msgTx.txIn.map TxIn.previousOutPoint ++ spentOutPoints u' subs
    | none => spentOutPoints u subs

variable {ops parsePubKey c minRelayTxFee maxTxVersion}

/-- The outpoints a run can meet: those of the set, and those with the hash of an offered
transaction. -/
def Reachable (u : UtxoSet) (subs : List Submission) (k : OutPoint) : Prop :=
  k ∈ u.keys ∨ ∃ sub ∈ subs, k.hash = sub.tx.hash

theorem Reachable.cons {u : UtxoSet} {subs : List Submission} {k : OutPoint} (sub : Submission)
    (hk : Reachable u subs k) : Reachable u (sub :: subs) k :=
  hk.imp_right fun ⟨sub', hs', he⟩ => ⟨sub', List.mem_cons_of_mem _ hs', he⟩

theorem Reachable.of_step {u u' : UtxoSet} {sub : Submission} {subs : List Submission}
    {k : OutPoint} (h : acceptTransaction ops parsePubKey c minRelayTxFee maxTxVersion u sub = some u')
    (hk : Reachable u' subs k) : Reachable u (sub :: subs) k := by
  rcases hk with hk | ⟨sub', hs', he⟩
  · rcases acceptTransaction_keys h hk with ⟨hk, -⟩ | he
    · exact .inl hk
    · exact .inr ⟨sub, List.mem_cons_self _ _, he⟩
  · exact .inr ⟨sub', List.mem_cons_of_mem _ hs', he⟩

/-- An output spent by a step is out of reach of the rest of the run, when no transaction of the
rest has the hash of an output of the set. -/
theorem not_reachable_of_spent {u u' : UtxoSet} {sub : Submission} {subs : List Submission}
    {k : OutPoint} (h : acceptTransaction ops parsePubKey c minRelayTxFee maxTxVersion u sub = some u')
    (hnew : ∀ sub' ∈ subs, ∀ k ∈ u.keys, k.hash ≠ sub'.tx.hash)
    (hk : k ∈ sub.tx.msgTx.txIn.map TxIn.previousOutPoint) : ¬ Reachable u' subs k := by
  have hku := (acceptTransaction_spends h).2 k hk
  rintro (hk' | ⟨sub', hs', he⟩)
  · rcases acceptTransaction_keys h hk' with ⟨-, hk''⟩ | he
    · exact hk'' hk
    · obtain ⟨e, he', rfl⟩ := List.mem_map.mp hku
      exact (acceptTransaction_eq_some h).2.1 e he' he
  · exact hnew sub' hs' k hku he

/-- A step keeps the rest of the run's hashes new to the set, when its own hash is not among
them: the outputs it adds carry its hash. -/
theorem fresh_of_step {u u' : UtxoSet} {sub : Submission} {subs : List Submission}
    (h : acceptTransaction ops parsePubKey c minRelayTxFee maxTxVersion u sub = some u')
    (hsub : sub.tx.hash ∉ subs.map fun sub => sub.tx.hash)
    (hnew : ∀ sub' ∈ subs, ∀ k ∈ u.keys, k.hash ≠ sub'.tx.hash) :
    ∀ sub' ∈ subs, ∀ k ∈ u'.keys, k.hash ≠ sub'.tx.hash := by
  intro sub' hs' k hk he
  rcases acceptTransaction_keys h hk with ⟨hk, -⟩ | he'
  · exact hnew sub' hs' k hk he
  · exact hsub (List.mem_map.mpr ⟨sub', hs', by rw [← he, he']⟩)

theorem mem_keys_processTransactions {u : UtxoSet} {subs : List Submission} {k : OutPoint}
    (hk : k ∈ (processTransactions ops parsePubKey c minRelayTxFee maxTxVersion u subs).keys) :
    Reachable u subs k := by
  induction subs generalizing u with
  | nil => exact .inl hk
  | cons sub subs ih =>
    rw [processTransactions] at hk
    cases h : acceptTransaction ops parsePubKey c minRelayTxFee maxTxVersion u sub with
    | none => rw [h, Option.getD_none] at hk; exact (ih hk).cons sub
    | some u' => rw [h, Option.getD_some] at hk; exact (ih hk).of_step h

theorem mem_spentOutPoints {u : UtxoSet} {subs : List Submission} {k : OutPoint}
    (hk : k ∈ spentOutPoints ops parsePubKey c minRelayTxFee maxTxVersion u subs) :
    Reachable u subs k := by
  induction subs generalizing u with
  | nil => cases hk
  | cons sub subs ih =>
    rw [spentOutPoints] at hk
    split at hk
    · next u' h =>
      rcases List.mem_append.mp hk with hk | hk
      · exact .inl ((acceptTransaction_spends h).2 k hk)
      · exact (ih hk).of_step h
    · exact (ih hk).cons sub

/-- No output is spent twice over a run of the pool, and none that was spent is in the set at its
end, when the offered transactions have distinct hashes and none has the hash of an output of
the set. -/
theorem spentOutPoints_nodup (u : UtxoSet) (subs : List Submission)
    (hhash : (subs.map fun sub => sub.tx.hash).Nodup)
    (hnew : ∀ sub ∈ subs, ∀ k ∈ u.keys, k.hash ≠ sub.tx.hash) :
    (spentOutPoints ops parsePubKey c minRelayTxFee maxTxVersion u subs).Nodup ∧
      ∀ k ∈ spentOutPoints ops parsePubKey c minRelayTxFee maxTxVersion u subs,
        k ∉ (processTransactions ops parsePubKey c minRelayTxFee maxTxVersion u subs).keys := by
  induction subs generalizing u with
  | nil => exact ⟨List.nodup_nil, fun _ hk => by cases hk⟩
  | cons sub subs ih =>
    rw [List.map_cons, List.nodup_cons] at hhash
    have hnew' : ∀ sub' ∈ subs, ∀ k ∈ u.keys, k.hash ≠ sub'.tx.hash :=
      fun sub' hs' => hnew sub' (List.mem_cons_of_mem _ hs')
    rw [spentOutPoints, processTransactions]
    cases h : acceptTransaction ops parsePubKey c minRelayTxFee maxTxVersion u sub with
    | none => exact ih u hhash.2 hnew'
    | some u' =>
      obtain ⟨hnd, hgone⟩ := ih u' hhash.2 (fresh_of_step h hhash.1 hnew')
      have hout := fun k hk => not_reachable_of_spent h hnew' (k := k) hk
      refine ⟨List.nodup_append.mpr ⟨(acceptTransaction_spends h).1, hnd,
        fun k hk hk' => hout k hk (mem_spentOutPoints hk')⟩, fun k hk => ?_⟩
      rcases List.mem_append.mp hk with hk | hk
      · exact fun hk' => hout k hk (mem_keys_processTransactions hk')
      · exact hgone k hk

end Run

/-- `rootAdminTx` under another hash: it spends the same Root thread tip. -/
def rootAdminTxAgain : Tx := ⟨rootAdminTx.msgTx, ⟨List.replicate 32 2, rfl⟩, -1⟩

theorem spentOutPoints_nodup_rootAdminTx :
    ([⟨rootAdminTx, 0, 0⟩, ⟨rootAdminTxAgain, 0, 0⟩].map fun sub : Submission => sub.tx.hash).Nodup ∧
      (∀ sub ∈ [(⟨rootAdminTx, 0, 0⟩ : Submission), ⟨rootAdminTxAgain, 0, 0⟩],
        ∀ k ∈ rootTipSet.keys, k.hash ≠ sub.tx.hash) ∧
      (spentOutPoints ⟨1, 2, 3, 4, 17, 18, 19, 20⟩ (fun _ => true) permissiveCollaborators 0 1
        rootTipSet [⟨rootAdminTx, 0, 0⟩, ⟨rootAdminTxAgain, 0, 0⟩]).Nodup ∧
      ∀ k ∈ spentOutPoints ⟨1, 2, 3, 4, 17, 18, 19, 20⟩ (fun _ => true) permissiveCollaborators 0 1
          rootTipSet [⟨rootAdminTx, 0, 0⟩, ⟨rootAdminTxAgain, 0, 0⟩],
        k ∉ (processTransactions ⟨1, 2, 3, 4, 17, 18, 19, 20⟩ (fun _ => true)
          permissiveCollaborators 0 1 rootTipSet
          [⟨rootAdminTx, 0, 0⟩, ⟨rootAdminTxAgain, 0, 0⟩]).keys :=
  ⟨by decide, by decide, spentOutPoints_nodup _ _ (by decide) (by decide)⟩

end Dmgd.Mempool
