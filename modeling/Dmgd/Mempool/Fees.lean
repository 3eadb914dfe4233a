import Dmgd.Mempool.AdminThread

/-! The relay fee and the dust rule of the mempool policy (`mempool/policy.go`):
`calcMinRequiredTxRelayFee` and `isDust`, both in `int64` arithmetic whose products wrap.

Proved: the required fee is `size * rate / 1000`, raised to the rate when that is 0, whenever
the product fits in an `int64`, and the quotient of the wrapped product, capped at `MaxAtoms`,
when it passes `2 ^ 64`, so that a rate within `MaxAtoms` and a standard size can require a fee
of a few atoms. An output whose value is an amount is dust exactly when
`1000 * value < 3 * (size + 148) * rate`: the wrap never intervenes there. -/

namespace Dmgd.Mempool

open Provautil Wire Txscript

/-- `DefaultMinRelayTxFee`: the relay fee rate, in atoms per kB, of a pool told no other. -/
def defaultMinRelayTxFee : Int := 0

/-- `calcMinRequiredTxRelayFee`: `serializedSize * minRelayTxFee / 1000` in `int64`, whose
product wraps and whose division truncates; raised to `minRelayTxFee` when that is positive and
the quotient is 0, and set to `MaxAtoms` when it is not an amount. -/
def calcMinRequiredTxRelayFee (serializedSize minRelayTxFee : Int) : Int :=
  let minFee := Int.tdiv (Int.bmod (serializedSize * minRelayTxFee) (2 ^ 64)) 1000
  let minFee := if minFee = 0 ∧ minRelayTxFee > 0 then minRelayTxFee else minFee
  if minFee < 0 ∨ minFee > maxAtoms then maxAtoms else minFee

theorem maxAtoms_eq : maxAtoms = 2100000000000000 := rfl

/-- An `int64` product that fits is not wrapped. -/
theorem bmod_int64_of_fits {x : Int} (h0 : 0 ≤ x) (h : x < 2 ^ 63) : Int.bmod x (2 ^ 64) = x := by
  have hx : x % ((2 ^ 64 : Nat) : Int) = x :=
    Int.emod_eq_of_lt h0 (by simp only [Nat.cast_pow, Nat.cast_ofNat]; omega)
  rw [Int.bmod_pos x _ (by rw [hx]; simp only [Nat.cast_pow, Nat.cast_ofNat]; omega), hx]

/-- Whenever the product fits in an `int64`, the required fee is `size * rate / 1000`, raised to
the rate when that is 0. -/
theorem calcMinRequiredTxRelayFee_eq {serializedSize minRelayTxFee : Int}
    (hs : 0 ≤ serializedSize) (hr : 0 < minRelayTxFee) (hr' : minRelayTxFee ≤ maxAtoms)
    (hfit : serializedSize * minRelayTxFee < 2 ^ 63)
    (hmax : serializedSize * minRelayTxFee / 1000 ≤ maxAtoms) :
    calcMinRequiredTxRelayFee serializedSize minRelayTxFee =
      if serializedSize * minRelayTxFee / 1000 = 0 then minRelayTxFee
      else serializedSize * minRelayTxFee / 1000 := by
  have h0 : 0 ≤ serializedSize * minRelayTxFee := Int.mul_nonneg hs hr.le
  have hq : (Int.bmod (serializedSize * minRelayTxFee) (2 ^ 64)).tdiv 1000 =
      serializedSize * minRelayTxFee / 1000 := by
    rw [bmod_int64_of_fits h0 hfit, Int.tdiv_eq_ediv h0 (by decide)]
  have : 0 ≤ serializedSize * minRelayTxFee / 1000 := Int.ediv_nonneg h0 (by decide)
  simp only [calcMinRequiredTxRelayFee, hq]
  split_ifs <;> omega

theorem calcMinRequiredTxRelayFee_eq_raised :
    (0 : Int) ≤ 100 ∧ (0 : Int) < 5 ∧ (5 : Int) ≤ maxAtoms ∧ (100 * 5 : Int) < 2 ^ 63 ∧
      (100 * 5 / 1000 : Int) ≤ maxAtoms ∧
      calcMinRequiredTxRelayFee 100 5 = if (100 * 5 / 1000 : Int) = 0 then 5 else 100 * 5 / 1000 :=
  ⟨by decide, by decide, by decide, by decide, by decide,
    calcMinRequiredTxRelayFee_eq (by decide) (by decide) (by decide) (by decide) (by decide)⟩

section Dust

variable (c : Collaborators) (txOut : TxOut) (minRelayTxFee : Int)
  (hspend : c.isUnspendable txOut.pkScript = false) (h0 : 0 ≤ txOut.value)
  (hmax : txOut.value ≤ maxAtoms)

include hspend h0 hmax

theorem isDust_eq_decide :
    isDust c txOut minRelayTxFee =
      decide (txOut.value * 1000 < 3 * (txOut.serializeSize + 148) * minRelayTxFee) := by
  rw [maxAtoms_eq] at hmax
  have hv : 0 ≤ txOut.value * 1000 := by omega
  have hT : (0 : Int) < 3 * ((txOut.serializeSize + 148 : Nat) : Int) := by omega
  simp only [isDust, hspend, Bool.false_eq_true, if_false, bmod_int64_of_fits hv (by omega)]
  rw [Int.tdiv_eq_ediv hv hT.le]
  simp only [Int.ediv_lt_iff_lt_mul hT, Int.mul_comm minRelayTxFee]
  simp only [Nat.cast_add, Nat.cast_ofNat]

/-- An output whose value is an amount is dust exactly when `1000 * value` is below three times
the fee of its serialized size plus 148 bytes of input: the `int64` product never wraps there,
and the truncated division is the floor. -/
theorem isDust_iff :
    isDust c txOut minRelayTxFee = true ↔
      txOut.value * 1000 < 3 * (txOut.serializeSize + 148) * minRelayTxFee := by
  rw [isDust_eq_decide c txOut minRelayTxFee hspend h0 hmax, decide_eq_true_iff]

end Dust

/-- The case the source's comment works out: at a rate of 1000, a 34-byte pay-to-pubkey-hash
output is dust below 546 atoms. -/
theorem isDust_iff_p2pkh :
    permissiveCollaborators.isUnspendable (List.replicate 25 0) = false ∧ (0 : Int) ≤ 545 ∧
      (545 : Int) ≤ maxAtoms ∧
      (isDust permissiveCollaborators ⟨545, List.replicate 25 0⟩ 1000 = true ↔
        (545 : Int) * 1000 < 3 * ((⟨545, List.replicate 25 0⟩ : TxOut).serializeSize + 148) * 1000) :=
  ⟨rfl, by decide, by decide, isDust_iff permissiveCollaborators ⟨545, List.replicate 25 0⟩ 1000
    rfl (by decide) (by decide)⟩

end Dmgd.Mempool
