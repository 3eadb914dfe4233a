import Dmgd.Txscript.Opcode
import Dmgd.Txscript.Parse
import Dmgd.Txscript.ScriptNum
import Dmgd.Txscript.Builder
import Dmgd.Txscript.Standard
import Dmgd.Txscript.NullData
import Dmgd.Txscript.Pushes
import Dmgd.Txscript.ProvaLayout
import Dmgd.Txscript.ProvaAddress
import Dmgd.Wire.MsgTx
import Dmgd.Txscript.ProvaTx
import Dmgd.Txscript.Admin
import Dmgd.Mempool.Policy
import Dmgd.Mempool.AdminThread
import Dmgd.Mempool.Fees
import Dmgd.Mempool.Pool
import Dmgd.Mempool.ThreadTips
import Dmgd.Mempool.Spends
import Dmgd.Cmd.Utils
import Dmgd.Cmd.Supply
import Dmgd.Cmd.Accept
import Dmgd.Dbtool.GlobalConfig
