import Mathlib.Data.List.Basic

/-! The global configuration of the database tool (`database/cmd/dbtool/globalconfig.go`):
`setupGlobalConfig` checks the options parsed into `cfg` and namespaces the data directory under
the active network. The globals it reads and writes, `cfg` and `activeNetParams`, are a state
passed in and returned with Go's error. The registered drivers (`database.SupportedDrivers`),
`filepath.Join` and the networks' names (`chaincfg`) are not among the sources and are
parameters.

Proved: the default configuration passes when `ffldb` is a registered driver. A refused
configuration fails with the text of the check that failed and is left as it was, but the
network switch is not undone: the network of the last flag set is active afterwards. -/

namespace Dmgd.Dbtool

/-- The networks whose `chaincfg` parameters `setupGlobalConfig` makes active. -/
inductive Net where
  | mainNet | testNet | regressionNet | simNet
  deriving DecidableEq, Repr

/-- `config`: the global configuration options of the tool. -/
structure Config where
  dataDir : String
  dbType : String
  testNet : Bool
  regressionTest : Bool
  simNet : Bool
  deriving DecidableEq, Repr

/-- The globals of the tool that `setupGlobalConfig` reads and writes. -/
structure GlobalState where
  cfg : Config
  activeNetParams : Net
  deriving DecidableEq, Repr

/-- The globals at start: `cfg` with the data directory `data` under the home directory, the
`ffldb` backend and no network flag, and the main network active. -/
def defaultGlobalState (join : String → String → String) (provaHomeDir : String) : GlobalState :=
  ⟨⟨join provaHomeDir "data", "ffldb", false, false, false⟩, .mainNet⟩

/-- `validDbType`: whether `dbType` is among the registered drivers. -/
def validDbType (knownDbTypes : List String) (dbType : String) : Bool :=
  knownDbTypes.any fun knownType => dbType == knownType

theorem validDbType_iff {knownDbTypes : List String} {dbType : String} :
    validDbType knownDbTypes dbType = true ↔ dbType ∈ knownDbTypes := by
  simp [validDbType]

/-- One network flag of `setupGlobalConfig`: when set, it is counted in `numNets` and its network
made active. -/
def selectNet (flag : Bool) (net : Net) (acc : Nat × Net) : Nat × Net :=
  if flag then (acc.1 + 1, net) else acc

/-- `numNets` and `activeNetParams` after the three flags, in the order the source tests them. -/
def netFlags (cfg : Config) (activeNetParams : Net) : Nat × Net :=
  selectNet cfg.simNet .simNet <| selectNet cfg.regressionTest .regressionNet <|
    selectNet cfg.testNet .testNet (0, activeNetParams)

/-- Go's `%v` of a slice of strings. -/
def goSliceString (xs : List String) : String := "[" ++ " ".intercalate xs ++ "]"

/-- The error of more than one network flag. -/
def errMultipleNets : String :=
  "The testnet, regtest, and simnet params can't be used together -- choose one of the three"

/-- The error of a database type that is not a registered driver. -/
def errInvalidDbType (dbType : String) (knownDbTypes : List String) : String :=
  s!"The specified database type [{dbType}] is invalid -- supported types {goSliceString knownDbTypes}"

section Setup

variable (knownDbTypes : List String) (join : String → String → String) (netName : Net → String)

/-- `setupGlobalConfig`: counts the network flags while making the last one set active, refuses
more than one and a database type that is not a registered driver, and otherwise namespaces the
data directory under the active network's name. -/
def setupGlobalConfig (s : GlobalState) : Except String Unit × GlobalState :=
  let nets := netFlags s.cfg s.activeNetParams
  if nets.1 > 1 then (.error errMultipleNets, { s with activeNetParams := nets.2 })
  else if !validDbType knownDbTypes s.cfg.dbType then
    (.error (errInvalidDbType s.cfg.dbType knownDbTypes), { s with activeNetParams := nets.2 })
  else (.ok (), ⟨{ s.cfg with dataDir := join s.cfg.dataDir (netName nets.2) }, nets.2⟩)

@[simp] theorem selectNet_fst (flag : Bool) (net : Net) (acc : Nat × Net) :
    (selectNet flag net acc).1 = acc.1 + flag.toNat := by
  cases flag <;> rfl

@[simp] theorem selectNet_snd (flag : Bool) (net : Net) (acc : Nat × Net) :
    (selectNet flag net acc).2 = if flag then net else acc.2 := by
  cases flag <;> rfl

/-- `numNets` is the number of flags set. -/
theorem netFlags_fst (cfg : Config) (activeNetParams : Net) :
    (netFlags cfg activeNetParams).1 =
      cfg.testNet.toNat + cfg.regressionTest.toNat + cfg.simNet.toNat := by
  simp [netFlags]

/-- The network made active is that of the last flag set, and the previous one when none is. -/
theorem netFlags_snd (cfg : Config) (activeNetParams : Net) :
    (netFlags cfg activeNetParams).2 =
      if cfg.simNet then .simNet else if cfg.regressionTest then .regressionNet
      else if cfg.testNet then .testNet else activeNetParams := by
  simp [netFlags]

/-- A refused configuration: the error is the text of the check that failed, the network flags
first, then the database type, which the text names with the registered drivers; the
configuration is left as it was, but the network of the last flag set (the one active before
when none is) stays active. -/
theorem setupGlobalConfig_error (s : GlobalState) {msg : String} {s' : GlobalState}
    (h : setupGlobalConfig knownDbTypes join netName s = (.error msg, s')) :
    msg = (if 1 < s.cfg.testNet.toNat + s.cfg.regressionTest.toNat + s.cfg.simNet.toNat
      then errMultipleNets else errInvalidDbType s.cfg.dbType knownDbTypes) ∧
    s' = ⟨s.cfg, if s.cfg.simNet then .simNet else if s.cfg.regressionTest then .regressionNet
      else if s.cfg.testNet then .testNet else s.activeNetParams⟩ := by
  rw [← netFlags_fst _ s.activeNetParams, ← netFlags_snd _ s.activeNetParams]
  simp only [setupGlobalConfig] at h
  split_ifs at h ⊢ <;> first | omega | (cases h <;> exact ⟨rfl, rfl⟩)

/-- Test and regression flags together: refused, with the regression network already active. -/
example : (setupGlobalConfig ["ffldb"] (· ++ "/" ++ ·) (fun _ => "net")
    ⟨⟨"data", "ffldb", true, true, false⟩, .mainNet⟩).2 =
      ⟨⟨"data", "ffldb", true, true, false⟩, .regressionNet⟩ := rfl

/-- The default configuration passes its own check when `ffldb` is a registered driver: the main
network stays active and the data directory becomes its namespace under `data`. -/
theorem defaultGlobalState_setup (provaHomeDir : String) (h : "ffldb" ∈ knownDbTypes) :
    setupGlobalConfig knownDbTypes join netName (defaultGlobalState join provaHomeDir) =
      (.ok (), ⟨⟨join (join provaHomeDir "data") (netName .mainNet), "ffldb", false, false, false⟩,
        .mainNet⟩) := by
  have hvalid := validDbType_iff.mpr h
  simp only [setupGlobalConfig, defaultGlobalState] at hvalid ⊢
  simp [netFlags, selectNet, hvalid]

end Setup

end Dmgd.Dbtool
