import Dmgd.Txscript.Opcode

/-! The script parser. `parseScript` cuts a byte string into parsed opcodes the way the
parser of txscript does: an opcode without data takes one byte, `OP_DATA_n` takes the next
`n` bytes, and `OP_PUSHDATAk` reads a `k`-byte little-endian length and then that many bytes;
a push that runs past the end is `ErrMalformedPush`. The parser is not among the sources and
is modelled from §4.2 of the spec ("parsers must reject malformed pushes"); it checks no
minimality, as the classifiers of `standard.go` assume.

Proved: the parser and the serialisation `ParsedOpcode.bytes` are inverse on well-formed
opcodes. Every accepted script is the concatenation of the bytes of its parsed opcodes, each
of them well formed (`parseScript_eq_ok`), and every list of well-formed opcodes is parsed
back from its bytes (`parseScript_flatMap_bytes`). -/

namespace Dmgd.Txscript

/-! ### Errors -/

/-- The error codes of txscript that the modelled functions raise. -/
inductive ErrorCode where
  | errMalformedPush
  | errNumberTooBig
  | errMinimalData
  | errScriptNotCanonical
  | errInvalidNumberOfKeyIds
  | errUnsupportedAddress
  | errTooMuchNullData
  | errNotMultisigScript
  | errTooManyRequiredSigs
  deriving DecidableEq, Repr

/-- `txscript.Error`: an error code and its description. -/
structure ScriptError where
  errorCode : ErrorCode
  description : String
  deriving DecidableEq, Repr

/-! ### Little-endian lengths -/

/-- The little-endian value of a byte string. -/
def leValue : List UInt8 → Nat
  | [] => 0
  | b :: bs => b.toNat + 256 * leValue bs

/-- The `k` little-endian bytes of `n` (modulo `256 ^ k`). -/
def leBytes : Nat → Nat → List UInt8
  | 0, _ => []
  | k + 1, n => n.toUInt8 :: leBytes k (n / 256)

@[simp] theorem leBytes_length (k n : Nat) : (leBytes k n).length = k := by
  induction k generalizing n <;> simp [leBytes, *]

theorem leValue_leBytes (k n : Nat) (h : n < 256 ^ k) : leValue (leBytes k n) = n := by
  induction k generalizing n with
  | zero => simp_all [leBytes, leValue]
  | succ k ih =>
    simp only [leBytes, leValue, toNat_toUInt8, ih (n / 256) (by rw [Nat.pow_succ] at h; omega)]
    omega

theorem leValue_lt (bs : List UInt8) : leValue bs < 256 ^ bs.length := by
  induction bs with
  | nil => simp [leValue]
  | cons b bs ih =>
    have := toNat_lt_256 b
    simp only [leValue, List.length_cons, Nat.pow_succ]
    omega

theorem leBytes_leValue (bs : List UInt8) : leBytes bs.length (leValue bs) = bs := by
  induction bs with
  | nil => rfl
  | cons b bs ih =>
    have hb := toNat_lt_256 b
    have hlow : (b.toNat + 256 * leValue bs).toUInt8 = b :=
      UInt8.toNat.inj (by rw [toNat_toUInt8]; omega)
    simp only [List.length_cons, leBytes, leValue, hlow, List.cons.injEq, true_and]
    rw [show (b.toNat + 256 * leValue bs) / 256 = leValue bs by omega, ih]

/-! ### One opcode -/

/-- The parser's error for a push that runs past the end of the script. -/
def malformedPush (op : UInt8) (verb : String) (need remaining : Nat) : ScriptError :=
  ⟨.errMalformedPush, s!"opcode {op} {verb} {need} bytes, but script only has {remaining} remaining"⟩

/-- One opcode off the front of a script (its byte `instr` already read): the data it pushes
and the bytes after it. The opcode is named by its byte in the error text. -/
def parseOpcode (instr : UInt8) (rest : List UInt8) :
    Except ScriptError (List UInt8 × List UInt8) :=
  let len := opcodeLength instr
  if len = 1 then .ok ([], rest)
  else if 1 < len then
    if rest.length < (len - 1).toNat then
      .error (malformedPush instr "requires" len.toNat (rest.length + 1))
    else .ok (rest.take (len - 1).toNat, rest.drop (len - 1).toNat)
  else
    let k := (-len).toNat
    if rest.length < k then .error (malformedPush instr "requires" k rest.length)
    else
      let l := leValue (rest.take k)
      let body := rest.drop k
      if body.length < l then .error (malformedPush instr "pushes" l body.length)
      else .ok (body.take l, body.drop l)

/-- The bytes of a parsed opcode: the opcode, the length prefix of an `OP_PUSHDATAk`, and
the data. -/
def ParsedOpcode.bytes (p : ParsedOpcode) : List UInt8 :=
  if 0 < opcodeLength p.opcode then p.opcode :: p.data
  else p.opcode :: (leBytes (-opcodeLength p.opcode).toNat p.data.length ++ p.data)

/-- The data of a parsed opcode has the length its opcode prescribes: none for an opcode
without data, `n` for `OP_DATA_n`, and below `256 ^ k` for `OP_PUSHDATAk`. -/
def ParsedOpcode.WellFormed (p : ParsedOpcode) : Prop :=
  if 0 < opcodeLength p.opcode then p.data.length = (opcodeLength p.opcode - 1).toNat
  else p.data.length < 256 ^ (-opcodeLength p.opcode).toNat

instance (p : ParsedOpcode) : Decidable p.WellFormed := by
  unfold ParsedOpcode.WellFormed; infer_instance

/-- What one accepted opcode consumed: its bytes, and it is well formed. -/
theorem parseOpcode_eq_ok {instr : UInt8} {rest data rest' : List UInt8}
    (h : parseOpcode instr rest = .ok (data, rest')) :
    instr :: rest = (ParsedOpcode.bytes ⟨instr, data⟩) ++ rest' ∧
      (ParsedOpcode.WellFormed ⟨instr, data⟩) := by
  simp only [parseOpcode] at h
  simp only [ParsedOpcode.bytes, ParsedOpcode.WellFormed]
  split_ifs at h with h1 h2 h3 h4 h5 <;> cases h
  · simp [h1]
  · refine ⟨?_, ?_⟩
    · simp [show 0 < opcodeLength instr by omega]
    · rw [if_pos (by omega)]; simp; omega
  · set k := (-opcodeLength instr).toNat
    set l := leValue (rest.take k)
    have hks : (rest.take k).length = k := List.length_take_of_le (by omega)
    have hdata : ((rest.drop k).take l).length = l := List.length_take_of_le (by omega)
    have hpre : leBytes k l = rest.take k := by
      have := leBytes_leValue (rest.take k); rwa [hks] at this
    refine ⟨?_, ?_⟩
    · rw [if_neg (by omega), hdata, hpre]
      simp only [List.cons_append, List.append_assoc, List.take_append_drop]
    · rw [if_neg (by omega), hdata]
      exact hks ▸ leValue_lt _
theorem ParsedOpcode.bytes_of_pos {p : ParsedOpcode} (h : 0 < opcodeLength p.opcode) :
    p.bytes = p.opcode :: p.data := by
  simp [ParsedOpcode.bytes, h]

theorem ParsedOpcode.bytes_eq_cons (p : ParsedOpcode) : p.bytes = p.opcode :: p.bytes.tail := by
  unfold ParsedOpcode.bytes; split <;> rfl

/-- An accepted opcode consumes at least its own byte. -/
theorem parseOpcode_length {instr : UInt8} {rest data rest' : List UInt8}
    (h : parseOpcode instr rest = .ok (data, rest')) : rest'.length ≤ rest.length := by
  have := congrArg List.length (parseOpcode_eq_ok h).1
  rw [ParsedOpcode.bytes_eq_cons] at this
  simp only [List.length_cons, List.cons_append, List.length_append] at this
  omega

/-- A well-formed opcode is read back from its bytes, whatever follows them. -/
theorem parseOpcode_bytes {p : ParsedOpcode} (hp : p.WellFormed) (rest : List UInt8) :
    parseOpcode p.opcode (p.bytes.tail ++ rest) = .ok (p.data, rest) := by
  unfold ParsedOpcode.WellFormed at hp
  unfold ParsedOpcode.bytes parseOpcode
  obtain h | h | h : opcodeLength p.opcode = 1 ∨ 1 < opcodeLength p.opcode ∨
      opcodeLength p.opcode ≤ 0 := by omega
  · rw [if_pos (by omega)] at hp
    have : p.data = [] := List.eq_nil_of_length_eq_zero (by omega)
    simp [h, this]
  · rw [if_pos (by omega)] at hp
    simp only [if_pos (show 0 < opcodeLength p.opcode by omega), if_neg (show
      opcodeLength p.opcode ≠ 1 by omega), if_pos h, List.tail_cons, ← hp]
    rw [if_neg (by simp), List.take_left, List.drop_left]
  · rw [if_neg (by omega)] at hp
    have hk := leBytes_length (-opcodeLength p.opcode).toNat p.data.length
    simp only [if_neg (show ¬ 0 < opcodeLength p.opcode by omega), if_neg (show
      opcodeLength p.opcode ≠ 1 by omega), if_neg (show ¬ 1 < opcodeLength p.opcode by omega),
      List.tail_cons, List.append_assoc]
    rw [List.take_left' hk, List.drop_left' hk, leValue_leBytes _ _ hp, if_neg (by simp only [List.length_append]; omega),
      if_neg (by simp), List.take_left, List.drop_left]

/-! ### Scripts -/

/-- The parse loop, with `fuel` bounding its iterations: every opcode consumes at least its
own byte, so the script's length is enough (`parseScriptAux_of_le`). -/
def parseScriptAux : Nat → List UInt8 → Except ScriptError (List ParsedOpcode)
  | _, [] => .ok []
  | 0, _ :: _ => .ok []
  | fuel + 1, instr :: rest =>
    match parseOpcode instr rest with
    | .error e => .error e
    | .ok (data, rest') => (⟨instr, data⟩ :: ·) <$> parseScriptAux fuel rest'

/-- Modelled from the spec: `parseScript` (txscript's parser, not among the sources). -/
def parseScript (script : List UInt8) : Except ScriptError (List ParsedOpcode) :=
  parseScriptAux script.length script

theorem parseScriptAux_of_le (fuel : Nat) (s : List UInt8) (h : s.length ≤ fuel) :
    parseScriptAux fuel s = parseScript s := by
  unfold parseScript
  induction fuel using Nat.strong_induction_on generalizing s with
  | _ fuel ih =>
    match fuel, s, h with
    | _, [], _ => simp [parseScriptAux]
    | fuel + 1, instr :: rest, h =>
      simp only [List.length_cons, parseScriptAux]
      split
      · rfl
      · next data rest' hok =>
        have := parseOpcode_length hok
        simp only [List.length_cons] at h
        rw [ih fuel (by omega) rest' (by omega), ih rest.length (by omega) rest' (by omega)]

/-- The parser's step: one opcode off the front, then the rest of the script. -/
theorem parseScript_cons (instr : UInt8) (rest : List UInt8) :
    parseScript (instr :: rest) =
      match parseOpcode instr rest with
      | .error e => .error e
      | .ok (data, rest') => (⟨instr, data⟩ :: ·) <$> parseScript rest' := by
  unfold parseScript
  simp only [List.length_cons, parseScriptAux]
  split
  · rfl
  · next hok => rw [parseScriptAux_of_le _ _ (parseOpcode_length hok)]; rfl

theorem parseScript_bytes_append {p : ParsedOpcode} (hp : p.WellFormed) (rest : List UInt8) :
    parseScript (p.bytes ++ rest) = (p :: ·) <$> parseScript rest := by
  rw [p.bytes_eq_cons, List.cons_append, parseScript_cons, parseOpcode_bytes hp]

/-- Every list of well-formed opcodes is parsed back from its bytes. -/
theorem parseScript_flatMap_bytes (pops : List ParsedOpcode) (h : ∀ p ∈ pops, p.WellFormed) :
    parseScript (pops.flatMap ParsedOpcode.bytes) = .ok pops := by
  induction pops with
  | nil => rfl
  | cons p pops ih =>
    rw [List.flatMap_cons, parseScript_bytes_append (h p (List.mem_cons_self _ _)),
      ih fun q hq => h q (List.mem_cons_of_mem _ hq)]
    rfl

/-- Every accepted script is the bytes of its parsed opcodes, each of them well formed. -/
theorem parseScript_eq_ok {s : List UInt8} {pops : List ParsedOpcode}
    (h : parseScript s = .ok pops) :
    pops.flatMap ParsedOpcode.bytes = s ∧ ∀ p ∈ pops, p.WellFormed := by
  obtain ⟨n, hs⟩ : ∃ n, s.length = n := ⟨_, rfl⟩
  induction n using Nat.strong_induction_on generalizing s pops with
  | _ n ih =>
    match s with
    | [] => cases h; simp
    | instr :: rest =>
      rw [parseScript_cons] at h
      split at h
      · cases h
      · next data rest' hok =>
        cases hr : parseScript rest' with
        | error e => rw [hr] at h; cases h
        | ok pops' =>
          rw [hr] at h; cases h
          obtain ⟨h1, h2⟩ := parseOpcode_eq_ok hok
          have := parseOpcode_length hok
          obtain ⟨ih1, ih2⟩ := ih rest'.length (by simp at hs; omega) hr rfl
          refine ⟨by rw [List.flatMap_cons, ih1, h1], ?_⟩
          rintro q (_ | ⟨_, hq⟩)
          exacts [h2, ih2 q hq]

end Dmgd.Txscript
