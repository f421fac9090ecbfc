import BearerAuth.Password.Hash
import BearerAuth.Proofs.Password.Phc

/-!
# A password has the hash that was made for it

The line of a hash reads back, and what is computed from its fields is what was
written into them. The digest itself stays closed: only its size matters.

- `Password.read_hash`: the fields of a hash that was made here.
- `Password.verify_hash`: a password has its own hash, whatever the salt.
-/

namespace BearerAuth.Password

open Digest
open Bytes.Base64 (standard)

/-- The bytes of the hash of a password under a salt. -/
def digest (salt : Salt) (plain : String) : List UInt8 :=
  Argon2.digest .id .combining defaultCost defaultSize
    { password := Text.utf8 plain, salt := salt.toList, data := [] }

theorem length_digest (salt : Salt) (plain : String) : (digest salt plain).length = 32 :=
  Argon2.length_digest ..

/-- The parameters that are written for the cost of a hash. -/
def costParams : List (List Char × List Char) :=
  [(['m'], Nat.toDigits 10 defaultCost.memory), (['t'], Nat.toDigits 10 defaultCost.passes),
    (['p'], Nat.toDigits 10 defaultCost.lanes)]

theorem hashFields_eq (salt : Salt) (plain : String) :
    hashFields salt plain =
      { algorithm := "argon2id".toList, version := some Argon2.Version.combining.code
        params := costParams, salt := some (standard.encode salt.toList)
        hash := some (digest salt plain) } := rfl

/-- A salt takes twenty-two characters. -/
theorem checkSalt_encode (salt : Salt) : Phc.checkSalt (standard.encode salt.toList) = .ok () := by
  have hlength : (standard.encode salt.toList).length = 22 := by
    rw [Bytes.Base64.Alphabet.length_encode, Vector.length_toList]
  refine Phc.checkSalt_eq_ok_iff.2 ⟨by omega, by omega, fun c hc => ?_⟩
  exact Phc.isValueChar_of_mem_encode hc

/-- The costs pass the checks of parameters. -/
theorem isParam_costParams : ∀ q ∈ costParams, Phc.IsParam q := by
  intro q hq
  simp only [costParams, List.mem_cons, List.not_mem_nil, or_false] at hq
  rcases hq with rfl | rfl | rfl
  · exact ⟨rfl, rfl⟩
  · exact ⟨rfl, rfl⟩
  · exact ⟨rfl, rfl⟩

/-- A hash has all fields, each of which passes its check. -/
theorem full_hashFields (salt : Salt) (plain : String) : (hashFields salt plain).Full where
  algorithm := show Phc.checkName "argon2id".toList = .ok () from rfl
  version := ⟨_, rfl, by decide⟩
  params_ne := List.cons_ne_nil _ _
  params := isParam_costParams
  params_size := by
    show Phc.size (Phc.paramsField costParams) ≤ 127
    decide
  salt := ⟨_, rfl, checkSalt_encode salt⟩
  hash := by
    have hlength := length_digest salt plain
    exact ⟨digest salt plain, rfl, by omega, by omega⟩

theorem read_hash (salt : Salt) (plain : String) :
    Phc.read (hash salt plain) = .ok (hashFields salt plain) :=
  Phc.read_write (full_hashFields salt plain)

/-- The salt can be told from the hash. -/
theorem salt_eq_of_hash_eq {salt other : Salt} {plain guess : String}
    (h : hash salt plain = hash other guess) : salt = other := by
  have hread := read_hash salt plain
  rw [h, read_hash] at hread
  have hencoded := Option.some.inj (congrArg Phc.salt (Except.ok.inj hread))
  have hdecoded := congrArg standard.decode? hencoded
  rw [Bytes.Base64.Alphabet.decode?_encode Bytes.Base64.Alphabet.standard_proper,
    Bytes.Base64.Alphabet.decode?_encode Bytes.Base64.Alphabet.standard_proper] at hdecoded
  exact (Vector.toList_inj.1 (Option.some.inj hdecoded)).symm

/-- The cost that was written is the cost that is read. -/
theorem readParams?_costParams :
    readParams? defaultCost [] costParams = some (defaultCost, []) := by
  have hmemory : Phc.decimal (Nat.toDigits 10 defaultCost.memory) = .ok defaultCost.memory :=
    Phc.decimal_toDigits (by decide)
  have hpasses : Phc.decimal (Nat.toDigits 10 defaultCost.passes) = .ok defaultCost.passes :=
    Phc.decimal_toDigits (by decide)
  have hlanes : Phc.decimal (Nat.toDigits 10 defaultCost.lanes) = .ok defaultCost.lanes :=
    Phc.decimal_toDigits (by decide)
  simp [costParams, readParams?, hmemory, hpasses, hlanes, Except.toOption]

/-- The salt of a hash is decoded again. -/
theorem bytesUpTo?_encode (salt : Salt) :
    bytesUpTo? 64 (standard.encode salt.toList) = some salt.toList := by
  rw [bytesUpTo?, Bytes.Base64.Alphabet.decode?_encode Bytes.Base64.Alphabet.standard_proper]
  dsimp only
  rw [Vector.length_toList, if_pos (by decide)]

/-- What is computed from the fields of a hash is what was written into them. -/
theorem expected?_hashFields (salt : Salt) (plain : String) :
    expected? (hashFields salt plain) 32 plain = some (digest salt plain) := by
  have hvalid : ¬(¬defaultCost.Valid ∨ salt.toList.length < 8) := by
    rw [Vector.length_toList]
    decide
  have hvariant : variant? "argon2id".toList = some .id := by decide
  have hversion : version? (some Argon2.Version.combining.code) = some .combining := by decide
  -- once all fields are read, both sides are the same digest, which nothing computes
  rw [hashFields_eq, expected?, readParams?_costParams]
  dsimp only [Option.bind_eq_bind, Option.bind_some]
  rw [hvariant, hversion]
  dsimp only [Option.bind_some]
  rw [bytesUpTo?_encode, Option.bind_some, if_neg hvalid]
  rfl

/-- A password has its own hash. -/
theorem verify_hash (salt : Salt) (plain : String) : verify plain (hash salt plain) = .ok true := by
  rw [verify, read_hash]
  show Except.ok (expected? (hashFields salt plain) (digest salt plain).length plain ==
    some (digest salt plain)) = _
  rw [length_digest, expected?_hashFields, beq_self_eq_true]

end BearerAuth.Password
