import BearerAuth.Digest.Argon2.Block

/-!
# Argon2

The memory-hard password hash of RFC 9106 in its three variants and both
versions.

- `Argon2.Cost`: how much memory, how many passes and how many lanes a hash
  takes.
- `Argon2.Cost.Valid`: the costs for which the hash is defined.
- `Argon2.digest`: the hash; `length_digest` says that it has the size asked
  for.
-/

namespace BearerAuth.Digest.Argon2

open Bytes

/-- How blocks are addressed: by earlier contents (`d`), independently of them
(`i`), or independently in the first half of the first pass only (`id`). -/
inductive Variant where
  | d
  | i
  | id
  deriving DecidableEq, Repr

/-- The version of the algorithm: later passes overwrite blocks in the first one
and are combined with them in the second. -/
inductive Version where
  | overwriting
  | combining
  deriving DecidableEq, Repr

/-- The number under which a variant enters the hash. -/
def Variant.code : Variant → Nat
  | .d => 0
  | .i => 1
  | .id => 2

/-- The number under which a version is written and enters the hash. -/
def Version.code : Version → Nat
  | .overwriting => 16
  | .combining => 19

/-- The cost of a hash: memory in kibibytes, passes over it, and lanes. -/
structure Cost where
  memory : Nat
  passes : Nat
  lanes : Nat
  deriving DecidableEq, Repr

/-- The costs the algorithm admits: at least one pass and one lane, and eight
blocks a lane. -/
def Cost.Valid (c : Cost) : Prop :=
  1 ≤ c.lanes ∧ c.lanes < 0x1000000 ∧ 8 * c.lanes ≤ c.memory ∧ c.memory < 0x100000000 ∧
    1 ≤ c.passes ∧ c.passes < 0x100000000

instance (c : Cost) : Decidable c.Valid := by
  unfold Cost.Valid; infer_instance

/-- What is hashed besides the cost: the password, the salt and data bound to
the hash. -/
structure Input where
  password : List UInt8
  salt : List UInt8
  data : List UInt8

/-- The hash of variable length that Argon2 builds from BLAKE2b: long results
are put together from the first halves of a chain of digests. -/
def longDigest (size : Nat) (message : List UInt8) : List UInt8 :=
  let message := littleEndian 4 size ++ message
  if size ≤ 64 then Blake2b.digest size message
  else chain size (Blake2b.digest 64 message) size
where
  /-- The `remaining` bytes that follow, where `link` is the current digest of
  the chain. -/
  chain : Nat → List UInt8 → Nat → List UInt8
    | 0, _, _ => []
    | fuel + 1, link, remaining =>
      if remaining ≤ 64 then link.take remaining
      else
        let next := remaining - 32
        link.take 32 ++
          chain fuel (Blake2b.digest (if next ≤ 64 then next else 64) link) next

theorem length_chain {fuel : Nat} {link : List UInt8} {remaining : Nat} (hfuel : remaining ≤ fuel)
    (hlink : link.length = min remaining 64) :
    (longDigest.chain fuel link remaining).length = remaining := by
  induction fuel generalizing link remaining with
  | zero =>
    obtain rfl := Nat.le_zero.1 hfuel
    rfl
  | succ fuel ih =>
    unfold longDigest.chain
    split
    · rw [List.length_take, hlink]
      omega
    · have hnext := Blake2b.length_digest (if remaining - 32 ≤ 64 then remaining - 32 else 64) link
      have hmin : min (if remaining - 32 ≤ 64 then remaining - 32 else 64) 64 =
          min (remaining - 32) 64 := by
        split <;> omega
      have htail := ih (show remaining - 32 ≤ fuel by omega) (hnext.trans hmin)
      rw [List.length_append, List.length_take, htail, hlink]
      omega

theorem length_longDigest (size : Nat) (message : List UInt8) :
    (longDigest size message).length = size := by
  unfold longDigest
  dsimp only
  split
  · rw [Blake2b.length_digest]
    omega
  · refine length_chain (Nat.le_refl size) ?_
    rw [Blake2b.length_digest]
    omega

/-- A field of the seed: its length and its bytes. -/
def seedField (bytes : List UInt8) : List UInt8 :=
  littleEndian 4 bytes.length ++ bytes

/-- The 64 bytes from which the first blocks are made. -/
def seed (variant : Variant) (version : Version) (cost : Cost) (size : Nat) (input : Input) :
    List UInt8 :=
  Blake2b.digest 64 <|
    littleEndian 4 cost.lanes ++ littleEndian 4 size ++ littleEndian 4 cost.memory ++
      littleEndian 4 cost.passes ++ littleEndian 4 version.code ++ littleEndian 4 variant.code ++
      seedField input.password ++ seedField input.salt ++ seedField [] ++ seedField input.data

/-- The shape of the memory: `lanes` rows of four segments of `segment` blocks
each. -/
structure Shape where
  variant : Variant
  version : Version
  lanes : Nat
  passes : Nat
  segment : Nat

namespace Shape

/-- The blocks of a lane. -/
def lane (s : Shape) : Nat := 4 * s.segment

/-- The blocks of the whole memory. -/
def blocks (s : Shape) : Nat := s.lanes * s.lane

/-- The part of the memory that is being filled. -/
structure Position where
  pass : Nat
  slice : Nat
  lane : Nat

/-- Whether the blocks at `p` are addressed independently of the contents of the
memory. -/
def independent (s : Shape) (p : Position) : Bool :=
  match s.variant with
  | .d => false
  | .i => true
  | .id => p.pass == 0 && p.slice < 2

/-- The `number`-th block of addresses for the segment at `p`, as its 128 words. -/
def addresses (s : Shape) (p : Position) (number : Nat) : Array UInt64 :=
  let input := Block.ofWords <|
    [p.pass, p.lane, p.slice, s.blocks, s.passes, s.variant.code, number].map UInt64.ofNat
  (Block.compress .zero (Block.compress .zero input)).words.toArray

/-- The index in memory of the block that `word` points to for the `index`-th
block at `p`. -/
def target (s : Shape) (p : Position) (index : Nat) (word : UInt64) : Nat :=
  let low := word &&& 0xffffffff
  -- at first the other lanes hold nothing to point to
  let lane :=
    if p.pass == 0 && p.slice == 0 then p.lane else (word >>> 32).toNat % s.lanes
  let finished :=
    if p.pass == 0 then p.slice * s.segment else s.lane - s.segment
  -- in its own lane the block just made is out of reach, in others the last one
  let area :=
    if lane == p.lane then finished + index - 1
    else if index == 0 then finished - 1 else finished
  -- squares favour the blocks made last
  let square := (low * low) >>> 32
  let back := ((UInt64.ofNat area * square) >>> 32).toNat
  let start :=
    if p.pass == 0 || p.slice == 3 then 0 else (p.slice + 1) * s.segment
  lane * s.lane + (start + (area - 1 - back)) % s.lane

/-- Fills `remaining` blocks of the segment at `p` from the `index`-th on. The
words of `table` are the addresses in use when they do not depend on the memory. -/
def fillSegment (s : Shape) (p : Position) :
    (remaining index : Nat) → Array UInt64 → Array Block → Array Block
  | 0, _, _, memory => memory
  | remaining + 1, index, table, memory =>
    let column := p.slice * s.segment + index
    let row := p.lane * s.lane
    -- the first block of a lane follows its last one
    let previous := memory.getD (row + (if column == 0 then s.lane - 1 else column - 1)) .zero
    let table :=
      if s.independent p && index % 128 == 0 then s.addresses p (index / 128 + 1) else table
    let word := if s.independent p then table.getD (index % 128) 0 else previous.r0.w0
    let fresh := previous.compress (memory.getD (s.target p index word) .zero)
    let block :=
      match s.version with
      | .overwriting => fresh
      | .combining =>
        if p.pass == 0 then fresh else fresh.xor (memory.getD (row + column) .zero)
    fillSegment s p remaining (index + 1) table (memory.setIfInBounds (row + column) block)

/-- Fills the segments of all lanes at one slice of one pass. The first two
blocks of each lane are there before the first pass. -/
def fillSlice (s : Shape) (pass slice : Nat) (memory : Array Block) : Array Block :=
  (List.range s.lanes).foldl (fun memory lane =>
    let p : Position := ⟨pass, slice, lane⟩
    let skip := if pass == 0 && slice == 0 then 2 else 0
    let table := if s.independent p then s.addresses p 1 else #[]
    s.fillSegment p (s.segment - skip) skip table memory) memory

/-- Fills the memory in all passes. -/
def fill (s : Shape) (memory : Array Block) : Array Block :=
  (List.range s.passes).foldl (fun memory pass =>
    (List.range 4).foldl (fun memory slice => s.fillSlice pass slice memory) memory) memory

/-- The memory before the first pass: the first two blocks of every lane come
from the seed. -/
def start (s : Shape) (seed : List UInt8) : Array Block :=
  (List.range s.lanes).foldl (fun memory lane =>
    (List.range 2).foldl (fun memory column =>
      memory.setIfInBounds (lane * s.lane + column) <| Block.ofBytes <|
        longDigest 1024 (seed ++ littleEndian 4 column ++ littleEndian 4 lane)) memory)
    (Array.replicate s.blocks .zero)

/-- The last blocks of all lanes combined. -/
def result (s : Shape) (memory : Array Block) : Block :=
  (List.range s.lanes).foldl (fun block lane =>
    block.xor (memory.getD (lane * s.lane + (s.lane - 1)) .zero)) .zero

end Shape

/-- The Argon2 hash of `input` with `size` bytes. -/
def digest (variant : Variant) (version : Version) (cost : Cost) (size : Nat) (input : Input) :
    List UInt8 :=
  let shape : Shape :=
    { variant, version, lanes := cost.lanes, passes := cost.passes
      segment := cost.memory / (4 * cost.lanes) }
  let memory := shape.fill (shape.start (seed variant version cost size input))
  longDigest size (shape.result memory).toBytes

/-- A hash has the size asked for. -/
theorem length_digest (variant : Variant) (version : Version) (cost : Cost) (size : Nat)
    (input : Input) : (digest variant version cost size input).length = size :=
  length_longDigest size _

end BearerAuth.Digest.Argon2
