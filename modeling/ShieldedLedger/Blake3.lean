import ShieldedLedger.TxHash

/-!
# The BLAKE3 hash

The input is cut into chunks of 1024 bytes, each chunk into blocks of 64. A chunk is compressed
block by block; the chunks are the leaves of a binary tree whose left parts are as large a power of
two as they can be. The hash is the first half of the root's output.

## Main definitions

* `Blake3.compress`: the compression function
* `Blake3.hash`: the hash of a list of bytes, as a transaction hash
-/

namespace ShieldedLedger.Blake3

/-- Sixteen words, the state of the compression and the message it mixes in. -/
abbrev Block := Vector UInt32 16

/-- Eight words, the value passed from one compression to the next. -/
abbrev Chain := Vector UInt32 8

/-- The value that the first compression starts from. -/
def initial : Chain :=
  #v[0x6A09E667, 0xBB67AE85, 0x3C6EF372, 0xA54FF53A, 0x510E527F, 0x9B05688C, 0x1F83D9AB, 0x5BE0CD19]

/-! ### Compression -/

/-- Rotates a word to the right. -/
def rotate (x n : UInt32) : UInt32 := (x >>> n) ||| (x <<< (32 - n))

/-- Mixes two message words into four words of the state. -/
def mix (v : Block) (a b c d : Fin 16) (x y : UInt32) : Block :=
  let va := v[a] + v[b] + x
  let vd := rotate (v[d] ^^^ va) 16
  let vc := v[c] + vd
  let vb := rotate (v[b] ^^^ vc) 12
  let va := va + vb + y
  let vd := rotate (vd ^^^ va) 8
  let vc := vc + vd
  let vb := rotate (vb ^^^ vc) 7
  (((v.set a va).set b vb).set c vc).set d vd

/-- One round mixes the columns and then the diagonals. -/
def round (v m : Block) : Block :=
  let v := mix v 0 4 8 12 m[0] m[1]
  let v := mix v 1 5 9 13 m[2] m[3]
  let v := mix v 2 6 10 14 m[4] m[5]
  let v := mix v 3 7 11 15 m[6] m[7]
  let v := mix v 0 5 10 15 m[8] m[9]
  let v := mix v 1 6 11 12 m[10] m[11]
  let v := mix v 2 7 8 13 m[12] m[13]
  mix v 3 4 9 14 m[14] m[15]

/-- The order of the message words changes from round to round. -/
def permute (m : Block) : Block :=
  #v[m[2], m[6], m[3], m[10], m[7], m[0], m[4], m[13],
    m[1], m[11], m[12], m[5], m[9], m[14], m[15], m[8]]

/-- Some rounds, with the message reordered between them. -/
def rounds : Nat → Block → Block → Block
  | 0, v, _ => v
  | n + 1, v, m => rounds n (round v m) (permute m)

/-- What is compressed at one node of the tree. -/
structure Node where
  /-- The value passed in. -/
  chain : Chain
  /-- The message. -/
  block : Block
  /-- The number of the chunk. -/
  counter : UInt64
  /-- How many bytes of the message count. -/
  length : UInt32
  /-- The role of the node. -/
  flags : UInt32

/-- The first block of a chunk. -/
def chunkStart : UInt32 := 1

/-- The last block of a chunk. -/
def chunkEnd : UInt32 := 2

/-- A node with two children. -/
def parentFlag : UInt32 := 4

/-- The root of the tree. -/
def rootFlag : UInt32 := 8

/-- The compression function, as far as it is passed on. -/
def compress (n : Node) (extra : UInt32) : Chain :=
  let h := n.chain
  let v : Block := #v[h[0], h[1], h[2], h[3], h[4], h[5], h[6], h[7],
    initial[0], initial[1], initial[2], initial[3],
    n.counter.toUInt32, (n.counter >>> 32).toUInt32, n.length, n.flags ||| extra]
  let w := rounds 7 v n.block
  #v[w[0] ^^^ w[8], w[1] ^^^ w[9], w[2] ^^^ w[10], w[3] ^^^ w[11],
    w[4] ^^^ w[12], w[5] ^^^ w[13], w[6] ^^^ w[14], w[7] ^^^ w[15]]

/-! ### Words and bytes -/

/-- The word of four bytes at a place, the least significant first; missing bytes are zero. -/
def wordAt (bytes : List UInt8) (place : Nat) : UInt32 :=
  let byte (i : Nat) : UInt32 := ((bytes[4 * place + i]?).getD 0).toUInt32
  byte 0 ||| (byte 1 <<< 8) ||| (byte 2 <<< 16) ||| (byte 3 <<< 24)

/-- The words of a block of at most 64 bytes. -/
def blockOf (bytes : List UInt8) : Block := Vector.ofFn fun i => wordAt bytes i

/-- The four bytes of a word, the least significant first. -/
def wordBytes (w : UInt32) : List UInt8 :=
  [w.toUInt8, (w >>> 8).toUInt8, (w >>> 16).toUInt8, (w >>> 24).toUInt8]

theorem length_flatMap_wordBytes (ws : List UInt32) :
    (ws.flatMap wordBytes).length = 4 * ws.length := by
  induction ws with
  | nil => rfl
  | cons w ws ih => simp [wordBytes, ih]; omega

/-! ### Chunks and the tree -/

/-- Cuts a list into pieces of a length; the empty list is one empty piece. -/
def pieces (size : Nat) (bytes : List UInt8) : List (List UInt8) :=
  if _h : size = 0 ∨ bytes.length ≤ size then [bytes]
  else bytes.take size :: pieces size (bytes.drop size)
termination_by bytes.length
decreasing_by simp only [List.length_drop]; omega

/-- The node of the last block of a chunk, after the blocks before it were compressed. -/
def chunkNode (counter : UInt64) (chain : Chain) (start : UInt32) : List (List UInt8) → Node
  | [] => ⟨chain, blockOf [], counter, 0, start ||| chunkEnd⟩
  | [block] => ⟨chain, blockOf block, counter, block.length.toUInt32, start ||| chunkEnd⟩
  | block :: rest =>
    let next := compress ⟨chain, blockOf block, counter, 64, start⟩ 0
    chunkNode counter next 0 rest

/-- The node of a chunk. -/
def leaf (counter : Nat) (chunk : List UInt8) : Node :=
  chunkNode counter.toUInt64 initial chunkStart (pieces 64 chunk)

/-- The node above two others. -/
def parent (left right : Node) : Node :=
  let l := compress left 0
  let r := compress right 0
  ⟨initial, Vector.append l r, 0, 64, parentFlag⟩

/-- The nodes of one level from those of the level below, in pairs; a last one without a partner
moves up as it is. -/
def pairUp : List Node → List Node
  | left :: right :: rest => parent left right :: pairUp rest
  | nodes => nodes

theorem length_pairUp (nodes : List Node) : (pairUp nodes).length = (nodes.length + 1) / 2 := by
  fun_induction pairUp nodes with
  | case1 left right rest ih => simp only [List.length_cons, ih]; omega
  | case2 nodes h =>
    match nodes, h with
    | [], _ => simp
    | [_], _ => simp
    | a :: b :: rest, h => exact absurd rfl (h a b rest)

/-- The root above the leaves. Pairing level by level gives the left part of every node a power of
two leaves, the largest that leaves some for the right part. -/
def root (first : Node) (others : List Node) : Node :=
  match _h : pairUp (first :: others) with
  | [] => first
  | [node] => node
  | node :: next :: rest => root node (next :: rest)
termination_by others.length
decreasing_by
  have := length_pairUp (first :: others)
  rw [_h] at this
  simp only [List.length_cons] at this ⊢
  omega

/-- The words of the hash. -/
def words (bytes : List UInt8) : Chain :=
  match (pieces 1024 bytes).mapIdx leaf with
  | [] => compress (leaf 0 []) rootFlag
  | first :: others => compress (root first others) rootFlag

/-- The hash of some bytes. -/
def hash (bytes : List UInt8) : TxHash :=
  ⟨(words bytes).toList.flatMap wordBytes, by
    rw [length_flatMap_wordBytes, Vector.length_toList]⟩

end ShieldedLedger.Blake3
