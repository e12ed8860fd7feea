/-!
# DES and triple DES

The Data Encryption Standard (FIPS 46-3) on 64-bit blocks, as older encrypted keys use it: alone,
or three times with two or three keys.

Bits are numbered from 1 at the most significant end, as the standard's tables number them, and
a table lists, for each bit of its output in turn, the input bit it takes (`Des.permute`).

* `Des.subkeys` derives the sixteen 48-bit round keys: the 56 key bits that `keyChoice` keeps,
  as two halves of 28 bits, each rotated left by one or two places before each round, and 48 of
  their bits chosen by `roundKeyChoice`;
* `Des.mangle` is the round function: the right half expanded to 48 bits, the round key added,
  each 6-bit group replaced through its S-box by 4 bits, and the 32 bits permuted;
* `Des.cipher` runs the sixteen Feistel rounds between the initial permutation and its inverse.
  A Feistel network undoes itself with the round keys in reverse order, so decryption is the
  same function on the reversed keys;
* triple DES decrypts with the third key, encrypts with the second and decrypts with the first;
  a 16-byte key is the first and second key, the first used again as the third, and an 8-byte
  key is plain DES.
-/

namespace ClusterDeploy

namespace Des

def initialPermutation : Array Nat := #[
  58, 50, 42, 34, 26, 18, 10, 2, 60, 52, 44, 36, 28, 20, 12, 4,
  62, 54, 46, 38, 30, 22, 14, 6, 64, 56, 48, 40, 32, 24, 16, 8,
  57, 49, 41, 33, 25, 17, 9, 1, 59, 51, 43, 35, 27, 19, 11, 3,
  61, 53, 45, 37, 29, 21, 13, 5, 63, 55, 47, 39, 31, 23, 15, 7]

def finalPermutation : Array Nat := #[
  40, 8, 48, 16, 56, 24, 64, 32, 39, 7, 47, 15, 55, 23, 63, 31,
  38, 6, 46, 14, 54, 22, 62, 30, 37, 5, 45, 13, 53, 21, 61, 29,
  36, 4, 44, 12, 52, 20, 60, 28, 35, 3, 43, 11, 51, 19, 59, 27,
  34, 2, 42, 10, 50, 18, 58, 26, 33, 1, 41, 9, 49, 17, 57, 25]

def expansion : Array Nat := #[
  32, 1, 2, 3, 4, 5, 4, 5, 6, 7, 8, 9, 8, 9, 10, 11, 12, 13, 12, 13, 14, 15, 16, 17,
  16, 17, 18, 19, 20, 21, 20, 21, 22, 23, 24, 25, 24, 25, 26, 27, 28, 29, 28, 29, 30, 31, 32, 1]

def roundPermutation : Array Nat := #[
  16, 7, 20, 21, 29, 12, 28, 17, 1, 15, 23, 26, 5, 18, 31, 10,
  2, 8, 24, 14, 32, 27, 3, 9, 19, 13, 30, 6, 22, 11, 4, 25]

def keyChoice : Array Nat := #[
  57, 49, 41, 33, 25, 17, 9, 1, 58, 50, 42, 34, 26, 18,
  10, 2, 59, 51, 43, 35, 27, 19, 11, 3, 60, 52, 44, 36,
  63, 55, 47, 39, 31, 23, 15, 7, 62, 54, 46, 38, 30, 22,
  14, 6, 61, 53, 45, 37, 29, 21, 13, 5, 28, 20, 12, 4]

/-- the 48 bits of a round key, out of the 56 of the rotated halves -/
def roundKeyChoice : Array Nat := #[
  14, 17, 11, 24, 1, 5, 3, 28, 15, 6, 21, 10, 23, 19, 12, 4, 26, 8, 16, 7, 27, 20, 13, 2,
  41, 52, 31, 37, 47, 55, 30, 40, 51, 45, 33, 48, 44, 49, 39, 56, 34, 53, 46, 42, 50, 36, 29, 32]

def rotations : List Nat := [1, 1, 2, 2, 2, 2, 2, 2, 1, 2, 2, 2, 2, 2, 2, 1]

/-- The eight S-boxes, 64 entries each: row (the outer two bits of a group) times 16 plus column
(the inner four). -/
def sboxes : Array (Array Nat) := #[
  #[14, 4, 13, 1, 2, 15, 11, 8, 3, 10, 6, 12, 5, 9, 0, 7,
    0, 15, 7, 4, 14, 2, 13, 1, 10, 6, 12, 11, 9, 5, 3, 8,
    4, 1, 14, 8, 13, 6, 2, 11, 15, 12, 9, 7, 3, 10, 5, 0,
    15, 12, 8, 2, 4, 9, 1, 7, 5, 11, 3, 14, 10, 0, 6, 13],
  #[15, 1, 8, 14, 6, 11, 3, 4, 9, 7, 2, 13, 12, 0, 5, 10,
    3, 13, 4, 7, 15, 2, 8, 14, 12, 0, 1, 10, 6, 9, 11, 5,
    0, 14, 7, 11, 10, 4, 13, 1, 5, 8, 12, 6, 9, 3, 2, 15,
    13, 8, 10, 1, 3, 15, 4, 2, 11, 6, 7, 12, 0, 5, 14, 9],
  #[10, 0, 9, 14, 6, 3, 15, 5, 1, 13, 12, 7, 11, 4, 2, 8,
    13, 7, 0, 9, 3, 4, 6, 10, 2, 8, 5, 14, 12, 11, 15, 1,
    13, 6, 4, 9, 8, 15, 3, 0, 11, 1, 2, 12, 5, 10, 14, 7,
    1, 10, 13, 0, 6, 9, 8, 7, 4, 15, 14, 3, 11, 5, 2, 12],
  #[7, 13, 14, 3, 0, 6, 9, 10, 1, 2, 8, 5, 11, 12, 4, 15,
    13, 8, 11, 5, 6, 15, 0, 3, 4, 7, 2, 12, 1, 10, 14, 9,
    10, 6, 9, 0, 12, 11, 7, 13, 15, 1, 3, 14, 5, 2, 8, 4,
    3, 15, 0, 6, 10, 1, 13, 8, 9, 4, 5, 11, 12, 7, 2, 14],
  #[2, 12, 4, 1, 7, 10, 11, 6, 8, 5, 3, 15, 13, 0, 14, 9,
    14, 11, 2, 12, 4, 7, 13, 1, 5, 0, 15, 10, 3, 9, 8, 6,
    4, 2, 1, 11, 10, 13, 7, 8, 15, 9, 12, 5, 6, 3, 0, 14,
    11, 8, 12, 7, 1, 14, 2, 13, 6, 15, 0, 9, 10, 4, 5, 3],
  #[12, 1, 10, 15, 9, 2, 6, 8, 0, 13, 3, 4, 14, 7, 5, 11,
    10, 15, 4, 2, 7, 12, 9, 5, 6, 1, 13, 14, 0, 11, 3, 8,
    9, 14, 15, 5, 2, 8, 12, 3, 7, 0, 4, 10, 1, 13, 11, 6,
    4, 3, 2, 12, 9, 5, 15, 10, 11, 14, 1, 7, 6, 0, 8, 13],
  #[4, 11, 2, 14, 15, 0, 8, 13, 3, 12, 9, 7, 5, 10, 6, 1,
    13, 0, 11, 7, 4, 9, 1, 10, 14, 3, 5, 12, 2, 15, 8, 6,
    1, 4, 11, 13, 12, 3, 7, 14, 10, 15, 6, 8, 0, 5, 9, 2,
    6, 11, 13, 8, 1, 4, 10, 7, 9, 5, 0, 15, 14, 2, 3, 12],
  #[13, 2, 8, 4, 6, 15, 11, 1, 10, 9, 3, 14, 5, 0, 12, 7,
    1, 15, 13, 8, 10, 3, 7, 4, 12, 5, 6, 11, 0, 14, 9, 2,
    7, 11, 4, 1, 9, 12, 14, 2, 0, 6, 10, 13, 15, 3, 5, 8,
    2, 1, 14, 7, 4, 10, 8, 13, 15, 12, 9, 0, 3, 5, 6, 11]]

/-- Bit `pos` of a `width`-bit number, numbered from 1 at the most significant end. -/
def bit (width : Nat) (x : Nat) (pos : Nat) : Nat := (x >>> (width - pos)) % 2

/-- The bits of `x`, `width` wide, that the table lists, in its order. -/
def permute (table : Array Nat) (width : Nat) (x : Nat) : Nat :=
  table.foldl (fun acc pos => 2 * acc + bit width x pos) 0

def rotate (n : Nat) (half : Nat) : Nat :=
  ((half <<< n) ||| (half >>> (28 - n))) % Nat.pow 2 28

/-- The sixteen round keys of a 64-bit key, in the order encryption uses them. -/
def subkeys (key : Nat) : List Nat :=
  let kept := permute keyChoice 64 key
  let (_, keys) := rotations.foldl (fun (acc : (Nat × Nat) × List Nat) n =>
    let ((c, d), keys) := acc
    let c := rotate n c
    let d := rotate n d
    ((c, d), permute roundKeyChoice 56 (c * Nat.pow 2 28 + d) :: keys))
    ((kept / Nat.pow 2 28, kept % Nat.pow 2 28), [])
  keys.reverse

/-- The round function of a 32-bit half under a 48-bit round key. -/
def mangle (half key : Nat) : Nat :=
  let x := permute expansion 32 half ^^^ key
  let substituted := (List.range 8).foldl (fun acc i =>
    let group := (x >>> (42 - 6 * i)) % 64
    let row := (group / 32) * 2 + group % 2
    let column := (group / 2) % 16
    16 * acc + ((sboxes.getD i #[]).getD (16 * row + column) 0)) 0
  permute roundPermutation 32 substituted

/-- One 64-bit block through the sixteen rounds with the given round keys. -/
def cipher (keys : List Nat) (block : Nat) : Nat :=
  let x := permute initialPermutation 64 block
  let (l, r) := keys.foldl (fun (acc : Nat × Nat) k =>
    let (l, r) := acc
    (r, l ^^^ mangle r k)) (x / Nat.pow 2 32, x % Nat.pow 2 32)
  permute finalPermutation 64 (r * Nat.pow 2 32 + l)

def bigEndian (bs : List UInt8) : Nat := bs.foldl (fun acc b => acc * 256 + b.toNat) 0

def toBytes (n : Nat) : List UInt8 :=
  (List.range 8).reverse.map fun i => (n >>> (8 * i)).toUInt8

/-- The round keys of the three stages of triple DES under a key of 8, 16 or 24 bytes:
decryption keys for the first and last stage, encryption keys for the middle one. -/
def stages (key : List UInt8) : List Nat × List Nat × List Nat :=
  let k1 := bigEndian (key.take 8)
  let k2 := if key.length ≥ 16 then bigEndian ((key.drop 8).take 8) else k1
  let k3 := if key.length ≥ 24 then bigEndian ((key.drop 16).take 8) else k1
  ((subkeys k3).reverse, subkeys k2, (subkeys k1).reverse)

/-- Decrypts one block with triple DES: decryption under the third key, encryption under the
second, decryption under the first. -/
def decryptBlock (keys : List Nat × List Nat × List Nat) (block : Nat) : Nat :=
  let (d3, e2, d1) := keys
  cipher d1 (cipher e2 (cipher d3 block))

/-- Decrypts blocks chained to `previous`, 8 bytes at a time; a short tail is dropped. -/
def decryptChain (keys : List Nat × List Nat × List Nat) (previous : Nat) :
    List UInt8 → List UInt8
  | b0 :: b1 :: b2 :: b3 :: b4 :: b5 :: b6 :: b7 :: rest =>
    let block := bigEndian [b0, b1, b2, b3, b4, b5, b6, b7]
    toBytes (decryptBlock keys block ^^^ previous) ++ decryptChain keys block rest
  | _ => []

/-- Decrypts data in CBC mode with an 8-byte initial vector, under DES for an 8-byte key and
triple DES for a key of 16 or 24 bytes. -/
def decryptCbc (key iv data : List UInt8) : List UInt8 :=
  decryptChain (stages key) (bigEndian iv) data

end Des

end ClusterDeploy
