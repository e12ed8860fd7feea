/-!
# AES

The AES block cipher (FIPS 197) with keys of 16, 24 or 32 bytes, and the CBC mode that decrypts
keys with it:

* `Aes.expandKey` spreads the key into one 16-byte round key per round, plus one;
* encryption runs the rounds on a 16-byte block, kept column by column: it adds a round key,
  then repeatedly substitutes each byte by the S-box, shifts the rows, mixes the columns and
  adds the next round key (the last round does not mix);
* `Aes.decryptBlock` undoes them: it adds a round key, then repeatedly shifts the rows back,
  substitutes each byte by the inverse S-box, adds the round key and unmixes the columns;
* `Aes.decryptCbc` decrypts a chain of blocks, each also added to the block before it (the
  first to the initial vector).

The S-box is the multiplicative inverse in GF(2⁸), modulo `x⁸ + x⁴ + x³ + x + 1`, followed by
an affine map; the tables below hold it and its inverse.
-/

namespace ClusterDeploy

namespace Aes

def sbox : Array UInt8 := #[
  0x63, 0x7c, 0x77, 0x7b, 0xf2, 0x6b, 0x6f, 0xc5, 0x30, 0x01, 0x67, 0x2b,
  0xfe, 0xd7, 0xab, 0x76, 0xca, 0x82, 0xc9, 0x7d, 0xfa, 0x59, 0x47, 0xf0,
  0xad, 0xd4, 0xa2, 0xaf, 0x9c, 0xa4, 0x72, 0xc0, 0xb7, 0xfd, 0x93, 0x26,
  0x36, 0x3f, 0xf7, 0xcc, 0x34, 0xa5, 0xe5, 0xf1, 0x71, 0xd8, 0x31, 0x15,
  0x04, 0xc7, 0x23, 0xc3, 0x18, 0x96, 0x05, 0x9a, 0x07, 0x12, 0x80, 0xe2,
  0xeb, 0x27, 0xb2, 0x75, 0x09, 0x83, 0x2c, 0x1a, 0x1b, 0x6e, 0x5a, 0xa0,
  0x52, 0x3b, 0xd6, 0xb3, 0x29, 0xe3, 0x2f, 0x84, 0x53, 0xd1, 0x00, 0xed,
  0x20, 0xfc, 0xb1, 0x5b, 0x6a, 0xcb, 0xbe, 0x39, 0x4a, 0x4c, 0x58, 0xcf,
  0xd0, 0xef, 0xaa, 0xfb, 0x43, 0x4d, 0x33, 0x85, 0x45, 0xf9, 0x02, 0x7f,
  0x50, 0x3c, 0x9f, 0xa8, 0x51, 0xa3, 0x40, 0x8f, 0x92, 0x9d, 0x38, 0xf5,
  0xbc, 0xb6, 0xda, 0x21, 0x10, 0xff, 0xf3, 0xd2, 0xcd, 0x0c, 0x13, 0xec,
  0x5f, 0x97, 0x44, 0x17, 0xc4, 0xa7, 0x7e, 0x3d, 0x64, 0x5d, 0x19, 0x73,
  0x60, 0x81, 0x4f, 0xdc, 0x22, 0x2a, 0x90, 0x88, 0x46, 0xee, 0xb8, 0x14,
  0xde, 0x5e, 0x0b, 0xdb, 0xe0, 0x32, 0x3a, 0x0a, 0x49, 0x06, 0x24, 0x5c,
  0xc2, 0xd3, 0xac, 0x62, 0x91, 0x95, 0xe4, 0x79, 0xe7, 0xc8, 0x37, 0x6d,
  0x8d, 0xd5, 0x4e, 0xa9, 0x6c, 0x56, 0xf4, 0xea, 0x65, 0x7a, 0xae, 0x08,
  0xba, 0x78, 0x25, 0x2e, 0x1c, 0xa6, 0xb4, 0xc6, 0xe8, 0xdd, 0x74, 0x1f,
  0x4b, 0xbd, 0x8b, 0x8a, 0x70, 0x3e, 0xb5, 0x66, 0x48, 0x03, 0xf6, 0x0e,
  0x61, 0x35, 0x57, 0xb9, 0x86, 0xc1, 0x1d, 0x9e, 0xe1, 0xf8, 0x98, 0x11,
  0x69, 0xd9, 0x8e, 0x94, 0x9b, 0x1e, 0x87, 0xe9, 0xce, 0x55, 0x28, 0xdf,
  0x8c, 0xa1, 0x89, 0x0d, 0xbf, 0xe6, 0x42, 0x68, 0x41, 0x99, 0x2d, 0x0f,
  0xb0, 0x54, 0xbb, 0x16]

def inverseSbox : Array UInt8 := #[
  0x52, 0x09, 0x6a, 0xd5, 0x30, 0x36, 0xa5, 0x38, 0xbf, 0x40, 0xa3, 0x9e,
  0x81, 0xf3, 0xd7, 0xfb, 0x7c, 0xe3, 0x39, 0x82, 0x9b, 0x2f, 0xff, 0x87,
  0x34, 0x8e, 0x43, 0x44, 0xc4, 0xde, 0xe9, 0xcb, 0x54, 0x7b, 0x94, 0x32,
  0xa6, 0xc2, 0x23, 0x3d, 0xee, 0x4c, 0x95, 0x0b, 0x42, 0xfa, 0xc3, 0x4e,
  0x08, 0x2e, 0xa1, 0x66, 0x28, 0xd9, 0x24, 0xb2, 0x76, 0x5b, 0xa2, 0x49,
  0x6d, 0x8b, 0xd1, 0x25, 0x72, 0xf8, 0xf6, 0x64, 0x86, 0x68, 0x98, 0x16,
  0xd4, 0xa4, 0x5c, 0xcc, 0x5d, 0x65, 0xb6, 0x92, 0x6c, 0x70, 0x48, 0x50,
  0xfd, 0xed, 0xb9, 0xda, 0x5e, 0x15, 0x46, 0x57, 0xa7, 0x8d, 0x9d, 0x84,
  0x90, 0xd8, 0xab, 0x00, 0x8c, 0xbc, 0xd3, 0x0a, 0xf7, 0xe4, 0x58, 0x05,
  0xb8, 0xb3, 0x45, 0x06, 0xd0, 0x2c, 0x1e, 0x8f, 0xca, 0x3f, 0x0f, 0x02,
  0xc1, 0xaf, 0xbd, 0x03, 0x01, 0x13, 0x8a, 0x6b, 0x3a, 0x91, 0x11, 0x41,
  0x4f, 0x67, 0xdc, 0xea, 0x97, 0xf2, 0xcf, 0xce, 0xf0, 0xb4, 0xe6, 0x73,
  0x96, 0xac, 0x74, 0x22, 0xe7, 0xad, 0x35, 0x85, 0xe2, 0xf9, 0x37, 0xe8,
  0x1c, 0x75, 0xdf, 0x6e, 0x47, 0xf1, 0x1a, 0x71, 0x1d, 0x29, 0xc5, 0x89,
  0x6f, 0xb7, 0x62, 0x0e, 0xaa, 0x18, 0xbe, 0x1b, 0xfc, 0x56, 0x3e, 0x4b,
  0xc6, 0xd2, 0x79, 0x20, 0x9a, 0xdb, 0xc0, 0xfe, 0x78, 0xcd, 0x5a, 0xf4,
  0x1f, 0xdd, 0xa8, 0x33, 0x88, 0x07, 0xc7, 0x31, 0xb1, 0x12, 0x10, 0x59,
  0x27, 0x80, 0xec, 0x5f, 0x60, 0x51, 0x7f, 0xa9, 0x19, 0xb5, 0x4a, 0x0d,
  0x2d, 0xe5, 0x7a, 0x9f, 0x93, 0xc9, 0x9c, 0xef, 0xa0, 0xe0, 0x3b, 0x4d,
  0xae, 0x2a, 0xf5, 0xb0, 0xc8, 0xeb, 0xbb, 0x3c, 0x83, 0x53, 0x99, 0x61,
  0x17, 0x2b, 0x04, 0x7e, 0xba, 0x77, 0xd6, 0x26, 0xe1, 0x69, 0x14, 0x63,
  0x55, 0x21, 0x0c, 0x7d]

def sub (b : UInt8) : UInt8 := sbox.getD b.toNat 0

def unsub (b : UInt8) : UInt8 := inverseSbox.getD b.toNat 0

def xtime (b : UInt8) : UInt8 := if b &&& 0x80 == 0 then b <<< 1 else (b <<< 1) ^^^ 0x1b

def gmul (b : UInt8) (n : Nat) : UInt8 :=
  (List.range 8).foldl (fun (acc : UInt8 × UInt8) i =>
    (if n.testBit i then acc.1 ^^^ acc.2 else acc.1, xtime acc.2)) (0, b) |>.1

/-- Spreads a key of `4·nk` bytes into the words of the round keys. -/
def expandKey (key : List UInt8) : Array (List UInt8) :=
  let nk := key.length / 4
  let rounds := nk + 6
  let start : Array (List UInt8) := ((List.range nk).map fun i => (key.drop (4 * i)).take 4).toArray
  let step := fun (w : Array (List UInt8)) (i : Nat) =>
    let prev := w.getD (i - 1) []
    let fresh :=
      if i % nk == 0 then
        let rot := (prev.drop 1 ++ prev.take 1).map sub
        let rcon := (List.range (i / nk - 1)).foldl (fun c _ => xtime c) (1 : UInt8)
        match rot with
        | r :: rest => (r ^^^ rcon) :: rest
        | [] => []
      else if nk > 6 && i % nk == 4 then prev.map sub
      else prev
    w.push (List.zipWith (· ^^^ ·) (w.getD (i - nk) []) fresh)
  (List.range (4 * (rounds + 1) - nk)).foldl (fun w j => step w (j + nk)) start

def roundKey (w : Array (List UInt8)) (r : Nat) : List UInt8 :=
  (List.range 4).flatMap fun c => w.getD (4 * r + c) []

def addBlock (a b : List UInt8) : List UInt8 := List.zipWith (· ^^^ ·) a b

def unshiftRows (s : List UInt8) : List UInt8 :=
  (List.range 16).map fun i =>
    let row := i % 4
    let col := i / 4
    s.getD (row + 4 * ((col + 4 - row) % 4)) 0

def unmixColumns (s : List UInt8) : List UInt8 :=
  (List.range 4).flatMap fun c =>
    let a := fun (i : Nat) => s.getD (4 * c + i) 0
    [gmul (a 0) 14 ^^^ gmul (a 1) 11 ^^^ gmul (a 2) 13 ^^^ gmul (a 3) 9,
     gmul (a 0) 9 ^^^ gmul (a 1) 14 ^^^ gmul (a 2) 11 ^^^ gmul (a 3) 13,
     gmul (a 0) 13 ^^^ gmul (a 1) 9 ^^^ gmul (a 2) 14 ^^^ gmul (a 3) 11,
     gmul (a 0) 11 ^^^ gmul (a 1) 13 ^^^ gmul (a 2) 9 ^^^ gmul (a 3) 14]

/-- Decrypts one 16-byte block with the round keys `w` of `rounds` rounds. -/
def decryptBlock (w : Array (List UInt8)) (rounds : Nat) (block : List UInt8) : List UInt8 :=
  let first := addBlock block (roundKey w rounds)
  let middle := (List.range (rounds - 1)).foldl (fun s j =>
    let r := rounds - 1 - j
    unmixColumns (addBlock ((unshiftRows s).map unsub) (roundKey w r))) first
  addBlock ((unshiftRows middle).map unsub) (roundKey w 0)

/-- Decrypts blocks chained to `previous`, 16 bytes at a time; a short tail is dropped. -/
def decryptChain (w : Array (List UInt8)) (rounds : Nat) (previous data : List UInt8) :
    List UInt8 :=
  if _h : data.length < 16 then []
  else
    let block := data.take 16
    addBlock (decryptBlock w rounds block) previous ++
      decryptChain w rounds block (data.drop 16)
termination_by data.length
decreasing_by simp only [List.length_drop]; omega

/-- Decrypts data in CBC mode with a key of 16, 24 or 32 bytes and a 16-byte initial
vector. -/
def decryptCbc (key iv data : List UInt8) : List UInt8 :=
  decryptChain (expandKey key) (key.length / 4 + 6) iv data

end Aes

end ClusterDeploy
