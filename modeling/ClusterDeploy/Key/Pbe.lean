import ClusterDeploy.Key.Der
import ClusterDeploy.Cipher.Aes
import ClusterDeploy.Cipher.Des
import ClusterDeploy.Cipher.Blowfish
import ClusterDeploy.Cipher.Cast5
import ClusterDeploy.Cipher.Rc4
import ClusterDeploy.Digest.Pbkdf2

/-!
# Password-based encryption of keys

Private keys kept under a passphrase are encrypted in one of two ways.

A PKCS#8 key is a DER value naming its scheme and holding the encrypted key
(`Pbe.pkcs8Decrypt`):

* PBES2 (PKCS#5 v2, `Pbe.pbes2`): a key stretched from the passphrase by PBKDF2, with HMAC over
  SHA-1 (the default) or SHA-224 to SHA-512, and a block cipher in CBC mode whose one parameter
  is the initial vector: AES, DES, triple DES, Blowfish or CAST-128.  The derivation may name
  the key's length, which then wins over the cipher's own, and is not checked against what the
  cipher accepts;
* PBES1 (PKCS#5 v1.5): DES, its key and initial vector the first 16 bytes of the passphrase and
  the salt hashed by MD5 or SHA-1 as many times as the key says (`Pbe.pbkdf1`);
* the PKCS#12 schemes: RC4 with a 128-bit or 40-bit key, or triple DES with three or two keys,
  the key and the initial vector derived from the passphrase, written in UTF-16 with two zero
  bytes after it, by the PKCS#12 derivation over SHA-1.

Where a parameter must be an integer, a boolean stands for `0` or `1`.  A block cipher's plain
text ends in padding of 1 to a block's worth of bytes, each holding the count (RFC 1423), which
is checked and removed; the decrypted key is DER again.

An older PEM key says how it is encrypted in its headers (`Pbe.pkcs1Decrypt`): AES with a 128-,
192- or 256-bit key, DES or triple DES, in CBC mode, whose initial vector's first eight bytes
salt a key derived from the passphrase by one round of MD5 (`Pbe.pbkdf1`).

A scheme, cipher or derivation that is not one of these, parameters not of their form, and a
passphrase that does not decrypt the key leave the key undecrypted (`Pbe.Fault.undecrypted`).
The cryptography library refuses some parameters outright, and those failures are not a key
that stays encrypted (`Pbe.Fault.refused`, `Pbe.Fault.overflow`): PBKDF2 wants lengths and
iteration counts that fit an unsigned machine word and at least one iteration, and a cipher
refuses a key of a length it does not take (`CbcCipher.check`), in the order the library looks
at them: the derivation's numbers, then the initial vector, then the key.
-/

namespace ClusterDeploy

/-- A block cipher in CBC mode: its name in the cryptography library's messages, the bytes of
its default key, the key lengths it accepts, the bytes of its blocks, which is also the length
of its initial vector, and how it decrypts data under a key and an initial vector. -/
structure CbcCipher where
  name : String
  keyLength : Nat
  keySizes : List Nat
  blockSize : Nat
  decrypt : List UInt8 → List UInt8 → List UInt8 → List UInt8

namespace CbcCipher

/-- AES with a default key of `keyLength` bytes.  A 512-bit key is an AES key, though not one
that CBC mode takes. -/
def aes (keyLength : Nat) : CbcCipher := ⟨"AES", keyLength, [16, 24, 32, 64], 16, Aes.decryptCbc⟩

def des : CbcCipher := ⟨"3DES", 8, [8, 16, 24], 8, Des.decryptCbc⟩

def des2 : CbcCipher := ⟨"3DES", 16, [8, 16, 24], 8, Des.decryptCbc⟩

def des3 : CbcCipher := ⟨"3DES", 24, [8, 16, 24], 8, Des.decryptCbc⟩

/-- Blowfish with a default 128-bit key; keys of 32 to 448 bits are taken. -/
def blowfish : CbcCipher :=
  ⟨"Blowfish", 16, (List.range 53).map (· + 4), 8, Blowfish.decryptCbc⟩

/-- CAST-128 with a default 128-bit key; keys of 40 to 128 bits are taken. -/
def cast5 : CbcCipher := ⟨"CAST5", 16, (List.range 12).map (· + 5), 8, Cast5.decryptCbc⟩

def ofPbes2 : List Nat → Option CbcCipher
  | [2, 16, 840, 1, 101, 3, 4, 1, 2] => some (aes 16)
  | [2, 16, 840, 1, 101, 3, 4, 1, 22] => some (aes 24)
  | [2, 16, 840, 1, 101, 3, 4, 1, 42] => some (aes 32)
  | [1, 3, 14, 3, 2, 7] => some des
  | [1, 2, 840, 113549, 3, 7] => some des3
  | [1, 3, 6, 1, 4, 1, 3029, 1, 2] => some blowfish
  | [1, 2, 840, 113533, 7, 66, 10] => some cast5
  | _ => none

def ofPem : String → Option CbcCipher
  | "AES-128-CBC" => some (aes 16)
  | "AES-192-CBC" => some (aes 24)
  | "AES-256-CBC" => some (aes 32)
  | "DES-CBC" => some des
  | "DES-EDE3-CBC" => some des3
  | _ => none

/-- How the cryptography library refuses a key of `length` bytes and an initial vector of `iv`
bytes for this cipher in CBC mode, if it does: first a key length the cipher does not take,
then an AES key too long for CBC mode, then an initial vector that is not one block. -/
def check (c : CbcCipher) (length iv : Nat) : Option String :=
  if !c.keySizes.contains length then
    some ("Invalid key size (" ++ toString (8 * length) ++ ") for " ++ c.name ++ ".")
  else if c.name == "AES" && length > 32 then
    some "Only 128, 192, and 256 bit keys are allowed for this AES mode"
  else if iv != c.blockSize then
    some ("Invalid IV size (" ++ toString iv ++ ") for CBC.")
  else none

end CbcCipher

namespace Pbe

/-- Why an encrypted key was not decrypted. -/
inductive Fault where
  /-- the scheme or its parameters are unknown or not of their form, or the passphrase does not
  decrypt the key: the key stays encrypted -/
  | undecrypted
  /-- the cryptography library refuses a parameter, or the decrypted DER holds an impossible
  value; the text says which -/
  | refused (message : String)
  /-- an integer parameter does not fit an unsigned machine word; the text says how -/
  | overflow (message : String)
deriving DecidableEq, Repr, Inhabited

def bytesOf (s : String) : List UInt8 := s.toUTF8.toList

/-- Removes padding of `n` bytes each `n`, for `n` from 1 to `block`. -/
def unpad (block : Nat) (data : List UInt8) : Option (List UInt8) :=
  match data.getLast? with
  | some last =>
    let n := last.toNat
    if 1 ≤ n && n ≤ block && n ≤ data.length && (data.drop (data.length - n)).all (· == last) then
      some (data.take (data.length - n))
    else none
  | none => none

/-- Decrypts data under a cipher in CBC mode, which must take the key and the initial vector,
and removes the padding. -/
def openCbc (c : CbcCipher) (key iv data : List UInt8) : Except Fault (List UInt8) :=
  match c.check key.length iv.length with
  | some m => .error (.refused m)
  | none =>
    match unpad c.blockSize (c.decrypt key iv data) with
    | some plain => .ok plain
    | none => .error .undecrypted

/-- Reads decrypted DER: bytes that are not DER, or a UTF-8 string that is not text, leave the
key undecrypted; impossible unused bits are refused. -/
def readPlain (plain : List UInt8) : Except Fault Der :=
  match Der.read plain with
  | .ok d => .ok d
  | .error (.unusedBits m) => .error (.refused m)
  | .error _ => .error .undecrypted

/-- the pseudo-random function of PBKDF2 named by an object identifier -/
def prfOf : List Nat → Option HashFunction
  | [1, 2, 840, 113549, 2, 7] => some .sha1
  | [1, 2, 840, 113549, 2, 8] => some .sha224
  | [1, 2, 840, 113549, 2, 9] => some .sha256
  | [1, 2, 840, 113549, 2, 10] => some .sha384
  | [1, 2, 840, 113549, 2, 11] => some .sha512
  | _ => none

/-- The key length and the pseudo-random function that follow the salt and the iteration count
of PBKDF2: an integer there is the length, winning over `keyLength`; what follows must be the
function, a pair of its object identifier and its parameters, and anything after it is not
looked at.  The function is HMAC-SHA1 unless one is named. -/
def pbkdf2Options (keyLength : Nat) (rest : List Der) : Option (Int × HashFunction) :=
  let (length, rest) := match rest with
    | d :: more =>
      match d.asInt? with
      | some n => (n, more)
      | none => ((keyLength : Int), rest)
    | [] => ((keyLength : Int), [])
  match rest with
  | [] => some (length, .sha1)
  | .sequence [.oid arcs, _] :: _ => (prfOf arcs).map fun h => (length, h)
  | _ => none

/-- How an integer fails to be an unsigned machine word, if it does. -/
def unsignedFault (n : Int) : Option String :=
  if n < 0 then some "can't convert negative int to unsigned"
  else if n ≥ Int.pow 2 64 then some "int too big to convert"
  else none

/-- Decrypts data under PBES2 with the parameters of its derivation and its cipher. -/
def pbes2 (params : List Der) (data : List UInt8) (passphrase : String) :
    Except Fault (List UInt8) := do
  let (kdf, enc) ← match params with
    | [.sequence [kdf, kdfParams], .sequence [enc, encParams]] =>
      pure ((kdf, kdfParams), (enc, encParams))
    | _ => throw .undecrypted
  if kdf.1 != .oid [1, 2, 840, 113549, 1, 5, 12] then throw .undecrypted
  let some c := (match enc.1 with
      | .oid arcs => CbcCipher.ofPbes2 arcs
      | _ => none)
    | throw .undecrypted
  let (salt, iterations, rest) ← match kdf.2 with
    | .sequence (.octets s :: n :: rest) =>
      match n.asInt? with
      | some n => pure (s, n, rest)
      | none => throw .undecrypted
    | _ => throw .undecrypted
  let some (keyLength, prf) := pbkdf2Options c.keyLength rest | throw .undecrypted
  if let some m := unsignedFault keyLength then throw (.overflow m)
  if let some m := unsignedFault iterations then throw (.overflow m)
  if iterations < 1 then throw (.refused "iterations must be greater than or equal to 1.")
  let iv ← match enc.2 with
    | .octets iv => if iv.length == c.blockSize then pure iv else throw .undecrypted
    | _ => throw .undecrypted
  if let some m := c.check keyLength.toNat iv.length then throw (.refused m)
  let key := prf.pbkdf2 (bytesOf passphrase) salt iterations.toNat keyLength.toNat
  openCbc c key iv data

/-- PBKDF1 as older schemes stretch it: the passphrase and the salt hashed `count` times, and
while that is not more than `size` bytes, that much followed by the key derived the same way
from it and the passphrase, for the bytes still missing.  `fuel` bounds the rounds. -/
def pbkdf1 (h : HashFunction) (passphrase salt : List UInt8) (count size : Nat) : List UInt8 :=
  go (size + 2) passphrase size
where
  /-- the key of `size` bytes from `pass` -/
  go : Nat → List UInt8 → Nat → List UInt8
    | 0, _, _ => []
    | fuel + 1, pass, size =>
      let key := (List.range count).foldl (fun k _ => h.digest k) (pass ++ salt)
      if key.length ≤ size then key ++ go fuel (key ++ passphrase) (size - key.length)
      else key.take size

/-- Decrypts data under PBES1: DES whose key and initial vector are the first 16 bytes PBKDF1
derives with the salt and the iteration count of the parameters; a count below one hashes
nothing. -/
def pbes1 (h : HashFunction) (params : Der) (data : List UInt8) (passphrase : String) :
    Except Fault (List UInt8) :=
  match params with
  | .sequence [.octets salt, count] =>
    match count.asInt? with
    | some count =>
      let material := pbkdf1 h (bytesOf passphrase) salt count.toNat 16
      openCbc CbcCipher.des (material.take 8) (material.drop 8) data
    | none => .error .undecrypted
  | _ => .error .undecrypted

/-- Text in UTF-16, big-endian, characters beyond the first plane as surrogate pairs. -/
def utf16be (s : String) : List UInt8 :=
  s.toList.flatMap fun c =>
    let n := c.toNat
    let unit := fun (u : Nat) => [(u / 256).toUInt8, (u % 256).toUInt8]
    if n < 0x10000 then unit n
    else unit (0xD800 + (n - 0x10000) / 1024) ++ unit (0xDC00 + (n - 0x10000) % 1024)

/-- Data repeated and cut to the next multiple of `v` bytes at or above its length. -/
def fillBlocks (v : Nat) (data : List UInt8) : List UInt8 :=
  let size := (data.length + v - 1) / v * v
  ((List.replicate ((size + data.length - 1) / max data.length 1) data).flatten).take size

def bigEndian (bs : List UInt8) : Nat := bs.foldl (fun acc b => acc * 256 + b.toNat) 0

def bigEndianBytes (len n : Nat) : List UInt8 :=
  (List.range len).reverse.map fun i => (n / Nat.pow 2 (8 * i)).toUInt8

/-- The PKCS#12 derivation: `size` bytes of material of kind `id` (1 for a key, 2 for an initial
vector) from a passphrase and a salt, hashing `count` times per round.  Each round hashes the
kind's block and the running input `I`, then adds the result, plus one, to each block of
`I`. -/
def pkcs12Derive (h : HashFunction) (passphrase : String) (salt : List UInt8)
    (count size id : Nat) : List UInt8 :=
  let v := h.blockSize
  let d := List.replicate v id.toUInt8
  let start := fillBlocks v salt ++ fillBlocks v (utf16be passphrase ++ [0, 0])
  let rounds := size / max h.size 1 + 1
  let (_, out) := (List.range rounds).foldl (fun (acc : List UInt8 × List UInt8) _ =>
    let (i, out) := acc
    let a := (List.range count).foldl (fun x _ => h.digest x) (d ++ i)
    let b := bigEndian (fillBlocks v a)
    let i := (List.range (i.length / v)).flatMap fun k =>
      bigEndianBytes v (bigEndian ((i.drop (k * v)).take v) + b + 1)
    (i, out ++ a)) (start, [])
  out.take size

/-- Decrypts data under a PKCS#12 scheme: RC4 with a key of `keySize` bytes when no block cipher
is given, else the block cipher with its key and initial vector.  The parameters are a salt,
which may not be empty, and a nonzero iteration count; a count below zero hashes nothing. -/
def pkcs12 (keySize : Nat) (block : Option CbcCipher) (params : Der) (data : List UInt8)
    (passphrase : String) : Except Fault (List UInt8) :=
  match params with
  | .sequence [.octets salt, count] =>
    match count.asInt? with
    | some count =>
      if salt.isEmpty || count == 0 then .error .undecrypted
      else
        let derive := pkcs12Derive .sha1 passphrase salt count.toNat
        match block with
        | none => .ok (Rc4.crypt (derive keySize 1) data)
        | some c => openCbc c (derive c.keyLength 1) (derive c.blockSize 2) data
    | none => .error .undecrypted
  | _ => .error .undecrypted

def pkcs8Decrypt (d : Der) (passphrase : String) : Except Fault Der := do
  match d with
  | .sequence [.sequence [alg, params], .octets data] =>
    let arcs := match alg with
      | .oid arcs => arcs
      | _ => []
    let plain ← match arcs, params with
      | [1, 2, 840, 113549, 1, 5, 13], .sequence ps => pbes2 ps data passphrase
      | [1, 2, 840, 113549, 1, 5, 13], _ => throw .undecrypted
      | [1, 2, 840, 113549, 1, 5, 3], _ => pbes1 .md5 params data passphrase
      | [1, 2, 840, 113549, 1, 5, 10], _ => pbes1 .sha1 params data passphrase
      | [1, 2, 840, 113549, 1, 12, 1, 1], _ => pkcs12 16 none params data passphrase
      | [1, 2, 840, 113549, 1, 12, 1, 2], _ => pkcs12 5 none params data passphrase
      | [1, 2, 840, 113549, 1, 12, 1, 3], _ => pkcs12 24 (some .des3) params data passphrase
      | [1, 2, 840, 113549, 1, 12, 1, 4], _ => pkcs12 16 (some .des2) params data passphrase
      | _, _ => throw .undecrypted
    readPlain plain
  | _ => throw .undecrypted

/-- Decrypts the content of an older PEM key under a known cipher, which must take the initial
vector. -/
def pkcs1Decrypt (c : CbcCipher) (iv : List UInt8) (passphrase : String) (data : List UInt8) :
    Except Fault (List UInt8) :=
  let key := pbkdf1 .md5 (bytesOf passphrase) (iv.take 8) 1 c.keyLength
  openCbc c key iv data

end Pbe

end ClusterDeploy
