import ClusterDeploy.Digest.Sha1
import ClusterDeploy.Digest.Sha512
import ClusterDeploy.Digest.Md5

/-!
# Keys from passphrases

* `HashFunction` is a digest as keyed authentication and key derivation use it: MD5, SHA-1,
  SHA-224, SHA-256, SHA-384 or SHA-512, with the size of its blocks and of its digests;
* `HashFunction.hmac` authenticates a message with a key (RFC 2104): the digest of the key padded
  to a block and masked with `0x5c`, followed by the digest of the key masked with `0x36` and
  the message; a key longer than a block is first replaced by its digest;
* `HashFunction.pbkdf2` stretches a passphrase into a key (RFC 8018): each block of the key is
  the sum, by exclusive or, of `iterations` chained authentications, the first of the salt and
  the block's number.
-/

namespace ClusterDeploy

/-- A digest as keyed authentication uses it. -/
structure HashFunction where
  /-- the bytes of a block -/
  blockSize : Nat
  /-- the bytes of a digest -/
  size : Nat
  digest : List UInt8 → List UInt8

namespace HashFunction

def md5 : HashFunction := ⟨64, 16, Md5.hash⟩

def sha1 : HashFunction := ⟨64, 20, Sha1.hash⟩

def sha224 : HashFunction := ⟨64, 28, Sha256.hash224⟩

def sha256 : HashFunction := ⟨64, 32, Sha256.hash⟩

def sha384 : HashFunction := ⟨128, 48, Sha512.hash384⟩

def sha512 : HashFunction := ⟨128, 64, Sha512.hash⟩

def hmac (h : HashFunction) (key msg : List UInt8) : List UInt8 :=
  let short := if key.length > h.blockSize then h.digest key else key
  let padded := short ++ List.replicate (h.blockSize - short.length) 0
  let inner := h.digest (padded.map (· ^^^ 0x36) ++ msg)
  h.digest (padded.map (· ^^^ 0x5c) ++ inner)

def blockNumber (i : Nat) : List UInt8 :=
  [(i / 16777216).toUInt8, (i / 65536).toUInt8, (i / 256).toUInt8, i.toUInt8]

/-- One block of a stretched key: the sum of `iterations` chained authentications. -/
def pbkdf2Block (h : HashFunction) (password salt : List UInt8) (iterations index : Nat) :
    List UInt8 :=
  let first := h.hmac password (salt ++ blockNumber index)
  let chained := (List.range (iterations - 1)).foldl (fun (acc : List UInt8 × List UInt8) _ =>
    let next := h.hmac password acc.1
    (next, List.zipWith (· ^^^ ·) acc.2 next)) (first, first)
  chained.2

/-- The first `length` bytes of the key stretched from `password` and `salt`. -/
def pbkdf2 (h : HashFunction) (password salt : List UInt8) (iterations length : Nat) :
    List UInt8 :=
  ((List.range ((length + h.size - 1) / h.size)).flatMap fun i =>
    h.pbkdf2Block password salt iterations (i + 1)).take length

end HashFunction

end ClusterDeploy
