import ClusterDeploy.Key.Der
import ClusterDeploy.Key.Armor
import ClusterDeploy.Key.Public
import ClusterDeploy.Key.Pbe
import ClusterDeploy.Curve.Ed25519
import ClusterDeploy.Curve.Ed448
import ClusterDeploy.Curve.Weierstrass
import ClusterDeploy.Number.Modular

/-!
# Private keys

`PrivateKey.load` reads a private key and gives the public key that belongs to it, or says why
it cannot, in the words of the common SSH key reader.  `Armor.next` finds the key's wrapping:

* a DER value: with a passphrase, first decrypted as an encrypted PKCS#8 key when it is one;
  then read as a PKCS#8 key, and when that fails as an EC, RSA or DSA key on its own;
* a PEM block named `OPENSSH`: the OpenSSH format, a public part and a private part of SSH wire
  fields, the private part opened by two equal check numbers and closed by a comment and the
  padding `1, 2, 3, …`.  An encrypted private part needs a
  passphrase, a cipher of SSH (`SshCipher.known`) and the bcrypt key derivation, and that
  derivation is not available here: such a key is never decrypted;
* another PEM block: encrypted as its `Proc-Type` and `DEK-Info` headers say, then DER; under
  the name `ENCRYPTED` an encrypted PKCS#8 key; with no name a PKCS#8 key; under `RSA`, `DSA`
  or `EC` that algorithm's own form.

DER inside a key is read strictly (`Der.read`): bytes that are not DER make the key unreadable,
but a UTF-8 string that is not text, or a bit string with impossible unused bits, fails the
whole load.  Where a format wants an integer, a boolean stands for `0` or `1`.

Each format gives the numbers of the key as a `Secret`, and `Secret.publicKey` checks them as
the cryptography library does before it writes the public key:

* RSA: each number below the modulus, odd exponents, the product of the primes the modulus, and
  then the key as a whole (`rsaConsistent`);
* DSA: the group, the private value below the subgroup order, and the public value the power
  of the generator it must be;
* ECDSA: the private value must lie between zero and the order of the base point; the key is on
  the curve its numbers name and keeps the public value it gives, unchecked (empty when it gives
  none);
* EdDSA: the public value is computed from a seed of 32 (Ed25519) or 57 (Ed448) bytes.

A key that cannot be read is `KeyFault.unreadable`; an encrypted OpenSSH key is
`KeyFault.encryption`; numbers or parameters the cryptography library refuses are
`KeyFault.invalidValue`, or `KeyFault.overflow` for a number too large for a machine word; and a
name that must be ASCII and is not is `KeyFault.undecodable`.
-/

namespace ClusterDeploy

namespace SshCipher

/-- The names of the ciphers SSH knows, which an encrypted OpenSSH key may name. -/
def known : List String :=
  ["chacha20-poly1305@openssh.com", "aes256-gcm@openssh.com", "aes128-gcm@openssh.com",
    "aes256-ctr", "aes192-ctr", "aes128-ctr", "aes256-cbc", "aes192-cbc", "aes128-cbc",
    "3des-cbc", "blowfish-cbc", "cast128-cbc", "seed-cbc@ssh.com", "arcfour256", "arcfour128",
    "arcfour"]

end SshCipher

/-- The numbers of a private key as a key format gives them, before they are checked. -/
inductive Secret where
  /-- RSA: the modulus, the public and private exponents, the two primes, the private exponent
  modulo each prime less one, and the inverse of the second prime modulo the first -/
  | rsa (n e d p q dmp1 dmq1 iqmp : Int)
  /-- DSA: the group, the public value and the private value -/
  | dsa (p q g y x : Int)
  /-- ECDSA: the curve, the public value as written (empty when the key has none) and the
  private value -/
  | ecdsa (curve : Except KeyFault Curve) (point : List UInt8) (d : Int)
  /-- EdDSA: the algorithm and the seed, when the key holds bytes there -/
  | eddsa (alg : String) (seed : Option (List UInt8))
  /-- a key kept on a security key: only its public key is here -/
  | securityKey (key : Except KeyFault PublicKey)
deriving Inhabited

namespace Secret

def require (ok : Bool) (fault : KeyFault) : Except KeyFault Unit :=
  if ok then .ok () else .error fault

def refuse (message : String) : KeyFault := .invalidValue message

/-- Whether the numbers of an RSA key fit together: both primes prime and odd, the private
exponent inverting the public one modulo the least common multiple of `p - 1` and `q - 1`, and
the exponents and coefficient for the Chinese remainder theorem the ones these give. -/
def rsaConsistent (e d p q dmp1 dmq1 iqmp : Int) : Bool :=
  if p ≤ 2 || q ≤ 2 || d < 0 || dmp1 < 0 || dmq1 < 0 || iqmp < 0 then false
  else
    let p1 := p.toNat - 1
    let q1 := q.toNat - 1
    let l := p1 * q1 / Nat.gcd p1 q1
    Modular.isPrime p.toNat && Modular.isPrime q.toNat && p % 2 == 1 && q % 2 == 1 &&
      d.toNat * e.toNat % l == 1 &&
      dmp1.toNat == d.toNat % p1 && dmq1.toNat == d.toNat % q1 &&
      Modular.inverse? q.toNat p.toNat == some iqmp.toNat

/-- The public key of RSA private numbers, checked in the cryptography library's order. -/
def rsaKey (n e d p q dmp1 dmq1 iqmp : Int) : Except KeyFault PublicKey := do
  require (n ≥ 3) (refuse "modulus must be >= 3.")
  require (p < n) (refuse "p must be < modulus.")
  require (q < n) (refuse "q must be < modulus.")
  require (dmp1 < n) (refuse "dmp1 must be < modulus.")
  require (dmq1 < n) (refuse "dmq1 must be < modulus.")
  require (iqmp < n) (refuse "iqmp must be < modulus.")
  require (d < n) (refuse "private_exponent must be < modulus.")
  require (e ≥ 3 && e < n) (refuse "public_exponent must be >= 3 and < modulus.")
  require (e % 2 == 1) (refuse "public_exponent must be odd.")
  require (dmp1 % 2 == 1) (refuse "dmp1 must be odd.")
  require (dmq1 % 2 == 1) (refuse "dmq1 must be odd.")
  require (p * q == n) (refuse "p*q must equal modulus.")
  require (rsaConsistent e d p q dmp1 dmq1 iqmp) (refuse "Invalid private key")
  PublicKey.rsa n e

/-- The public key of DSA private numbers: the group, then the private value, then the public
value. -/
def dsaKey (p q g y x : Int) : Except KeyFault PublicKey := do
  PublicKey.dsaGroup p q g
  require (0 < x && x < q) (refuse "x must be > 0 and < q.")
  require (y == ((Modular.pow g.toNat x.toNat p.toNat : Nat) : Int))
    (refuse "y must be equal to (g ** x % p).")
  PublicKey.dsa p q g y

/-- The public key of ECDSA private numbers.  The private value must be positive and below the
order of the base point.  The key is on the curve of the numbers, whatever algorithm named it,
and keeps the public value it was given as it was written, checked for nothing (empty when it
was given none). -/
def ecdsaKey (c : Curve) (point : List UInt8) (d : Int) : Except KeyFault PublicKey := do
  require (d > 0) (refuse "private_value must be a positive integer.")
  require (d < c.order) (refuse "Invalid EC key (key out of range, infinity, etc.)")
  pure (PublicKey.make ("ecdsa-sha2-" ++ c.name)
    (Wire.encodeString (Armor.bytesOf c.name) ++ Wire.encodeString point))

/-- The public key of an EdDSA seed: 32 bytes for Ed25519, 57 for Ed448. -/
def eddsaKey (alg : String) (seed : Option (List UInt8)) : Except KeyFault PublicKey :=
  let invalid := Except.error (KeyFault.unreadable "Invalid EdDSA private key")
  match seed with
  | none => invalid
  | some s =>
    if alg == "ssh-ed25519" && s.length == 32 then .ok (PublicKey.ed25519 (Ed25519.publicKey s))
    else if alg == "ssh-ed448" && s.length == 57 then .ok (PublicKey.ed448 (Ed448.publicKey s))
    else invalid

def publicKey : Secret → Except KeyFault PublicKey
  | .rsa n e d p q dmp1 dmq1 iqmp => rsaKey n e d p q dmp1 dmq1 iqmp
  | .dsa p q g y x => dsaKey p q g y x
  | .ecdsa c point d => do ecdsaKey (← c) point d
  | .eddsa alg seed => eddsaKey alg seed
  | .securityKey k => k

end Secret

namespace PrivateKey

def bytesOf (s : String) : List UInt8 := s.toUTF8.toList

/-- The integers of a DER sequence, if all its items are integers. -/
def integers : Der → Option (List Int) := PublicKey.integers

/-- The RSA numbers of a DER sequence of at least nine integers: a version, then the modulus,
the exponents, the primes, the exponents modulo each prime less one and the coefficient. -/
def rsaNumbers (d : Der) : Option Secret :=
  match integers d with
  | some (_ :: n :: e :: dd :: p :: q :: dmp1 :: dmq1 :: iqmp :: _) =>
    some (.rsa n e dd p q dmp1 dmq1 iqmp)
  | _ => none

/-- The DSA numbers of a DER sequence of six integers: the version `0`, the group, the public
value and the private value. -/
def dsaNumbers (d : Der) : Option Secret :=
  match integers d with
  | some [0, p, q, g, y, x] => some (.dsa p q g y x)
  | _ => none

/-- The public value in the item of an EC key sequence with tag number `1`, of any class: a
bit string with no unused bits. -/
def taggedPoint : Option Der → List UInt8
  | some (.tagged _ 1 (.bits 0 pt)) => pt
  | _ => []

/-- The EC numbers of an EC key sequence: the version `1`, the private value's bytes, the curve's
parameters under tag number `0`, and optionally the public point under tag number `1`. -/
def ecNumbers (d : Der) : Option Secret :=
  match d with
  | .sequence (version :: .octets priv :: .tagged _ 0 params :: rest) =>
    if version.asInt? == some 1 then
      some (.ecdsa (PublicKey.curveOfParameters (some params)) (taggedPoint rest.head?)
        (Der.bigEndian priv))
    else none
  | _ => none

/-- The numbers of a key in the DER form a PEM name stands for; `none` when the name is not
one of these, and the inner `none` when the value is not of that form. -/
def pemNumbers (name : String) (d : Der) : Option (Option Secret) :=
  match name with
  | "RSA" => some (rsaNumbers d)
  | "DSA" => some (dsaNumbers d)
  | "EC" => some (ecNumbers d)
  | _ => none

/-- The numbers of a PKCS#8 key of one algorithm, from the algorithm's parameters and the key's
bytes: `none` when they are not of the algorithm's form.  RSA wants null parameters before it
reads the key; the others read the key first. -/
def pkcs8Numbers (alg : List Nat) (params : Option Der) (key : List UInt8) :
    Option (Except KeyFault (Option Secret)) :=
  match alg with
  | [1, 2, 840, 113549, 1, 1, 1] =>
    some (if params == some .null then (PublicKey.readDer key).map (·.bind rsaNumbers)
      else .ok none)
  | [1, 2, 840, 10040, 4, 1] =>
    some do
      let x ← PublicKey.readDer key
      match params.bind integers, x.bind Der.asInt? with
      | some [p, q, g], some x =>
        match Modular.powInt g x p with
        | .ok y => pure (some (.dsa p q g y x))
        | .error m => throw (.invalidValue m)
      | _, _ => pure none
  | [1, 2, 840, 10045, 2, 1] =>
    some do
      match ← PublicKey.readDer key with
      | some (.sequence (version :: .octets priv :: rest)) =>
        if version.asInt? == some 1 then
          pure (some (.ecdsa (PublicKey.curveOfParameters params) (taggedPoint rest.head?)
            (Der.bigEndian priv)))
        else pure none
      | _ => pure none
  | [1, 3, 101, 112] => some ((PublicKey.readDer key).map (·.map (eddsaNumbers "ssh-ed25519")))
  | [1, 3, 101, 113] => some ((PublicKey.readDer key).map (·.map (eddsaNumbers "ssh-ed448")))
  | _ => none
where
  /-- An EdDSA key is a DER value, the seed when it is an octet string. -/
  eddsaNumbers (alg : String) : Der → Secret
    | .octets s => .eddsa alg (some s)
    | _ => .eddsa alg none

/-- The name of a PKCS#8 algorithm in the fault of a key not of its form. -/
def pkcs8Name : List Nat → String
  | [1, 2, 840, 113549, 1, 1, 1] => "RSA"
  | [1, 2, 840, 10040, 4, 1] => "DSA"
  | [1, 2, 840, 10045, 2, 1] => "EC"
  | _ => "PKCS#8"

/-- Reads a PKCS#8 key: a version `0` or `1`, the algorithm with optional parameters, and the
key's bytes; then checks its numbers. -/
def pkcs8 (d : Der) : Except KeyFault PublicKey := do
  let invalid := KeyFault.unreadable "Invalid PKCS#8 private key"
  match d with
  | .sequence (v :: .sequence (alg :: params) :: .octets key :: _) =>
    if !(v.asInt? == some 0 || v.asInt? == some 1) || params.length > 1 then throw invalid
    let arcs := match alg with
      | .oid arcs => arcs
      | _ => []
    match pkcs8Numbers arcs params.head? key with
    | none => throw (.unreadable "Unknown PKCS#8 algorithm")
    | some numbers =>
      match ← numbers with
      | some s => s.publicKey
      | none => throw (.unreadable ("Invalid " ++ pkcs8Name arcs ++ " private key"))
  | _ => throw invalid

/-- The key fault of a key the cryptography library refuses while decrypting it. -/
def refusal : Pbe.Fault → KeyFault
  | .undecrypted => .unreadable "Unable to decrypt private key"
  | .refused m => .invalidValue m
  | .overflow m => .overflow m

/-- Reads a DER private key: decrypted first when a passphrase is given and it decrypts; then a
PKCS#8 key, or failing that an EC, RSA or DSA key on its own.  A key that does not decrypt is
read as it is, but one whose parameters are refused fails. -/
def der (d : Der) (passphrase : Option String) : Except KeyFault PublicKey := do
  let d ← match passphrase with
    | some p =>
      match Pbe.pkcs8Decrypt d p with
      | .ok inner => pure inner
      | .error .undecrypted => pure d
      | .error f => throw (refusal f)
    | none => pure d
  match pkcs8 d with
  | .error (.unreadable _) =>
    match [ecNumbers d, rsaNumbers d, dsaNumbers d].findSome? id with
    | some s => s.publicKey
    | none => .error (.unreadable "Invalid DER private key")
  | r => r

def header (headers : List (List UInt8 × List UInt8)) (name : String) : Option (List UInt8) :=
  (headers.reverse.find? (·.1 == bytesOf name)).map (·.2)

def unhex (text : List UInt8) : Option (List UInt8) :=
  let digit := fun (b : UInt8) =>
    if 48 ≤ b && b ≤ 57 then some (b - 48)
    else if 97 ≤ b && b ≤ 102 then some (b - 87)
    else if 65 ≤ b && b ≤ 70 then some (b - 55)
    else none
  if text.length % 2 != 0 then none
  else
    (List.range (text.length / 2)).mapM fun i => do
      let hi ← digit (text.getD (2 * i) 0)
      let lo ← digit (text.getD (2 * i + 1) 0)
      pure (hi * 16 + lo)

def noPassphrase : KeyFault :=
  .unreadable "Passphrase must be specified to import encrypted private keys"

/-- Decrypts the content of a PEM key whose headers say it is encrypted, by the cipher and the
initial vector of its `DEK-Info` header. -/
def pemDecrypt (headers : List (List UInt8 × List UInt8)) (body : List UInt8)
    (passphrase : Option String) : Except KeyFault (List UInt8) := do
  if header headers "Proc-Type" != some (bytesOf "4,ENCRYPTED") then return body
  let some pass := passphrase | throw noPassphrase
  let params := KeyFault.unreadable "Invalid PEM encryption params"
  let info := (header headers "DEK-Info").getD []
  let (cipherName, iv) ← match info.splitOn 44 with
    | [c, iv] => pure (c, iv)
    | _ => throw params
  let some iv := unhex iv | throw params
  let unable := KeyFault.unreadable "Unable to decrypt PKCS#1 private key"
  let some c := CbcCipher.ofPem (Armor.latin1 cipherName) | throw unable
  match Pbe.pkcs1Decrypt c iv pass body with
  | .ok plain => pure plain
  | .error .undecrypted => throw unable
  | .error f => throw (refusal f)

def invalidOpenSsh : KeyFault := .unreadable "Invalid OpenSSH private key"

/-- Reads the key fields of one algorithm in the private part of an OpenSSH key: the numbers and
the fields that follow; the outer `none` for an algorithm that is not known, the inner one for
fields cut short. -/
def opensshNumbers (alg : String) (bs : List UInt8) : Option (Option (Secret × List UInt8)) :=
  match alg with
  | "ssh-ed25519" | "ssh-ed448" => some do
    let (pub, r) ← Wire.string bs
    let (priv, r) ← Wire.string r
    let seed := if pub.isEmpty then [] else priv.take (priv.length - pub.length)
    pure (.eddsa alg (some seed), r)
  | "ssh-rsa" => some do
    let (n, r) ← Wire.mpint bs
    let (e, r) ← Wire.mpint r
    let (d, r) ← Wire.mpint r
    let (iqmp, r) ← Wire.mpint r
    let (p, r) ← Wire.mpint r
    let (q, r) ← Wire.mpint r
    pure (.rsa n e d p q (Int.fmod d (p - 1)) (Int.fmod d (q - 1)) iqmp, r)
  | "ssh-dss" => some do
    let (p, r) ← Wire.mpint bs
    let (q, r) ← Wire.mpint r
    let (g, r) ← Wire.mpint r
    let (y, r) ← Wire.mpint r
    let (x, r) ← Wire.mpint r
    pure (.dsa p q g y x, r)
  | "ecdsa-sha2-nistp256" | "ecdsa-sha2-nistp384" | "ecdsa-sha2-nistp521"
  | "ecdsa-sha2-1.3.132.0.10" => some do
    let (curveName, r) ← Wire.string bs
    let (point, r) ← Wire.string r
    let (d, r) ← Wire.mpint r
    let curve := match Curve.named? (Armor.latin1 curveName) with
      | some c => .ok c
      | none => .error (.invalidValue "Unknown curve")
    pure (.ecdsa curve point d, r)
  | "sk-ssh-ed25519@openssh.com" => some do
    let (pub, r) ← Wire.string bs
    let (app, r) ← Wire.string r
    let r := r.drop 1
    let (_, r) ← Wire.string r
    let (_, r) ← Wire.string r
    let key := if pub.length == 32 then
        .ok (PublicKey.make alg (Wire.encodeString pub ++ Wire.encodeString app))
      else .error (.unreadable "Invalid EdDSA private key")
    pure (.securityKey key, r)
  | "sk-ecdsa-sha2-nistp256@openssh.com" => some do
    let (curveName, r) ← Wire.string bs
    let (point, r) ← Wire.string r
    let (app, r) ← Wire.string r
    let r := r.drop 1
    let (_, r) ← Wire.string r
    let (_, r) ← Wire.string r
    let key := (PublicKey.ecdsaNamed alg curveName point).map
      fun k => { k with blob := k.blob ++ Wire.encodeString app }
    pure (.securityKey key, r)
  | _ => none

/-- Checks the padding at the end of an OpenSSH private part: `1, 2, 3, …` up to its length,
which a byte can count only below 256. -/
def checkPadding (pad : List UInt8) : Except KeyFault Unit :=
  if pad.length < 256 && pad == (List.range pad.length).map (fun i => (i + 1).toUInt8) then .ok ()
  else .error invalidOpenSsh

/-- The fault of an encrypted OpenSSH key named for the cipher `cipherName` with the derivation
`kdf`: a passphrase must be given, the cipher must be one SSH knows and the derivation bcrypt,
whose names must be ASCII to be shown; and then the bcrypt derivation is not available. -/
def opensshEncrypted (cipherName kdf : List UInt8) (passphrase : Option String) : KeyFault :=
  match passphrase with
  | none => noPassphrase
  | some _ =>
    let named := fun (what : String) (bs : List UInt8) =>
      match PublicKey.asciiName bs with
      | .ok n => KeyFault.encryption (what ++ n)
      | .error f => f
    if !SshCipher.known.any (bytesOf · == cipherName) then named "Unknown cipher: " cipherName
    else if kdf != bytesOf "bcrypt" then named "Unknown kdf: " kdf
    else .encryption "OpenSSH private key encryption requires bcrypt with KDF support"

/-- Reads an OpenSSH key: the header, its check numbers, the key's fields, the comment and the
padding, and then checks the key's numbers.  An encrypted key fails (`opensshEncrypted`). -/
def openssh (data : List UInt8) (passphrase : Option String) : Except KeyFault PublicKey := do
  let magic := bytesOf "openssh-key-v1" ++ [0]
  if !magic.isPrefixOf data then throw (.unreadable "Unrecognized OpenSSH private key type")
  let field := fun (bs : List UInt8) =>
    match Wire.string bs with
    | some r => Except.ok r
    | none => Except.error invalidOpenSsh
  let number := fun (bs : List UInt8) =>
    match Wire.uint32 bs with
    | some r => Except.ok r
    | none => Except.error invalidOpenSsh
  let (cipherName, r) ← field (data.drop magic.length)
  let (kdf, r) ← field r
  let (_, r) ← field r
  let (count, r) ← number r
  let (_, r) ← field r
  let (secret, _) ← field r
  if count != 1 then throw invalidOpenSsh
  if cipherName != bytesOf "none" then throw (opensshEncrypted cipherName kdf passphrase)
  let (check1, r) ← number secret
  let (check2, r) ← number r
  if check1 != check2 then throw invalidOpenSsh
  let (alg, r) ← field r
  let some fields := opensshNumbers (Armor.latin1 alg) r
    | throw (.unreadable "Unknown OpenSSH private key algorithm")
  let some (numbers, r) := fields | throw invalidOpenSsh
  let (_, pad) ← field r
  checkPadding pad
  numbers.publicKey

/-- Reads a PEM private key named `name`, with its headers and its content. -/
def pem (name : List UInt8) (headers : List (List UInt8 × List UInt8)) (body : List UInt8)
    (passphrase : Option String) : Except KeyFault PublicKey := do
  if name == bytesOf "OPENSSH" then return ← openssh body passphrase
  let body ← pemDecrypt headers body passphrase
  let some d ← PublicKey.readDer body | throw (.unreadable "Invalid PEM private key")
  if name == bytesOf "ENCRYPTED" then
    let some pass := passphrase | throw noPassphrase
    match Pbe.pkcs8Decrypt d pass with
    | .ok inner => pkcs8 inner
    | .error .undecrypted => throw (.unreadable "Unable to decrypt PKCS#8 private key")
    | .error f => throw (refusal f)
  else if name.isEmpty then pkcs8 d
  else
    let n := Armor.latin1 name
    match pemNumbers n d with
    | none => throw (.unreadable ("Unknown PEM key type: " ++ (← PublicKey.asciiName name)))
    | some none => throw (.unreadable ("Invalid " ++ n ++ " private key"))
    | some (some s) => s.publicKey

def load (data : List UInt8) (passphrase : Option String) : Except KeyFault PublicKey := do
  match ← (Armor.next data "PRIVATE KEY" false).mapError KeyFault.ofArmor with
  | some (.der d) => der d passphrase
  | some (.pem name hs body) => pem name hs body passphrase
  | _ => throw (.unreadable "Invalid private key")

def loadText (text : String) (passphrase : Option String) : Except KeyFault PublicKey :=
  if text.toList.all (·.toNat < 128) then load (bytesOf text) passphrase
  else .error (.unreadable "Invalid encoding for key")

end PrivateKey

end ClusterDeploy
