import ClusterDeploy.Digest.Sha256
import ClusterDeploy.Text.Base64
import ClusterDeploy.Key.Armor
import ClusterDeploy.Curve.Weierstrass

/-!
# Public keys

A `PublicKey` is a key as SSH puts it on the wire: a blob of length-prefixed fields that starts
with the algorithm's name.  What a user compares is its fingerprint: `SHA256:` and the base64 of
the SHA-256 digest of the blob, without padding.  The blob of a key is always written afresh
from the key's numbers, so two writings of the same key have one fingerprint.

* `Wire.uint32`, `Wire.string`, `Wire.mpint` read the fields of SSH wire data: a 32-bit
  big-endian number, a byte string prefixed by its length, and a two's-complement integer in such
  a string;
* `PublicKey.rsa`, `PublicKey.dsa`, `PublicKey.ecdsa`, `PublicKey.ed25519` and
  `PublicKey.ed448` check the numbers of a key as the cryptography library does and write its
  blob.  RSA and DSA numbers out of range, and EC points off their curve, are value errors;
  EdDSA keys of the wrong length are import errors;
* `PublicKey.ofBlob` reads a blob: its algorithm, the algorithm's fields, and nothing after;
* `PublicKey.ofSpki` reads the DER `SubjectPublicKeyInfo` of a key, and `PublicKey.load` reads
  a key from any of the wrappings `Armor.next` finds.  Where the data holds no public key, the
  public part of an OpenSSH private key stands in.
-/

namespace ClusterDeploy

/-- Why key data could not be turned into a key. -/
inductive KeyFault where
  /-- the data is not a key that can be read -/
  | unreadable (message : String)
  /-- an encrypted key cannot be decrypted -/
  | encryption (message : String)
  /-- the numbers of a key are out of the ranges the cryptography library accepts, or a value
  inside it is impossible -/
  | invalidValue (message : String)
  /-- the pattern that finds the footer of a block is not well formed -/
  | footerPattern (fault : Pattern.Fault)
  /-- bytes inside the key that must be text are not text in their encoding; the message is
  the decoder's -/
  | undecodable (message : String)
  /-- a number of the key does not fit the unsigned machine word it is passed as -/
  | overflow (message : String)
deriving DecidableEq, Repr, Inhabited

namespace KeyFault

def message : KeyFault → String
  | .unreadable m => m
  | .encryption m => m
  | .invalidValue m => m
  | .footerPattern f => f.message
  | .undecodable m => m
  | .overflow m => m

def ofArmor : Armor.Fault → KeyFault
  | .broken m => .unreadable m
  | .footerPattern f => .footerPattern f
  | .undecodable u => .undecodable u.decoderMessage
  | .unusedBits m => .invalidValue m

/-- The key fault of DER that could not be read: `malformed` for bytes that are not DER at all,
while a UTF-8 string that is not text and impossible unused bits are faults of their own. -/
def ofDer (malformed : KeyFault) : Der.Fault → KeyFault
  | .malformed => malformed
  | .text u => .undecodable u.decoderMessage
  | .unusedBits m => .invalidValue m

end KeyFault

namespace Wire

/-- A 32-bit big-endian number at the head of `bs`, and what follows. -/
def uint32 (bs : List UInt8) : Option (Nat × List UInt8) :=
  if bs.length < 4 then none
  else some ((bs.take 4).foldl (fun acc b => acc * 256 + b.toNat) 0, bs.drop 4)

/-- A length-prefixed byte string at the head of `bs`, and what follows. -/
def string (bs : List UInt8) : Option (List UInt8 × List UInt8) := do
  let (n, rest) ← uint32 bs
  if rest.length < n then none else some (rest.take n, rest.drop n)

/-- A two's-complement big-endian integer in a length-prefixed string at the head of `bs`. -/
def mpint (bs : List UInt8) : Option (Int × List UInt8) := do
  let (b, rest) ← string bs
  pure (Der.signed b, rest)

def encodeString (bs : List UInt8) : List UInt8 :=
  let n := bs.length
  [(n / 16777216).toUInt8, (n / 65536).toUInt8, (n / 256).toUInt8, n.toUInt8] ++ bs

def bitLength (n : Nat) : Nat := if n == 0 then 0 else n.log2 + 1

/-- The `len` big-endian bytes of a natural number below `2^(8·len)`. -/
def bigEndianBytes (len n : Nat) : List UInt8 :=
  (List.range len).reverse.map fun i => (n / Nat.pow 2 (8 * i)).toUInt8

/-- An integer in the fewest two's-complement bytes that keep its sign, in a length-prefixed
string; zero is the empty string. -/
def encodeMpint (v : Int) : List UInt8 :=
  let l := bitLength v.natAbs
  let l := if l % 8 == 0 && v != 0 && v != -((Nat.pow 2 (l - 1) : Nat) : Int) then l + 1 else l
  let len := (l + 7) / 8
  let u := if v < 0 then (((Nat.pow 2 (8 * len) : Nat) : Int) + v).toNat else v.toNat
  encodeString (bigEndianBytes len u)

end Wire

/-- A public key in SSH wire form. -/
structure PublicKey where
  algorithm : String
  blob : List UInt8
deriving DecidableEq, Repr, Inhabited

namespace PublicKey

/-- Reads the DER value that fills `bs`: `none` when the bytes are not DER, and a fault when
they fail in another way. -/
def readDer (bs : List UInt8) : Except KeyFault (Option Der) :=
  match Der.read bs with
  | .ok d => .ok (some d)
  | .error .malformed => .ok none
  | .error (.text u) => .error (.undecodable u.decoderMessage)
  | .error (.unusedBits m) => .error (.invalidValue m)

/-- The text of a name that must be ASCII, or the fault of one that is not. -/
def asciiName (bs : List UInt8) : Except KeyFault String := (Armor.ascii bs).mapError .undecodable

/-- The fingerprint: `SHA256:` and the unpadded base64 of the blob's digest. -/
def fingerprint (k : PublicKey) : String :=
  "SHA256:" ++ String.ofList ((Base64.encode (Sha256.hash k.blob)).toList.filter (· != '='))

def make (alg : String) (fields : List UInt8) : PublicKey :=
  ⟨alg, Wire.encodeString (Armor.bytesOf alg) ++ fields⟩

/-- An RSA key, its modulus at least 3 and its odd exponent between 3 and the modulus. -/
def rsa (n e : Int) : Except KeyFault PublicKey :=
  if n < 3 then .error (.invalidValue "n must be >= 3.")
  else if e < 3 || e ≥ n then .error (.invalidValue "e must be >= 3 and < n.")
  else if e % 2 == 0 then .error (.invalidValue "e must be odd.")
  else .ok (make "ssh-rsa" (Wire.encodeMpint e ++ Wire.encodeMpint n))

/-- Checks the group of a DSA key: a prime of 1024, 2048, 3072 or 4096 bits, a subgroup order
of 160, 224 or 256 bits, and a generator strictly between 1 and the prime. -/
def dsaGroup (p q g : Int) : Except KeyFault Unit :=
  if !([1024, 2048, 3072, 4096].contains (Wire.bitLength p.natAbs)) then
    .error (.invalidValue "p must be exactly 1024, 2048, 3072, or 4096 bits long")
  else if !([160, 224, 256].contains (Wire.bitLength q.natAbs)) then
    .error (.invalidValue "q must be exactly 160, 224, or 256 bits long")
  else if !(1 < g && g < p) then .error (.invalidValue "g, p don't satisfy 1 < g < p.")
  else .ok ()

def dsa (p q g y : Int) : Except KeyFault PublicKey := do
  dsaGroup p q g
  pure (make "ssh-dss" (Wire.encodeMpint p ++ Wire.encodeMpint q ++ Wire.encodeMpint g ++
    Wire.encodeMpint y))

/-- An ECDSA key on a named curve, the point as written, which must be a point of the curve. -/
def ecdsa (c : Curve) (point : List UInt8) : Except KeyFault PublicKey :=
  match c.decode point with
  | .error m => .error (.invalidValue m)
  | .ok _ =>
    .ok (make ("ecdsa-sha2-" ++ c.name)
      (Wire.encodeString (Armor.bytesOf c.name) ++ Wire.encodeString point))

/-- An EdDSA key of an algorithm whose public values have `size` bytes. -/
def eddsa (alg : String) (size : Nat) (point : List UInt8) : Except KeyFault PublicKey :=
  if point.length == size then .ok (make alg (Wire.encodeString point))
  else .error (.unreadable "Invalid EdDSA public key")

def ed25519 (point : List UInt8) : PublicKey :=
  make "ssh-ed25519" (Wire.encodeString point)

def ed448 (point : List UInt8) : PublicKey :=
  make "ssh-ed448" (Wire.encodeString point)

/-- An ECDSA key named `alg` on the curve named `curveName`, the point as written.  The name of
the curve decides the curve; the key keeps the algorithm name it was given. -/
def ecdsaNamed (alg : String) (curveName point : List UInt8) : Except KeyFault PublicKey :=
  match Curve.named? (Armor.latin1 curveName) with
  | none => .error (.invalidValue "Unknown curve")
  | some c =>
    match c.decode point with
    | .error m => .error (.invalidValue m)
    | .ok _ => .ok (make alg (Wire.encodeString curveName ++ Wire.encodeString point))

/-- Reads the fields of one algorithm's blob after its name: the key, or why its numbers are
refused, and what is left; `none` when a field is cut short. -/
abbrev FieldReader := List UInt8 → Option (Except KeyFault PublicKey × List UInt8)

def readRsa : FieldReader := fun bs => do
  let (e, r) ← Wire.mpint bs
  let (n, r) ← Wire.mpint r
  pure (rsa n e, r)

/-- DSA: the prime, the subgroup order, the generator and the public value. -/
def readDsa : FieldReader := fun bs => do
  let (p, r) ← Wire.mpint bs
  let (q, r) ← Wire.mpint r
  let (g, r) ← Wire.mpint r
  let (y, r) ← Wire.mpint r
  pure (dsa p q g y, r)

def readEcdsa (alg : String) : FieldReader := fun bs => do
  let (curveName, r) ← Wire.string bs
  let (point, r) ← Wire.string r
  pure (ecdsaNamed alg curveName point, r)

def readEddsa (alg : String) (size : Nat) : FieldReader := fun bs => do
  let (v, r) ← Wire.string bs
  pure (eddsa alg size v, r)

/-- A security-key Ed25519 key: the public value and the application it is bound to. -/
def readSkEd25519 (alg : String) : FieldReader := fun bs => do
  let (v, r) ← Wire.string bs
  let (app, r) ← Wire.string r
  pure ((if v.length == 32 then .ok (make alg (Wire.encodeString v ++ Wire.encodeString app))
    else .error (.unreadable "Invalid EdDSA public key")), r)

/-- A security-key ECDSA key: the curve's name, the point and the application. -/
def readSkEcdsa (alg : String) : FieldReader := fun bs => do
  let (curveName, r) ← Wire.string bs
  let (point, r) ← Wire.string r
  let (app, r) ← Wire.string r
  pure ((ecdsaNamed alg curveName point).map
    (fun k => { k with blob := k.blob ++ Wire.encodeString app }), r)

def reader? (alg : String) : Option FieldReader :=
  match alg with
  | "ssh-rsa" => some readRsa
  | "ssh-dss" => some readDsa
  | "ecdsa-sha2-nistp256" | "ecdsa-sha2-nistp384" | "ecdsa-sha2-nistp521"
  | "ecdsa-sha2-1.3.132.0.10" => some (readEcdsa alg)
  | "ssh-ed25519" => some (readEddsa alg 32)
  | "ssh-ed448" => some (readEddsa alg 57)
  | "sk-ssh-ed25519@openssh.com" => some (readSkEd25519 alg)
  | "sk-ecdsa-sha2-nistp256@openssh.com" => some (readSkEcdsa alg)
  | _ => none

/-- the text of bytes, each byte outside ASCII shown as the replacement character -/
def asciiText (bs : List UInt8) : String :=
  String.ofList (bs.map fun b => if b < 128 then Char.ofNat b.toNat else Char.ofNat 0xFFFD)

def invalid : KeyFault := .unreadable "Invalid public key"

/-- Reads a key blob: the algorithm's name, its fields, and nothing after them. -/
def ofBlob (blob : List UInt8) : Except KeyFault PublicKey :=
  match Wire.string blob with
  | none => .error invalid
  | some (name, rest) =>
    match reader? (Armor.latin1 name) with
    | none => .error (.unreadable ("Unknown key algorithm: " ++ asciiText name))
    | some read =>
      match read rest with
      | some (k, []) => k
      | _ => .error invalid

def noKey (kind : String) : KeyFault := .unreadable ("Invalid " ++ kind ++ " key")

/-- The integers of a DER sequence, if all its items are integers; a boolean counts as the
integer `0` or `1`. -/
def integers : Der → Option (List Int)
  | .sequence items => items.mapM Der.asInt?
  | _ => none

/-- The curve an EC key's parameters name: an object identifier, or the explicit parameters of
a curve over a prime field: the version `1`, the field, the coefficients `a` and `b`, the base
point and its order. -/
def curveOfParameters : Option Der → Except KeyFault Curve
  | some (.oid [1, 2, 840, 10045, 3, 1, 7]) => .ok Curve.p256
  | some (.oid [1, 3, 132, 0, 34]) => .ok Curve.p384
  | some (.oid [1, 3, 132, 0, 35]) => .ok Curve.p521
  | some (.oid [1, 3, 132, 0, 10]) => .ok Curve.secp256k1
  | some (.oid arcs) =>
    .error (.unreadable ("Unknown elliptic curve OID " ++ ".".intercalate (arcs.map toString)))
  | some (.sequence (version :: .sequence [.oid [1, 2, 840, 10045, 1, 1], p] ::
      .sequence (.octets a :: .octets b :: _) :: .octets point :: n :: _)) =>
    match version.asInt?, n.asInt? with
    | some 1, some n =>
      let a := (Der.bigEndian a : Int)
      let b := (Der.bigEndian b : Int)
      let known := match p.asInt? with
        | some p => Curve.all.find? (·.hasParameters p a b point n)
        | none => none
      match known with
      | some c => .ok c
      | none => .error (.unreadable "Unknown elliptic curve parameters")
    | _, _ => .error (.unreadable "Invalid EC curve parameters")
  | _ => .error (.unreadable "Invalid EC curve parameters")

/-- Reads a DER `SubjectPublicKeyInfo`: an algorithm with optional parameters, and the key in a
bit string with no unused bits.  Each algorithm reads its key from the bit string's content: RSA
only under null parameters, and DSA reads its public value before it looks at the group. -/
def ofSpki (d : Der) : Except KeyFault PublicKey :=
  match d with
  | .sequence [.sequence (algItem :: params), .bits 0 key] =>
    if params.length > 1 then .error (.unreadable "Invalid PKCS#8 public key")
    else
      let param := params.head?
      let alg := match algItem with
        | .oid arcs => arcs
        | _ => []
      match alg with
      | [1, 2, 840, 113549, 1, 1, 1] => do
        let bad := KeyFault.unreadable "Invalid RSA public key"
        if param != some .null then throw bad
        match (← readDer key).bind integers with
        | some [n, e] => rsa n e
        | _ => throw bad
      | [1, 2, 840, 10040, 4, 1] => do
        let y ← readDer key
        match param.bind integers, y.bind Der.asInt? with
        | some [p, q, g], some y => dsa p q g y
        | _, _ => throw (.unreadable "Invalid DSA public key")
      | [1, 2, 840, 10045, 2, 1] => do
        let c ← curveOfParameters param
        ecdsa c key
      | [1, 3, 101, 112] => eddsa "ssh-ed25519" 32 key
      | [1, 3, 101, 113] => eddsa "ssh-ed448" 57 key
      | _ => .error (.unreadable "Unknown PKCS#8 algorithm")
  | _ => .error (.unreadable "Invalid PKCS#8 public key")

/-- Reads a key from the DER of one algorithm's own public key form: RSA as the modulus and the
exponent, DSA as the public value, the prime, the subgroup order and the generator. -/
def ofRawDer (d : Der) : Option (Except KeyFault PublicKey) :=
  match integers d with
  | some [n, e] => some (rsa n e)
  | some [y, p, q, g] => some (dsa p q g y)
  | _ => none

/-- Reads a DER public key: a `SubjectPublicKeyInfo`, else one algorithm's own form. -/
def ofDer (d : Der) : Except KeyFault PublicKey :=
  match ofSpki d with
  | .error (.unreadable _) =>
    match ofRawDer d with
    | some k => k
    | none => .error (noKey "DER public")
  | r => r

/-- Reads a PEM public key named `name`: with no name a `SubjectPublicKeyInfo`, else the named
algorithm's own form. -/
def ofPem (name : List UInt8) (body : List UInt8) : Except KeyFault PublicKey := do
  let some d ← readDer body | throw (noKey "PEM public")
  if name.isEmpty then ofSpki d
  else
    let n := Armor.latin1 name
    if n == "RSA" then
      match integers d with
      | some [modulus, e] => rsa modulus e
      | _ => throw (noKey "RSA public")
    else if n == "DSA" then
      match integers d with
      | some [y, p, q, g] => dsa p q g y
      | _ => throw (noKey "DSA public")
    else if n == "EC" then throw (noKey "EC public")
    else throw (.unreadable ("Unknown PEM key type: " ++ (← asciiName name)))

/-- The public key inside an OpenSSH private key, read without decrypting anything. -/
def ofOpenSshPrivate (data : List UInt8) : Except KeyFault PublicKey := do
  let magic := Armor.bytesOf "openssh-key-v1" ++ [0]
  if !magic.isPrefixOf data then throw (.unreadable "Unrecognized OpenSSH private key type")
  let bad := KeyFault.unreadable "Invalid OpenSSH private key"
  let some (_, r) := Wire.string (data.drop magic.length) | throw bad
  let some (_, r) := Wire.string r | throw bad
  let some (_, r) := Wire.string r | throw bad
  let some (count, r) := Wire.uint32 r | throw bad
  let some (blob, _) := Wire.string r | throw bad
  if count != 1 then throw bad
  ofBlob blob

/-- Reads a public key from data: the first key any wrapping holds, or else the public part of
an OpenSSH private key.  Data given as text must be ASCII. -/
def load (data : List UInt8) : Except KeyFault PublicKey := do
  match ← (Armor.next data "PUBLIC KEY" true).mapError KeyFault.ofArmor with
  | some (.der d) => ofDer d
  | some (.pem name _ body) => ofPem name body
  | some (.line alg blob) =>
    let k ← ofBlob blob
    if Armor.bytesOf k.algorithm != alg then throw (.unreadable "Public key algorithm mismatch")
    pure k
  | some (.sshFile blob) => ofBlob blob
  | none =>
    match ← (Armor.next data "PRIVATE KEY" false).mapError KeyFault.ofArmor with
    | some (.pem name _ body) =>
      if name == Armor.bytesOf "OPENSSH" then ofOpenSshPrivate body else throw (noKey "public")
    | _ => throw (noKey "public")

def loadText (text : String) : Except KeyFault PublicKey :=
  if text.toList.all (·.toNat < 128) then load (Armor.bytesOf text)
  else .error (.unreadable "Invalid encoding for key")

end PublicKey

end ClusterDeploy
