/-!
# RC4

The RC4 stream cipher, which some PKCS#12 password-based encryptions of keys use.  The key
schedule mixes the key into a permutation of the 256 byte values.  Each step of the output
then moves two indices through the permutation, swaps the bytes they point to, and gives the
byte at the sum of the two.  Encryption and decryption both add the output to the data with
exclusive or.
-/

namespace ClusterDeploy

namespace Rc4

def swap (s : Array UInt8) (i j : Nat) : Array UInt8 :=
  let a := s.getD i 0
  let b := s.getD j 0
  (s.set! i b).set! j a

/-- The permutation the key schedules: from the identity, each entry `i` in turn is swapped with
the entry `j`, where `j` grows by the entry and by the key's byte `i` (the key repeated). -/
def schedule (key : List UInt8) : Array UInt8 :=
  let k := key.toArray
  let (s, _) := (List.range 256).foldl (fun (acc : Array UInt8 × Nat) i =>
    let (s, j) := acc
    let j := (j + (s.getD i 0).toNat + (k.getD (i % max k.size 1) 0).toNat) % 256
    (swap s i j, j)) ((List.range 256).toArray.map Nat.toUInt8, 0)
  s

def crypt (key data : List UInt8) : List UInt8 :=
  let (_, out) := data.foldl (fun (acc : (Array UInt8 × Nat × Nat) × List UInt8) b =>
    let ((s, i, j), out) := acc
    let i := (i + 1) % 256
    let j := (j + (s.getD i 0).toNat) % 256
    let s := swap s i j
    let k := s.getD (((s.getD i 0).toNat + (s.getD j 0).toNat) % 256) 0
    ((s, i, j), (b ^^^ k) :: out)) ((schedule key, 0, 0), [])
  out.reverse

end Rc4

end ClusterDeploy
