import ClusterDeploy.Proofs.Adoption

/-!
# The server's endpoint and the cluster's name

Adopting a description fixes the URL machines and clients are told to reach the API server at,
`https://H:p`: `H` is the host the description advertises (`ClusterSpec.advertisedHost`),
bracketed when it holds a colon and is not bracketed yet, and `p` its advertised port.  A
kubeconfig written for people names the cluster after that URL (`clusterNameFor`).  Read back,
the URL gives the host and the port it was written from, as long as the host is a name (letters,
digits, hyphens and dots: DNS names and dotted quads) or an IPv6 address without a zone, and the
port is in range.

* `IpAddress.isV6_chars`     a zone-free IPv6 address is made of hexadecimal digits, colons and
                             dots, so it passes the check of a bracketed host;
* `Url.split_https`          `https://` and a network location of such characters read back;
* `clusterNameFor_named`, `clusterNameFor_v6`  the name is the host in lower case, followed by
                             the port when it is not the default one;
* `adopt_names_endpoint`     adopting a description sets the URL, or fails when the port is
                             too long to write; every later step keeps the URL and the settings;
                             and the cluster is named after the advertised host and port.

A zone is not lower-cased with the rest of the address: `scoped_host_keeps_zone_case`.
-/

namespace ClusterDeploy

theorem not_mem_of_forall {p : Char → Bool} {cs : List Char} (h : ∀ c ∈ cs, p c = true)
    {d : Char} (hd : p d = false) : d ∉ cs :=
  fun hm => by simp [h d hm] at hd

theorem toNat_lt_of_le {c d : Char} (h : c ≤ d) (hd : d.toNat < 128) : c.toNat < 128 :=
  Nat.lt_of_le_of_lt (UInt32.le_iff_toNat_le.1 h) hd

theorem toString_natCast (k : Nat) : toString (k : Int) = String.ofList (Nat.toDigits 10 k) :=
  Nat.toString_eq_ofList_toDigits

namespace IpAddress

/-! ### Fields and IPv6 addresses -/

theorem mem_of_mem_intercalate {α : Type} {x c : α} :
    ∀ {ls : List (List α)}, c ∈ [x].intercalate ls → c = x ∨ ∃ l ∈ ls, c ∈ l
  | [], h => by simp at h
  | [l], h => .inr ⟨l, List.mem_singleton_self l, by simpa using h⟩
  | l :: l' :: ls, h => by
    rw [List.intercalate_cons_cons, List.mem_append, List.mem_append] at h
    rcases h with (h | h) | h
    · exact .inr ⟨l, List.mem_cons_self, h⟩
    · exact .inl (List.mem_singleton.1 h)
    · rcases mem_of_mem_intercalate h with h | ⟨m, hm, hc⟩
      · exact .inl h
      · exact .inr ⟨m, List.mem_cons_of_mem l hm, hc⟩

theorem mem_fields {s : String} {x c : Char} (h : c ∈ s.toList) :
    c = x ∨ ∃ p ∈ fields s x, c ∈ p.toList := by
  have hjoin : [x].intercalate (s.toList.splitOn x) = s.toList := List.intercalate_splitOn x
  rw [← hjoin] at h
  rcases mem_of_mem_intercalate h with h | ⟨l, hl, hc⟩
  · exact .inl h
  · exact .inr ⟨String.ofList l, List.mem_map_of_mem hl, by simpa using hc⟩

theorem fields_of_not_mem {s : String} {x : Char} (h : x ∉ s.toList) : fields s x = [s] := by
  simp [fields, List.splitOn_eq_singleton h]

theorem groupsOk_pieces {ps : List String} (h : groupsOk ps = true) {i : Nat}
    (hi : i < ps.length) : ps[i] = "" ∨ isHextet ps[i] = true := by
  -- a group listed among the first or the last groups checked is hexadecimal
  have htake : ∀ k, i < k → (ps.take k).all isHextet = true → isHextet ps[i] = true :=
    fun k hik hk => List.all_eq_true.1 hk _ (List.mem_take_iff_getElem.2 ⟨i, by omega, rfl⟩)
  have hdrop : ∀ k, k ≤ i → (ps.drop k).all isHextet = true → isHextet ps[i] = true :=
    fun k hki hk => List.all_eq_true.1 hk _
      (List.mem_drop_iff_getElem.2 ⟨i - k, by omega, by congr 1; omega⟩)
  have hempty : ∀ j, j = i → ps[j]? = some "" → ps[i] = "" := fun j hj h => by
    subst hj
    simpa [List.getElem?_eq_getElem hi] using h
  unfold groupsOk at h
  dsimp only at h
  split at h
  · cases h
  · split at h
    · simp only [Bool.and_eq_true] at h
      exact .inr (List.all_eq_true.1 h.2 _ (List.getElem_mem hi))
    · rename_i skip hskip
      -- one empty group inside: every other group is among the first or the last checked, or
      -- is the empty group that opens or closes the address beside it
      have hmem : skip ∈ [skip] := List.mem_singleton_self skip
      rw [← hskip, List.mem_filter] at hmem
      simp only [Bool.and_eq_true, decide_eq_true_eq, beq_iff_eq] at hmem h
      obtain ⟨-, ⟨hpos, hlt⟩, hgap⟩ := hmem
      obtain ⟨⟨⟨⟨hfirst, hlast⟩, -⟩, hfront⟩, hback⟩ := h
      have hhead : ps.head? = ps[0]? := List.head?_eq_getElem?
      have hend : ps.getLast? = ps[ps.length - 1]? := List.getLast?_eq_getElem?
      have hbefore : i < skip → ps[i] = "" ∨ isHextet ps[i] = true := by
        intro hlt'
        by_cases hf : ps.head? = some ""
        · -- an empty first group stands right before the gap
          simp [hf] at hfirst
          exact .inl (hempty 0 (by omega) (hhead ▸ hf))
        · rw [if_neg hf] at hfront
          exact .inr (htake skip hlt' hfront)
      have hafter : skip < i → ps[i] = "" ∨ isHextet ps[i] = true := by
        intro hgt
        by_cases hl : ps.getLast? = some ""
        · -- an empty last group stands right after the gap
          simp [hl] at hlast
          exact .inl (hempty (ps.length - 1) (by omega) (hend ▸ hl))
        · rw [if_neg hl, show ps.length - (ps.length - skip - 1) = skip + 1 by omega] at hback
          exact .inr (hdrop (skip + 1) hgt hback)
      rcases Nat.lt_trichotomy i skip with hlt' | rfl | hgt
      · exact hbefore hlt'
      · exact .inl (hempty _ rfl hgap)
      · exact hafter hgt
    · cases h

/-- the characters of an IPv6 address without a zone: hexadecimal digits, colons, and the dots
of a dotted-quad tail -/
def isAddressChar (c : Char) : Bool :=
  c.isDigit || ('a' ≤ c && c ≤ 'f') || ('A' ≤ c && c ≤ 'F') || c == ':' || c == '.'

/-- the characters of a host name or a dotted quad: ASCII letters and digits, hyphens, dots -/
def isNameChar (c : Char) : Bool := c.isAlphanum || c == '-' || c == '.'

theorem toNat_lt_of_isAddressChar {c : Char} (h : isAddressChar c = true) : c.toNat < 128 := by
  simp only [isAddressChar, Char.isDigit, Bool.or_eq_true, Bool.and_eq_true, decide_eq_true_eq,
    beq_iff_eq] at h
  -- a digit or a letter up to `f` or `F`, a colon or a dot
  rcases h with (((⟨-, h⟩ | ⟨-, h⟩) | ⟨-, h⟩) | rfl) | rfl
  · exact toNat_lt_of_le h (by decide)
  · exact toNat_lt_of_le h (by decide)
  · exact toNat_lt_of_le h (by decide)
  · decide
  · decide

theorem toNat_lt_of_isNameChar {c : Char} (h : isNameChar c = true) : c.toNat < 128 := by
  simp only [isNameChar, Char.isAlphanum, Char.isAlpha, Char.isUpper, Char.isLower, Char.isDigit,
    Bool.or_eq_true, Bool.and_eq_true, decide_eq_true_eq, beq_iff_eq] at h
  -- an upper or a lower case letter or a digit, a hyphen or a dot
  rcases h with ((((⟨-, h⟩ | ⟨-, h⟩) | ⟨-, h⟩) | rfl) | rfl)
  · exact toNat_lt_of_le h (by decide)
  · exact toNat_lt_of_le h (by decide)
  · exact toNat_lt_of_le h (by decide)
  · decide
  · decide

theorem hextet_chars {p : String} (h : isHextet p = true) :
    ∀ c ∈ p.toList, isAddressChar c = true := by
  intro c hc
  simp only [isHextet, Bool.and_eq_true, List.all_eq_true] at h
  have hhex := h.2 c hc
  simp only [isAddressChar, Bool.or_eq_true] at hhex ⊢
  tauto

theorem v4_chars {t : String} (h : isV4 t = true) :
    ∀ c ∈ t.toList, c.isDigit = true ∨ c = '.' := by
  intro c hc
  simp only [isV4, Bool.and_eq_true, List.all_eq_true] at h
  rcases mem_fields (x := '.') hc with rfl | ⟨p, hp, hcp⟩
  · exact .inr rfl
  · have hpart := h.2 p hp
    simp only [isV4Part, Bool.and_eq_true, List.all_eq_true] at hpart
    exact .inl (hpart.1.1.2 c hcp)

theorem isV6_groups {s : String} (hz : '%' ∉ s.toList) (h : isV6 s = true) :
    3 ≤ (fields s ':').length ∧
      ∀ p ∈ fields s ':', ∀ c ∈ p.toList, isAddressChar c = true := by
  -- each group is empty or hexadecimal, but a dotted-quad tail
  have hgroup : ∀ {ps : List String}, groupsOk ps = true → ∀ p ∈ ps, ∀ c ∈ p.toList,
      isAddressChar c = true := by
    intro ps hps p hp c hc
    obtain ⟨i, hi, rfl⟩ := List.getElem_of_mem hp
    rcases groupsOk_pieces hps hi with he | hx
    · simp [he] at hc
    · exact hextet_chars hx c hc
  unfold isV6 at h
  simp only [fields_of_not_mem hz, Bool.not_true, Bool.false_or] at h
  split at h
  · cases h
  · rename_i hlen
    simp only [Bool.or_eq_true, decide_eq_true_eq, not_or] at hlen
    refine ⟨by omega, ?_⟩
    split at h
    · rename_i last hlast
      obtain ⟨ys, hys⟩ := List.getLast?_eq_some_iff.1 hlast
      intro p hp
      split at h
      · simp only [Bool.and_eq_true] at h
        rw [hys, List.dropLast_concat] at h
        rw [hys, List.mem_append, List.mem_singleton] at hp
        rcases hp with hp | rfl
        · exact hgroup h.2 p (List.mem_append_left _ hp)
        · intro c hc
          rcases v4_chars h.1 c hc with hd | rfl
          · simp [isAddressChar, hd]
          · rfl
      · exact hgroup h p hp
    · cases h

theorem isV6_chars {s : String} (hz : '%' ∉ s.toList) (h : isV6 s = true) :
    ∀ c ∈ s.toList, isAddressChar c = true := by
  intro c hc
  rcases mem_fields (x := ':') hc with rfl | ⟨p, hp, hcp⟩
  · rfl
  · exact (isV6_groups hz h).2 p hp c hcp

theorem colon_mem_of_isV6 {s : String} (hz : '%' ∉ s.toList) (h : isV6 s = true) :
    ':' ∈ s.toList := by
  by_contra hc
  have hlen := (isV6_groups hz h).1
  rw [fields_of_not_mem hc] at hlen
  simp at hlen

theorem isV4_eq_false_of_colon {s : String} (h : ':' ∈ s.toList) : isV4 s = false := by
  by_contra hv
  rcases v4_chars (Bool.not_eq_false _ ▸ hv) ':' h with hd | hd <;> revert hd <;> decide

theorem checkBracketedHost_of_isV6 {s : String} (hz : '%' ∉ s.toList) (h : isV6 s = true) :
    Url.checkBracketedHost s = .ok () := by
  have hv : s.startsWith "v" = false := by
    rw [String.startsWith_string_eq_false_iff]
    intro hp
    have hc := isV6_chars hz h 'v' (hp.subset (by simp))
    revert hc
    decide
  simp [Url.checkBracketedHost, hv, isV4_eq_false_of_colon (colon_mem_of_isV6 hz h), h]

end IpAddress

namespace Url

/-! ### Reading a server URL back -/

/-- the characters that may stand in the network location of a server URL: ASCII, and none of
the delimiters of the later parts, the `@` of a user, the `%` of a zone, or the controls that
reading drops -/
def isLocationChar (c : Char) : Bool := c.toNat < 128 && !"/?#@%\t\r\n".toList.contains c

theorem ne_of_isLocationChar {c d : Char} (h : isLocationChar c = true)
    (hd : d ∈ "/?#@%\t\r\n".toList) : c ≠ d := by
  rintro rfl
  have hc : "/?#@%\t\r\n".toList.contains c = true := by simpa using hd
  simp only [isLocationChar, hc, Bool.not_true, Bool.and_false] at h
  cases h

theorem hidesDelimiter_of_isLocationChar {c : Char} (h : isLocationChar c = true) :
    hidesDelimiter c = false := by
  simp only [isLocationChar, Bool.and_eq_true, decide_eq_true_eq] at h
  simp [hidesDelimiter]
  omega

theorem isLocationChar_of {p : Char → Bool} (hascii : ∀ c, p c = true → c.toNat < 128)
    (hdelims : "/?#@%\t\r\n".toList.all (fun d => !p d) = true) {c : Char} (hc : p c = true) :
    isLocationChar c = true := by
  simp only [isLocationChar, hascii c hc, decide_true, Bool.true_and, Bool.not_eq_true',
    List.contains_eq_mem, decide_eq_false_iff_not]
  intro hm
  simpa [hc] using List.all_eq_true.1 hdelims c hm

theorem splitFirst_of_not_mem {cs : List Char} {c : Char} (h : c ∉ cs) :
    splitFirst cs c = (cs, none) := by
  simp [splitFirst, List.idxOf?_eq_none_iff.2 h]

theorem splitFirst_append_cons {cs rest : List Char} {c : Char} (h : c ∉ cs) :
    splitFirst (cs ++ c :: rest) c = (cs, some rest) := by
  have hidx : (cs ++ c :: rest).idxOf? c = some cs.length := by
    have hnone : ∀ x ∈ cs, ¬x = c := fun x hx hxc => h (hxc ▸ hx)
    simp [List.idxOf?, List.findIdx?_append]
    exact .inr ⟨hnone, by simp [List.findIdx?_cons]⟩
  simp [splitFirst, hidx]

theorem splitLast_of_not_mem {cs : List Char} {c : Char} (h : c ∉ cs) :
    splitLast cs c = (none, cs) := by
  have hr : c ∉ cs.reverse := by simpa using h
  rw [splitLast, splitFirst_of_not_mem hr]
  simp

theorem split_https {n : List Char} (hn : ∀ c ∈ n, isLocationChar c = true)
    (hb : ('[' ∉ n ∧ ']' ∉ n) ∨
      ('[' ∈ n ∧ ']' ∈ n ∧ checkBracketed (String.ofList n) = .ok ())) :
    split ("https://" ++ String.ofList n) = .ok ⟨"https", String.ofList n, "", "", ""⟩ := by
  have hne : ∀ c ∈ n, ∀ d ∈ "/?#@%\t\r\n".toList, c ≠ d :=
    fun c hc _ hd => ne_of_isLocationChar (hn c hc) hd
  have htext : ("https://" ++ String.ofList n).toList =
      'h' :: 't' :: 't' :: 'p' :: 's' :: ':' :: '/' :: '/' :: n := by
    simp
  -- no blank or control is dropped, and the location runs to the end
  have hclean : ('h' :: 't' :: 't' :: 'p' :: 's' :: ':' :: '/' :: '/' :: n).filter
      (fun c => c != '\t' && c != '\r' && c != '\n') =
      'h' :: 't' :: 't' :: 'p' :: 's' :: ':' :: '/' :: '/' :: n := by
    rw [List.filter_eq_self]
    intro c hc
    simp only [List.mem_cons] at hc
    rcases hc with rfl | rfl | rfl | rfl | rfl | rfl | rfl | rfl | hc
    -- the characters of the scheme and its slashes, then those of the location
    any_goals decide
    simp [hne c hc '\t' (by decide), hne c hc '\r' (by decide), hne c hc '\n' (by decide)]
  have hcs : (("https://" ++ String.ofList n).toList.dropWhile isLeadingJunk).filter
      (fun c => c != '\t' && c != '\r' && c != '\n') =
      'h' :: 't' :: 't' :: 'p' :: 's' :: ':' :: '/' :: '/' :: n := by
    rw [htext, List.dropWhile_cons_of_neg (by decide), hclean]
  have hidx : ('h' :: 't' :: 't' :: 'p' :: 's' :: ':' :: '/' :: '/' :: n).idxOf? ':' = some 5 :=
    rfl
  have hword : n.takeWhile (fun c => c != '/' && c != '?' && c != '#') = n := by
    rw [List.takeWhile_eq_self_iff]
    intro c hc
    simp [hne c hc '/' (by decide), hne c hc '?' (by decide), hne c hc '#' (by decide)]
  have hany : n.any hidesDelimiter = false := by
    simpa using fun c hc => hidesDelimiter_of_isLocationChar (hn c hc)
  unfold split
  simp only [hcs, hidx]
  simp [hword, hany, splitFirst, isSchemeChar]
  -- a location with no bracket passes; one with both passes the bracket check
  rcases hb with ⟨h1, h2⟩ | ⟨h1, h2, h3⟩
  · simp [h1, h2, Except.bind]
  · simp [h1, h2, h3, Except.bind]

theorem checkBracketed_enclosed {a digits : List Char}
    (hat : '@' ∉ '[' :: a ++ ']' :: ':' :: digits) (hc : ']' ∉ a)
    (hh : checkBracketedHost (String.ofList a) = .ok ()) :
    checkBracketed (String.ofList ('[' :: a ++ ']' :: ':' :: digits)) = .ok () := by
  have hopen : splitFirst ('[' :: a ++ ']' :: ':' :: digits) '[' =
      ([], some (a ++ ']' :: ':' :: digits)) :=
    @splitFirst_append_cons [] _ '[' List.not_mem_nil
  simp only [checkBracketed, String.toList_ofList, splitLast_of_not_mem hat, hopen]
  simp [splitFirst_append_cons hc, hh]

end Url

namespace UrlParts

theorem hostInfo_plain {u : UrlParts} {host digits : List Char}
    (hn : u.netloc = String.ofList (host ++ ':' :: digits))
    (hat : '@' ∉ host ++ ':' :: digits) (hb : '[' ∉ host ++ ':' :: digits) (hc : ':' ∉ host)
    (hd : digits ≠ []) : u.hostInfo = (host, some digits) := by
  simp only [hostInfo, hn, String.toList_ofList, Url.splitLast_of_not_mem hat,
    Url.splitFirst_of_not_mem hb, Url.splitFirst_append_cons hc]
  cases digits with
  | nil => exact absurd rfl hd
  | cons d ds => rfl

theorem hostInfo_bracketed {u : UrlParts} {addr digits : List Char}
    (hn : u.netloc = String.ofList ('[' :: addr ++ ']' :: ':' :: digits))
    (hat : '@' ∉ '[' :: addr ++ ']' :: ':' :: digits) (hc : ']' ∉ addr)
    (hd : digits ≠ []) : u.hostInfo = (addr, some digits) := by
  have hopen : Url.splitFirst ('[' :: addr ++ ']' :: ':' :: digits) '[' =
      ([], some (addr ++ ']' :: ':' :: digits)) :=
    @Url.splitFirst_append_cons [] _ '[' List.not_mem_nil
  have hport : Url.splitFirst (':' :: digits) ':' = ([], some digits) :=
    @Url.splitFirst_append_cons [] _ ':' List.not_mem_nil
  simp only [hostInfo, hn, String.toList_ofList, Url.splitLast_of_not_mem hat, hopen,
    Url.splitFirst_append_cons hc, Option.getD_some, hport]
  cases digits with
  | nil => exact absurd rfl hd
  | cons d ds => rfl

theorem port_toDigits {u : UrlParts} {k : Nat} (hk : k ≤ 65535)
    (h : u.hostInfo.2 = some (Nat.toDigits 10 k)) : u.port = .ok (some k) := by
  have hdigits : (Nat.toDigits 10 k).all Char.isDigit = true :=
    List.all_eq_true.2 fun c hc => Nat.isDigit_of_mem_toDigits (by decide) (by decide) hc
  have hvalue : (Nat.toDigits 10 k).foldl (fun acc c => 10 * acc + (c.toNat - 48)) 0 = k := by
    have h := Nat.ofDigitChars_ten_toDigits (n := k)
    rw [Nat.ofDigitChars_eq_foldl] at h
    simpa using h
  have hlength : (Nat.toDigits 10 k).length ≤ Data.decimalLimit := by
    have h5 : (Nat.toDigits 10 k).length ≤ 5 :=
      (Nat.length_toDigits_le_iff (by decide) (by decide)).2 (by omega)
    simp only [Data.decimalLimit]
    omega
  simp only [port, h, hdigits, hvalue, if_true]
  rw [if_neg (by omega), if_neg (by omega)]

theorem hostname_of_not_mem {u : UrlParts} (h : '%' ∉ u.hostInfo.1) :
    u.hostname = Text.lower (String.ofList u.hostInfo.1) := by
  simp [hostname, Url.splitFirst_of_not_mem h]

end UrlParts

/-! ### The cluster's name -/

theorem clusterNameFor_of_split {url : String} {u : UrlParts} {k : Nat}
    (hs : Url.split url = .ok u) (hp : u.port = .ok (some k)) (defaultPort : Int) :
    clusterNameFor url defaultPort =
      .ok (if (k : Int) = defaultPort then u.hostname else u.hostname ++ ":" ++ toString k) := by
  simp only [clusterNameFor, hs, hp, bind, Except.bind, pure, Except.pure]
  by_cases hk : (k : Int) = defaultPort <;> simp [hk]

theorem clusterNameFor_https {n host : List Char} {k : Nat} (hk : k ≤ 65535)
    (hn : ∀ c ∈ n, Url.isLocationChar c = true)
    (hb : ('[' ∉ n ∧ ']' ∉ n) ∨
      ('[' ∈ n ∧ ']' ∈ n ∧ Url.checkBracketed (String.ofList n) = .ok ()))
    (hinfo : UrlParts.hostInfo ⟨"https", String.ofList n, "", "", ""⟩ =
      (host, some (Nat.toDigits 10 k)))
    (hz : '%' ∉ host) (defaultPort : Int) :
    clusterNameFor ("https://" ++ String.ofList n) defaultPort =
      .ok (if (k : Int) = defaultPort then Text.lower (String.ofList host)
        else Text.lower (String.ofList host) ++ ":" ++ toString k) := by
  rw [clusterNameFor_of_split (Url.split_https hn hb) (UrlParts.port_toDigits hk (by rw [hinfo])),
    UrlParts.hostname_of_not_mem (by rw [hinfo]; exact hz), hinfo]

open IpAddress in
/-- **A host name or a dotted quad names the cluster**: the server URL of such a host and a port
in range names the cluster after the host in lower case, followed by the port when it is not
the default. -/
theorem clusterNameFor_named {h : String} (hh : ∀ c ∈ h.toList, isNameChar c = true) {p : Int}
    (h0 : 0 ≤ p) (h1 : p ≤ 65535) (defaultPort : Int) :
    clusterNameFor ("https://" ++ urlHost h ++ ":" ++ toString p) defaultPort =
      .ok (if p = defaultPort then Text.lower h else Text.lower h ++ ":" ++ toString p) := by
  obtain ⟨k, rfl⟩ := Int.eq_ofNat_of_zero_le h0
  have hcolon : ':' ∉ h.toList := not_mem_of_forall hh (by decide)
  have hurl : urlHost h = h := by simp [urlHost, hcolon]
  -- the location is the host, a colon and the port's digits
  let n := h.toList ++ ':' :: Nat.toDigits 10 k
  have htext : "https://" ++ urlHost h ++ ":" ++ toString (k : Int) =
      "https://" ++ String.ofList n := by
    rw [hurl, toString_natCast]
    apply String.toList_injective
    simp [n]
  have hclass : ∀ c ∈ n, (isNameChar c || c == ':') = true := by
    intro c hc
    simp only [n, List.mem_append, List.mem_cons] at hc
    rcases hc with hc | rfl | hc
    · simp [hh c hc]
    · decide
    · have hd := Nat.isDigit_of_mem_toDigits (by decide) (by decide) hc
      simp [isNameChar, Char.isAlphanum, hd]
  have hloc : ∀ c ∈ n, Url.isLocationChar c = true := fun c hc =>
    Url.isLocationChar_of (p := fun c => isNameChar c || c == ':')
      (fun c hc => by
        simp only [Bool.or_eq_true, beq_iff_eq] at hc
        rcases hc with hc | rfl
        · exact toNat_lt_of_isNameChar hc
        · decide)
      (by decide) (hclass c hc)
  have hinfo : UrlParts.hostInfo ⟨"https", String.ofList n, "", "", ""⟩ =
      (h.toList, some (Nat.toDigits 10 k)) :=
    UrlParts.hostInfo_plain rfl (not_mem_of_forall hclass (by decide))
      (not_mem_of_forall hclass (by decide)) hcolon Nat.toDigits_ne_nil
  rw [htext, clusterNameFor_https (by omega) hloc
    (.inl ⟨not_mem_of_forall hclass (by decide), not_mem_of_forall hclass (by decide)⟩) hinfo
    (not_mem_of_forall hh (by decide)), String.ofList_toList]
  rfl

open IpAddress in
/-- **An IPv6 address names the cluster**: the server URL of an IPv6 address without a zone,
advertised bare or in brackets, and a port in range names the cluster after the address in
lower case, without brackets, followed by the port when it is not the default. -/
theorem clusterNameFor_v6 {a h : String} (hv : isV6 a = true) (hz : '%' ∉ a.toList)
    (hh : h = a ∨ h = "[" ++ a ++ "]") {p : Int} (h0 : 0 ≤ p) (h1 : p ≤ 65535)
    (defaultPort : Int) :
    clusterNameFor ("https://" ++ urlHost h ++ ":" ++ toString p) defaultPort =
      .ok (if p = defaultPort then Text.lower a else Text.lower a ++ ":" ++ toString p) := by
  obtain ⟨k, rfl⟩ := Int.eq_ofNat_of_zero_le h0
  have hchars := isV6_chars hz hv
  -- bare or in brackets, the address stands in the URL in brackets once
  have hurl : urlHost h = "[" ++ a ++ "]" := by
    rcases hh with rfl | rfl
    · have hopen : h.startsWith "[" = false := by
        rw [String.startsWith_string_eq_false_iff]
        intro hp
        have hc := hchars '[' (hp.subset (by simp))
        revert hc
        decide
      simp [urlHost, colon_mem_of_isV6 hz hv, hopen]
    · simp [urlHost]
  let n := '[' :: a.toList ++ ']' :: ':' :: Nat.toDigits 10 k
  have htext : "https://" ++ urlHost h ++ ":" ++ toString (k : Int) =
      "https://" ++ String.ofList n := by
    rw [hurl, toString_natCast]
    apply String.toList_injective
    simp [n]
  -- the digits of the port are address characters too
  have hclass : ∀ c ∈ n, (isAddressChar c || c == '[' || c == ']') = true := by
    intro c hc
    simp only [n, List.mem_cons, List.mem_append] at hc
    rcases hc with (rfl | hc) | rfl | rfl | hc
    · decide
    · simp [hchars c hc]
    · decide
    · decide
    · have hd := Nat.isDigit_of_mem_toDigits (by decide) (by decide) hc
      simp [isAddressChar, hd]
  have hloc : ∀ c ∈ n, Url.isLocationChar c = true := fun c hc =>
    Url.isLocationChar_of (p := fun c => isAddressChar c || c == '[' || c == ']')
      (fun c hc => by
        simp only [Bool.or_eq_true, beq_iff_eq] at hc
        rcases hc with (hc | rfl) | rfl
        · exact toNat_lt_of_isAddressChar hc
        · decide
        · decide)
      (by decide) (hclass c hc)
  have hat : '@' ∉ n := not_mem_of_forall hclass (by decide)
  have hclose : ']' ∉ a.toList := not_mem_of_forall hchars (by decide)
  have hb : Url.checkBracketed (String.ofList n) = .ok () :=
    Url.checkBracketed_enclosed hat hclose
      (by rw [String.ofList_toList]; exact checkBracketedHost_of_isV6 hz hv)
  have hinfo : UrlParts.hostInfo ⟨"https", String.ofList n, "", "", ""⟩ =
      (a.toList, some (Nat.toDigits 10 k)) :=
    UrlParts.hostInfo_bracketed rfl hat hclose Nat.toDigits_ne_nil
  rw [htext, clusterNameFor_https (by omega) hloc (.inr ⟨by simp [n], by simp [n], hb⟩) hinfo hz,
    String.ofList_toList]
  rfl

namespace Deploy

section Naming

open ClusterSpec

variable {d : Deployment} {given : Option ClusterSpec}

/-- **The advertised endpoint.**  Adopting a description that passes its checks sets the server
URL to `https://H:p`, `p` the advertised port and `H` the advertised host, bracketed when it
holds a colon and is not bracketed yet, or fails when `p` is too long to write, the engine
holding the description and its machines at the uninitialized stage.  Whatever steps follow, the engine keeps that URL and its settings, so every kubeconfig
written for people names the cluster after the same URL: for a host name, a dotted quad or an
IPv6 address without a zone, and a port in range, the name is the host in lower case, without
brackets, followed by the port when it is not the API port. -/
theorem adopt_names_endpoint (hs : d.engine.stage = .uninitialized) {c : ClusterSpec}
    (hv : verify given = .ok c) :
    let p := c.advertisedPort d.engine.settings.apiPort
    let url := "https://" ++ urlHost c.advertisedHost ++ ":" ++ toString p
    let named := fun h => if p = d.engine.settings.apiPort then Text.lower h
      else Text.lower h ++ ":" ++ toString p
    (Data.isLongInteger p = true →
      outcome (adopt given) d = (.error (.unwritable .longInteger), d.taking c)) ∧
    (Data.isLongInteger p = false → (outcome (adopt given) d).1 = .ok () ∧
      ∀ sts, ((outcome (adopt given) d).2.afterSteps sts).engine.serverUrl = url ∧
        ((outcome (adopt given) d).2.afterSteps sts).engine.settings = d.engine.settings) ∧
    (0 ≤ p → p ≤ 65535 →
      ((∀ ch ∈ c.advertisedHost.toList, IpAddress.isNameChar ch = true) →
        clusterNameFor url d.engine.settings.apiPort = .ok (named c.advertisedHost)) ∧
      (∀ a, IpAddress.isV6 a = true → '%' ∉ a.toList →
        (c.advertisedHost = a ∨ c.advertisedHost = "[" ++ a ++ "]") →
        clusterNameFor url d.engine.settings.apiPort = .ok (named a))) := by
  intro p url named
  have hurl : c.serverUrl d.engine.settings.apiPort =
      if Data.isLongInteger p then .error .longInteger else .ok url :=
    serverUrl_eq c _
  refine ⟨fun hl => outcome_adopt_unwritable hs hv (by rw [hurl, if_pos hl]), fun hl => ?_,
    fun h0 h1 => ⟨fun hh => clusterNameFor_named hh h0 h1 _,
      fun a hv6 hz ha => clusterNameFor_v6 hv6 hz ha h0 h1 _⟩⟩
  have hout := outcome_adopt_ok hs hv (by rw [hurl, if_neg (by simp [hl])])
  refine ⟨by rw [hout], fun sts => ?_⟩
  -- the URL and the settings stay as adopted, whatever the steps
  have hfix := afterSteps_fixed (d := (outcome (adopt given) d).2) sts (by simp [hout])
  exact ⟨hfix.serverUrl.trans (by rw [hout]), hfix.settings.trans (by rw [hout])⟩

/-- A fresh engine offered one server, named by its SSH host. -/
theorem fresh_names_endpoint :
    let d : Deployment := ⟨{ settings := Settings.default }, {}, []⟩
    let c : ClusterSpec :=
      { version := "stable", machines := [{ role := .server, ssh := { host := "10.0.0.1" } }] }
    d.engine.stage = .uninitialized ∧ verify (some c) = .ok c ∧
    let p := c.advertisedPort d.engine.settings.apiPort
    let url := "https://" ++ urlHost c.advertisedHost ++ ":" ++ toString p
    let named := fun h => if p = d.engine.settings.apiPort then Text.lower h
      else Text.lower h ++ ":" ++ toString p
    (Data.isLongInteger p = true →
      outcome (adopt (some c)) d = (.error (.unwritable .longInteger), d.taking c)) ∧
    (Data.isLongInteger p = false → (outcome (adopt (some c)) d).1 = .ok () ∧
      ∀ sts, ((outcome (adopt (some c)) d).2.afterSteps sts).engine.serverUrl = url ∧
        ((outcome (adopt (some c)) d).2.afterSteps sts).engine.settings = d.engine.settings) ∧
    (0 ≤ p → p ≤ 65535 →
      ((∀ ch ∈ c.advertisedHost.toList, IpAddress.isNameChar ch = true) →
        clusterNameFor url d.engine.settings.apiPort = .ok (named c.advertisedHost)) ∧
      (∀ a, IpAddress.isV6 a = true → '%' ∉ a.toList →
        (c.advertisedHost = a ∨ c.advertisedHost = "[" ++ a ++ "]") →
        clusterNameFor url d.engine.settings.apiPort = .ok (named a))) := by
  intro d c
  have hv : verify (some c) = .ok c := by
    rw [verify_some, if_pos (by decide +kernel)]
  exact ⟨rfl, hv, adopt_names_endpoint rfl hv⟩

/-- An IPv6 address with a zone, advertised as the server's name, is named with the zone's case
kept: the name is not the advertised host in lower case. -/
theorem scoped_host_keeps_zone_case :
    let d : Deployment := ⟨{ settings := Settings.default }, {}, []⟩
    let c : ClusterSpec :=
      { version := "stable",
        defaults := { server := (Fragment.empty .server).set "tls-san" (.words ["FE80::1%ETH0"]) },
        machines := [{ role := .server, ssh := { host := "10.0.0.1" } }] }
    IpAddress.isV6 c.advertisedHost = true ∧
    (outcome (adopt (some c)) d).2.engine.serverUrl = "https://[FE80::1%ETH0]:6443" ∧
    clusterNameFor (outcome (adopt (some c)) d).2.engine.serverUrl d.engine.settings.apiPort =
      .ok "fe80::1%ETH0" ∧
    Text.lower c.advertisedHost = "fe80::1%eth0" := by
  intro d c
  have hv : verify (some c) = .ok c := by
    rw [verify_some, if_pos (by decide +kernel)]
  have hurl : c.serverUrl d.engine.settings.apiPort = .ok "https://[FE80::1%ETH0]:6443" := by
    decide +kernel
  rw [outcome_adopt_ok rfl hv hurl]
  exact ⟨by decide +kernel, rfl, by decide +kernel, by decide +kernel⟩

end Naming

end Deploy

end ClusterDeploy
