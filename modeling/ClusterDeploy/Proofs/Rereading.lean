import Mathlib
import ClusterDeploy.Proofs.Fields
import ClusterDeploy.Proofs.Reconcile
import ClusterDeploy.Spec.Config

/-!
# A description written out reads back as itself

`ClusterSpec.toData` writes a cluster description as a document, with every field or only the
fields off their defaults.  Read again, either document gives back the description it was
written from, for every description the library has read:

* `ClusterSpec.check_valid`    what checking a document gives is `ClusterSpec.Valid`: its
                               fragments are of their roles, and every SSH target has a port in
                               `1 … 65535` and a login user that is not empty;
* `ClusterSpec.check_toData`   a valid description, written out either way, checks as itself;
* `ClusterSpec.ofData_toData`  so a description read from text or from a document, written out
                               and validated again, is the same description;
* `Fragment.toYaml_of_isLongCount`  a machine's settings with a count of more than
                               `Data.decimalLimit` digits have no configuration file.

The fields of each model are looked up in the written mapping (`Checked.field_written` and
`Checked.field_optional`): a value written under a field's key is found there, and a field's
alias, the underscored name of a dashed key, is never a key that is written, so a value left out
is read as the default it was left out for.
-/

namespace ClusterDeploy

namespace Utf8

theorem ne_empty_of_decode? {b : List UInt8} {s : String} (hb : b ≠ [])
    (h : decode? b = some s) : s ≠ "" := by
  rintro rfl
  unfold decode? String.fromUTF8? at h
  split at h
  · rename_i hv
    have hbytes : (String.fromUTF8 _ hv).toByteArray = ByteArray.mk b.toArray := rfl
    rw [Option.some.inj h] at hbytes
    have harray : b.toArray = #[] := by simpa using (congrArg ByteArray.data hbytes).symm
    exact hb (by simpa using harray)
  · cases h

end Utf8

namespace SshTarget

/-- A target as checking leaves it: a port in `1 … 65535` and a login user that is not empty. -/
structure Valid (t : SshTarget) : Prop where
  port_pos : 1 ≤ t.port
  port_le : t.port ≤ 65535
  user_ne : t.user ≠ ""

theorem checkPort_bounds {d : Data} {p : Int} (h : checkPort d = .ok p) : 1 ≤ p ∧ p ≤ 65535 := by
  unfold checkPort at h
  dsimp only at h
  -- the value read, or the default for a false one, is then held to the bounds
  split at h
  · rename_i q _
    by_cases hhi : q > 65535
    · rw [if_pos hhi] at h
      cases h
    · rw [if_neg hhi] at h
      by_cases hlo : q < 1
      · rw [if_pos hlo] at h
        cases h
      · rw [if_neg hlo] at h
        cases h
        omega
  · cases h

theorem checkPort_int {p : Int} (hlo : 1 ≤ p) (hhi : p ≤ 65535) : checkPort (.int p) = .ok p := by
  have hne : p ≠ 0 := by omega
  have hle : ¬ 65535 < p := by omega
  have hge : ¬ p < 1 := by omega
  simp [checkPort, Data.truthy, Data.asInteger, hne, hle, hge]

theorem checkUser_str {u : String} (hu : u ≠ "") : checkUser (.str u) = .ok u := by
  simp [checkUser, Data.truthy, Data.asText, hu]

theorem checkUser_ne_empty {d : Data} {u : String} (h : checkUser d = .ok u) : u ≠ "" := by
  unfold checkUser at h
  by_cases ht : d.truthy
  · rw [if_pos ht] at h
    cases d with
    | str s =>
      cases h
      simpa [Data.truthy] using ht
    | bytes b =>
      simp only [Data.asText] at h
      cases hs : Utf8.decode? b with
      | none => simp [hs, Checked.fail] at h
      | some s =>
        simp only [hs, Except.ok.injEq] at h
        subst h
        exact Utf8.ne_empty_of_decode? (by simpa [Data.truthy] using ht) hs
    | _ => simp [Data.asText, Checked.fail] at h
  · rw [if_neg ht] at h
    cases h
    decide

/-- **Every target read from a document is valid.** -/
theorem check_valid {d : Data} {t : SshTarget} (h : check d = .ok t) : t.Valid := by
  unfold check at h
  split at h
  · cases h
  · dsimp only at h
    split at h
    · rename_i _ hport huser _ _ _ _ _
      cases h
      have hbounds := Checked.field_inv (P := fun p => 1 ≤ p ∧ p ≤ 65535)
        (fun x hx => by cases hx; decide) (fun _ _ => checkPort_bounds) hport
      exact ⟨hbounds.1, hbounds.2, Checked.field_inv (P := fun u => u ≠ "")
        (fun x hx => by cases hx; decide) (fun _ _ => checkUser_ne_empty) huser⟩
    · cases h

theorem keys_entries (t : SshTarget) : t.entries.map (·.1) =
    ["host", "port", "user", "password", "key", "key-file", "passphrase", "fingerprint"] := rfl

theorem check_of_fields {es : List (Data × Data)} {t : SshTarget}
    (hhost : Checked.field es ⟨"host", none⟩ Data.asText (some "") = .ok t.host)
    (hport : Checked.field es ⟨"port", none⟩ checkPort (some 22) = .ok t.port)
    (huser : Checked.field es ⟨"user", none⟩ checkUser (some "root") = .ok t.user)
    (hpassword : Checked.field es ⟨"password", none⟩ Data.asText (some "") = .ok t.password)
    (hkey : Checked.field es ⟨"key", none⟩ Data.asText (some "") = .ok t.key)
    (hkeyFile : Checked.field es ⟨"key_file", some "key-file"⟩ Data.asText (some "") =
      .ok t.keyFile)
    (hpassphrase : Checked.field es ⟨"passphrase", none⟩ Data.asText (some "") =
      .ok t.passphrase)
    (hfingerprint : Checked.field es ⟨"fingerprint", none⟩ Data.asText (some "") =
      .ok t.fingerprint) :
    check (.map es) = .ok t := by
  unfold check
  dsimp only [Data.asModel]
  rw [hhost, hport, huser, hpassword, hkey, hkeyFile, hpassphrase, hfingerprint]

/-- **A valid target, written out, checks as itself**, with every field or only those off their
defaults. -/
theorem check_toData {t : SshTarget} (ht : t.Valid) (b : Bool) : check (t.toData b) = .ok t := by
  have hd : (t.entries.map (·.1)).Nodup := by
    rw [keys_entries]
    decide
  -- every entry is written under its key, or left out when only changes are written and it is
  -- at its default
  have hfield : ∀ {β : Type} {f : FieldName} {chk : Data → Checked β} {dflt a : β} (w : Data)
      (isDefault : Bool), (f.key, w, isDefault) ∈ t.entries →
      (f.spelled ≠ none → f.name ∉ t.entries.map (·.1)) → chk w = .ok a →
      (isDefault = true → dflt = a) →
      Checked.field ((t.entries.filter fun e => !(b && e.2.2)).map fun e => (.str e.1, e.2.1))
        f chk (some dflt) = .ok a := by
    intro β f chk dflt a w isDefault hmem hname hw hdef
    exact Checked.field_written (·.1) (·.2.1) hd (fun e => !(b && e.2.2)) hmem rfl hname hw
      (fun hq => hdef (by simp at hq; exact hq.2))
  have hdefault : ∀ {β : Type} [BEq β] [LawfulBEq β] {x y : β}, (x == y) = true → y = x :=
    fun h => (beq_iff_eq.1 h).symm
  unfold toData
  apply check_of_fields
  · exact hfield (.str t.host) _ (by simp [entries]) (fun h => absurd rfl h) rfl hdefault
  · exact hfield (.int t.port) _ (by simp [entries]) (fun h => absurd rfl h)
      (checkPort_int ht.port_pos ht.port_le) hdefault
  · exact hfield (.str t.user) _ (by simp [entries]) (fun h => absurd rfl h)
      (checkUser_str ht.user_ne) hdefault
  · exact hfield (.str t.password) _ (by simp [entries]) (fun h => absurd rfl h) rfl hdefault
  · exact hfield (.str t.key) _ (by simp [entries]) (fun h => absurd rfl h) rfl hdefault
  · -- the key file is written under its dashed alias; its own name is no key
    exact hfield (.str t.keyFile) _ (by simp [entries]) (fun _ => by rw [keys_entries]; decide)
      rfl hdefault
  · exact hfield (.str t.passphrase) _ (by simp [entries]) (fun h => absurd rfl h) rfl hdefault
  · exact hfield (.str t.fingerprint) _ (by simp [entries]) (fun h => absurd rfl h) rfl hdefault

end SshTarget

namespace SettingSpec

@[simp] theorem key_field (s : SettingSpec) : s.field.key = s.key := by
  unfold field
  split <;> rfl

theorem underscore_mem_name {s : SettingSpec} (h : s.field.spelled ≠ none) :
    '_' ∈ s.field.name.toList := by
  unfold field at h ⊢
  split
  · rename_i hdash
    simp only [name, String.toList_ofList, List.mem_map]
    exact ⟨'-', by simpa using hdash, if_pos rfl⟩
  · rename_i hdash
    rw [if_neg hdash] at h
    exact absurd rfl h

end SettingSpec

namespace Role

theorem check_name (r : Role) : Role.check (.str r.name) = .ok r := by
  cases r <;> rfl

theorem nodup_keys (r : Role) : (r.table.map SettingSpec.key).Nodup := by
  cases r <;> decide

theorem keys_no_underscore (r : Role) :
    r.table.all (fun s => !s.key.toList.contains '_') = true := by
  cases r <;> decide

theorem name_not_key {r : Role} {s : SettingSpec} (h : s.field.spelled ≠ none) :
    s.field.name ∉ r.table.map SettingSpec.key := by
  intro hmem
  obtain ⟨s', hs', heq⟩ := List.mem_map.1 hmem
  have hno := List.all_eq_true.1 (keys_no_underscore r) s' hs'
  rw [heq] at hno
  simp [SettingSpec.underscore_mem_name h] at hno

end Role

namespace Setting

theorem check_toData (v : Setting) : check v.kind v.toData = .ok v := by
  cases v with
  | text s => rfl
  | count n => rfl
  | flag b => rfl
  | words ws =>
    change (Checked.each Data.asText (ws.map Data.str)).map Setting.words = .ok (.words ws)
    have hwords : Checked.each Data.asText (ws.map Data.str) = .ok ws :=
      Checked.each_map fun _ _ => rfl
    rw [hwords]
    rfl

end Setting

namespace Fragment

theorem kind_of_mem_zip : ∀ {specs : List SettingSpec} {vs : List Setting},
    vs.map Setting.kind = specs.map SettingSpec.kind → ∀ e ∈ specs.zip vs, e.2.kind = e.1.kind
  | [], _, _, _, he => by simp at he
  | _ :: _, [], h, _, _ => by simp at h
  | s :: specs, v :: vs, h, e, he => by
    simp only [List.map_cons, List.cons.injEq] at h
    rcases List.mem_cons.1 he with rfl | he
    · exact h.1
    · exact kind_of_mem_zip h.2 e he

theorem check_go_of_fields {es : List (Data × Data)} : ∀ {specs : List SettingSpec}
    {vs : List Setting}, specs.length = vs.length →
    (∀ e ∈ specs.zip vs, Checked.field es e.1.field (Setting.check e.1.kind)
      (some (Setting.default e.1.kind)) = .ok e.2) →
    check.go es specs = .ok vs
  | [], [], _, _ => rfl
  | s :: specs, v :: vs, hlen, h => by
    rw [check.go, h (s, v) List.mem_cons_self,
      check_go_of_fields (Nat.succ.inj hlen) (fun e he => h e (List.mem_cons_of_mem _ he))]
    rfl

/-- **A valid fragment, written out, checks as itself**, whichever of its settings are left
out, as long as those left out are at their defaults. -/
theorem check_written {f : Fragment} {r : Role} (hf : f.Valid r)
    (q : SettingSpec × Setting → Bool)
    (hq : ∀ e ∈ f.entries, q e = false → e.2 = Setting.default e.1.kind) :
    check r (.map ((f.entries.filter q).map fun e => (.str e.1.key, e.2.toData))) = .ok f := by
  obtain ⟨role, values⟩ := f
  obtain ⟨hrole, hkinds⟩ := hf
  subst hrole
  -- the entries pair the table with the values, so their keys are the table's keys
  have hlen : role.table.length = values.length := by
    simpa using (congrArg List.length hkinds).symm
  have hfst : (Fragment.entries ⟨role, values⟩).map (·.1) = role.table :=
    List.map_fst_zip (Nat.le_of_eq hlen)
  have hd : ((Fragment.entries ⟨role, values⟩).map (·.1.key)).Nodup := by
    have hkeys : (Fragment.entries ⟨role, values⟩).map (·.1.key) = role.table.map SettingSpec.key := by
      rw [← hfst, List.map_map]
      rfl
    rw [hkeys]
    exact Role.nodup_keys role
  have hfields : ∀ e ∈ Fragment.entries ⟨role, values⟩, Checked.field
      ((Fragment.entries ⟨role, values⟩ |>.filter q).map fun e => (.str e.1.key, e.2.toData))
      e.1.field (Setting.check e.1.kind) (some (Setting.default e.1.kind)) = .ok e.2 := by
    intro e he
    have hkind : e.2.kind = e.1.kind := kind_of_mem_zip hkinds e he
    refine Checked.field_written (·.1.key) (·.2.toData) hd q he (SettingSpec.key_field _)
      ?_ (hkind ▸ Setting.check_toData e.2) (fun h => (hq e he h).symm)
    intro hs hmem
    have hname : e.1.field.name ∈ role.table.map SettingSpec.key := by
      rw [← hfst, List.map_map]
      exact hmem
    exact Role.name_not_key hs hname
  unfold check
  dsimp only [Data.asModel]
  rw [check_go_of_fields hlen hfields]
  rfl

theorem check_toData {f : Fragment} {r : Role} (hf : f.Valid r) : check r f.toData = .ok f := by
  have h := check_written hf (fun _ => true) (fun _ _ h => absurd h (by simp))
  rwa [List.filter_eq_self.2 (fun _ _ => rfl)] at h

theorem check_changes {f : Fragment} {r : Role} (hf : f.Valid r) : check r f.changes = .ok f :=
  check_written hf _ fun _ _ h => by simpa using h

theorem eq_empty_of_isEmpty {f : Fragment} {r : Role} (hf : f.Valid r) (h : f.isEmpty = true) :
    f = empty r := by
  rw [← hf.role]
  exact beq_iff_eq.1 h

theorem valid_of_field {es : List (Data × Data)} {k : String} {f : Fragment} {r : Role}
    (h : Checked.field es ⟨k, none⟩ (check r) (some (empty r)) = .ok f) : f.Valid r :=
  Checked.field_inv (P := fun f => f.Valid r) (fun _ hx => by cases hx; exact valid_empty r)
    (fun _ _ => check_valid) h

theorem field_dump {es : List (Data × Data)} {k : String} {f : Fragment} {r : Role}
    (hf : f.Valid r) (b : Bool)
    (hlook : Data.lookupText es k =
      if b && f.isEmpty then none else some (if b then f.changes else f.toData)) :
    Checked.field es ⟨k, none⟩ (check r) (some (empty r)) = .ok f := by
  refine Checked.field_optional _ (fun h => absurd rfl h) hlook ?_
    (fun hleft => (eq_empty_of_isEmpty hf (Bool.and_eq_true_iff.1 hleft).2).symm)
  cases b
  · exact check_toData hf
  · exact check_changes hf

end Fragment

namespace Machine

/-- A machine as checking leaves it: a valid SSH target, and settings of their roles. -/
structure Valid (m : Machine) : Prop where
  ssh : m.ssh.Valid
  server : m.server.Valid .server
  agent : m.agent.Valid .agent

/-- **Every machine read from a document is valid.** -/
theorem check_valid {d : Data} {m : Machine} (h : check d = .ok m) : m.Valid := by
  unfold check at h
  split at h
  · cases h
  · dsimp only at h
    split at h
    · rename_i _ hssh hserver hagent
      cases h
      exact ⟨Checked.field_inv (P := SshTarget.Valid) (fun _ hx => by cases hx)
          (fun _ _ => SshTarget.check_valid) hssh,
        Fragment.valid_of_field hserver, Fragment.valid_of_field hagent⟩
    · cases h

theorem check_of_fields {es : List (Data × Data)} {m : Machine}
    (hrole : Checked.field es ⟨"role", none⟩ Role.check none = .ok m.role)
    (hssh : Checked.field es ⟨"ssh", none⟩ SshTarget.check none = .ok m.ssh)
    (hserver : Checked.field es ⟨"server", none⟩ (Fragment.check .server)
      (some (Fragment.empty .server)) = .ok m.server)
    (hagent : Checked.field es ⟨"agent", none⟩ (Fragment.check .agent)
      (some (Fragment.empty .agent)) = .ok m.agent) :
    check (.map es) = .ok m := by
  unfold check
  dsimp only [Data.asModel]
  rw [hrole, hssh, hserver, hagent]

/-- **A valid machine, written out, checks as itself.** -/
theorem check_toData {m : Machine} (hm : m.Valid) (b : Bool) : check (m.toData b) = .ok m := by
  unfold toData
  apply check_of_fields
  · exact Checked.field_of_lookup (fun h => absurd rfl h) (by simp) (Role.check_name m.role)
  · exact Checked.field_of_lookup (fun h => absurd rfl h) (by simp) (SshTarget.check_toData hm.ssh b)
  · exact Fragment.field_dump hm.server b (by simp)
  · exact Fragment.field_dump hm.agent b (by simp)

end Machine

namespace ClusterDefaults

/-- Shared settings as checking leaves them: each of its role. -/
structure Valid (c : ClusterDefaults) : Prop where
  server : c.server.Valid .server
  agent : c.agent.Valid .agent

theorem valid_default : ({} : ClusterDefaults).Valid :=
  ⟨Fragment.valid_empty _, Fragment.valid_empty _⟩

theorem check_valid {d : Data} {c : ClusterDefaults} (h : check d = .ok c) : c.Valid := by
  unfold check at h
  split at h
  · cases h
  · dsimp only at h
    split at h
    · rename_i hserver hagent
      cases h
      exact ⟨Fragment.valid_of_field hserver, Fragment.valid_of_field hagent⟩
    · cases h

theorem eq_default_of_isEmpty {c : ClusterDefaults} (hc : c.Valid) (h : c.isEmpty = true) :
    c = {} := by
  obtain ⟨hserver, hagent⟩ := Bool.and_eq_true_iff.1 h
  have hs := Fragment.eq_empty_of_isEmpty hc.server hserver
  have ha := Fragment.eq_empty_of_isEmpty hc.agent hagent
  obtain ⟨server, agent⟩ := c
  dsimp only at hs ha
  rw [hs, ha]

theorem check_toData {c : ClusterDefaults} (hc : c.Valid) (b : Bool) :
    check (c.toData b) = .ok c := by
  unfold check toData
  dsimp only [Data.asModel]
  rw [Fragment.field_dump hc.server b (by simp), Fragment.field_dump hc.agent b (by simp)]

end ClusterDefaults

namespace ClusterSpec

/-- A description as checking leaves it: valid shared settings, machines and jump host. -/
structure Valid (c : ClusterSpec) : Prop where
  defaults : c.defaults.Valid
  machines : ∀ m ∈ c.machines, m.Valid
  proxy : ∀ p ∈ c.proxy, p.Valid

theorem checkProxy_valid {d : Data} {o : Option SshTarget} (h : checkProxy d = .ok o) :
    ∀ p ∈ o, p.Valid := by
  unfold checkProxy at h
  split at h
  · cases h
    intro p hp
    cases hp
  · cases ht : SshTarget.check d with
    | error e =>
      rw [ht] at h
      cases h
    | ok t =>
      rw [ht] at h
      cases h
      intro p hp
      cases hp
      exact SshTarget.check_valid ht

theorem nodes_valid {d : Data} {ms : List Machine}
    (h : (d.asList >>= Checked.each Machine.check) = .ok ms) : ∀ m ∈ ms, m.Valid := by
  cases hd : d.asList with
  | error e =>
    rw [hd] at h
    cases h
  | ok xs =>
    rw [hd] at h
    intro m hm
    obtain ⟨x, -, hx⟩ := Checked.each_inv h m hm
    exact Machine.check_valid hx

/-- **Every description read from a document is valid.** -/
theorem check_valid {d : Data} {c : ClusterSpec} (h : check d = .ok c) : c.Valid := by
  unfold check at h
  split at h
  · cases h
  · dsimp only at h
    split at h
    · rename_i hcluster hnodes hproxy
      cases h
      exact ⟨Checked.field_inv (P := ClusterDefaults.Valid)
          (fun _ hx => by cases hx; exact ClusterDefaults.valid_default)
          (fun _ _ => ClusterDefaults.check_valid) hcluster,
        Checked.field_inv (P := fun ms => ∀ m ∈ ms, m.Valid)
          (fun _ hx => by cases hx; intro m hm; cases hm)
          (fun _ _ => nodes_valid) hnodes,
        Checked.field_inv (P := fun o => ∀ p ∈ o, p.Valid)
          (fun _ hx => by cases hx; intro p hp; cases hp)
          (fun _ _ => checkProxy_valid) hproxy⟩
    · cases h

theorem checkProxy_toData {p : SshTarget} (hp : p.Valid) (b : Bool) :
    checkProxy (p.toData b) = .ok (some p) := by
  have hcheck : checkProxy (p.toData b) = (SshTarget.check (p.toData b)).map some := rfl
  rw [hcheck, SshTarget.check_toData hp b]
  rfl

theorem nodes_toData {ms : List Machine} (hms : ∀ m ∈ ms, m.Valid) (b : Bool) :
    ((Data.seq (ms.map fun m => m.toData b)).asList >>= Checked.each Machine.check) = .ok ms :=
  Checked.each_map fun m hm => Machine.check_toData (hms m hm) b

theorem check_of_fields {es : List (Data × Data)} {c : ClusterSpec}
    (hversion : Checked.field es ⟨"version", none⟩ Data.asText (some "") = .ok c.version)
    (hcluster : Checked.field es ⟨"cluster", none⟩ ClusterDefaults.check (some {}) =
      .ok c.defaults)
    (hnodes : Checked.field es ⟨"nodes", none⟩ (fun d => d.asList >>= Checked.each Machine.check)
      (some []) = .ok c.machines)
    (hproxy : Checked.field es ⟨"ssh_proxy", some "ssh-proxy"⟩ checkProxy (some none) =
      .ok c.proxy) :
    check (.map es) = .ok c := by
  unfold check
  dsimp only [Data.asModel]
  rw [hversion, hcluster, hnodes, hproxy]

/-- **A valid description, written out, checks as itself**, with every field or only those
off their defaults. -/
theorem check_toData {c : ClusterSpec} (hc : c.Valid) (b : Bool) : check (c.toData b) = .ok c := by
  unfold toData
  apply check_of_fields
  · exact Checked.field_optional (w := .str c.version) (b && c.version.isEmpty)
      (fun h => absurd rfl h) (by cases c.proxy <;> simp) rfl (fun h => by simp at h; exact h.2.symm)
  · exact Checked.field_optional (b && c.defaults.isEmpty) (fun h => absurd rfl h)
      (by cases c.proxy <;> simp) (ClusterDefaults.check_toData hc.defaults b)
      (fun h => (ClusterDefaults.eq_default_of_isEmpty hc.defaults (Bool.and_eq_true_iff.1 h).2).symm)
  · exact Checked.field_optional (b && c.machines.isEmpty) (fun h => absurd rfl h)
      (by cases c.proxy <;> simp) (nodes_toData hc.machines b)
      (fun h => by simp at h; exact h.2.symm)
  · -- no jump host is written as null, unless only changes are written
    cases hp : c.proxy with
    | none =>
      exact Checked.field_optional (w := .null) b (fun _ => by simp) (by simp) rfl (fun _ => rfl)
    | some p =>
      exact Checked.field_optional false (fun _ => by simp) (by simp)
        (checkProxy_toData (hc.proxy p hp) b) (fun h => absurd h Bool.false_ne_true)

theorem ofData_eq_ok_iff {d : Data} {c : ClusterSpec} : ofData d = .ok c ↔ check d = .ok c := by
  unfold ofData
  cases check d with
  | ok c' => simp
  | error es => simp

theorem exists_check_of_read {src : Source} {c : ClusterSpec} (h : read src = .ok (some c)) :
    ∃ d, check d = .ok c := by
  cases src with
  | text t =>
    cases hy : ofYaml t with
    | error e =>
      rw [read, hy] at h
      cases h
    | ok c' =>
      rw [read, hy] at h
      cases h
      -- text that does not load, or loads as null, is refused before any checking
      unfold ofYaml at hy
      split at hy
      · cases hy
      · cases hy
      · cases hy
      · exact ⟨_, ofData_eq_ok_iff.1 hy⟩
  | document d =>
    cases hd : ofData d with
    | error e =>
      rw [read, hd] at h
      cases h
    | ok c' =>
      rw [read, hd] at h
      cases h
      exact ⟨d, ofData_eq_ok_iff.1 hd⟩
  | nothing => cases h

theorem read_valid {src : Source} {c : ClusterSpec} (h : read src = .ok (some c)) : c.Valid := by
  obtain ⟨d, hd⟩ := exists_check_of_read h
  exact check_valid hd

/-- **A description the library has read, written out with every field or only with those off
their defaults, validates again as the same description.** -/
theorem ofData_toData {src : Source} {c : ClusterSpec} (h : read src = .ok (some c)) :
    ofData (c.toData false) = .ok c ∧ ofData (c.toData true) = .ok c :=
  ⟨ofData_eq_ok_iff.2 (check_toData (read_valid h) false),
    ofData_eq_ok_iff.2 (check_toData (read_valid h) true)⟩

end ClusterSpec

namespace Setting

/-- whether a setting is a count whose decimal text has more than `Data.decimalLimit` digits -/
def isLongCount : Setting → Bool
  | .count n => Data.isLongInteger n
  | _ => false

theorem holdsLongInteger_toData (v : Setting) : v.toData.holdsLongInteger = v.isLongCount := by
  cases v with
  | text s => rfl
  | count n => rfl
  | flag b => rfl
  | words ws =>
    change Data.holdsLongIntegerList (ws.map Data.str) = false
    induction ws with
    | nil => rfl
    | cons w ws ih => exact ih

theorem ne_default_of_isLongCount {v : Setting} (h : v.isLongCount = true) (k : SettingKind) :
    v ≠ default k := by
  rintro rfl
  cases k with
  | count => exact absurd h (by decide)
  | _ => cases h

end Setting

namespace Data

theorem isLongInteger_iff (i : Int) : isLongInteger i = true ↔ 10 ^ decimalLimit ≤ i.natAbs := by
  have hlen : (toString i.natAbs).length = (Nat.toDigits 10 i.natAbs).length := by
    rw [Nat.toString_eq_ofList_toDigits, String.length_ofList]
  -- at most `k` digits is below `10 ^ k`
  rw [isLongInteger, decide_eq_true_iff, hlen, gt_iff_lt, ← Nat.not_le,
    Nat.length_toDigits_le_iff (by decide) (by decide), Nat.not_lt]

theorem holdsLongIntegerEntries_eq_any (es : List (Data × Data)) :
    holdsLongIntegerEntries es = es.any fun e => e.1.holdsLongInteger || e.2.holdsLongInteger := by
  induction es with
  | nil => rfl
  | cons e es ih =>
    obtain ⟨k, v⟩ := e
    rw [holdsLongIntegerEntries, ih, List.any_cons, Bool.or_assoc]

end Data

namespace Fragment

theorem holdsLongInteger_changes (f : Fragment) :
    f.changes.holdsLongInteger = f.entries.any (·.2.isLongCount) := by
  rw [changes, Data.holdsLongInteger, Data.holdsLongIntegerEntries_eq_any, List.any_map,
    List.any_filter]
  apply Bool.eq_iff_iff.2
  simp only [List.any_eq_true, Function.comp_def, Bool.and_eq_true, bne_iff_ne, ne_eq]
  constructor
  · rintro ⟨e, he, -, hlong⟩
    refine ⟨e, he, ?_⟩
    simpa [Setting.holdsLongInteger_toData, Data.holdsLongInteger] using hlong
  · rintro ⟨e, he, hlong⟩
    refine ⟨e, he, Setting.ne_default_of_isLongCount hlong _, ?_⟩
    simp [Setting.holdsLongInteger_toData, Data.holdsLongInteger, hlong]

theorem toYaml_of_isLongCount {f : Fragment} {e : SettingSpec × Setting} (he : e ∈ f.entries)
    (h : e.2.isLongCount = true) : f.toYaml = .error .longInteger := by
  rw [toYaml, Yaml.dumpChecked, holdsLongInteger_changes, if_pos (List.any_eq_true.2 ⟨e, he, h⟩)]

/-- A server whose count `v` is `0x1` and 3575 zeros, a number of 4305 decimal digits, has no
configuration file. -/
theorem long_count_unwritable :
    (⟨.server, (empty .server).values.set 0 (.count ((16 ^ 3575 : Nat) : Int))⟩ : Fragment).toYaml =
      .error .longInteger := by
  have hlong : Data.isLongInteger ((16 ^ 3575 : Nat) : Int) = true :=
    (Data.isLongInteger_iff _).2 (by decide +kernel)
  exact toYaml_of_isLongCount (e := (⟨"v", .count⟩, .count ((16 ^ 3575 : Nat) : Int)))
    List.mem_cons_self hlong

end Fragment

deriving instance DecidableEq for Machine, ClusterDefaults, ClusterSpec

/-- A description with one server reached through a key file, behind a jump host on its own
port, reads back from both of its dumps. -/
theorem ClusterSpec.lab_ofData_toData :
    let c : ClusterSpec :=
      { machines := [{ role := .server, ssh := { host := "10.0.0.1", keyFile := "id" } }]
        proxy := some { host := "gw", port := 2222 } }
    ClusterSpec.read (.document (.map [
      (.str "nodes", .seq [.map [(.str "role", .str "server"),
        (.str "ssh", .map [(.str "host", .str "10.0.0.1"), (.str "key-file", .str "id")])]]),
      (.str "ssh-proxy", .map [(.str "host", .str "gw"), (.str "port", .int 2222)])])) =
      .ok (some c) ∧
    ClusterSpec.ofData (c.toData false) = .ok c ∧ ClusterSpec.ofData (c.toData true) = .ok c := by
  intro c
  have hread : ClusterSpec.read (.document (.map [
      (.str "nodes", .seq [.map [(.str "role", .str "server"),
        (.str "ssh", .map [(.str "host", .str "10.0.0.1"), (.str "key-file", .str "id")])]]),
      (.str "ssh-proxy", .map [(.str "host", .str "gw"), (.str "port", .int 2222)])])) =
      .ok (some c) :=
    Except.eq_ok_of_toOption (by decide +kernel)
  exact ⟨hread, ClusterSpec.ofData_toData hread⟩

end ClusterDeploy
