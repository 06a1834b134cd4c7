import TrishulSnmp.Cli.Common

namespace TrishulSnmp.Cli

open Outcome

def givenSecret (env : Environ) (inlineValue envVar : Option String) : Option String := inlineValue <|> envVar.bind env

section Secrets

variable {env : Environ} {inlineValue envVar : Option String} {inlineName envName label : String}

theorem encode_eq_nil {text : String} : Utf8.encode text = [] ↔ text = "" := by
  constructor
  · intro h
    have hempty : Utf8.encode "" = [] := rfl
    have hdecode := Utf8.decode_encode text
    rw [h, ← hempty, Utf8.decode_encode] at hdecode
    exact (Option.some.inj hdecode).symm
  · rintro rfl
    rfl

theorem resolveSecret_ok {secret : Option Bytes}
    (h : resolveSecret env inlineValue envVar inlineName envName label = .ok secret) :
    secret = (givenSecret env inlineValue envVar).map Utf8.encode := by
  unfold resolveSecret at h
  split at h
  · cases h
  · cases h
    rfl
  · cases h
    rfl
  · split at h
    · cases h
    · rename_i text htext
      cases h
      simp [givenSecret, htext]

end Secrets

theorem checkAuthKey_ok_iff {authProtocol : AuthProtocol} {authKey : Option Bytes} :
    checkAuthKey authProtocol authKey = .ok () ↔ (authKey.isSome ↔ authProtocol ≠ .none) := by
  unfold checkAuthKey invalid
  cases authKey with
  | none => split_ifs <;> simp_all
  | some key => split_ifs <;> simp_all

theorem checkPrivKey_ok_iff {authProtocol : AuthProtocol} {privProtocol : PrivProtocol} {privKey : Option Bytes} :
    checkPrivKey authProtocol privProtocol privKey = .ok () ↔
      (privKey.isSome ↔ privProtocol ≠ .none) ∧ (privProtocol ≠ .none → authProtocol ≠ .none) := by
  unfold checkPrivKey invalid
  cases privKey with
  | none => split_ifs <;> simp_all
  | some key => split_ifs <;> simp_all

section Users

variable {args : Namespace} {env : Environ} {user : UsmUser}

def Namespace.authSecret (args : Namespace) (env : Environ) : Option String :=
  givenSecret env args.authKey args.authKeyEnv

def Namespace.privSecret (args : Namespace) (env : Environ) : Option String :=
  givenSecret env args.privKey args.privKeyEnv

structure Built (args : Namespace) (env : Environ) (user : UsmUser) : Prop where
  username : user.username ≠ ""
  unlocalized : user.authKeyLocalized = false
  auth : (args.authSecret env).isSome ↔ user.authProtocol ≠ .none
  priv : (args.privSecret env).isSome ↔ user.privProtocol ≠ .none
  level : user.privProtocol ≠ .none → user.authProtocol ≠ .none
  authKey : user.authKey = ((args.authSecret env).map Utf8.encode).getD []
  privKey : user.privKey = ((args.privSecret env).map Utf8.encode).getD []

theorem parseV3User_built (h : parseV3User args env = .ok user) : Built args env user := by
  unfold parseV3User at h
  split at h
  · cases h
  · rename_i username husername
    rw [invalid, ite_ok_iff] at h
    obtain ⟨hne, h⟩ := h
    obtain ⟨authProtocol, -, h⟩ := bind_ok_iff.mp h
    obtain ⟨privProtocol, -, h⟩ := bind_ok_iff.mp h
    obtain ⟨authKey, hauthKey, h⟩ := bind_ok_iff.mp h
    obtain ⟨privKey, hprivKey, h⟩ := bind_ok_iff.mp h
    obtain ⟨⟨⟩, hauth, h⟩ := bind_ok_iff.mp h
    obtain ⟨⟨⟩, hpriv, h⟩ := bind_ok_iff.mp h
    obtain rfl := pure_ok_iff.mp h
    have hauth := checkAuthKey_ok_iff.mp hauth
    have hpriv := checkPrivKey_ok_iff.mp hpriv
    rw [resolveSecret_ok hauthKey, Option.isSome_map] at hauth
    rw [resolveSecret_ok hprivKey, Option.isSome_map] at hpriv
    rw [resolveSecret_ok hauthKey, resolveSecret_ok hprivKey]
    exact ⟨hne, rfl, hauth, hpriv.1, hpriv.2, rfl, rfl⟩

end Users

inductive Entry
  | cli (requireLocalEngine allowLocalEngine : Bool)
  | listener
  | decode

def Entry.user? (args : Namespace) (env : Environ) : Entry → Except Error (Option UsmUser)
  | cli requireLocalEngine allowLocalEngine => do
    match ← parseCliSecurity args env requireLocalEngine allowLocalEngine with
    | .v2c _ => return none
    | .v3 security => return some security.user
  | listener => do
    match ← parseListenerCliSecurity args env with
    | .v2c _ => return none
    | .v3 security => return some security.user
  | decode => parseDecodeNotificationUser args env

theorem Entry.user?_built {entry : Entry} {args : Namespace} {env : Environ} {user? : Option UsmUser}
    (hversion : args.snmpVersion = some "3") (h : entry.user? args env = .ok user?) :
    ∃ user, user? = some user ∧ Built args env user := by
  have hthree : args.snmpVersion.getD "2c" = "3" := by rw [hversion]; rfl
  cases entry with
  | cli requireLocalEngine allowLocalEngine =>
    obtain ⟨security, hsecurity, h⟩ := bind_ok_iff.mp h
    rw [parseCliSecurity, if_pos hthree] at hsecurity
    obtain ⟨v3, hv3, hsecurity⟩ := bind_ok_iff.mp hsecurity
    obtain rfl := pure_ok_iff.mp hsecurity
    obtain rfl := pure_ok_iff.mp h
    rw [parseV3CliSecurity, invalid, ite_ok_iff] at hv3
    obtain ⟨-, hv3⟩ := hv3
    obtain ⟨localEngine, -, hv3⟩ := bind_ok_iff.mp hv3
    obtain ⟨user, huser, hv3⟩ := bind_ok_iff.mp hv3
    obtain rfl := pure_ok_iff.mp hv3
    exact ⟨user, rfl, parseV3User_built huser⟩
  | listener =>
    obtain ⟨security, hsecurity, h⟩ := bind_ok_iff.mp h
    rw [parseListenerCliSecurity, if_pos hthree, invalid, ite_ok_iff] at hsecurity
    obtain ⟨-, hsecurity⟩ := hsecurity
    obtain ⟨user, huser, hsecurity⟩ := bind_ok_iff.mp hsecurity
    obtain ⟨localEngine, -, hsecurity⟩ := bind_ok_iff.mp hsecurity
    obtain rfl := pure_ok_iff.mp hsecurity
    obtain rfl := pure_ok_iff.mp h
    exact ⟨user, rfl, parseV3User_built huser⟩
  | decode =>
    rw [Entry.user?, parseDecodeNotificationUser, if_pos hthree] at h
    obtain ⟨user, huser, h⟩ := bind_ok_iff.mp h
    obtain rfl := pure_ok_iff.mp h
    exact ⟨user, rfl, parseV3User_built huser⟩

structure Keyed (crypto : Crypto) (user : UsmUser) : Prop where
  username : user.username ≠ ""
  auth : user.authProtocol ≠ .none → user.authKey ≠ []
  localized : user.authProtocol ≠ .none → ∀ (model : UsmModel) (engineId : Bytes), model.user = user →
    model.hmacKey crypto engineId = .ok (localizedKey crypto user.authProtocol user.authKey engineId) ∧
      localizedKey crypto user.authProtocol user.authKey engineId ≠ []
  priv : user.privProtocol ≠ .none → user.authProtocol ≠ .none ∧ user.privKey ≠ []
  authOnly : user.authKey ≠ [] → user.authProtocol ≠ .none
  privOnly : user.privKey ≠ [] → user.privProtocol ≠ .none

def NoEmptySecret (args : Namespace) (env : Environ) : Prop :=
  args.authSecret env ≠ some "" ∧ args.privSecret env ≠ some ""

section Keys

variable {args : Namespace} {env : Environ} {user : UsmUser} {crypto : Crypto}

theorem secret_key {secret : Option String} {key : Bytes} {enabled : Prop} (hsecret : secret.isSome ↔ enabled)
    (hkey : key = (secret.map Utf8.encode).getD []) :
    ((enabled → key ≠ []) ↔ secret ≠ some "") ∧ (key ≠ [] → enabled) := by
  rw [← hsecret, hkey]
  cases secret with
  | none => simp
  | some text => simp [encode_eq_nil]

theorem hmacKey_localized {model : UsmModel} {engineId : Bytes} (hprotocol : model.user.authProtocol ≠ .none)
    (hkey : model.user.authKey ≠ []) (hlocalized : model.user.authKeyLocalized = false) :
    model.hmacKey crypto engineId = .ok (localizedKey crypto model.user.authProtocol model.user.authKey engineId) := by
  rw [UsmModel.hmacKey, if_neg hkey, hlocalized, if_neg Bool.false_ne_true, UsmModel.localizeKey, if_neg hprotocol]

theorem Built.keyed_iff (h : Built args env user)
    (hdigest : ∀ authProtocol data, authProtocol ≠ .none → crypto.digest authProtocol data ≠ []) :
    Keyed crypto user ↔ NoEmptySecret args env := by
  obtain ⟨hauthKey, hauthOnly⟩ := secret_key h.auth h.authKey
  obtain ⟨hprivKey, hprivOnly⟩ := secret_key h.priv h.privKey
  constructor
  · intro hkeyed
    exact ⟨hauthKey.mp hkeyed.auth, hprivKey.mp fun hpriv => (hkeyed.priv hpriv).2⟩
  · intro ⟨hauth, hpriv⟩
    have hkey := hauthKey.mpr hauth
    refine ⟨h.username, hkey, ?_, fun hprotocol => ⟨h.level hprotocol, hprivKey.mpr hpriv hprotocol⟩, hauthOnly,
      hprivOnly⟩
    rintro hprotocol model engineId rfl
    exact ⟨hmacKey_localized hprotocol (hkey hprotocol) h.unlocalized, hdigest _ _ hprotocol⟩

theorem cli_user_keyed_iff {entry : Entry} {user? : Option UsmUser}
    (hdigest : ∀ authProtocol data, authProtocol ≠ .none → crypto.digest authProtocol data ≠ [])
    (hversion : args.snmpVersion = some "3") (h : entry.user? args env = .ok user?) :
    ∃ user, user? = some user ∧ (Keyed crypto user ↔ NoEmptySecret args env) := by
  obtain ⟨user, huser, hbuilt⟩ := Entry.user?_built hversion h
  exact ⟨user, huser, hbuilt.keyed_iff hdigest⟩

end Keys

def plainCrypto : Crypto where
  digest := fun _ data => data.take 15 ++ [0]
  hmac := fun _ key msg => (key ++ msg).take 12
  aesCfbEncrypt := fun _ _ plain => plain
  aesCfbDecrypt := fun _ _ ciphertext => ciphertext

theorem cli_user_keyed_sample :
    Keyed plainCrypto { username := "alice", authProtocol := .sha1, authKey := Utf8.encode "secret" } := by
  obtain ⟨user, huser, hkeyed⟩ := @cli_user_keyed_iff
    { snmpVersion := some "3", username := some "alice", authProtocol := some "sha1", authKeyEnv := some "TSNMP_AUTH" }
    (fun name => if name = "TSNMP_AUTH" then some "secret" else none) plainCrypto .decode
    (some { username := "alice", authProtocol := .sha1, authKey := Utf8.encode "secret" })
    (fun _ _ _ => by simp [plainCrypto]) rfl rfl
  cases huser
  exact hkeyed.mpr ⟨by decide, by decide⟩

def emptyKeyArgs : Namespace :=
  { snmpVersion := some "3", username := some "alice", authProtocol := some "md5", authKey := some "" }

theorem empty_key_accepted : parseDecodeNotificationUser emptyKeyArgs (fun _ => none) =
      .ok (some { username := "alice", authProtocol := .md5 }) ∧
    ({ user := { username := "alice", authProtocol := .md5 } : UsmModel }).hmacKey plainCrypto [1] = .ok [] ∧
    ¬ Keyed plainCrypto { username := "alice", authProtocol := .md5 } := by
  refine ⟨rfl, rfl, fun h => ?_⟩
  exact h.auth (by decide) rfl

end TrishulSnmp.Cli
