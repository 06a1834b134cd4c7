import TrishulSnmp.Library.Utf8
import TrishulSnmp.Security.Usm

namespace TrishulSnmp

open Outcome

def AuthProtocol.ofText : String → Except Error AuthProtocol
  | "none" => .ok .none
  | "md5" => .ok .md5
  | "sha1" => .ok .sha1
  | "sha256" => .ok .sha256
  | text =>
    let shown := String.ofList (PyText.repr text.toList)
    .error (.valueError s!"{shown} is not a valid AuthProtocol")

def PrivProtocol.ofText : String → Except Error PrivProtocol
  | "none" => .ok .none
  | "des" => .ok .des
  | "aes128" => .ok .aes128
  | text =>
    let shown := String.ofList (PyText.repr text.toList)
    .error (.valueError s!"{shown} is not a valid PrivProtocol")

namespace Cli

structure Namespace where
  snmpVersion : Option String := none
  community : Option String := none
  communities : Option (List String) := none
  username : Option String := none
  authProtocol : Option String := none
  authKey : Option String := none
  authKeyEnv : Option String := none
  privProtocol : Option String := none
  privKey : Option String := none
  privKeyEnv : Option String := none
  contextName : Option String := none
  localEngineId : Option String := none
  localEngineBoots : Option ℤ := none
  localEngineTime : Option ℤ := none

abbrev Environ := String → Option String

structure V3CliSecurity where
  user : UsmUser
  contextName : Bytes
  localEngine : Option UsmLocalEngine := none
  deriving DecidableEq, Repr

inductive CliSecurity
  | v2c (community : String)
  | v3 (security : V3CliSecurity)
  deriving DecidableEq, Repr

inductive ListenerCliSecurity
  | v2c (communities : Option (List String))
  | v3 (security : V3CliSecurity)
  deriving DecidableEq, Repr

def invalid {α : Type} (message : String) : Except Error α := .error (.valueError message)

def given (text : Option String) : Bool := text.getD "" ≠ ""

def hexDigit? (c : Char) : Option ℕ :=
  if '0' ≤ c ∧ c ≤ '9' then some (c.toNat - 48)
  else if 'a' ≤ c ∧ c ≤ 'f' then some (c.toNat - 87)
  else if 'A' ≤ c ∧ c ≤ 'F' then some (c.toNat - 55)
  else none

/-- `bytes.fromhex`: ASCII white space may stand between two octets. -/
def fromHex : List Char → Option Bytes
  | [] => some []
  | c :: rest =>
    if c = ' ' ∨ 0x09 ≤ c.toNat ∧ c.toNat ≤ 0x0D then fromHex rest
    else match rest with
      | [] => none
      | d :: rest => do
        let high ← hexDigit? c
        let low ← hexDigit? d
        let octets ← fromHex rest
        return UInt8.ofNat (16 * high + low) :: octets

def parseHexBytes (value : String) : Except Error Bytes :=
  let stripped := PyText.strip value.toList
  let unprefixed := if "0x".toList.isPrefixOf stripped then stripped.drop 2 else stripped
  let normalized := unprefixed.filter fun c => ¬ c ∈ [' ', '\n', '\t', ':', '-']
  if normalized.length % 2 ≠ 0 then invalid s!"Hex payload must contain an even number of digits: {value}"
  else match fromHex normalized with
    | some octets => .ok octets
    | none => invalid s!"Invalid hex payload: {value}"

def dashed (name : String) : String := String.ofList (name.toList.map fun c => if c = '_' then '-' else c)

def resolveSecret (env : Environ) (inlineValue envVar : Option String) (inlineName envName label : String) :
    Except Error (Option Bytes) :=
  match inlineValue, envVar with
  | some _, some _ => invalid s!"Use only one of --{dashed inlineName} or --{dashed envName}"
  | some text, none => .ok (some (Utf8.encode text))
  | none, none => .ok none
  | none, some name =>
    match env name with
    | none => invalid s!"Environment variable {name} is not set for SNMPv3 {label} credentials"
    | some text => .ok (some (Utf8.encode text))

def checkAuthKey (authProtocol : AuthProtocol) (authKey : Option Bytes) : Except Error Unit :=
  if authProtocol = .none then
    if authKey ≠ none then
      invalid "--auth-key and --auth-key-env require --auth-protocol to be md5, sha1, or sha256"
    else .ok ()
  else if authKey = none then invalid "SNMPv3 auth requires exactly one of --auth-key or --auth-key-env"
  else .ok ()

def checkPrivKey (authProtocol : AuthProtocol) (privProtocol : PrivProtocol) (privKey : Option Bytes) :
    Except Error Unit :=
  if privProtocol = .none then
    if privKey ≠ none then invalid "--priv-key and --priv-key-env require --priv-protocol to be aes128"
    else .ok ()
  else if authProtocol = .none then invalid "--priv-protocol requires --auth-protocol to be enabled"
  else if privKey = none then invalid "SNMPv3 privacy requires exactly one of --priv-key or --priv-key-env"
  else .ok ()

section Parsers

variable (args : Namespace) (env : Environ)

def parseV3User : Except Error UsmUser :=
  match args.username with
  | none => invalid "--username is required with --snmp-version 3"
  | some username =>
    if username = "" then invalid "--username is required with --snmp-version 3"
    else do
      let authProtocol ← AuthProtocol.ofText (args.authProtocol.getD "none")
      let privProtocol ← PrivProtocol.ofText (args.privProtocol.getD "none")
      let authKey ← resolveSecret env args.authKey args.authKeyEnv "auth_key" "auth_key_env" "auth"
      let privKey ← resolveSecret env args.privKey args.privKeyEnv "priv_key" "priv_key_env" "priv"
      checkAuthKey authProtocol authKey
      checkPrivKey authProtocol privProtocol privKey
      -- `key or b""`: a key that was given and is empty goes through as well
      return {
        username := username
        authProtocol := authProtocol
        authKey := authKey.getD []
        privProtocol := privProtocol
        privKey := privKey.getD [] }

def localEngineSupplied : Bool :=
  args.localEngineId.isSome || args.localEngineBoots.isSome || args.localEngineTime.isSome

def parseLocalEngine (required allowed : Bool) (usage : String) : Except Error (Option UsmLocalEngine) :=
  if localEngineSupplied args ∧ ¬ allowed then
    invalid s!"--local-engine-* options are only valid for SNMPv3 {usage}"
  else if ¬ localEngineSupplied args then
    if required then
      invalid s!"SNMPv3 {usage} requires --local-engine-id, --local-engine-boots, and --local-engine-time"
    else .ok none
  else match args.localEngineId, args.localEngineBoots, args.localEngineTime with
    | none, _, _ => invalid s!"SNMPv3 {usage} requires --local-engine-id"
    | some _, none, _ => invalid s!"SNMPv3 {usage} requires --local-engine-boots"
    | some _, some _, none => invalid s!"SNMPv3 {usage} requires --local-engine-time"
    | some engineId, some engineBoots, some engineTime =>
      if engineBoots < 0 then invalid "--local-engine-boots cannot be negative"
      else if engineTime < 0 then invalid "--local-engine-time cannot be negative"
      else do
        let engineId ← parseHexBytes engineId
        if engineId = [] then invalid "--local-engine-id cannot be empty"
        else return some { engineId := engineId, engineBoots := engineBoots, engineTime := engineTime }

def refuseV3Options : Except Error Unit :=
  if given args.username then invalid "--username is invalid with --snmp-version 2c"
  else if args.authProtocol.getD "none" ≠ "none" then invalid "--auth-protocol is invalid with --snmp-version 2c"
  else if given args.authKey ∨ given args.authKeyEnv then
    invalid "--auth-key and --auth-key-env are invalid with --snmp-version 2c"
  else if args.privProtocol.getD "none" ≠ "none" then invalid "--priv-protocol is invalid with --snmp-version 2c"
  else if given args.privKey ∨ given args.privKeyEnv then
    invalid "--priv-key and --priv-key-env are invalid with --snmp-version 2c"
  else .ok ()

def parseV2cCliSecurity : Except Error CliSecurity := do
  refuseV3Options args
  if given args.contextName then invalid "--context-name is invalid with --snmp-version 2c"
  else if localEngineSupplied args then invalid "--local-engine-* options are invalid with --snmp-version 2c"
  else
    let community := args.community.getD ""
    return .v2c (if community ≠ "" then community else "public")

def parseV3CliSecurity (requireLocalEngine allowLocalEngine : Bool) : Except Error V3CliSecurity :=
  if args.community ≠ none then invalid "--community is invalid with --snmp-version 3"
  else do
    let localEngine ← parseLocalEngine args requireLocalEngine allowLocalEngine "trap"
    let user ← parseV3User args env
    return { user := user, contextName := Utf8.encode (args.contextName.getD ""), localEngine := localEngine }

def parseCliSecurity (requireLocalEngine allowLocalEngine : Bool) : Except Error CliSecurity :=
  if args.snmpVersion.getD "2c" = "3" then do
    return .v3 (← parseV3CliSecurity args env requireLocalEngine allowLocalEngine)
  else parseV2cCliSecurity args

def parseListenerCliSecurity : Except Error ListenerCliSecurity :=
  if args.snmpVersion.getD "2c" = "3" then
    if args.communities.getD [] ≠ [] then invalid "--community is invalid with --snmp-version 3"
    else do
      let user ← parseV3User args env
      let localEngine ← parseLocalEngine args true true "listener"
      return .v3 { user := user, contextName := [], localEngine := localEngine }
  else do
    refuseV3Options args
    if localEngineSupplied args then invalid "--local-engine-* options are invalid with --snmp-version 2c"
    else
      let normalized := (args.communities.getD []).filter fun value => value ≠ ""
      return .v2c (if normalized = [] then none else some normalized)

def parseDecodeNotificationUser : Except Error (Option UsmUser) :=
  if args.snmpVersion.getD "2c" = "3" then do return some (← parseV3User args env)
  else do
    refuseV3Options args
    return none

end Parsers

end Cli

end TrishulSnmp
