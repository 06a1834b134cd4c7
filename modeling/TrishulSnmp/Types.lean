import Mathlib.Data.List.Lex
import Mathlib.Data.Int.Order.Basic
import TrishulSnmp.Errors

namespace TrishulSnmp

abbrev Bytes := List UInt8

/-- Arcs are Python integers: a caller can build an OID with negative ones. -/
abbrev OID := List ℤ

inductive SocketAddress
  | inet (host : String) (port : ℤ)
  | inet6 (host : String) (port flow scope : ℤ)
  deriving DecidableEq, Repr

inductive ErrorStatus
  | noError | tooBig | noSuchName | badValue | readOnly | genErr | noAccess | wrongType | wrongLength
  | wrongEncoding | wrongValue | noCreation | inconsistentValue | resourceUnavailable | commitFailed
  | undoFailed | authorizationError | notWritable | inconsistentName
  deriving DecidableEq, Repr

def ErrorStatus.all : List ErrorStatus :=
  [noError, tooBig, noSuchName, badValue, readOnly, genErr, noAccess, wrongType, wrongLength,
    wrongEncoding, wrongValue, noCreation, inconsistentValue, resourceUnavailable, commitFailed,
    undoFailed, authorizationError, notWritable, inconsistentName]

def ErrorStatus.toInt (status : ErrorStatus) : ℤ := ErrorStatus.all.idxOf status

def ErrorStatus.ofInt? (status : ℤ) : Option ErrorStatus :=
  if status < 0 then none else ErrorStatus.all[status.toNat]?

inductive SnmpValue
  | integerValue (value : ℤ)
  | octetStringValue (value : Bytes)
  | nullValue
  | objectIdentifierValue (value : OID)
  | ipAddressValue (value : String)
  | counter32Value (value : ℤ)
  | gauge32Value (value : ℤ)
  | timeTicksValue (value : ℤ)
  | opaqueValue (value : Bytes)
  | counter64Value (value : ℤ)
  | noSuchObjectValue
  | noSuchInstanceValue
  | endOfMibViewValue
  deriving DecidableEq, Repr

structure OidMatch where
  oid : OID
  module : String
  symbol : String
  matchedOid : OID
  suffix : OID := []
  className : Option String := none
  objectType : Option String := none
  nodetype : Option String := none
  deriving DecidableEq, Repr

structure VarBind where
  oid : OID
  value : SnmpValue
  oidMatch : Option OidMatch := none
  displayName : Option String := none
  displayValue : Option String := none
  deriving DecidableEq, Repr

structure Response where
  requestId : ℤ
  errorStatus : ErrorStatus
  errorIndex : ℤ
  varbinds : List VarBind
  deriving DecidableEq, Repr

end TrishulSnmp
