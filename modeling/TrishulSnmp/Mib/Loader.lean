import TrishulSnmp.Mib.Registry

namespace TrishulSnmp.Mib

open Outcome

def validationError (message path : String) : Error := .bundleValidationError s!"{message}: {path}"

def indexedSymbol (members : List (String × Json)) : Option Json :=
  ((Json.member? members "object").filter Json.truthy).or (Json.member? members "symbol")

def indexItem (path : String) : String × Json → Except Error (OID × OidIndexEntry)
  | (rawOid, .object members) =>
    match Json.member? members "module", indexedSymbol members with
    | some (.str module), some (.str symbol) => do
      return (← parseOid (.text rawOid), { module := module, symbol := symbol })
    | _, _ => .error (validationError "OID index entries must contain string 'module' and 'object' fields" path)
  | _ => .error (validationError "OID index entries must be JSON objects" path)

def loadOidIndexEntry (path : String) (normalized : PyDict OID OidIndexEntry) (item : String × Json) :
    Except Error (PyDict OID OidIndexEntry) := do
  let (oid, entry) ← indexItem path item
  return normalized.set oid entry

/-- `_load_oid_index` on the `payload` that the file at `path` holds. -/
def loadOidIndex (path : String) : Json → Except Error (PyDict OID OidIndexEntry)
  | .object members =>
    match (Json.member? members "oids").getD (.object members) with
    | .object rawIndex => rawIndex.foldlM (loadOidIndexEntry path) .empty
    | _ => .error (validationError "OID index entries must be a JSON object" path)
  | _ => .error (validationError "OID index must be a JSON object" path)

mutual

def Json.hugeInt? : Json → Option ℤ
  | .int value => if PyText.Printable value then none else some value
  | .list items => hugeItem? items
  | .object members => hugeMember? members
  | _ => none

def hugeItem? : List Json → Option ℤ
  | [] => none
  | item :: items => item.hugeInt?.or (hugeItem? items)

def hugeMember? : List (String × Json) → Option ℤ
  | [] => none
  | (_, value) :: members => value.hugeInt?.or (hugeMember? members)

end

/-- `_read_json` of a file that holds this JSON value. -/
def readJson (file : Json) : Except Error Json :=
  match file.hugeInt? with
  | none => .ok file
  | some n =>
    let digits := (PyText.natText n.natAbs).length
    .error (.valueError ("Exceeds the limit (4300 digits) for integer string conversion: " ++
      s!"value has {digits} digits; use sys.set_int_max_str_digits() to increase the limit"))

def loadOidIndexFile (path : String) (file : Json) : Except Error (PyDict OID OidIndexEntry) := do
  loadOidIndex path (← readJson file)

end TrishulSnmp.Mib
