import TrishulSnmp.Library.PrintableText
import TrishulSnmp.Mib.Loader
import TrishulSnmp.Mib.Render

namespace TrishulSnmp.Mib

open Outcome

namespace Json

def isNull : Json → Bool
  | .null => true
  | _ => false

def str? : Json → Option String
  | .str value => some value
  | _ => none

def strings? : Json → Option (List String)
  | .list items => items.mapM str?
  | _ => none

def arc? (item : Json) : Option ℤ := item.int?.filter (0 ≤ ·)

def field? (members : List (String × Json)) (name : String) : Option Json :=
  (member? members name).filter fun value => !value.isNull

def text? (members : List (String × Json)) (name : String) : Option String := (member? members name).bind str?

end Json

def quoted (name : String) : String := String.ofList (PyText.repr name.toList)

structure NormalizedNode extends MibNode where
  maxAccess : Option String
  status : Option String
  index : Option (List String)
  augments : Option String

structure NormalizedType extends MibTypeRecord where
  module : String
  className : String
  baseType : Option String
  displayHint : Option String
  status : Option String

structure NormalizedModule where
  module : String
  language : Option String
  generatedBy : String
  generatedAt : Option String
  schemaVersion : Option String
  producerVersion : Option String
  imports : PyDict String (List String)
  objects : PyDict String NormalizedNode
  notifications : PyDict String NormalizedNode
  types : PyDict String NormalizedType
  moduleMetadata : PyDict String Json

section Normalize

variable (path : String)

def invalid {α : Type} (message : String) : Except Error α := .error (validationError message path)

def normalizeMap {V : Type} (message : String) (normalize : String × Json → Except Error V) :
    Json → Except Error (PyDict String V)
  | .object members => do
    return .ofEntries (← members.mapM fun member => do return (member.1, ← normalize member))
  | _ => invalid path message

def normalizeImports : Json → Except Error (PyDict String (List String)) :=
  normalizeMap path "Module imports must be an object" fun (module, names) =>
    match names.strings? with
    | some symbols => .ok symbols
    | none => invalid path s!"Imported symbols for {quoted module} must be a list of strings"

def normalizeNodeOid (name : String) (oidPath oidValue : Option Json) : Except Error OID :=
  match oidPath with
  | some (.list items) =>
    match items.mapM Json.arc? with
    | none => invalid path s!"Node {quoted name} has an invalid oid_path"
    | some oid =>
      match oidValue with
      | some (.str text) => do
        if (← parseOid (.text text)) ≠ oid then
          invalid path s!"Node {quoted name} has inconsistent oid and oid_path values"
        else return oid
      | _ => .ok oid
  | some _ => invalid path s!"Node {quoted name} has an invalid oid_path"
  | none =>
    match oidValue with
    | some (.str text) => parseOid (.text text)
    | _ => invalid path s!"Node {quoted name} is missing both oid_path and oid"

def requireString (members : List (String × Json)) (field name : String) : Except Error String :=
  match (Json.text? members field).filter (· ≠ "") with
  | some value => .ok value
  | none => invalid path s!"Node {quoted name} is missing required string field {quoted field}"

def optionalString (members : List (String × Json)) (field name : String) : Except Error (Option String) :=
  match Json.field? members field with
  | none => .ok none
  | some (.str value) => .ok (some value)
  | some _ => invalid path s!"Node {quoted name} field {quoted field} must be a string"

def normalizeMemberRef (name : String) : Json → Except Error MibMemberRef
  | .object members =>
    match (Json.text? members "module").filter (· ≠ ""), (Json.text? members "object").filter (· ≠ "") with
    | some module, some object => .ok { module := module, object := object }
    | _, _ => invalid path s!"Node {quoted name} members must contain string 'module' and 'object' fields"
  | _ => invalid path s!"Node {quoted name} members must be objects containing 'module' and 'object'"

def normalizeMemberRefs (name : String) : Option Json → Except Error (Option (List MibMemberRef))
  | none => .ok none
  | some (.list items) => do return some (← items.mapM (normalizeMemberRef path name))
  | some _ => invalid path s!"Node {quoted name} field 'members' must be a list"

def normalizeIndex (name : String) : Option Json → Except Error (Option (List String))
  | none => .ok none
  | some index =>
    match index.strings? with
    | some columns => .ok (some columns)
    | none => invalid path s!"Node {quoted name} has invalid index metadata"

def normalizeConstraints (kind name : String) : Option Json → Except Error (Option (List (String × Json)))
  | none => .ok none
  | some (.object members) => .ok (some members)
  | some _ => invalid path s!"{kind} {quoted name} constraints must be an object"

def normalizeNodeWith (moduleName : String) (defaultNodetype : Option String) (name : String)
    (members : List (String × Json)) (oid : OID) : Except Error NormalizedNode := do
  let objectType ← requireString path members "object_type" name
  let className ← requireString path members "class" name
  let index ← normalizeIndex path name (Json.field? members "index")
  let constraints ← normalizeConstraints path "Node" name (Json.field? members "constraints")
  let syntaxName ← optionalString path members "syntax" name
  let maxAccess ← optionalString path members "max_access" name
  let status ← optionalString path members "status" name
  let augments ← optionalString path members "augments" name
  let description ← optionalString path members "description" name
  let memberRefs ← normalizeMemberRefs path name (Json.field? members "members")
  return {
    module := moduleName
    name := name
    oid := oid
    className := className
    objectType := objectType
    nodetype := (Json.text? members "nodetype").or defaultNodetype
    syntaxName := syntaxName
    description := description
    members := memberRefs
    constraints := constraints
    maxAccess := maxAccess
    status := status
    index := index
    augments := augments }

def normalizeNode (moduleName : String) (defaultNodetype : Option String) :
    String × Json → Except Error NormalizedNode
  | (name, .object members) => do
    let oid ← normalizeNodeOid path name (Json.field? members "oid_path") (Json.field? members "oid")
    normalizeNodeWith path moduleName defaultNodetype name members oid
  | (name, _) => invalid path s!"Node {quoted name} must be an object"

def normalizeNodeMap (moduleName : String) (defaultNodetype : Option String) :
    Json → Except Error (PyDict String NormalizedNode) :=
  normalizeMap path "Node collections must be objects" (normalizeNode path moduleName defaultNodetype)

def normalizeType (moduleName : String) : String × Json → Except Error NormalizedType
  | (name, .object members) => do
    let constraints ← normalizeConstraints path "Type" name (Json.field? members "constraints")
    let className ← requireString path members "class" name
    let baseType ← optionalString path members "base_type" name
    let displayHint ← optionalString path members "display_hint" name
    let status ← optionalString path members "status" name
    return {
      name := name
      constraints := constraints
      module := moduleName
      className := className
      baseType := baseType
      displayHint := displayHint
      status := status }
  | (name, _) => invalid path s!"Type {quoted name} must be an object"

def normalizeTypeMap (moduleName : String) : Json → Except Error (PyDict String NormalizedType) :=
  normalizeMap path "Type collections must be objects" (normalizeType path moduleName)

def normalizeModuleMetadata : Option Json → Except Error (PyDict String Json)
  | none => .ok .empty
  | some (.object members) => .ok (.ofEntries members)
  | some _ => invalid path "Module metadata must be an object"

def supportedProducer : String := "trishul-smi"

def validateModuleRecord (module : NormalizedModule) : Except Error Unit :=
  if module.generatedBy ≠ supportedProducer then
    invalid path s!"Unsupported JSON producer {quoted module.generatedBy}"
  else .ok ()

def headerText (members : List (String × Json)) (name : String) : Except Error String :=
  match (Json.text? members name).filter (· ≠ "") with
  | some value => .ok value
  | none => invalid path s!"Module JSON is missing a valid '{name}' field"

def collection (members : List (String × Json)) (name : String) : Json :=
  (Json.member? members name).getD (.object [])

def normalizeModulePayload : Json → Except Error NormalizedModule
  | .object members => do
    let moduleName ← headerText path members "module"
    let generatedBy ← headerText path members "generated_by"
    let imports ← normalizeImports path (collection members "imports")
    let objects ← normalizeNodeMap path moduleName none (collection members "objects")
    let notifications ← normalizeNodeMap path moduleName (some "notification") (collection members "notifications")
    let types ← normalizeTypeMap path moduleName (collection members "types")
    let moduleMetadata ← normalizeModuleMetadata path (Json.field? members "module_metadata")
    let module := {
      module := moduleName
      language := Json.text? members "language"
      generatedBy := generatedBy
      generatedAt := Json.text? members "generated_at"
      schemaVersion := Json.text? members "schema_version"
      producerVersion := Json.text? members "producer_version"
      imports := imports
      objects := objects
      notifications := notifications
      types := types
      moduleMetadata := moduleMetadata }
    validateModuleRecord path module
    return module
  | _ => invalid path "Module JSON must be an object"

end Normalize

def NormalizedModule.toRecord (module : NormalizedModule) : MibModuleRecord :=
  { module := module.module
    imports := module.imports
    objects := module.objects.mapValues NormalizedNode.toMibNode
    notifications := module.notifications.mapValues NormalizedNode.toMibNode
    types := module.types.mapValues NormalizedType.toMibTypeRecord }

def loadModules (files : List (String × Json)) : Except Error (List MibModuleRecord) :=
  files.mapM fun (path, file) => do
    let module ← normalizeModulePayload path (← readJson file)
    return module.toRecord

end TrishulSnmp.Mib
