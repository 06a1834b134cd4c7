import TrishulSnmp.Library.PyDict
import TrishulSnmp.Types

namespace TrishulSnmp.Mib

/-- A value `json.loads` gives. Of a float the code asks only whether it is zero; the names of an
object are distinct. -/
inductive Json
  | null
  | bool (value : Bool)
  | int (value : ℤ)
  | float (isZero : Bool)
  | str (value : String)
  | list (items : List Json)
  | object (members : List (String × Json))

def Json.truthy : Json → Bool
  | .null => false
  | .bool value => value
  | .int value => value ≠ 0
  | .float isZero => !isZero
  | .str value => value ≠ ""
  | .list items => !items.isEmpty
  | .object members => !members.isEmpty

def Json.member? (members : List (String × Json)) (name : String) : Option Json :=
  (members.find? fun member => member.1 = name).map Prod.snd

structure MibMemberRef where
  module : String
  object : String
  deriving DecidableEq, Repr

structure MibNode where
  module : String
  name : String
  oid : OID
  className : String
  objectType : String
  nodetype : Option String
  syntaxName : Option String
  description : Option String
  members : Option (List MibMemberRef)
  constraints : Option (List (String × Json))

structure MibTypeRecord where
  name : String
  constraints : Option (List (String × Json))

structure MibModuleRecord where
  module : String
  imports : PyDict String (List String)
  objects : PyDict String MibNode
  notifications : PyDict String MibNode
  types : PyDict String MibTypeRecord

def MibModuleRecord.iterNodes (record : MibModuleRecord) : List MibNode :=
  record.objects.values ++ record.notifications.values

end TrishulSnmp.Mib
