import ScriptDoc.Document.Record
import ScriptDoc.Schema.Checked

/-!
# The interchange form of documents

Each record is written as an object; fields without a value and empty lists are left out.  On
reading, some fields are also known under the names of an older form, and fields that a record
does not have are passed over.

For each record type there is a `wire` function and a check of the same fields in the same order.
-/

namespace ScriptDoc

/-- A field that may be without a value. -/
def wireText (name : String) : Option String → List (String × Value)
  | some s => [(name, .text s)]
  | none => []

/-- A field that holds a list. -/
def wireList (name : String) (items : List Value) : List (String × Value) :=
  if items.isEmpty then [] else [(name, .list items)]

namespace Parameter

/-- The object of a parameter. -/
def wire (p : Parameter) : Value :=
  .object ([("name", .text p.name), ("type", .text p.typeName)]
    ++ wireText "description" p.description ++ [("required", .bool p.required)])

/-- Checks the object of a parameter. -/
def check : Check Parameter := Check.record "Parameter" fun e =>
  Parameter.mk
    <$> ScriptDoc.required ["name", "arg_name"] Check.text e
    <*> ScriptDoc.required ["type", "arg_type"] Check.text e
    <*> optional ["description", "arg_description"] none Check.text? e
    <*> optional ["required", "arg_required"] true Check.flag e

end Parameter

namespace FunctionRecord

/-- The object of a function. -/
def wire (f : FunctionRecord) : Value :=
  .object ([("name", .text f.name)]
    ++ wireText "short_description" f.shortDescription
    ++ wireList "extended_description" (f.extendedDescription.map .text)
    ++ wireText "example" f.usage
    ++ wireText "return_type" f.returnType
    ++ wireText "return_description" f.returnDescription
    ++ wireList "parameters" (f.parameters.map Parameter.wire)
    ++ wireText "source_origin" f.origin
    ++ wireList "groups" (f.groups.map .text))

/-- Checks the object of a function. -/
def check : Check FunctionRecord := Check.record "FunctionDoc" fun e =>
  FunctionRecord.mk
    <$> required ["name"] Check.text e
    <*> optional ["short_description", "description_short"] none Check.text? e
    <*> optional ["extended_description", "description_extended"] [] (Check.list Check.text) e
    <*> optional ["example"] none Check.text? e
    <*> optional ["return_type"] none Check.text? e
    <*> optional ["return_description"] none Check.text? e
    <*> optional ["parameters"] [] (Check.list Parameter.check) e
    <*> optional ["source_origin", "source_file"] none Check.text? e
    <*> optional ["groups"] [] (Check.list Check.text) e

end FunctionRecord

namespace Category

/-- The object of a category. -/
def wire (c : Category) : Value :=
  .object ([("category_name", .text c.name)]
    ++ wireList "category_functions" (c.functions.map FunctionRecord.wire))

/-- Checks the object of a category. -/
def check : Check Category := Check.record "Category" fun e =>
  Category.mk
    <$> required ["name", "category_name"] Check.text e
    <*> optional ["functions", "category_functions"] [] (Check.list FunctionRecord.check) e

end Category

namespace EnumMember

/-- The object of an enum member. -/
def wire (m : EnumMember) : Value :=
  .object ([("name", .text m.name)] ++ wireText "value" m.value)

/-- Checks the object of an enum member. -/
def check : Check EnumMember := Check.record "EnumValue" fun e =>
  EnumMember.mk
    <$> required ["name"] Check.text e
    <*> optional ["value"] none Check.text? e

end EnumMember

namespace EnumRecord

/-- The object of an enum. -/
def wire (r : EnumRecord) : Value :=
  .object ([("name", .text r.name)] ++ wireList "values" (r.members.map EnumMember.wire))

/-- Checks the object of an enum. -/
def check : Check EnumRecord := Check.record "EnumDef" fun e =>
  EnumRecord.mk
    <$> required ["name"] Check.text e
    <*> optional ["values"] [] (Check.list EnumMember.check) e

end EnumRecord

namespace GlobalRecord

/-- The object of a global. -/
def wire (g : GlobalRecord) : Value :=
  .object ([("name", .text g.name)]
    ++ wireText "value" g.value
    ++ wireText "description" g.description
    ++ wireText "global_type" g.typeName)

/-- Checks the object of a global. -/
def check : Check GlobalRecord := Check.record "GlobalDef" fun e =>
  GlobalRecord.mk
    <$> required ["name"] Check.text e
    <*> optional ["value"] none Check.text? e
    <*> optional ["description"] none Check.text? e
    <*> optional ["type", "global_type"] none Check.text? e

end GlobalRecord

namespace Document

/-- The name that reports give to the shape of a document. -/
def modelName : String := "CanonicalDocument"

/-- The object of a document. -/
def wire (d : Document) : Value :=
  .object (wireList "categories" (d.categories.map Category.wire)
    ++ wireList "enums" (d.enums.map EnumRecord.wire)
    ++ wireList "globals" (d.globals.map GlobalRecord.wire))

/-- Checks the object of a document. -/
def check : Check Document := Check.record modelName fun e =>
  Document.mk
    <$> optional ["categories"] [] (Check.list Category.check) e
    <*> optional ["enums"] [] (Check.list EnumRecord.check) e
    <*> optional ["globals"] [] (Check.list GlobalRecord.check) e

end Document

end ScriptDoc
