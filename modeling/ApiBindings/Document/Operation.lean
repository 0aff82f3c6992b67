import ApiBindings.Decimal.Digits
import ApiBindings.Document.Parameter
import ApiBindings.Document.Security
import ApiBindings.Text.Letter

/-!
# Operations of a 2.0 document

Verbs, responses, operations and path items.
-/

namespace ApiBindings.Document

open ApiBindings.Json

/-! ## Verbs -/

/-- The verbs that are keys of operations. -/
inductive Verb where
  | get
  | post
  | put
  | delete
  | patch
  | copy
  | head
  | options
  | link
  | unlink
  | purge
  | lock
  | unlock
  | propfind
  deriving DecidableEq, Repr

namespace Verb

/-- The verb in upper case. -/
def name : Verb → String
  | .get => "GET"
  | .post => "POST"
  | .put => "PUT"
  | .delete => "DELETE"
  | .patch => "PATCH"
  | .copy => "COPY"
  | .head => "HEAD"
  | .options => "OPTIONS"
  | .link => "LINK"
  | .unlink => "UNLINK"
  | .purge => "PURGE"
  | .lock => "LOCK"
  | .unlock => "UNLOCK"
  | .propfind => "PROPFIND"

/-- All verbs. -/
def all : List Verb :=
  [.get, .post, .put, .delete, .patch, .copy, .head, .options, .link, .unlink, .purge, .lock, .unlock,
    .propfind]

end Verb

/-- A text with the small letters of ASCII made capitals. -/
def asciiUpper (s : String) : String := String.ofList (s.toList.map Char.toUpper)

/-- Equality up to the case of ASCII letters. -/
def sameUpToCase (s t : String) : Bool := asciiUpper s == asciiUpper t

/-- The verb that a key names, in whatever case. -/
def Verb.ofKey? (key : String) : Option Verb :=
  Verb.all.find? (·.name == asciiUpper key)

/-! ## Responses -/

/-- A declared response. -/
structure Response where
  description : Option String
  schema : Option Entries
  others : Entries
  deriving DecidableEq

namespace Response

/-- A response is read from an object. -/
def shape : Shape Response :=
  Members.fromObject "Response" <|
    Response.mk <$> .optional "description" Shape.text
      <*> .optional "schema" Shape.object
      <*> .others ["description", "schema"]

/-- The response as entries. -/
def toEntries (r : Response) : Entries :=
  Parameter.entry? "description" .string r.description ++
    Parameter.entry? "schema" .object r.schema ++ r.others

end Response

/-- The number at the head of a status key, after blanks, as far as it fits 64 bits. -/
def statusCode? (key : String) : Option Nat :=
  (Decimal.word? ((key.toList.dropWhile Text.isBlank).takeWhile Char.isDigit)).map UInt64.toNat

/-- The keys whose response may give the type that a method returns. -/
def isSuccess (key : String) : Bool :=
  (statusCode? key).any fun n => 0 < n && n < 400

/-! ## Operations -/

/-- An operation of a 2.0 document. -/
structure Operation where
  operationId : Option String
  summary : Option String
  description : Option String
  externalDocs : Option Value
  tags : List String
  parameters : List ParameterEntry
  responses : List (String × Response)
  produces : Option (List String)
  consumes : Option (List String)
  security : Option (List Requirement)
  deprecated : Option Bool
  deriving DecidableEq

/-- An operation is read from an object or an array. -/
def Operation.shape : Shape Operation :=
  Members.fromObjectOrArray "Operation" 11 <|
    Operation.mk <$> .optional "operationId" Shape.text
      <*> .optional "summary" Shape.text
      <*> .optional "description" Shape.text
      <*> .optional "externalDocs" Shape.any
      <*> .defaulted "tags" [] (.list .text)
      <*> .defaulted "parameters" [] (.list ParameterEntry.shape)
      <*> .defaulted "responses" [] (.map Response.shape)
      <*> .optional "produces" (.list .text)
      <*> .optional "consumes" (.list .text)
      <*> .optional "security" requirementsShape
      <*> .optional "deprecated" Shape.flag

/-! ## Path items -/

/-- A path item: its shared parameter entries and its operations in document order. -/
structure PathItem where
  parameters : List ParameterEntry
  operations : List (Verb × Operation)
  deriving DecidableEq

namespace PathItem

/-- The item without parameters and operations. -/
def empty : PathItem := ⟨[], []⟩

/-- The item after one more entry. A key that is neither a verb nor `parameters` is passed over. -/
def withEntry (item : PathItem) (entry : String × Value) : Except Mismatch PathItem :=
  if sameUpToCase entry.1 "parameters" then do
    return { item with parameters := ← Shape.list ParameterEntry.shape entry.2 }
  else match Verb.ofKey? entry.1 with
    | some verb => do
      let operation ← (Operation.shape entry.2).mapError (.under entry.1)
      return { item with operations := item.operations ++ [(verb, operation)] }
    | none => .ok item

/-- A path item is read from an object, entry by entry. -/
def shape : Shape PathItem := fun v => do
  (← Shape.object v).foldlM withEntry empty

end PathItem

/-- The keys that start with `x-`, which extend a document. -/
def isExtension (key : String) : Bool := ['x', '-'].isPrefixOf key.toList

/-- The path items of a document by path. Keys that start with `x-` are passed over. -/
def pathsShape : Shape (List (String × PathItem)) := fun v => do
  let entries := (← Shape.object v).filter fun e => !isExtension e.1
  entries.mapM fun (path, item) => do
    return (path, ← (PathItem.shape item).mapError (.under path))

end ApiBindings.Document
