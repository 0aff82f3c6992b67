import ApiBindings.Document.Basic

/-!
# Security of operations

Which kinds of security scheme an operation uses: the requirements of the operation are merged into
those of the document, and the schemes that bear the names of the result are looked up.
-/

namespace ApiBindings

open Document Json

/-- Which kinds of scheme are in use. -/
structure SecurityFlags where
  token : Bool
  apiKey : Bool
  basic : Bool
  deriving DecidableEq, Repr

namespace SecurityFlags

/-- No kind in use. -/
def none : SecurityFlags := ⟨false, false, false⟩

/-- The flags with one kind added. -/
def add (f : SecurityFlags) : SchemeKind → SecurityFlags
  | .oauth2 => { f with token := true }
  | .apiKey => { f with apiKey := true }
  | .basic => { f with basic := true }
  | .other => f

/-- The flags of some kinds. -/
def ofKinds (kinds : List SchemeKind) : SecurityFlags := kinds.foldl add none

/-- The flags set on either side; a flag is never cleared. -/
def union (f g : SecurityFlags) : SecurityFlags :=
  ⟨f.token || g.token, f.apiKey || g.apiKey, f.basic || g.basic⟩

end SecurityFlags

/-! ## Merging requirements -/

/-- Scopes set place by place; the list grows as far as the second one reaches. -/
def mergeScopes : List String → List String → List String
  | old, [] => old
  | [], new => new
  | _ :: old, s :: new => s :: mergeScopes old new

/-- A requirement with the scopes of one scheme merged in, in place or at the end. -/
def mergeScheme (target : Requirement) (name : String) (scopes : List String) : Requirement :=
  match target with
  | [] => [(name, mergeScopes [] scopes)]
  | (n, old) :: rest =>
    if n = name then (n, mergeScopes old scopes) :: rest else (n, old) :: mergeScheme rest name scopes

/-- A requirement with all schemes of another merged in. -/
def mergeRequirement (target source : Requirement) : Requirement :=
  source.foldl (fun t e => mergeScheme t e.1 e.2) target

/-- The requirements of a document with those of an operation merged in, place by place. -/
def mergeRequirements : List Requirement → List Requirement → List Requirement
  | document, [] => document
  | [], operation => operation
  | d :: document, o :: operation => mergeRequirement d o :: mergeRequirements document operation

/-! ## Flags of operations -/

/-- The flags of the schemes with certain names. -/
def flagsOfNames (names : List String) (schemes : Schemes) : SecurityFlags :=
  .ofKinds ((schemes.filter fun s => names.contains s.1).map (·.2.kind))

/-- The kinds of scheme that an operation of a 2.0 document requires. -/
def Document.Specification.flagsOf (s : Specification) (op : Operation) : SecurityFlags :=
  match s.securityDefinitions with
  | some schemes =>
    let merged := mergeRequirements (s.security.getD []) (op.security.getD [])
    flagsOfNames (merged.flatMap fun r => r.map (·.1)) schemes
  | .none => .none

/-- Whether an operation of a 2.0 document is secured at all. -/
def Document.Specification.isSecured (s : Specification) (op : Operation) : Bool :=
  s.security.isSome || op.security.isSome

/-- The kinds of scheme that an operation of a 1.x document names. -/
def Document.Declaration.flagsOf (d : Declaration) (op : ApiOperation) : SecurityFlags :=
  match d.authorizations, op.authorizations with
  | some schemes, some selected => flagsOfNames (selected.map (·.1)) schemes
  | _, _ => .none

end ApiBindings
