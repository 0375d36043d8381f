import RequestGroups.Sample.Basic

/-! # The sample requests

A request per feature: keys from markers and from names, plain fields, both policies for headers,
configured names, raw identifiers, fields that are left out, and data that have no JSON value. -/

namespace RequestGroups.Sample

open Source

/-! ### Fields -/

/-- The type of text. -/
def text : ValueType := .scalar .string

/-- The type of whole numbers without a sign. -/
def unsigned (bits : Nat) : ValueType := .scalar (.int (.unsigned bits))

/-- The type of whole numbers with a sign. -/
def signed (bits : Nat) : ValueType := .scalar (.int (.signed bits))

/-- A field of a group, whose marker has an argument. -/
def member (role : Role) (argument : MarkerArgument) (name : String) (type : ValueType) :
    Member :=
  ⟨.plain name, type, some ⟨.plain role.name, argument⟩, false, false⟩

/-- A header whose key is its name. -/
def header : String → ValueType → Member := member .header .none

/-- A header with a key. -/
def headerAs (key : String) : String → ValueType → Member := member .header (.string key)

/-- A body field whose key is its name. -/
def bodyField : String → ValueType → Member := member .body .none

/-- A body field with a key. -/
def bodyFieldAs (key : String) : String → ValueType → Member := member .body (.string key)

/-- A field of no group. -/
def plainField (name : String) (type : ValueType) : Member :=
  ⟨.plain name, type, none, false, false⟩

/-- The field with a raw name. -/
def Member.rawName (f : Member) : Member :=
  { f with name := { f.name with raw := true } }

/-! ### Requests -/

/-- The settings under which numbers and truth values become headers. -/
def stringifying : Config := { headerValues := .stringify }

/-- The header that says who asks. -/
def authorization (name : String) : Member := headerAs "Authorization" name text

/-- All samples. -/
def catalogue : List Sample := [
  { name := "SendMessage", derives := ["Debug", "Clone", "PartialEq"], config := {},
    fields := [authorization "token", bodyField "message" text] },
  { name := "StartRequest", derives := ["Debug"], config := {},
    fields := [authorization "authorization", headerAs "X-Request-Id" "request_id" text,
      bodyField "name" text, bodyFieldAs "max_retries" "retries" (unsigned 32),
      bodyField "tags" (.list .string)] },
  { name := "Ping", derives := ["Debug"], config := {}, fields := [] },
  { name := "Interleaved", derives := [], config := {},
    fields := [bodyField "first" (unsigned 8), header "second" text,
      bodyField "third" (.scalar .bool), headerAs "X-Fourth" "fourth" text] },
  { name := "WithPlainFields", derives := ["Debug", "Clone", "PartialEq", "Default"], config := {},
    fields := [bodyField "message" text, plainField "attempts" (unsigned 8),
      plainField "label" (.optional .string)] },
  { name := "MarkerArguments", derives := [], config := {},
    fields := [header "token" text, member .header .other "key" text,
      bodyFieldAs "" "blank" (unsigned 8), bodyFieldAs "payload" "data" text] },
  { name := "Auth", derives := ["Debug"],
    config := {
      headersType := some (.plain "AuthHeaders"), bodyType := some (.plain "AuthPayload") },
    fields := [authorization "token", bodyField "user" text] },
  { name := "Upload", derives := [], config := stringifying,
    fields := [headerAs "X-Retries" "retries" (unsigned 8),
      headerAs "X-Dry-Run" "dry_run" (.scalar .bool),
      headerAs "X-Trace" "trace" (.optional .string), header "offset" (signed 64),
      bodyField "size" (unsigned 64)] },
  { name := "StrictUpload", derives := [], config := {},
    fields := [headerAs "X-Retries" "retries" (.optional .byte), header "extra" .json,
      bodyField "size" (unsigned 64)] },
  { name := "Loose", derives := [], config := stringifying,
    fields := [headerAs "b" "first" .json, headerAs "a" "second" .json,
      { bodyField "note" (.optional .string) with leftOut := true },
      bodyFieldAs "any" "third" .json] },
  { name := "RawBody", derives := [], config := {},
    fields := [header "token" text, bodyField "chunks" .chunks] },
  { name := "Typed", derives := [], config := {},
    fields := [(headerAs "X-Kind" "ref" text).rawName, (bodyField "type" text).rawName] },
  { name := "Decodable", derives := ["Debug", "Clone", "PartialEq", "Deserialize"], config := {},
    fields := [authorization "token", bodyField "message" text,
      bodyFieldAs "n" "count" (unsigned 8),
      { plainField "tries" (signed 32) with mayBeMissing := true }] }]

/-- The sample with a name, with its expansion. -/
def find? (name : String) : Option Expanded :=
  (catalogue.find? (·.name == name)).bind Sample.expanded?

end RequestGroups.Sample
