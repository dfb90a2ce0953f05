import Rulebook.Json.Basic

/-!
# Response envelopes

Backends wrap a listing in several shapes. `normalizeList` reduces the listing of rules to a plain
list; `normalizeIntegrations` does the same for the listing of integration providers, which comes
in more shapes: the wrapper keys may be nested, and the providers may be the fields of an object.
A value of no known shape is an empty listing.
-/

namespace Rulebook

/-- The keys under which a response may hold its list, the first one first. -/
def listKeys : List String := ["data", "items", "results"]

/-- The keys under which a response may hold the list of providers. -/
def providerListKeys : List String :=
  ["items", "data", "results", "providers", "integrations", "list"]

/-- The keys of an object that describe the response and name no provider. -/
def responseKeys : List String :=
  ["success", "message", "error", "errors", "status", "code", "meta", "pagination", "page",
    "limit", "total"] ++ providerListKeys

/-- The keys under which a further envelope may be found. -/
def envelopeKeys : List String := ["data", "result", "payload"]

/-- The list under the first of the keys that holds one. -/
def firstList? (keys : List String) (fields : Json.Fields) : Option (List Json) :=
  keys.findSome? fun key =>
    match fields.get key with
    | .arr items => some items
    | _ => none

/-- The items of a response: its own, or those of the list it holds; otherwise none. -/
def normalizeList : Json → List Json
  | .arr items => items
  | .obj fields => (firstList? listKeys fields).getD []
  | _ => []

/-- The first value under one of the envelope keys that is not `null`. -/
def innerEnvelope? (fields : Json.Fields) : Option Json :=
  (envelopeKeys.find? fun key => fields.get key != .null).bind fields.get?

/-- A provider from a field of an object: its name becomes the key, unless the provider has one. -/
def providerOfField (name : String) : Json → Json
  | .obj fields => .obj (Json.Fields.ofBindings (("key", .str name) :: fields))
  | value => .obj [("key", .str name), ("value", value)]

/-- One provider for each field of an object that is not about the response itself. -/
def providersOfFields (fields : Json.Fields) : List Json :=
  fields.filterMap fun (name, value) =>
    if name ∈ responseKeys ∨ value = .null then none else some (providerOfField name value)

theorem sizeOf_lt_of_lookup {fields : List (String × Json)} {name : String} {value : Json}
    (found : fields.lookup name = some value) : sizeOf value < sizeOf fields := by
  induction fields with
  | nil => simp at found
  | cons first rest ih =>
      obtain ⟨other, head⟩ := first
      rw [List.lookup_cons] at found
      split at found
      · cases found
        simp
        omega
      · have := ih found
        simp
        omega

/-- What the next envelope holds is smaller than the object. -/
theorem sizeOf_innerEnvelope_lt {fields : Json.Fields} {inner : Json}
    (found : innerEnvelope? fields = some inner) : sizeOf inner < sizeOf (Json.obj fields) := by
  obtain ⟨key, _, lookup⟩ := Option.bind_eq_some_iff.1 found
  have := sizeOf_lt_of_lookup lookup
  simp
  omega

/-- The listing of providers in a response: a list, a list under one of the provider keys, such a
list one level down under `data`, what the next envelope holds, or else the fields of the
object. -/
def normalizeIntegrations (payload : Json) : List Json :=
  match payload with
  | .arr items => items
  | .obj fields =>
      match firstList? providerListKeys fields with
      | some items => items
      | none =>
          match firstList? providerListKeys (Json.Fields.get fields "data").fields with
          | some items => items
          | none =>
              match _found : innerEnvelope? fields with
              | none => providersOfFields fields
              | some inner =>
                  match normalizeIntegrations inner with
                  | [] => providersOfFields fields
                  | first :: rest => first :: rest
  | _ => []
termination_by sizeOf payload
decreasing_by exact sizeOf_innerEnvelope_lt _found

end Rulebook
