import Plonkish.Json.Token

/-!
# JSON documents

A document is read from the tokens of a JSON text.  Arrays and objects are nested
up to a given depth.  Of several faults the first one in the text counts.
-/

namespace Plonkish

/-- What a JSON text writes. -/
inductive JsonDocument where
  | atom (value : Value)
  | text (content : Text)
  | array (items : List JsonDocument)
  /-- An object, with its entries in order. -/
  | object (entries : List (Text × JsonDocument))

namespace JsonDocument

instance : Inhabited JsonDocument := ⟨atom .none⟩

/-- The depth that is left inside one more array or object. -/
def enter : Nat → Except BadInput Nat
  | 0 => .error .nestingTooDeep
  | depth + 1 => .ok depth

mutual

/-- A value at the start of the tokens, in which arrays and objects are nested up
to the given depth, and what follows it. -/
def readValue : Nat → Nat → List JsonToken → Except BadInput (JsonDocument × List JsonToken)
  | _ + 1, _, .atom value :: rest => .ok (.atom value, rest)
  | _ + 1, _, .text content :: rest => .ok (.text content, rest)
  | _ + 1, _, .fault cause :: _ => .error cause
  | steps + 1, depth, .mark '[' :: rest => do
    let (items, rest) ← readArray steps (← enter depth) rest
    return (.array items, rest)
  | steps + 1, depth, .mark '{' :: rest => do
    let (entries, rest) ← readObject steps (← enter depth) rest
    return (.object entries, rest)
  | _, _, _ => .error .invalidJson

def readArray : Nat → Nat → List JsonToken → Except BadInput (List JsonDocument × List JsonToken)
  | _ + 1, _, .mark ']' :: rest => .ok ([], rest)
  | steps + 1, depth, tokens => readItems [] steps depth tokens
  | 0, _, _ => .error .invalidJson

/-- The items of an array up to its closing bracket, at least one, after those that
were read before in reverse order. -/
def readItems (before : List JsonDocument) :
    Nat → Nat → List JsonToken → Except BadInput (List JsonDocument × List JsonToken)
  | 0, _, _ => .error .invalidJson
  | steps + 1, depth, tokens => do
    let (item, rest) ← readValue steps depth tokens
    match rest with
    | .mark ',' :: rest => readItems (item :: before) steps depth rest
    | .mark ']' :: rest => return ((item :: before).reverse, rest)
    | _ => throw .invalidJson

def readObject :
    Nat → Nat → List JsonToken → Except BadInput (List (Text × JsonDocument) × List JsonToken)
  | _ + 1, _, .mark '}' :: rest => .ok ([], rest)
  | steps + 1, depth, tokens => readEntries [] steps depth tokens
  | 0, _, _ => .error .invalidJson

def readEntries (before : List (Text × JsonDocument)) :
    Nat → Nat → List JsonToken → Except BadInput (List (Text × JsonDocument) × List JsonToken)
  | steps + 1, depth, .text key :: .mark ':' :: tokens => do
    let (value, rest) ← readValue steps depth tokens
    match rest with
    | .mark ',' :: rest => readEntries ((key, value) :: before) steps depth rest
    | .mark '}' :: rest => return (((key, value) :: before).reverse, rest)
    | _ => throw .invalidJson
  | _, _, _ => .error .invalidJson

end

/-- The document written by a text, with arrays and objects nested up to the given
depth.  Of any four successive steps one takes a token, so four steps for every
token are enough. -/
def ofText (depth : Nat) (content : String) : Except BadInput JsonDocument := do
  let tokens := JsonToken.readAll content.toList
  let (document, rest) ← readValue (4 * tokens.length + 4) depth tokens
  unless rest.isEmpty do
    throw .invalidJson
  return document

mutual

/-- The document as an argument.  An object counts as the list of its values. -/
def toValue : JsonDocument → Value
  | atom value => value
  | text content => .text content
  | array items => .list (itemValues items)
  | object entries => .list (entryValues entries)

def itemValues : List JsonDocument → List Value
  | [] => []
  | item :: items => item.toValue :: itemValues items

def entryValues : List (Text × JsonDocument) → List Value
  | [] => []
  | (_, value) :: entries => value.toValue :: entryValues entries

end

end JsonDocument

end Plonkish
