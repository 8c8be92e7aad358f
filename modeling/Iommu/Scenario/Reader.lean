/-
  Reading a scenario from its JSON text.

  The records of a scenario are closed: a field that is not known is an error.  Only the stream
  configuration, which is a record of the controller, passes over what it does not know.
-/
import Iommu.Codec.Records
import Iommu.Json.Reader
import Iommu.Scenario.AddressLiteral
import Iommu.Scenario.Basic

namespace Iommu.Scenario

open Codec

/-- Permissions as a text of letters. -/
def decodePermissions : Decoder Permissions := fun j => do
  let s ← text j
  match Permissions.parse s with
  | .ok p => return p
  | .error s => throw (.permissions s)

/-- A mapping as two addresses with its permissions; the page is non-secure unless it says so. -/
def decodeMapping : Decoder Mapping := fun j => do
  let f ← fields ["iova", "pa", "permissions", "security"] true j
  return {
    input := ← f.required "iova" AddressLiteral.decode
    physical := ← f.required "pa" AddressLiteral.decode
    permissions := ← f.required "permissions" decodePermissions
    security := ← f.optional "security" .nonSecure Security.decode }

/-- A PASID with the mappings of its table. -/
def decodePasid : Decoder PasidSpec := fun j => do
  let f ← fields ["pasid", "mappings"] true j
  return {
    pasid := ← f.required "pasid" word32
    mappings := ← f.optional "mappings" [] (list decodeMapping) }

/-- A stream with its configuration, its PASIDs and the name of a stage-2 table. -/
def decodeStream : Decoder StreamSpec := fun j => do
  let f ← fields ["streamId", "config", "stage2Table", "pasids"] true j
  return {
    stream := ← f.required "streamId" word32
    config := ← f.optional "config" default StreamConfig.decode
    table := ← f.optional "stage2Table" none (nullable text)
    pasids := ← f.optional "pasids" [] (list decodePasid) }

/-! ## Steps -/

/-- What a translation is expected to come to. -/
def decodeExpectation : Decoder Expectation := fun j => do
  let f ← fields ["pa", "error", "cacheHit"] true j
  return {
    physical := ← f.optional "pa" none (nullable AddressLiteral.decode)
    error := ← f.optional "error" none (nullable text)
    cacheHit := ← f.optional "cacheHit" none (nullable bool) }

/-- A step that translates. -/
def decodeTranslate : Decoder Step := fun j => do
  let f ← fields ["streamId", "pasid", "iova", "access", "security", "expect"] true j
  let t : Transaction := {
    stream := ← f.required "streamId" word32
    pasid := ← f.required "pasid" word32
    address := ← f.required "iova" AddressLiteral.decode
    access := ← f.optional "access" .read Access.decode
    security := ← f.optional "security" .nonSecure Security.decode }
  return .translate t (← f.optional "expect" none (nullable decodeExpectation))

/-- A step that maps a page. -/
def decodeMap : Decoder Step := fun j => do
  let f ← fields ["streamId", "pasid", "iova", "pa", "permissions", "security"] true j
  let m : Mapping := {
    input := ← f.required "iova" AddressLiteral.decode
    physical := ← f.required "pa" AddressLiteral.decode
    permissions := ← f.required "permissions" decodePermissions
    security := ← f.optional "security" .nonSecure Security.decode }
  return .map (← f.required "streamId" word32) (← f.required "pasid" word32) m

/-- A step that unmaps a page. -/
def decodeUnmap : Decoder Step := fun j => do
  let f ← fields ["streamId", "pasid", "iova"] true j
  return .unmap (← f.required "streamId" word32) (← f.required "pasid" word32)
    (← f.required "iova" AddressLiteral.decode)

/-- The stream of a step that names one and nothing else. -/
def decodeStreamRef : Decoder StreamId := fun j => do
  let f ← fields ["streamId"] true j
  f.required "streamId" word32

/-- A step that submits a command; only its kind has to be there. -/
def decodeCommand : Decoder Step := fun j => do
  let f ← fields ["type", "streamId", "pasid", "startAddress", "endAddress"] true j
  return .command {
    kind := ← f.required "type" CommandKind.decode
    stream := ← f.optional "streamId" 0 word32
    pasid := ← f.optional "pasid" 0 word32
    start := ← f.optional "startAddress" 0 AddressLiteral.decode
    stop := ← f.optional "endAddress" 0 AddressLiteral.decode
    timestamp := 0 }

/-- The step that a name stands for by itself. -/
def plainStep (name : String) : Except DecodeError Step :=
  match name with
  | "processCommands" => .ok .processCommands
  | "processPri" => .ok .processPageRequests
  | "drainEvents" => .ok .drainEvents
  | name => .error (.unknownName name)

/-- A step with its arguments; a step that takes none has null for them. -/
def stepWith (name : String) (j : Json) : Except DecodeError Step :=
  match name, j with
  | "translate", j => decodeTranslate j
  | "map", j => decodeMap j
  | "unmap", j => decodeUnmap j
  | "enableStream", j => (decodeStreamRef j).map .enable
  | "disableStream", j => (decodeStreamRef j).map .disable
  | "command", j => decodeCommand j
  | name, .null => plainStep name
  | name, _ => .error (.unknownName name)

/-- A step is a name, or an object with the name and the arguments. -/
def decodeStep : Decoder Step
  | .str (some name) => plainStep name
  | .obj [(some name, j)] => stepWith name j
  | _ => .error (.expected "a step")

/-! ## Scenarios -/

/-- Adds a named table; a name that comes again replaces the table before it. -/
def addTable (tables : Std.ExtTreeMap String (List Mapping)) (m : Option String × Json) :
    Except DecodeError (Std.ExtTreeMap String (List Mapping)) :=
  match m with
  | (none, _) => .error (.expected "a text")
  | (some name, j) => (list decodeMapping j).map (tables.insert name)

/-- The shared tables by their names. -/
def decodeTables : Decoder (Std.ExtTreeMap String (List Mapping))
  | .obj members => members.foldlM addTable ∅
  | _ => .error (.expected "an object")

/-- A whole scenario, every part of which may be left out. -/
def decode : Decoder Scenario := fun j => do
  let f ← fields ["name", "stage2Tables", "streams", "steps"] true j
  return {
    name := ← f.optional "name" none (nullable text)
    tables := ← f.optional "stage2Tables" ∅ decodeTables
    streams := ← f.optional "streams" [] (list decodeStream)
    steps := ← f.optional "steps" [] (list decodeStep) }

/-- Why a text is not a scenario. -/
inductive LoadError
  /-- The text is no JSON document. -/
  | malformed
  | decode (why : DecodeError)
deriving DecidableEq

/-- The message of a script that could not be loaded. -/
def LoadError.message : LoadError → String
  | malformed => "not a JSON document"
  | decode why => why.message

/-- Reads a scenario. -/
def parse (s : String) : Except LoadError Scenario :=
  match Json.parse? s with
  | none => .error .malformed
  | some j =>
    match decode j with
    | .error e => .error (.decode e)
    | .ok x => .ok x

end Iommu.Scenario
