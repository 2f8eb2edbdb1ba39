import OpenDnp3.App.Parser
import OpenDnp3.Outstation.Database

/-!
# The measurements of a response

`master/MeasurementHandler.cpp`: the handler that the master gives to the parser for the objects of
a response, with the calls that it makes to the `ISOEHandler` of the user.
-/

namespace OpenDnp3.Master

open App
open Outstation (IINField)

/-- `TimestampMode`. -/
inductive TimestampMode where
  | INVALID
  | SYNCHRONIZED
  | UNSYNCHRONIZED
  deriving DecidableEq, Repr

/-- `HeaderInfo`. -/
structure HeaderInfo where
  gv : GroupVariation
  qualifier : QualifierCode
  tsmode : TimestampMode
  headerIndex : ℕ
  deriving DecidableEq, Repr

/-- A call to the `ISOEHandler`. -/
inductive SOECall where
  | start
  /-- The time is added to that of each value. -/
  | process (info : HeaderInfo) (values : List (Indexed Value)) (commonTime : Option ℕ)
  | processTime (info : HeaderInfo) (values : List Value)
  | finish
  deriving DecidableEq, Repr

/-- `HasAbsoluteTime`. -/
def hasAbsoluteTime : GroupVariation → Bool
  | .Group2Var2 | .Group4Var2 | .Group11Var2 | .Group13Var2 | .Group21Var5 | .Group21Var6
  | .Group22Var5 | .Group22Var6 | .Group23Var5 | .Group23Var6
  | .Group32Var3 | .Group32Var4 | .Group32Var7 | .Group32Var8
  | .Group42Var3 | .Group42Var4 | .Group42Var7 | .Group42Var8
  | .Group43Var3 | .Group43Var4 | .Group43Var7 | .Group43Var8
  | .Group50Var1 | .Group50Var3 | .Group50Var4 | .Group51Var1 | .Group51Var2
  | .Group122Var2 => true
  | _ => false

/-- `MeasurementHandler`. -/
structure MeasurementHandler where
  txInitiated : Bool := false
  ctoMode : TimestampMode := .INVALID
  commonTimeOccurence : ℕ := 0
  errors : IINField := 0
  /-- The calls to the `ISOEHandler`. -/
  soe : List SOECall := []
  deriving DecidableEq, Repr

namespace MeasurementHandler

/-- `MeasurementHandler::ModeFromType`. -/
def modeFromType (gv : GroupVariation) : TimestampMode :=
  if hasAbsoluteTime gv then .SYNCHRONIZED else .INVALID

/-- `MeasurementHandler::CheckForTxStart`. -/
def checkForTxStart (h : MeasurementHandler) : MeasurementHandler :=
  if h.txInitiated then h else { h with txInitiated := true, soe := h.soe ++ [.start] }

/-- The `HeaderInfo` of a header. -/
def info (record : HeaderRecord) (tsmode : TimestampMode) : HeaderInfo where
  gv := record.enumeration
  qualifier := record.getQualifierCode
  tsmode := tsmode
  headerIndex := record.headerIndex

/-- `MeasurementHandler::LoadValues`. -/
def loadValues (record : HeaderRecord) (tsmode : TimestampMode) (values : List (Indexed Value))
    (commonTime : Option ℕ) (h : MeasurementHandler) : MeasurementHandler :=
  let h := h.checkForTxStart
  { h with soe := h.soe ++ [.process (info record tsmode) values commonTime] }

/-- `MeasurementHandler::ProcessWithCTO`. -/
def processWithCTO (record : HeaderRecord) (values : List (Indexed Value))
    (h : MeasurementHandler) : MeasurementHandler :=
  if h.ctoMode = .INVALID then { h with errors := h.errors ||| IINField.paramError }
  else h.loadValues record h.ctoMode values (some h.commonTimeOccurence)

/-- `ProcessHeader` of a common time of occurrence, which has to be the only one of its header. -/
def processCTO (mode : TimestampMode) (values : List Value) (h : MeasurementHandler) :
    MeasurementHandler :=
  match values with
  | [.object bytes] => { h with ctoMode := mode, commonTimeOccurence := readUInt48 bytes }
  | _ => h

/-- `IAPDUHandler::ProcessUnsupportedHeader`. -/
def unsupported (h : MeasurementHandler) : MeasurementHandler :=
  { h with errors := h.errors ||| IINField.funcNotSupported }

/-- The objects with an index prefix that the handler does not override: commands and the prefixed
time and interval. -/
def isIgnoredPrefix : GroupVariation → Bool
  | .Group12Var1 | .Group41Var1 | .Group41Var2 | .Group41Var3 | .Group41Var4 | .Group50Var4 => true
  | _ => false

/-- `MeasurementHandler::ProcessHeader`. -/
def onHeader (h : MeasurementHandler) : HeaderCall → MeasurementHandler
  | .countValues record _ values =>
    match record.enumeration with
    | .Group50Var1 =>
      let h := h.checkForTxStart
      { h with soe := h.soe ++ [.processTime (info record .INVALID) values] }
    | .Group51Var1 => h.processCTO .SYNCHRONIZED values
    | .Group51Var2 => h.processCTO .UNSYNCHRONIZED values
    | _ => h.unsupported
  | .rangeValues record _ values =>
    if record.enumeration = .Group80Var1 then h.unsupported
    else h.loadValues record (modeFromType record.enumeration) values none
  | .prefixValues record _ values =>
    if record.enumeration = .Group2Var3 ∨ record.enumeration = .Group4Var3 then
      h.processWithCTO record values
    else if isIgnoredPrefix record.enumeration then h.unsupported
    else h.loadValues record (modeFromType record.enumeration) values none
  | _ => h.unsupported

/-- The handler for the parser. Every header is on its white-list. -/
def handler : IAPDUHandler MeasurementHandler where
  isAllowed h _ _ _ := (true, h)
  onHeader := onHeader

/-- The destructor, which ends the transaction. -/
def destroy (h : MeasurementHandler) : List SOECall :=
  if h.txInitiated then h.soe ++ [.finish] else h.soe

/-- `MeasurementHandler::ProcessMeasurements`: the result of the parser, with the calls to the
`ISOEHandler`. -/
def processMeasurements (objects : List UInt8) : ParseResult × List SOECall :=
  let (result, handled) := APDUParser.parse handler {} objects {}
  (result, handled.state.destroy)

end MeasurementHandler

end OpenDnp3.Master
