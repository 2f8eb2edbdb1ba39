import OpenDnp3.Master.ContextSpec
import OpenDnp3.Outstation.EventDelivery

/-!
# A master and an outstation

One master and one outstation over two channels that keep the order of the messages and may lose any
of them. The messages of the outstation are numbered. Beside the two contexts the network keeps what
the delivery of events is about: the fragments whose objects the master has handed to the
application, and for every confirm the fragment that it answers.
-/

namespace OpenDnp3.EndToEnd

open App
open Master (MContext IMasterTask)
open Outstation (OContext APDUResponse MeasurementSpec)

variable {τ α : Type*}

/-! ## Messages -/

/-- A fragment that the outstation has transmitted, with its destination. -/
structure Fragment (α : Type*) where
  destination : ℕ
  response : APDUResponse α
  deriving DecidableEq, Repr

/-- The fragments in the log of an outstation. Their places are their numbers. -/
def fragments (log : List (Outstation.Output α)) : List (Fragment α) :=
  log.filterMap fun output =>
    match output with
    | .transmit destination response => some { destination, response }
    | _ => none

/-- The bytes of a response in the transmit buffer, with the bytes of its object headers. -/
def responsePayload (write : List (ObjectHeader α) → List UInt8) (response : APDUResponse α) :
    List UInt8 :=
  response.control.toByte :: response.function.toType :: response.iin.toUInt8 ::
    (response.iin >>> 8).toUInt8 :: write response.headers

/-- A message of the master. A confirm has the number of the fragment that it answers. The message
also has the numbers of the fragments that were delivered before it was sent. -/
structure Packet where
  header : APDUHeader
  objects : List UInt8 := []
  answers : Option ℕ := none
  delivered : List ℕ := []
  deriving DecidableEq, Repr

/-- The bytes of a message of the master. -/
def Packet.payload (packet : Packet) : List UInt8 :=
  packet.header.control.toByte :: packet.header.function.toType :: packet.objects

/-- The header of the packet as the outstation reads it. -/
def Packet.wire (packet : Packet) : APDUHeader where
  control := { packet.header.control with seq := packet.header.control.seq % 16 }
  function := packet.header.function

/-! ## The network -/

/-- The two contexts and their channels. -/
structure Network (τ α : Type*) where
  master : MContext τ
  outstation : OContext α
  /-- The numbers of the fragments on their way. -/
  toMaster : List ℕ := []
  toOutstation : List Packet := []
  /-- The fragments of all confirms that the master has put into its queue. -/
  answers : List (Option ℕ) := []
  /-- The fragments whose objects were parsed and passed to the `ISOEHandler`. -/
  delivered : List ℕ := []
  /-- The message of the request that the outstation has deferred, and none without such a
  request. -/
  deferred : Option Packet := none

/-- What happens in the network. The receptions of the contexts come from the channels only. -/
inductive Action (τ α : Type*) where
  | master (env : Master.Env) (event : Master.Event τ)
  | outstation (env : Outstation.Env α) (event : OContext.Event α)
  | deliverToMaster (env : Master.Env)
  | deliverToOutstation (env : Outstation.Env α)
  | loseToMaster
  | loseToOutstation

/-- The output passes measurements to the application. -/
def passes : Master.Output → Bool
  | .measurements _ .OK _ => true
  | _ => false

/-- The delivered fragments after an output of the master, while it handles the given fragment. -/
def deliveredBy (number : Option ℕ) (delivered : List ℕ) (output : Master.Output) : List ℕ :=
  if passes output then delivered ++ number.toList else delivered

/-- The messages among the outputs of the master, while it handles the given fragment. The confirms
are sent in the order in which they were queued, from the given one on. A message knows what was
delivered by the outputs before it. -/
def packets (answers : List (Option ℕ)) (number : Option ℕ) :
    List ℕ → ℕ → List Master.Output → List Packet
  | _, _, [] => []
  | delivered, sent, .request header objects :: out =>
    { header, objects, delivered } :: packets answers number delivered sent out
  | delivered, sent, .confirm header :: out =>
    { header, answers := (answers[sent]?).join, delivered } ::
      packets answers number delivered (sent + 1) out
  | delivered, sent, output :: out =>
    packets answers number (deliveredBy number delivered output) sent out

namespace Network

/-- A step of the master. The number is that of the fragment that it receives. -/
def masterStep [IMasterTask τ] (number : Option ℕ) (e : Master.Env × Master.Event τ)
    (net : Network τ α) : Network τ α :=
  let out := net.master.outputs e
  let answers := net.answers ++ (MContext.queued out).map fun _ => number
  { net with
    master := net.master.step e
    answers
    delivered := out.foldl (deliveredBy number) net.delivered
    toOutstation := net.toOutstation ++
      packets answers number net.delivered (MContext.sent net.master.log).length out }

/-- A step of the outstation. The packet is the one that it receives. A request that is deferred
after the step is that of this packet, or was deferred before. -/
def outstationStep [MeasurementSpec α] (packet : Option Packet)
    (e : Outstation.Env α × OContext.Event α) (net : Network τ α) : Network τ α :=
  let outstation := net.outstation.step e
  let sent := (fragments net.outstation.log).length
  { net with
    outstation
    toMaster := net.toMaster ++ List.range' sent ((fragments outstation.log).length - sent)
    deferred := outstation.deferred.bind fun request =>
      if packet.any fun received => received.wire = request.header then packet
      else net.deferred }

/-- The message with the fragment of the given number. -/
def messageToMaster (write : List (ObjectHeader α) → List UInt8) (net : Network τ α)
    (number : ℕ) : Option Message :=
  (fragments net.outstation.log)[number]?.map fun fragment =>
    { addresses := ⟨net.outstation.addresses.source, fragment.destination⟩
      payload := responsePayload write fragment.response }

/-- A message to the outstation. -/
def messageToOutstation (net : Network τ α) (packet : Packet) : Message :=
  { addresses := net.master.addresses, payload := packet.payload }

/-- One action, with the bytes that the serializers write for object headers. -/
def step [IMasterTask τ] [MeasurementSpec α] (write : List (ObjectHeader α) → List UInt8)
    (net : Network τ α) (action : Action τ α) : Network τ α :=
  match action with
  | .master _ (.receive _) | .outstation _ (.receive _) => net
  | .master env event => net.masterStep none (env, event)
  | .outstation env event => net.outstationStep none (env, event)
  | .deliverToMaster env =>
    match net.toMaster with
    | [] => net
    | number :: toMaster =>
      match net.messageToMaster write number with
      | none => { net with toMaster }
      | some message => { net with toMaster }.masterStep (some number) (env, .receive message)
  | .deliverToOutstation env =>
    match net.toOutstation with
    | [] => net
    | packet :: toOutstation =>
      { net with toOutstation }.outstationStep (some packet)
        (env, .receive (net.messageToOutstation packet))
  | .loseToMaster => { net with toMaster := net.toMaster.tail }
  | .loseToOutstation => { net with toOutstation := net.toOutstation.tail }

end Network

end OpenDnp3.EndToEnd
