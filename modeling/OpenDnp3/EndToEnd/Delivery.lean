import Mathlib.Data.List.Forall2
import OpenDnp3.EndToEnd.Network
import OpenDnp3.Master.Confirms
import OpenDnp3.Outstation.Transmission

/-!
# Delivery of events

A confirm that the outstation takes is one that the master sent for the fragment in question, after
it had delivered it. So a record that a confirm removes from the event buffer has reached the
application of the master.
-/

namespace OpenDnp3.EndToEnd

open App
open Master (MContext IMasterTask)
open Master.MeasurementHandler (processMeasurements)
open Master.MContext (confirmHeader queued sent)
open Outstation (OContext APDUResponse MeasurementSpec lastSent)

variable {τ α : Type*}

/-! ## Fragments and their numbers -/

/-- The fragments of two parts of a log. -/
theorem fragments_append (log log' : List (Outstation.Output α)) :
    fragments (log ++ log') = fragments log ++ fragments log' :=
  List.filterMap_append

/-- A later fragment has the function code and the sequence number of this one. -/
def reused (fragments : List (Fragment α)) (number : ℕ) : Bool :=
  match fragments[number]? with
  | none => false
  | some fragment => (fragments.drop (number + 1)).any fun later =>
      later.response.function = fragment.response.function &&
        later.response.control.seq % 16 = fragment.response.control.seq % 16

/-- The response, if it has this function code. -/
def Fragment.sent (function : FunctionCode) (fragment : Fragment α) : Option (APDUResponse α) :=
  if fragment.response.function = function then some fragment.response else none

/-- The responses of a kind are among the fragments. -/
theorem filterMap_sent (function : FunctionCode) (log : List (Outstation.Output α)) :
    log.filterMap (Outstation.Output.sent function) =
      (fragments log).filterMap (Fragment.sent function) := by
  rw [fragments, List.filterMap_filterMap]
  congr 1
  funext output
  cases output <;> rfl

/-- The last fragment with this function code, and its place. -/
theorem exists_lastSent {function : FunctionCode} {log : List (Outstation.Output α)}
    {response : APDUResponse α} (h : lastSent function log = some response) :
    ∃ before fragment after, fragments log = before ++ fragment :: after ∧
      fragment.response = response ∧ response.function = function ∧
      ∀ later ∈ after, later.response.function ≠ function := by
  unfold lastSent at h
  rw [filterMap_sent, List.getLast?_filterMap] at h
  obtain ⟨after, fragment, before, hsplit, hfragment, hafter⟩ := List.findSome?_eq_some_iff.mp h
  unfold Fragment.sent at hfragment hafter
  split_ifs at hfragment with hfunction
  obtain rfl := Option.some.inj hfragment
  refine ⟨before.reverse, fragment, after.reverse, ?_, rfl, hfunction, ?_⟩
  · rw [← List.reverse_inj, hsplit]
    simp
  · intro later hlater
    have hnone := hafter later (List.mem_reverse.mp hlater)
    split_ifs at hnone with hlater'
    exact hlater'

/-- Where the sequence number of a fragment is not used again, the last fragment with this function
code and number is this one. -/
theorem eq_of_not_reused {function : FunctionCode} {log : List (Outstation.Output α)} {number : ℕ}
    {fragment : Fragment α} {response : APDUResponse α}
    (hfragment : (fragments log)[number]? = some fragment)
    (hfunction : fragment.response.function = function)
    (hreused : reused (fragments log) number = false)
    (hlast : lastSent function log = some response)
    (hseq : response.control.seq % 16 = fragment.response.control.seq % 16) :
    response = fragment.response := by
  obtain ⟨before, last, after, hsplit, rfl, hfunction', hafter⟩ := exists_lastSent hlast
  rw [reused, hfragment] at hreused
  have hnot := List.any_eq_false.mp hreused
  rw [hsplit] at hfragment hnot
  rcases lt_trichotomy number before.length with hlt | heq | hgt
  · -- The last one comes later and uses the number again.
    refine absurd ?_ (hnot last ?_)
    · simp [hfunction, hfunction', hseq]
    · rw [List.drop_append_of_le_length (by omega)]
      simp
  · rw [heq, List.getElem?_append_right le_rfl] at hfragment
    simp only [Nat.sub_self, List.getElem?_cons_zero, Option.some.injEq] at hfragment
    rw [hfragment]
  · -- The fragment comes after the last one with its function code.
    rw [List.getElem?_append_right hgt.le] at hfragment
    obtain ⟨k, hk⟩ : ∃ k, number - before.length = k + 1 := ⟨number - before.length - 1, by omega⟩
    rw [hk, List.getElem?_cons_succ] at hfragment
    exact absurd hfunction (hafter fragment (List.mem_of_getElem? hfragment))

/-! ## Confirms and the fragments that they answer -/

/-- The confirm answers the fragment with this number, which is among the delivered ones. -/
def Answers (fragments : List (Fragment α)) (delivered : List ℕ) (number : Option ℕ)
    (header : APDUHeader) : Prop :=
  ∃ n fragment uns, number = some n ∧ fragments[n]? = some fragment ∧ n ∈ delivered ∧
    fragment.response.function = (if uns then .UNSOLICITED_RESPONSE else .RESPONSE) ∧
    header = confirmHeader (fragment.response.control.seq % 16) uns

/-- Fragments are only added, and likewise deliveries. -/
theorem Answers.mono {fragments fragments' : List (Fragment α)} {delivered delivered' : List ℕ}
    {number : Option ℕ} {header : APDUHeader} (h : Answers fragments delivered number header)
    (hfragments : fragments <+: fragments') (hdelivered : delivered ⊆ delivered') :
    Answers fragments' delivered' number header := by
  obtain ⟨n, fragment, uns, hnumber, hfragment, hmem, hrest⟩ := h
  obtain ⟨new, rfl⟩ := hfragments
  refine ⟨n, fragment, uns, hnumber, ?_, hdelivered hmem, hrest⟩
  obtain ⟨hlt, -⟩ := List.getElem?_eq_some_iff.mp hfragment
  rwa [List.getElem?_append_left hlt]

/-- What the packet says about the fragment that it answers is true. -/
def Genuine (fragments : List (Fragment α)) (packet : Packet) : Prop :=
  ∀ n, packet.answers = some n →
    Answers fragments packet.delivered packet.answers packet.header

/-- A packet is parsed as the request that it carries. -/
theorem parseRequest_payload (packet : Packet) :
    parseRequest packet.payload = some (packet.wire, packet.objects) := by
  unfold Packet.payload parseRequest
  dsimp only
  rw [AppControlField.ofByte_toByte, FunctionCode.fromType_toType]
  rfl

/-- The outstation reads the header that the packet carries. -/
theorem header_of_parseMessage {s : OContext α} {addresses : Addresses} {packet : Packet}
    {request : ParsedRequest}
    (h : s.parseMessage { addresses, payload := packet.payload } = some request) :
    request.header = packet.wire := by
  unfold OContext.parseMessage at h
  rw [parseRequest_payload] at h
  dsimp only at h
  split_ifs at h
  obtain rfl := Option.some.inj h
  rfl

/-- The master delivers the response that it confirms: one that asks for a confirm goes to a poll
that expects the fragment, and the parser accepts its objects. -/
def takes (s : MContext τ) (message : Message) : Bool :=
  match s.accepted message with
  | none => true
  | some (header, objects) =>
    if header.function = .RESPONSE ∧ header.control.con then
      match s.answering header with
      | none => true
      | some object =>
        match object.task with
        | .poll task => task.expects header && (processMeasurements objects).1 = .OK
        | .other _ => false
    else true

/-- The packet is no confirm, or one for a fragment whose sequence number has not been used again.
-/
def fresh (fragments : List (Fragment α)) (packet : Packet) : Bool :=
  packet.header.function ≠ .CONFIRM || packet.answers.any fun n => !reused fragments n

/-- An element of the second list has one of the first list in its place. -/
theorem exists_of_forall₂ {β γ : Type*} {R : β → γ → Prop} {l : List β} {l' : List γ}
    (h : List.Forall₂ R l l') {i : ℕ} {y : γ} (hy : l'[i]? = some y) :
    ∃ x, l[i]? = some x ∧ R x y := by
  obtain ⟨hlt, rfl⟩ := List.getElem?_eq_some_iff.mp hy
  have hlt' : i < l.length := by rwa [h.length_eq]
  exact ⟨l[i], List.getElem?_eq_getElem hlt', h.get hlt' hlt⟩

/-- Deliveries are only added. -/
theorem subset_delivered (number : Option ℕ) (delivered : List ℕ) (out : List Master.Output) :
    delivered ⊆ out.foldl (deliveredBy number) delivered := by
  induction out generalizing delivered with
  | nil => exact List.Subset.refl _
  | cons output out ih =>
    refine List.Subset.trans ?_ (ih (deliveredBy number delivered output))
    unfold deliveredBy
    split_ifs
    · exact List.subset_append_left ..
    · exact List.Subset.refl _

/-- The fragment is delivered once its objects have been passed on. -/
theorem mem_delivered {n : ℕ} {delivered : List ℕ} {out : List Master.Output}
    (h : ∃ output ∈ out, passes output = true) :
    n ∈ out.foldl (deliveredBy (some n)) delivered := by
  obtain ⟨output, hmem, hpasses⟩ := h
  obtain ⟨before, after, rfl⟩ := List.append_of_mem hmem
  rw [List.foldl_append, List.foldl_cons]
  refine subset_delivered _ _ after ?_
  rw [deliveredBy, if_pos hpasses]
  exact List.mem_append_right _ (List.mem_singleton.mpr rfl)

/-- A packet of the master is a request, or a confirm with its place in the order of the confirms
and what was delivered by the outputs before it. -/
theorem mem_packets {answers : List (Option ℕ)} {number : Option ℕ} {delivered : List ℕ}
    {packet : Packet} {out : List Master.Output} {k : ℕ}
    (h : packet ∈ packets answers number delivered k out) :
    packet.answers = none ∨ ∃ before header after, out = before ++ .confirm header :: after ∧
      packet =
        { header
          answers := (answers[k + (sent before).length]?).join
          delivered := before.foldl (deliveredBy number) delivered } := by
  induction out generalizing delivered k with
  | nil => cases h
  | cons output out ih =>
    cases output with
    | request header objects =>
      rcases List.mem_cons.mp h with rfl | h
      · exact .inl rfl
      · refine (ih h).imp_right ?_
        rintro ⟨before, header', after, rfl, rfl⟩
        exact ⟨.request header objects :: before, header', after, rfl, rfl⟩
    | confirm header =>
      rcases List.mem_cons.mp h with rfl | h
      · exact .inr ⟨[], header, out, rfl, rfl⟩
      · -- One more confirm is sent before the later ones.
        refine (ih h).imp_right ?_
        rintro ⟨before, header', after, rfl, rfl⟩
        refine ⟨.confirm header :: before, header', after, rfl, ?_⟩
        have hlength : (sent (.confirm header :: before)).length = (sent before).length + 1 := rfl
        rw [hlength, Nat.add_right_comm, Nat.add_assoc]
        rfl
    | _ =>
      refine (ih h).imp_right ?_
      rintro ⟨before, header', after, rfl, rfl⟩
      exact ⟨_ :: before, header', after, rfl, rfl⟩

section Master

variable [IMasterTask τ]

/-- The header and the objects of a response as the master reads them. -/
theorem parseResponse_payload (write : List (ObjectHeader α) → List UInt8)
    (response : APDUResponse α) {header : Master.APDUResponseHeader} {objects : List UInt8}
    (h : Master.parseResponse (responsePayload write response) = some (header, objects)) :
    header.function = response.function ∧
      header.control = { response.control with seq := response.control.seq % 16 } := by
  unfold responsePayload Master.parseResponse at h
  dsimp only at h
  rw [AppControlField.ofByte_toByte, FunctionCode.fromType_toType] at h
  obtain ⟨rfl, -⟩ := Prod.mk.inj (Option.some.inj h)
  exact ⟨rfl, rfl⟩

omit [IMasterTask τ] in
/-- A poll that can take the response that it confirms. -/
theorem takes_poll {s : MContext τ} {message : Message} (h : takes s message = true)
    {header : Master.APDUResponseHeader} {objects : List UInt8} {object : Master.TaskObject τ}
    (haccepted : s.accepted message = some (header, objects))
    (hfunction : header.function = .RESPONSE) (hcon : header.control.con = true)
    (hanswering : s.answering header = some object) :
    ∃ task, object.task = .poll task ∧ task.expects header = true ∧
      (processMeasurements objects).1 = .OK := by
  unfold takes at h
  rw [haccepted] at h
  dsimp only at h
  rw [if_pos ⟨hfunction, hcon⟩, hanswering] at h
  dsimp only at h
  split at h
  case h_1 task htask =>
    obtain ⟨hexpects, hok⟩ := Bool.and_eq_true_iff.mp h
    exact ⟨task, htask, hexpects, of_decide_eq_true hok⟩
  case h_2 => cases h

/-- What the master reports of a response that it confirms begins with its delivery. -/
theorem exists_reports_eq {s : MContext τ} {message : Message} (h : takes s message = true)
    {confirm : APDUHeader} (hconfirm : .queueConfirm confirm ∈ s.reports (.receive message)) :
    ∃ objects soe later,
      s.reports (.receive message) = .measurements objects .OK soe :: later := by
  obtain ⟨message', header, objects, hevent, haccepted, hcon, hway⟩ :=
    Master.MContext.queueConfirm_mem_reports hconfirm
  obtain rfl := Master.Event.receive.inj hevent
  rw [Master.MContext.reports_receive haccepted]
  rcases hway with ⟨hfunction, huns, hok, -⟩ | ⟨object, hfunction, hanswering, -⟩
  · rw [Master.MContext.apduReports, hfunction]
    dsimp only
    rw [Master.MContext.unsolicitedReports, if_pos huns, Master.MContext.delivery_of_ok hok]
    exact ⟨_, _, _, rfl⟩
  · obtain ⟨task, htask, hexpects, hok⟩ := takes_poll h haccepted hfunction hcon hanswering
    rw [Master.MContext.apduReports_response hfunction hanswering,
      Master.MContext.solicitedReports, htask, Master.Task.measurements, if_pos hexpects,
      Option.toList_some, List.map_singleton, Master.MContext.delivery_of_ok hok]
    exact ⟨_, _, _, rfl⟩

/-- A response that is confirmed has been delivered when its confirm is queued. -/
theorem passes_of_queueConfirm {s : MContext τ} {message : Message} (h : takes s message = true)
    {env : Master.Env} {before : List Master.Output}
    (hbefore : before <+: s.outputs (env, .receive message)) {confirm : APDUHeader}
    (hconfirm : .queueConfirm confirm ∈ before) : ∃ output ∈ before, passes output = true := by
  have hmem : .queueConfirm confirm ∈ s.reports (.receive message) :=
    (Master.MContext.mem_outputs_iff rfl s (env, .receive message)).mp (hbefore.subset hconfirm)
  obtain ⟨objects, soe, later, hreports⟩ := exists_reports_eq h hmem
  -- The first report among the outputs so far is the first one of the step.
  obtain ⟨rest, hrest⟩ := hbefore.filter Master.Output.isReport
  rw [Master.MContext.filter_outputs, hreports] at hrest
  cases hfirst : before.filter Master.Output.isReport with
  | nil => exact absurd (List.mem_filter.mpr ⟨hconfirm, rfl⟩) (hfirst ▸ List.not_mem_nil)
  | cons output outputs =>
    rw [hfirst, List.cons_append, List.cons.injEq] at hrest
    have houtput : output ∈ before := List.mem_of_mem_filter (hfirst ▸ List.mem_cons_self)
    exact ⟨output, houtput, by rw [hrest.1]; rfl⟩

end Master

namespace Network

/-- The packets that a step of the outstation may handle: the one that it receives, and the deferred
one. -/
def handled (net : Network τ α) : Action τ α → List Packet
  | .deliverToOutstation _ => net.toOutstation.head?.toList ++ net.deferred.toList
  | .outstation _ _ => net.deferred.toList
  | _ => []

/-- The action gives the master no fragment that it confirms without delivering it, and the
outstation no confirm whose sequence number it has used again since. -/
def sound (write : List (ObjectHeader α) → List UInt8) (net : Network τ α) :
    Action τ α → Bool
  | .deliverToMaster _ => net.toMaster.head?.all fun number =>
      (net.messageToMaster write number).all (takes net.master)
  | action => (net.handled action).all (fresh (fragments net.outstation.log))

section LosesNothing

variable [IMasterTask τ] [MeasurementSpec α] (write : List (ObjectHeader α) → List UInt8)

/-- A record that leaves the event buffer, other than by an update, leaves with a confirm of a
fragment that it is in. The master has parsed the objects of this fragment and passed them to the
application before it sent the confirm. -/
def LosesNothing (net : Network τ α) (action : Action τ α) : Prop :=
  ∀ id ∈ net.outstation.eventBuffer.storage.ids,
    id ∉ (net.step write action).outstation.eventBuffer.storage.ids →
      (∃ env change, action = .outstation env (.update change)) ∨
        ∃ packet ∈ net.handled action, packet.header.function = .CONFIRM ∧ ∃ n fragment,
          packet.answers = some n ∧ n ∈ packet.delivered ∧
          (fragments net.outstation.log)[n]? = some fragment ∧ id ∈ fragment.response.events

end LosesNothing

/-! ## The invariant -/

/-- The invariant of the network: every confirm that is queued, on its way or deferred answers a
fragment that was delivered before. -/
structure Inv (config : Outstation.EventBufferConfig) (net : Network τ α) : Prop where
  outstation : net.outstation.Inv config
  confirms : queued net.master.log = sent net.master.log ++ net.master.confirmQueue
  answers : List.Forall₂ (Answers (fragments net.outstation.log) net.delivered) net.answers
    (queued net.master.log)
  packets : ∀ packet ∈ net.toOutstation, Genuine (fragments net.outstation.log) packet
  deferred : ∀ request, net.outstation.deferred = some request →
    request.header.function = .CONFIRM → ∃ packet, net.deferred = some packet ∧
      Genuine (fragments net.outstation.log) packet ∧ request.header = packet.wire

section Master

variable [IMasterTask τ]

/-- The confirms that a step of the master queues answer the fragment that it receives, which has
been delivered by then. -/
def QueuesDelivered (net : Network τ α) (number : Option ℕ) (e : Master.Env × Master.Event τ) :
    Prop :=
  ∀ before, before <+: net.master.outputs e → ∀ header ∈ queued before,
    Answers (fragments net.outstation.log) (before.foldl (deliveredBy number) net.delivered) number
      header

/-- What a confirm of the step answers has been delivered before it. -/
theorem answers_of_sent {config : Outstation.EventBufferConfig} {net : Network τ α}
    (h : net.Inv config) {number : Option ℕ} {e : Master.Env × Master.Event τ}
    (hqueued : net.QueuesDelivered number e) {before after : List Master.Output}
    {header : APDUHeader} (hout : net.master.outputs e = before ++ .confirm header :: after) :
    Answers (fragments net.outstation.log) (before.foldl (deliveredBy number) net.delivered)
      (((net.masterStep number e).answers[(sent net.master.log).length +
        (sent before).length]?).join) header := by
  have hprefix : before ++ [.confirm header] <+: net.master.outputs e := by
    rw [hout]
    exact ⟨after, by simp⟩
  have hbefore : before <+: net.master.outputs e := (List.prefix_append ..).trans hprefix
  -- The confirms that were queued before this output, and the fragments that they answer.
  have hanswers : List.Forall₂
      (Answers (fragments net.outstation.log) (before.foldl (deliveredBy number) net.delivered))
      (net.answers ++ (queued before).map fun _ => number)
      (queued net.master.log ++ queued before) := by
    refine List.rel_append (h.answers.imp fun _ _ hold => ?_) ?_
    · exact hold.mono (List.prefix_refl _) (subset_delivered ..)
    · exact List.forall₂_map_left_iff.mpr (List.forall₂_same.mpr (hqueued before hbefore))
  -- This confirm is the next one of them.
  have hsent : (queued net.master.log ++ queued before)[(sent net.master.log).length +
      (sent before).length]? = some header := by
    obtain ⟨later, hlater⟩ := Master.MContext.sent_prefix net.master e hprefix
    have hconfirm : sent (before ++ [.confirm header]) = sent before ++ [header] :=
      Master.MContext.sent_append ..
    have hqueue : queued (before ++ [.confirm header]) = queued before :=
      (Master.MContext.queued_append ..).trans (List.append_nil _)
    rw [hconfirm, hqueue] at hlater
    rw [h.confirms, List.append_assoc, ← hlater, List.append_assoc, ← List.append_assoc,
      ← List.length_append, List.getElem?_append_right le_rfl, Nat.sub_self]
    rfl
  obtain ⟨number', hnumber', hanswer⟩ := exists_of_forall₂ hanswers hsent
  -- What is queued later does not move it.
  obtain ⟨rest, hrest⟩ := hbefore
  have hstep : (net.masterStep number e).answers =
      (net.answers ++ (queued before).map fun _ => number) ++
        (queued rest).map fun _ => number := by
    show net.answers ++ (queued (net.master.outputs e)).map (fun _ => number) = _
    rw [← hrest, Master.MContext.queued_append, List.map_append, List.append_assoc]
  obtain ⟨hlt, -⟩ := List.getElem?_eq_some_iff.mp hnumber'
  rw [hstep, List.getElem?_append_left hlt, hnumber']
  exact hanswer

/-- A step of the master keeps the invariant where the confirms that it queues answer the fragment
that it receives. -/
theorem masterStep_inv {config : Outstation.EventBufferConfig} {net : Network τ α}
    (h : net.Inv config) (number : Option ℕ) (e : Master.Env × Master.Event τ)
    (hqueued : net.QueuesDelivered number e) : (net.masterStep number e).Inv config := by
  obtain ⟨hlog, hqueue⟩ := Master.MContext.step_log net.master e
  have hconfirms : queued (net.masterStep number e).master.log =
      sent (net.masterStep number e).master.log ++
        (net.masterStep number e).master.confirmQueue := by
    show queued (net.master.step e).log = sent (net.master.step e).log ++ _
    rw [hlog, Master.MContext.queued_append, Master.MContext.sent_append, h.confirms,
      List.append_assoc, hqueue, List.append_assoc]
    rfl
  -- The confirms that are queued in this step answer the fragment that it delivers.
  have hanswers : List.Forall₂ (Answers (fragments net.outstation.log)
      (net.masterStep number e).delivered) (net.masterStep number e).answers
      (queued (net.masterStep number e).master.log) := by
    show List.Forall₂ _ _ (queued (net.master.step e).log)
    rw [hlog, Master.MContext.queued_append]
    refine List.rel_append (h.answers.imp fun _ _ hold => ?_) ?_
    · exact hold.mono (List.prefix_refl _) (subset_delivered ..)
    · exact List.forall₂_map_left_iff.mpr
        (List.forall₂_same.mpr (hqueued _ (List.prefix_refl _)))
  refine ⟨h.outstation, hconfirms, hanswers, ?_, h.deferred⟩
  intro packet hpacket
  rcases List.mem_append.mp hpacket with hold | hnew
  · exact h.packets packet hold
  rcases mem_packets hnew with hnone | ⟨before, header, after, hout, rfl⟩
  · intro n hn
    rw [hnone] at hn
    cases hn
  · exact fun n _ => answers_of_sent h hqueued hout

end Master

section Outstation

variable [MeasurementSpec α]

/-- The packet that a step of the outstation receives is genuine, and its bytes are what arrives. -/
structure Receives (net : Network τ α) (packet : Option Packet) (event : OContext.Event α) :
    Prop where
  genuine : ∀ p, packet = some p → Genuine (fragments net.outstation.log) p
  message : ∀ message, event = .receive message → ∃ p addresses, packet = some p ∧
    message = { addresses, payload := p.payload }

omit [MeasurementSpec α] in
/-- The request of a packet or the deferred one is that of a genuine packet. -/
theorem exists_packet {config : Outstation.EventBufferConfig} {net : Network τ α}
    (h : net.Inv config) {packet : Option Packet} {event : OContext.Event α}
    (hpacket : net.Receives packet event) {header : APDUHeader}
    (hfunction : header.function = .CONFIRM) (hcomes : OContext.Comes event net.outstation header) :
    ∃ p ∈ packet.toList ++ net.deferred.toList, header = p.wire ∧
      Genuine (fragments net.outstation.log) p := by
  rcases hcomes with ⟨request, hrequest, rfl⟩ | ⟨message, request, hevent, hparse, rfl⟩
  · obtain ⟨p, hp, hgenuine, hwire⟩ := h.deferred request hrequest hfunction
    exact ⟨p, by simp [hp], hwire, hgenuine⟩
  · obtain ⟨p, addresses, rfl, rfl⟩ := hpacket.message message hevent
    exact ⟨p, by simp, header_of_parseMessage hparse, hpacket.genuine p rfl⟩

/-- A step sends fragments and takes none back. -/
theorem fragments_step {config : Outstation.EventBufferConfig} {s : OContext α} (h : s.Inv config)
    (e : Outstation.Env α × OContext.Event α) : fragments s.log <+: fragments (s.step e).log := by
  obtain ⟨new, hlog, -⟩ := @OContext.step_transmits α _ config e.1 e.2 s h (fun _ _ => True)
    (fun _ _ _ _ _ _ _ _ => trivial) (fun _ _ _ => trivial) (fun _ _ _ _ => trivial)
  rw [show s.step e = s.step (e.1, e.2) from rfl, hlog, fragments_append]
  exact List.prefix_append ..

/-- A step of the outstation keeps the invariant, whatever packet it has been given. -/
theorem outstationStep_inv {config : Outstation.EventBufferConfig} {net : Network τ α}
    (h : net.Inv config) {packet : Option Packet} (env : Outstation.Env α)
    {event : OContext.Event α} (hpacket : net.Receives packet event) :
    (net.outstationStep packet (env, event)).Inv config := by
  have hfragments := fragments_step h.outstation (env, event)
  have hgenuine (p : Packet) (hp : Genuine (fragments net.outstation.log) p) :
      Genuine (fragments (net.outstation.step (env, event)).log) p :=
    fun n hn => (hp n hn).mono hfragments (List.Subset.refl _)
  refine ⟨OContext.step_inv _ _ h.outstation, h.confirms, ?_, ?_, ?_⟩
  · -- The fragments of the log stay, so earlier confirms keep their answers.
    exact h.answers.imp fun _ _ hold => hold.mono hfragments (List.Subset.refl _)
  · exact fun p hp => hgenuine p (h.packets p hp)
  · intro request hrequest hfunction
    have hcomes := OContext.step_comes h.outstation env event request hrequest
    have hdeferred : (net.outstationStep packet (env, event)).deferred =
        if packet.any fun received => received.wire = request.header then packet
        else net.deferred := by
      show Option.bind (net.outstation.step (env, event)).deferred _ = _
      rw [show (net.outstation.step (env, event)).deferred = some request from hrequest]
      rfl
    rw [hdeferred]
    split_ifs with hreceived
    · cases packet with
      | none => cases hreceived
      | some p =>
        exact ⟨p, rfl, hgenuine p (hpacket.genuine p rfl), (of_decide_eq_true hreceived).symm⟩
    · rcases hcomes with ⟨request', hrequest', hheader⟩
        | ⟨message, request', hevent, hparse, hheader⟩
      · -- The packet of a request that was deferred before stays.
        obtain ⟨p, hp, hgenuine', hwire⟩ :=
          h.deferred request' hrequest' (by rw [hheader]; exact hfunction)
        exact ⟨p, hp, hgenuine p hgenuine', hheader.symm.trans hwire⟩
      · -- A request that comes with the packet has its header.
        obtain ⟨p, addresses, rfl, rfl⟩ := hpacket.message message hevent
        refine absurd ?_ hreceived
        simp [← hheader, header_of_parseMessage hparse]

/-- A record that a step of the outstation removes, other than by an update, is in a fragment that
was delivered before its confirm was sent. -/
theorem exists_delivered {config : Outstation.EventBufferConfig} {net : Network τ α}
    (h : net.Inv config) {packet : Option Packet} (env : Outstation.Env α)
    {event : OContext.Event α} (hpacket : net.Receives packet event)
    (hfresh : ∀ p ∈ packet.toList ++ net.deferred.toList,
      fresh (fragments net.outstation.log) p = true) {id : ℕ}
    (hid : id ∈ net.outstation.eventBuffer.storage.ids)
    (hgone : id ∉ (net.outstation.step (env, event)).eventBuffer.storage.ids) :
    (∃ change, event = .update change) ∨
      ∃ p ∈ packet.toList ++ net.deferred.toList, p.header.function = .CONFIRM ∧ ∃ n fragment,
        p.answers = some n ∧ n ∈ p.delivered ∧
        (fragments net.outstation.log)[n]? = some fragment ∧ id ∈ fragment.response.events := by
  rcases (OContext.step_keeps h.outstation env event hid).resolve_left hgone with
    ⟨change, hevent, -⟩ | ⟨s₁, request, response, hprocesses, hconfirm, hlast, hseq, hevents⟩
  · exact .inl ⟨change, hevent⟩
  right
  obtain ⟨p, hp, hwire, hgenuine⟩ := exists_packet h hpacket hconfirm
    (hprocesses.comes h.outstation.storage)
  have hfunction : p.header.function = .CONFIRM := by
    rw [hwire] at hconfirm
    exact hconfirm
  obtain ⟨n, hn, hreused⟩ : ∃ n, p.answers = some n ∧
      reused (fragments net.outstation.log) n = false := by
    have hp' := hfresh p hp
    simpa [fresh, hfunction, Option.any_eq_true] using hp'
  obtain ⟨n', fragment, uns, hn', hfragment, hdelivered, hkind, hheader⟩ := hgenuine n hn
  obtain rfl : n = n' := Option.some.inj (hn.symm.trans hn')
  -- Nothing was transmitted before the confirm was handled.
  obtain ⟨new, hlog, hnew⟩ := OContext.Processes.log_eq h.outstation hprocesses
  have huns : request.header.control.uns = uns := by rw [hwire, Packet.wire, hheader]; rfl
  have hquiet (function : FunctionCode) : ∀ output ∈ new, output.sent function = none := by
    intro output houtput
    cases output with
    | transmit destination response => exact absurd houtput (hnew destination response)
    | _ => rfl
  rw [hlog, Outstation.lastSent_append_of_forall (hquiet _), huns] at hlast
  have hresponse : response = fragment.response := by
    refine eq_of_not_reused hfragment hkind hreused hlast ?_
    rw [← hseq, hwire, Packet.wire, hheader]
    simp [confirmHeader]
  exact ⟨p, hp, hfunction, n, fragment, hn, hdelivered, hfragment, hresponse ▸ hevents⟩

end Outstation

/-! ## Runs -/

section Steps

variable [IMasterTask τ] [MeasurementSpec α] {write : List (ObjectHeader α) → List UInt8}
  {config : Outstation.EventBufferConfig}

omit [MeasurementSpec α] in
/-- The fragment that the master receives is the one that its confirm answers. -/
theorem queuesDelivered_of_receive {net : Network τ α} {number : ℕ} {message : Message}
    (hmessage : net.messageToMaster write number = some message)
    (htakes : takes net.master message = true) (env : Master.Env) :
    net.QueuesDelivered (some number) (env, .receive message) := by
  intro before hbefore confirm hconfirm
  have hmem := Master.MContext.mem_queued_iff.mp hconfirm
  obtain ⟨fragment, hfragment, rfl⟩ := Option.map_eq_some_iff.mp hmessage
  -- The outputs before the confirm have passed the objects on.
  have hdelivered : number ∈ before.foldl (deliveredBy (some number)) net.delivered :=
    mem_delivered (passes_of_queueConfirm htakes hbefore hmem)
  obtain ⟨message', header, objects, hevent, haccepted, -, hway⟩ :=
    Master.MContext.queueConfirm_mem_reports
      ((Master.MContext.mem_outputs_iff rfl _ _).mp (hbefore.subset hmem))
  obtain rfl := Master.Event.receive.inj hevent
  obtain ⟨hfunction, hcontrol⟩ := parseResponse_payload write fragment.response
    (Master.MContext.accepted_eq_some haccepted).2
  -- The flag of the confirm tells which kind of fragment it answers.
  rcases hway with ⟨hunsolicited, -, -, rfl⟩ | ⟨_, hresponse, -, rfl⟩
  · refine ⟨number, fragment, true, rfl, hfragment, hdelivered, ?_, by rw [hcontrol]⟩
    rw [← hfunction, hunsolicited, if_pos rfl]
  · refine ⟨number, fragment, false, rfl, hfragment, hdelivered, ?_, by rw [hcontrol]⟩
    rw [← hfunction, hresponse, if_neg Bool.false_ne_true]

/-- A step that leaves the outstation alone loses nothing. -/
theorem losesNothing_of_eq {net : Network τ α} {action : Action τ α}
    (h : (net.step write action).outstation = net.outstation) : net.LosesNothing write action := by
  intro id hid hgone
  rw [h] at hgone
  exact absurd hid hgone

/-- An event of the master that is no reception queues no confirm. -/
theorem step_master {net : Network τ α} (h : net.Inv config) (env : Master.Env)
    (event : Master.Event τ) : (net.step write (.master env event)).Inv config ∧
      net.LosesNothing write (.master env event) := by
  have hmaster (hreports : net.master.reports event = []) :
      (net.masterStep none (env, event)).Inv config := by
    refine masterStep_inv h none (env, event) fun before hbefore header hheader => ?_
    have hnone : queued (net.master.outputs (env, event)) = [] := Master.MContext.queued_eq_nil
      ((Master.MContext.filter_outputs net.master (env, event)).trans hreports)
    have hmem := (hbefore.filterMap Master.Output.queued).subset hheader
    rw [show (net.master.outputs (env, event)).filterMap Master.Output.queued = [] from hnone]
      at hmem
    cases hmem
  refine ⟨?_, losesNothing_of_eq ?_⟩
  · cases event with
    | receive message => exact h
    | _ => exact hmaster rfl
  · cases event <;> rfl

/-- An event of the outstation without a packet loses nothing. -/
theorem step_outstation {net : Network τ α} (h : net.Inv config) (env : Outstation.Env α)
    (event : OContext.Event α) (hsound : net.sound write (.outstation env event) = true) :
    (net.step write (.outstation env event)).Inv config ∧
      net.LosesNothing write (.outstation env event) := by
  have hlocal (hreceive : ∀ message, event ≠ .receive message)
      (heq : net.step write (.outstation env event) = net.outstationStep none (env, event)) :
      (net.step write (.outstation env event)).Inv config ∧
        net.LosesNothing write (.outstation env event) := by
    have hreceives : net.Receives none event :=
      ⟨nofun, fun message hevent => absurd hevent (hreceive message)⟩
    refine ⟨heq ▸ outstationStep_inv h env hreceives, fun id hid hgone => ?_⟩
    rw [heq] at hgone
    refine (exists_delivered h env hreceives (List.all_eq_true.mp hsound) hid hgone).imp_left ?_
    rintro ⟨change, rfl⟩
    exact ⟨env, change, rfl⟩
  cases event with
  | receive message => exact ⟨h, losesNothing_of_eq rfl⟩
  | _ => exact hlocal nofun rfl

/-- A packet for the master loses nothing at the outstation. -/
theorem step_deliverToMaster {net : Network τ α} (h : net.Inv config) (env : Master.Env)
    (hsound : net.sound write (.deliverToMaster env) = true) :
    (net.step write (.deliverToMaster env)).Inv config ∧
      net.LosesNothing write (.deliverToMaster env) := by
  have hrest (toMaster : List ℕ) : ({ net with toMaster } : Network τ α).Inv config :=
    ⟨h.outstation, h.confirms, h.answers, h.packets, h.deferred⟩
  unfold LosesNothing sound at *
  unfold step
  dsimp only
  cases htoMaster : net.toMaster with
  | nil => exact ⟨h, fun id hid hgone => absurd hid hgone⟩
  | cons number toMaster =>
    dsimp only
    cases hmessage : net.messageToMaster write number with
    | none => exact ⟨hrest toMaster, fun id hid hgone => absurd hid hgone⟩
    | some message =>
      have htakes : takes net.master message = true := by
        simpa [htoMaster, hmessage] using hsound
      refine ⟨masterStep_inv (hrest toMaster) (some number) (env, .receive message) ?_,
        fun id hid hgone => absurd hid hgone⟩
      exact queuesDelivered_of_receive hmessage htakes env

/-- A packet for the outstation loses nothing, since a confirm confirms what the master has
received. -/
theorem step_deliverToOutstation {net : Network τ α} (h : net.Inv config)
    (env : Outstation.Env α) (hsound : net.sound write (.deliverToOutstation env) = true) :
    (net.step write (.deliverToOutstation env)).Inv config ∧
      net.LosesNothing write (.deliverToOutstation env) := by
  unfold LosesNothing
  unfold step
  dsimp only
  cases htoOutstation : net.toOutstation with
  | nil => exact ⟨h, fun id hid hgone => absurd hid hgone⟩
  | cons packet toOutstation =>
    have hrest : ({ net with toOutstation } : Network τ α).Inv config :=
      ⟨h.outstation, h.confirms, h.answers,
        fun p hp => h.packets p (htoOutstation ▸ List.mem_cons_of_mem packet hp), h.deferred⟩
    -- What the outstation receives is the packet at the head of the channel.
    have hreceives : ({ net with toOutstation } : Network τ α).Receives (some packet)
        (.receive (net.messageToOutstation packet)) := by
      refine ⟨fun p hp => ?_, fun message hmessage => ?_⟩
      · obtain rfl := Option.some.inj hp
        exact h.packets packet (htoOutstation ▸ List.mem_cons_self)
      · obtain rfl := OContext.Event.receive.inj hmessage
        exact ⟨packet, net.master.addresses, rfl, rfl⟩
    have hhandled : net.handled (.deliverToOutstation env) =
        (some packet).toList ++ net.deferred.toList := by
      rw [handled, htoOutstation, List.head?_cons]
    have hfresh : ∀ p ∈ (some packet).toList ++ net.deferred.toList,
        fresh (fragments net.outstation.log) p = true := by
      rw [← hhandled]
      exact List.all_eq_true.mp hsound
    refine ⟨outstationStep_inv hrest env hreceives, fun id hid hgone => ?_⟩
    rw [hhandled]
    have hdelivered := exists_delivered hrest env hreceives hfresh hid hgone
    exact hdelivered.imp_left fun ⟨_, hevent⟩ => by cases hevent

/-- A sound step keeps the invariant and loses nothing. -/
theorem step_sound {net : Network τ α} (action : Action τ α) (h : net.Inv config)
    (hsound : net.sound write action = true) :
    (net.step write action).Inv config ∧ net.LosesNothing write action := by
  cases action with
  | master env event => exact step_master h env event
  | outstation env event => exact step_outstation h env event hsound
  | deliverToMaster env => exact step_deliverToMaster h env hsound
  | deliverToOutstation env => exact step_deliverToOutstation h env hsound
  | loseToMaster =>
    exact ⟨⟨h.outstation, h.confirms, h.answers, h.packets, h.deferred⟩, losesNothing_of_eq rfl⟩
  | loseToOutstation =>
    refine ⟨⟨h.outstation, h.confirms, h.answers, ?_, h.deferred⟩, losesNothing_of_eq rfl⟩
    exact fun packet hpacket => h.packets packet (List.mem_of_mem_tail hpacket)

/-- A new master and a new outstation. -/
def init (masterAddresses : Addresses) (params : Master.MasterParams) (tasks : Master.MasterTasks)
    (objects : List (Master.TaskObject τ)) (outstationAddresses : Addresses)
    (config : Outstation.EventBufferConfig) (outstationParams : Outstation.OutstationParams)
    (database : Outstation.DatabaseBuffers α) : Network τ α where
  master := .init masterAddresses params tasks objects
  outstation := .init outstationAddresses config outstationParams database

omit [IMasterTask τ] [MeasurementSpec α] in
/-- The invariant holds of a new network. -/
theorem init_inv (masterAddresses : Addresses) (params : Master.MasterParams)
    (tasks : Master.MasterTasks) (objects : List (Master.TaskObject τ))
    (outstationAddresses : Addresses) (config : Outstation.EventBufferConfig)
    (outstationParams : Outstation.OutstationParams) (database : Outstation.DatabaseBuffers α) :
    (init masterAddresses params tasks objects outstationAddresses config outstationParams
      database).Inv config where
  outstation := OContext.init_inv outstationAddresses config outstationParams database
  confirms := rfl
  answers := .nil
  packets := by simp [init]
  deferred := by simp [init, OContext.init]

/-- No confirmed event is lost in a run in which the master delivers every response that it
confirms, and every confirm reaches the outstation before its sequence number is used again. -/
theorem run_losesNothing (write : List (ObjectHeader α) → List UInt8) (masterAddresses : Addresses)
    (params : Master.MasterParams) (tasks : Master.MasterTasks)
    (objects : List (Master.TaskObject τ)) (outstationAddresses : Addresses)
    (config : Outstation.EventBufferConfig) (outstationParams : Outstation.OutstationParams)
    (database : Outstation.DatabaseBuffers α) (actions : List (Action τ α))
    (h : Machine.StepsMeet (step write) (fun net action => net.sound write action = true)
      (init masterAddresses params tasks objects outstationAddresses config outstationParams
        database) actions) :
    Machine.StepsMeet (step write) (LosesNothing write)
      (init masterAddresses params tasks objects outstationAddresses config outstationParams
        database) actions := by
  refine Machine.StepsMeet.of_invariant (step write)
    (fun net action (hinv : net.Inv config) hsound => step_sound action hinv hsound) ?_ h
  exact init_inv ..

end Steps

/-! ## An octet string -/

/-- Octet strings. -/
instance : MeasurementSpec (List UInt8) where
  isEvent _ last value _ := last != value
  isQualityOnlineOnly _ := true
  bit _ := false
  octetSize value := UInt8.ofNat value.length
  time _ := 0
  withTime value _ := value
  withFlags value _ := value

/-- The bytes of octet strings with their indices. -/
def writeOctetStrings (headers : List (ObjectHeader (List UInt8))) : List UInt8 :=
  headers.flatMap fun header =>
    match header with
    | .prefixed serializer _ objects =>
      [111, UInt8.ofNat serializer.size, 0x28] ++ writeUInt16 (UInt16.ofNat objects.length) ++
        objects.flatMap fun (index, value) => writeUInt16 (UInt16.ofNat index) ++ value
    | _ => []

/-- An outstation with one octet string, and a master that scans the events of class 1. -/
def octetString : Network Master.StartupTask (List UInt8) :=
  init ⟨1, 10⟩ {} { clearRestart := 0, assignClass := 1, startupIntegrity := 2, eventScan := 3 }
    [⟨.other .clearRestart, .reactsToIINOnly⟩,
      ⟨.other (.assignClass fun _ => some []), .singleImmediateExecutionWithRetry 5000 60000⟩,
      ⟨.poll { kind := .startupIntegrity ⟨true, true, true, true⟩ },
        .singleImmediateExecutionWithRetry 5000 60000⟩,
      ⟨.poll { kind := .eventScan { class1 := true } }, .reactsToIINOnly⟩]
    ⟨10, 1⟩ { maxOctetStringEvents := 2 } {}
    { cells
        | .OctetString => [{
            value := [0]
            config := { vIndex := 0, svariation := .Group110Var0, evariation := .Group111Var0 }
            lastEvent := [0]
            selection := { value := [0], variation := .Group110Var0 } }]
        | _ => [] }

/-- The string changes, and the master scans the event. -/
def scan (value : List UInt8) : List (Action Master.StartupTask (List UInt8)) :=
  [.master {} .lowerLayerUp, .outstation {} .lowerLayerUp,
    .outstation {} (.update (.update .OctetString value 0 .Detect)), .master {} (.run 3),
    .deliverToOutstation {}, .master {} .txReady, .outstation {} .txReady, .deliverToMaster {}]

/-- A string of one byte is delivered, and its record leaves with the confirm. -/
theorem run_losesNothing_oneByte :
    Machine.StepsMeet (step writeOctetStrings) (LosesNothing writeOctetStrings) octetString
        (scan [65] ++ [.deliverToOutstation {}]) ∧
      (Machine.run (step writeOctetStrings) octetString
        (scan [65])).outstation.eventBuffer.storage.ids = [0] ∧
      (Machine.run (step writeOctetStrings) octetString
        (scan [65] ++ [.deliverToOutstation {}])).outstation.eventBuffer.storage.ids = [] := by
  have hsound : Machine.StepsMeet (step writeOctetStrings)
      (fun net action => net.sound writeOctetStrings action = true) octetString
      (scan [65] ++ [.deliverToOutstation {}]) := by decide +kernel
  exact ⟨run_losesNothing writeOctetStrings _ _ _ _ _ _ _ _ _ hsound, by decide +kernel,
    by decide +kernel⟩

/-- The variation of an empty string is that of the requests, so the master rejects the response,
and confirms it. -/
theorem not_losesNothing_empty :
    ¬Machine.StepsMeet (step writeOctetStrings) (LosesNothing writeOctetStrings) octetString
      (scan [] ++ [.deliverToOutstation {}]) := by
  intro h
  have hlast := (Machine.StepsMeet.of_append (step writeOctetStrings) h).1
  have hleaves := hlast 0 (by decide +kernel) (by decide +kernel)
  obtain ⟨env, change, haction⟩ | ⟨packet, hpacket, -, n, fragment, -, hdelivered, -⟩ := hleaves
  · cases haction
  · have hnone : ((Machine.run (step writeOctetStrings) octetString (scan [])).handled
        (.deliverToOutstation {})).all (fun packet => packet.delivered.isEmpty) = true := by
      decide +kernel
    have hempty := List.all_eq_true.mp hnone packet hpacket
    rw [List.isEmpty_iff.mp hempty] at hdelivered
    cases hdelivered

end Network

end OpenDnp3.EndToEnd
