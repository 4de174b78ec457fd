import Mathlib.Data.List.Induction
import EmaczZephyr.Foundation.Runs
import EmaczZephyr.Provision.Board
import EmaczZephyr.Provision.HostTool
import EmaczZephyr.Provision.Mailbox

/-!
# Agreement between the hosts and the board

One board and any number of host tools with different transaction identifiers. A
datagram that was sent may reach anybody any number of times, at any later time, or
never; nothing else is delivered. An iteration of the provisioning thread is one step,
in which the mailbox may also apply any request.

The board consumes an offer by applying under it, and a CONFIG can only carry an offer's
token if it answers that offer. So what the tool reports as success was applied for it.
Whether an exchange succeeds is not shown: the network may lose everything.
-/

namespace EmaczZephyr.Provision

open Runs BigEndian

variable {Iface Tool : Type}

/-- The commands, the board's queue and settings, the datagrams sent and what the board
did. -/
structure ProvisionSystem (Iface Tool : Type) where
  hosts : Tool → Host.Point
  queue : List (List Byte)
  prov : Prov Iface
  sent : List (List Byte)
  log : List (BoardEvent Iface)

/-- What can happen next: a command of some host goes on, or the board takes a datagram from the
network or an iteration of its thread. -/
inductive ProvisionLabel (Tool : Type) where
  /-- The command starts and sends its DISCOVER. -/
  | begin (tool : Tool)
  | receive (tool : Tool) (datagram : List Byte)
  /-- The exchange reaches its deadline. -/
  | timeout (tool : Tool)
  | ingress (datagram : List Byte)
  /-- An iteration of the thread. -/
  | iterate (jtag : Option ProvMessage) (cycles : BitVec 32)

/-- An iteration of `provision_thread_fn`: the mailbox is polled first, and then the first
datagram of the queue is handled. -/
def iterateBoard (net : NetIf Iface) (system : ProvisionSystem Iface Tool)
    (jtag : Option ProvMessage) (cycles : BitVec 32) : ProvisionSystem Iface Tool :=
  let polled := jtagApply net system.prov jtag
  match system.queue with
  | [] => { system with prov := polled }
  | buf :: rest =>
      let handled := handlePacket net polled cycles buf
      { system with
        queue := rest
        prov := handled.prov
        sent := system.sent ++ (handled.frame.map udpPayload).toList
        log := system.log ++ handled.event.toList }

/-- One step of a command, of the network or of the board. -/
def provisionStep [DecidableEq Tool] (net : NetIf Iface) (settings : Tool → Host.Settings)
    (system : ProvisionSystem Iface Tool) :
    ProvisionLabel Tool → Option (ProvisionSystem Iface Tool)
  | .begin tool =>
      match system.hosts tool with
      | .start =>
          some { system with
            hosts := Function.update system.hosts tool (.discovering [])
            sent := system.sent ++
              [Host.encodeMessage (Host.discoverMessage (settings tool).xid)] }
      | _ => none
  | .receive tool datagram =>
      if datagram ∈ system.sent then
        match system.hosts tool with
        | .discovering found =>
            let (found, _) :=
              Host.exchangeReceive (settings tool).xid provOffer none found datagram
            some { system with
              hosts := Function.update system.hosts tool (.discovering found) }
        | .configuring offer found =>
            let (found, returns) :=
              Host.exchangeReceive offer.xid provAck (some offer.mac) found datagram
            some { system with
              hosts := Function.update system.hosts tool
                (if returns then .done (Host.conclude offer found)
                else .configuring offer found) }
        | _ => none
      else none
  | .timeout tool =>
      match system.hosts tool with
      | .discovering found =>
          match Host.chooseOffer (settings tool) found with
          | none => some { system with hosts := Function.update system.hosts tool (.done none) }
          | some offer =>
              some { system with
                hosts := Function.update system.hosts tool (.configuring offer [])
                sent := system.sent ++
                  [Host.encodeMessage (Host.configMessage (settings tool) offer)] }
      | .configuring offer found =>
          some { system with
            hosts := Function.update system.hosts tool (.done (Host.conclude offer found)) }
      | _ => none
  | .ingress datagram =>
      if datagram ∈ system.sent then
        some { system with queue := (emaczProvisionIngress system.queue datagram).2 }
      else none
  | .iterate jtag cycles => some (iterateBoard net system jtag cycles)

/-- No command has started, and the board has made no offer. -/
def provisionInitial (prov : Prov Iface) : ProvisionSystem Iface Tool where
  hosts := fun _ => .start
  queue := []
  prov := { prov with
    provXid := 0#32
    provToken := 0#32 }
  sent := []
  log := []

/-- The event is an offer, the answer to a DISCOVER. -/
def BoardEvent.discovers : BoardEvent Iface → Bool
  | .discovered _ _ => true
  | _ => false

/-- The event is a call of `apply_config` that succeeded. -/
def BoardEvent.succeeds : BoardEvent Iface → Bool
  | .applied _ result _ _ => decide (result = 0)
  | _ => false

/-- The offer of the last DISCOVER, whether or not it was answered since. -/
def lastOffer (log : List (BoardEvent Iface)) : Option (BitVec 32 × BitVec 32) :=
  log.foldl (fun offer event =>
    match event with
    | .discovered xid token => some (xid, token)
    | _ => offer) none

/-- What the board did and what the commands report, each part as a statement on the history of
the board and the ends of the commands. -/
structure Agreement (mac : BitVec 48) (settings : Tool → Host.Settings)
    (system : ProvisionSystem Iface Tool) : Prop where
  /-- A call of `apply_config` answers the offer of the last DISCOVER. -/
  offered : ∀ before request result installed response after,
    system.log = before ++ .applied request result installed response :: after →
      request.op = provConfig ∧ request.mac = mac ∧ request.token ≠ 0#32 ∧
        lastOffer before = some (request.xid, request.token)
  bounded : system.log.countP BoardEvent.succeeds ≤ system.log.countP BoardEvent.discovers
  /-- Behind a success nothing is applied before the next DISCOVER. -/
  once : ∀ before first installed response middle second result installed' response' after,
    system.log = (before ++ .applied first 0 installed response :: middle) ++
      .applied second result installed' response' :: after →
      ∃ event ∈ middle, event.discovers = true
  /-- A reported success is the response of the step that installed the host's
  settings. -/
  installed : ∀ tool reply, system.hosts tool = .done (some reply) →
    ∃ request installed response, .applied request 0 installed response ∈ system.log ∧
      response.toHost = reply ∧ reply.op = provAck ∧ reply.status = provOk ∧ reply.mac = mac ∧
      reply.xid = (settings tool).xid ∧
      installed.provAddrInstalled = true ∧
      installed.provAddr = (settings tool).ip ∧ reply.ip = (settings tool).ip ∧
      (installed.provPrefix.toNat : Int) = (settings tool).prefixBits ∧
      (reply.prefixBits.toNat : Int) = (settings tool).prefixBits ∧
      installed.provGateway = (settings tool).gateway ∧ reply.gateway = (settings tool).gateway

/-- How an event of the history came about: the settings before it and behind it, and the
datagram that tells of it. -/
def BoardEvent.Follows (net : NetIf Iface) (before after : Prov Iface) (datagram : List Byte) :
    BoardEvent Iface → Prop
  | .discovered xid token =>
      after = { before with
        provXid := xid
        provToken := token } ∧
        datagram = encodeMessage (responseMessage after provOffer provOk xid)
  | .applied request result installed response =>
      applyConfig net before request = (result, installed) ∧
        after = (if result = 0 then { installed with provToken := 0#32 } else installed) ∧
        datagram = encodeMessage response

/-- What a step does to the settings and the history. Only an iteration of the thread changes
either: the mailbox comes first, and behind it the packet is one event of the history and its
response, or leaves the settings. -/
def HistoryFollows (net : NetIf Iface) (system next : ProvisionSystem Iface Tool) :
    ProvisionLabel Tool → Prop
  | .iterate jtag _ =>
      next.log = system.log ∧ next.prov = jtagApply net system.prov jtag ∨
        ∃ event datagram, next.log = system.log ++ [event] ∧
          next.sent = system.sent ++ [datagram] ∧
          event.Follows net (jtagApply net system.prov jtag) next.prov datagram
  | _ => next.log = system.log ∧ next.prov = system.prov

/-- The offer that is still open: a DISCOVER opens one and a success consumes it. -/
def openOffer (log : List (BoardEvent Iface)) : Option (BitVec 32 × BitVec 32) :=
  log.foldl (fun offer event =>
    match event with
    | .discovered xid token => some (xid, token)
    | .applied _ result _ _ => if result = 0 then none else offer) none

/-- An open offer is the last one, by induction on the history from its end. -/
theorem open_last (log : List (BoardEvent Iface)) {offer : BitVec 32 × BitVec 32}
    (opened : openOffer log = some offer) : lastOffer log = some offer := by
  induction log using List.reverseRecOn with
  | nil => cases opened
  | append_singleton log event inductionHypothesis =>
    rw [openOffer, List.foldl_append] at opened
    rw [lastOffer, List.foldl_append]
    cases event with
    | discovered xid token => exact opened
    | applied request result installed response =>
      simp only [List.foldl_cons, List.foldl_nil] at opened ⊢
      split at opened
      · cases opened
      · exact inductionHypothesis opened

/-- A closed offer stays closed until the next DISCOVER, whatever else is recorded. -/
theorem closed_until_discover (before middle : List (BoardEvent Iface))
    (closed : openOffer before = none) (quiet : ∀ event ∈ middle, event.discovers = false) :
    openOffer (before ++ middle) = none := by
  induction middle using List.reverseRecOn with
  | nil => simpa using closed
  | append_singleton middle event inductionHypothesis =>
    have earlier := inductionHypothesis fun other member =>
      quiet other (List.mem_append_left _ member)
    have here := quiet event (List.mem_append_right _ (List.mem_singleton_self _))
    rw [← List.append_assoc, openOffer, List.foldl_append]
    cases event with
    | discovered xid token => cases here
    | applied request result installed response =>
      simp only [List.foldl_cons, List.foldl_nil]
      split
      · rfl
      · exact earlier

/-- What the history records of the calls of `apply_config`: each answers the open offer, and a
success holds the requested settings and sends their ACK. -/
structure LogCorrect (mac : BitVec 48) (log : List (BoardEvent Iface)) : Prop where
  opened : ∀ before request result installed response after,
    log = before ++ .applied request result installed response :: after →
      request.op = provConfig ∧ request.mac = mac ∧ request.token ≠ 0#32 ∧
        openOffer before = some (request.xid, request.token)
  responded : ∀ request installed response, .applied request 0 installed response ∈ log →
    installed.Holds request ∧ installed.provMac = mac ∧
      response = responseMessage { installed with provToken := 0#32 } provAck provOk request.xid

/-- One more event keeps the history correct if it is itself recorded correctly on top of it. -/
theorem LogCorrect.append {mac : BitVec 48} {log : List (BoardEvent Iface)}
    {event : BoardEvent Iface} (correct : LogCorrect mac log)
    (opened : ∀ request result installed response,
      event = .applied request result installed response →
        request.op = provConfig ∧ request.mac = mac ∧ request.token ≠ 0#32 ∧
          openOffer log = some (request.xid, request.token))
    (responded : ∀ request installed response, event = .applied request 0 installed response →
      installed.Holds request ∧ installed.provMac = mac ∧ response =
        responseMessage { installed with provToken := 0#32 } provAck provOk request.xid) :
    LogCorrect mac (log ++ [event]) := by
  refine ⟨?_, ?_⟩
  · intro before request result installed response after split
    rcases split_recorded split with ⟨rfl, now⟩ | ⟨rest, earlier⟩
    · exact opened request result installed response now.symm
    · exact correct.opened before request result installed response rest earlier
  · intro request installed response member
    rcases List.mem_append.mp member with earlier | now
    · exact correct.responded request installed response earlier
    · exact responded request installed response (List.mem_singleton.mp now).symm

/-- A CONFIG that answers the board's offer: decoded from the datagram, for this board, with the
transaction and the token that the board has. -/
structure Answers (prov : Prov Iface) (buf : List Byte) (request : ProvMessage) : Prop where
  decoded : decodeMessage buf = some request
  op : request.op = provConfig
  mac : request.mac = prov.provMac
  xid : request.xid = prov.provXid
  token : request.token = prov.provToken
  nonzero : request.token ≠ 0#32

/-- The request of an application is one that answers the open offer of the history. -/
theorem Answers.opened {prov : Prov Iface} {buf : List Byte} {request : ProvMessage}
    {mac : BitVec 48} {log : List (BoardEvent Iface)} {result : Int} {installed : Prov Iface}
    {response : ProvMessage} (answers : Answers prov buf request) (board : prov.provMac = mac)
    (open_offer : openOffer log = some (prov.provXid, prov.provToken)) :
    ∀ other otherResult otherInstalled otherResponse,
      BoardEvent.applied request result installed response =
          .applied other otherResult otherInstalled otherResponse →
        other.op = provConfig ∧ other.mac = mac ∧ other.token ≠ 0#32 ∧
          openOffer log = some (other.xid, other.token) := by
  rintro other _ _ _ event
  obtain ⟨rfl, -, -, -⟩ := BoardEvent.applied.inj event
  refine ⟨answers.op, answers.mac.trans board, answers.nonzero, ?_⟩
  rw [answers.xid, answers.token]
  exact open_offer

/-- The cases of the loop's body: no answer, an offer, a refused configuration, or an application
with its result. -/
inductive HandleStep (net : NetIf Iface) (prov : Prov Iface) (cycles : BitVec 32)
    (buf : List Byte) : Handled Iface → Prop
  | silent : HandleStep net prov cycles buf ⟨prov, none, none⟩
  | discover (request : ProvMessage) (token : BitVec 32) (nonzero : token ≠ 0#32) :
      HandleStep net prov cycles buf
        ⟨{ prov with
            provXid := request.xid
            provToken := token },
          some (sendResponse { prov with
            provXid := request.xid
            provToken := token } provOffer provOk request.xid),
          some (.discovered request.xid token)⟩
  | refuse (status : Byte) (xid : BitVec 32) :
      HandleStep net prov cycles buf
        ⟨prov, some (sendResponse prov provNack status xid), none⟩
  | fail (request : ProvMessage) (answers : Answers prov buf request) (result : Int)
      (failed : result ≠ 0) (settings : Prov Iface) (same : prov.SameOffer settings)
      (response : ProvMessage) :
      HandleStep net prov cycles buf
        ⟨settings, some (sendResponse settings provNack provApplyFailed request.xid),
          some (.applied request result settings response)⟩
  | install (request : ProvMessage) (answers : Answers prov buf request)
      (settings : Prov Iface) (same : prov.SameOffer settings) (holds : settings.Holds request) :
      HandleStep net prov cycles buf
        ⟨{ settings with provToken := 0#32 },
          some (sendResponse { settings with provToken := 0#32 } provAck provOk request.xid),
          some (.applied request 0 settings
            (responseMessage { settings with provToken := 0#32 } provAck provOk request.xid))⟩

/-- An offer's token is never zero, for a zero mix is replaced. -/
theorem offer_nonzero (prov : Prov Iface) (cycles xid : BitVec 32) :
    offerToken prov cycles xid ≠ 0#32 := by
  unfold offerToken
  simp only
  split
  · decide
  · assumption

/-- Every run of the loop's body is one of these cases. Later proofs use the cases and do not
unfold the body. -/
theorem handle_step (net : NetIf Iface) (prov : Prov Iface) (cycles : BitVec 32)
    (buf : List Byte) :
    HandleStep net prov cycles buf (handlePacket net prov cycles buf) := by
  unfold handlePacket
  split
  · exact .silent
  rename_i request decoded
  split
  · exact .discover request _ (offer_nonzero prov cycles request.xid)
  split
  · exact .silent
  rename_i addressed
  split
  · exact .refuse _ _
  rename_i offered
  split
  · exact .refuse _ _
  have answers : Answers prov buf request := by
    simp only [not_or, not_not] at addressed offered
    exact ⟨decoded, addressed.1, addressed.2, offered.1, offered.2.2, offered.2.1⟩
  obtain ⟨same, applied⟩ := apply_cases net prov request
  simp only
  split
  · rename_i failed
    exact .fail request answers _ failed _ same _
  · rename_i succeeded
    have result : (applyConfig net prov request).1 = 0 := not_not.mp succeeded
    obtain ⟨-, -, holds⟩ | ⟨failed, -⟩ := applied
    · rw [result]
      exact .install request answers _ same holds
    · exact absurd result failed

/-- Whose packet a datagram is: a command's DISCOVER, a command's CONFIG for an offer of
its own transaction, or a response; an ACK is the response of a recorded success. -/
inductive Origin (settings : Tool → Host.Settings) (log : List (BoardEvent Iface))
    (datagram : List Byte) : Prop
  | discover (tool : Tool) (encoded : datagram =
      Host.encodeMessage (Host.discoverMessage (settings tool).xid))
  | config (tool : Tool) (offer : Host.Message) (own : offer.xid = (settings tool).xid)
      (encoded : datagram = Host.encodeMessage (Host.configMessage (settings tool) offer))
  | response (message : ProvMessage) (version : message.version = provVersion)
      (encoded : datagram = encodeMessage message)
      (kind : message.op = provOffer ∨ message.op = provNack ∨ message.op = provAck ∧
        ∃ request installed, .applied request 0 installed message ∈ log)

/-- The settings that a request of this transaction asks for. -/
def Requested (settings : Tool → Host.Settings) (request : ProvMessage) : Prop :=
  ∃ tool, request.xid = (settings tool).xid ∧ request.ip = (settings tool).ip ∧
    request.gateway = (settings tool).gateway ∧
    request.prefixBits = BitVec.ofInt 8 (settings tool).prefixBits

/-- A message of this transaction that a recorded success sent. -/
def Acknowledges (settings : Tool → Host.Settings) (log : List (BoardEvent Iface)) (tool : Tool)
    (message : Host.Message) : Prop :=
  message.xid = (settings tool).xid ∧
    ∃ request installed response, .applied request 0 installed response ∈ log ∧
      response.toHost = message

/-- What holds at a point of a command: the offers that it found are of its transaction, its
settings are valid, and what it reports was acknowledged. -/
def ToolFacts (settings : Tool → Host.Settings) (log : List (BoardEvent Iface)) (tool : Tool) :
    Host.Point → Prop
  | .start | .done none => True
  | .discovering found => ∀ message ∈ found, message.xid = (settings tool).xid
  | .configuring offer found => offer.xid = (settings tool).xid ∧
      Host.validateConfig (settings tool).ip (settings tool).prefixBits (settings tool).gateway =
        true ∧
      ∀ message ∈ found, Acknowledges settings log tool message
  | .done (some reply) => reply.status = provOk ∧
      Host.validateConfig (settings tool).ip (settings tool).prefixBits (settings tool).gateway =
        true ∧ Acknowledges settings log tool reply

/-- The invariant of provisioning: the board's offer is the open one of the history, and every
datagram under way has a known origin. -/
structure AgreementInvariant (mac : BitVec 48) (settings : Tool → Host.Settings)
    (system : ProvisionSystem Iface Tool) : Prop where
  board : system.prov.provMac = mac
  offer : system.prov.provToken ≠ 0#32 →
    openOffer system.log = some (system.prov.provXid, system.prov.provToken)
  count : system.log.countP BoardEvent.succeeds + (if system.prov.provToken = 0#32 then 0 else 1) ≤
    system.log.countP BoardEvent.discovers
  correct : LogCorrect mac system.log
  requested : ∀ request result installed response,
    .applied request result installed response ∈ system.log → Requested settings request
  origin : ∀ datagram ∈ system.sent, Origin settings system.log datagram
  queue : ∀ datagram ∈ system.queue, datagram ∈ system.sent
  tools : ∀ tool, ToolFacts settings system.log tool (system.hosts tool)

section Steps

variable {mac : BitVec 48} {settings : Tool → Host.Settings}
  {system next : ProvisionSystem Iface Tool} {log : List (BoardEvent Iface)}

/-- A longer history keeps what was acknowledged. -/
theorem Acknowledges.more {tool : Tool} {message : Host.Message} (more : List (BoardEvent Iface))
    (acknowledges : Acknowledges settings log tool message) :
    Acknowledges settings (log ++ more) tool message := by
  obtain ⟨own, request, installed, response, member, same⟩ := acknowledges
  exact ⟨own, request, installed, response, List.mem_append_left _ member, same⟩

/-- A longer history keeps what holds at a command's point. -/
theorem ToolFacts.more {tool : Tool} {point : Host.Point} (more : List (BoardEvent Iface))
    (facts : ToolFacts settings log tool point) :
    ToolFacts settings (log ++ more) tool point := by
  cases point with
  | start => trivial
  | discovering found => exact facts
  | configuring offer found =>
    exact ⟨facts.1, facts.2.1, fun message member => (facts.2.2 message member).more more⟩
  | done reply =>
    cases reply with
    | none => trivial
    | some reply => exact ⟨facts.1, facts.2.1, facts.2.2.more more⟩

/-- A longer history keeps the origin of a datagram. -/
theorem Origin.more {datagram : List Byte} (more : List (BoardEvent Iface))
    (origin : Origin settings log datagram) : Origin settings (log ++ more) datagram := by
  cases origin with
  | discover tool encoded => exact .discover tool encoded
  | config tool offer own encoded => exact .config tool offer own encoded
  | response message version encoded kind =>
    refine .response message version encoded ?_
    rcases kind with offer | nack | ⟨ack, request, installed, member⟩
    · exact .inl offer
    · exact .inr (.inl nack)
    · exact .inr (.inr ⟨ack, request, installed, List.mem_append_left _ member⟩)

/-- A CONFIG that the board decodes is a command's own, with the settings of this command. -/
theorem Origin.config_request {datagram : List Byte} (origin : Origin settings log datagram)
    {request : ProvMessage} (decoded : decodeMessage datagram = some request)
    (op : request.op = provConfig) : Requested settings request := by
  cases origin with
  | discover tool encoded =>
    rw [encoded, decode_host_encode] at decoded
    obtain rfl := Option.some.inj decoded
    cases op
  | config tool offer own encoded =>
    rw [encoded, decode_host_encode] at decoded
    obtain rfl := Option.some.inj decoded
    exact ⟨tool, own, rfl, rfl, rfl⟩
  | response message version encoded kind =>
    rw [encoded, decode_encode message version] at decoded
    obtain rfl := Option.some.inj decoded
    rcases kind with other | other | ⟨other, -⟩ <;> cases op.symm.trans other

/-- An ACK that a command decodes is the response of a recorded success, because nobody else
sends one. -/
theorem Origin.ack_recorded {datagram : List Byte} (origin : Origin settings log datagram)
    {message : Host.Message} (decoded : Host.decodeMessage (datagram.take 256) = some message)
    (op : message.op = provAck) :
    ∃ request installed response, .applied request 0 installed response ∈ log ∧
      response.toHost = message := by
  have whole {sent : ProvMessage} : (encodeMessage sent).take 256 = encodeMessage sent :=
    List.take_of_length_le (by rw [encoded_length]; decide)
  cases origin with
  | discover tool encoded =>
    rw [encoded, host_encode, whole, host_decode_encode _ rfl] at decoded
    obtain rfl := Option.some.inj decoded
    cases op
  | config tool offer own encoded =>
    rw [encoded, host_encode, whole, host_decode_encode _ rfl] at decoded
    obtain rfl := Option.some.inj decoded
    cases op
  | response sent version encoded kind =>
    rw [encoded, whole, host_decode_encode _ version] at decoded
    obtain rfl := Option.some.inj decoded
    rcases kind with other | other | ⟨-, request, installed, member⟩
    · cases op.symm.trans other
    · cases op.symm.trans other
    · exact ⟨request, installed, sent, member, rfl⟩

/-- A packet of known origin may be sent, and the rest of the invariant is about other things. -/
theorem send_change (invariant : AgreementInvariant mac settings system) {packet : List Byte}
    (known : Origin settings system.log packet) :
    AgreementInvariant mac settings { system with sent := system.sent ++ [packet] } := by
  obtain ⟨board, offer, count, correct, requested, origin, queue, tools⟩ := invariant
  refine ⟨board, offer, count, correct, requested, ?_, ?_, tools⟩
  · intro datagram member
    rcases List.mem_append.mp member with earlier | now
    · exact origin datagram earlier
    · exact List.mem_singleton.mp now ▸ known
  · intro datagram member
    exact List.mem_append_left _ (queue datagram member)

/-- A command may move to another point whose facts hold. -/
theorem tool_change [DecidableEq Tool] (invariant : AgreementInvariant mac settings system)
    (tool : Tool) (point : Host.Point) (facts : ToolFacts settings system.log tool point) :
    AgreementInvariant mac settings { system with
      hosts := Function.update system.hosts tool point } := by
  obtain ⟨board, offer, count, correct, requested, origin, queue, tools⟩ := invariant
  refine ⟨board, offer, count, correct, requested, origin, queue, ?_⟩
  intro other
  by_cases same : other = tool
  · subst same
    simpa only [Function.update_self] using facts
  · simpa only [Function.update_of_ne same] using tools other

/-- The mailbox may change the settings, and leaves the offer of the board. -/
theorem jtag_same (net : NetIf Iface) (prov : Prov Iface) (jtag : Option ProvMessage) :
    prov.SameOffer (jtagApply net prov jtag) := by
  cases jtag with
  | none => exact ⟨rfl, rfl, rfl⟩
  | some request =>
    simp only [jtagApply]
    split
    · exact ⟨rfl, rfl, rfl⟩
    · exact (apply_cases net prov request).1

/-- Settings with the same offer are as good for the invariant. -/
theorem same_offer (invariant : AgreementInvariant mac settings system) {prov : Prov Iface}
    (same : system.prov.SameOffer prov) :
    AgreementInvariant mac settings { system with prov := prov } := by
  obtain ⟨board, offer, count, correct, requested, origin, queue, tools⟩ := invariant
  obtain ⟨same_mac, same_xid, same_token⟩ := same
  refine ⟨same_mac.trans board, ?_, ?_, correct, requested, origin, queue, tools⟩
  · simpa only [same_xid, same_token] using offer
  · simpa only [same_token] using count

/-- Taking a packet from the queue leaves it among those that were sent. -/
theorem dequeue {buf : List Byte} {rest : List (List Byte)}
    (invariant : AgreementInvariant mac settings system) (here : system.queue = buf :: rest) :
    AgreementInvariant mac settings { system with queue := rest } := by
  obtain ⟨board, offer, count, correct, requested, origin, queue, tools⟩ := invariant
  refine ⟨board, offer, count, correct, requested, origin, ?_, tools⟩
  intro datagram member
  apply queue datagram
  rw [here]
  exact List.mem_cons_of_mem _ member

/-- The invariant behind an event of the board and its response, from what the event has to
record. -/
theorem board_change (invariant : AgreementInvariant mac settings system) {prov : Prov Iface}
    {event : BoardEvent Iface} {message : ProvMessage} (board : prov.provMac = mac)
    (offer : prov.provToken ≠ 0#32 →
      openOffer (system.log ++ [event]) = some (prov.provXid, prov.provToken))
    (count : (system.log ++ [event]).countP BoardEvent.succeeds +
      (if prov.provToken = 0#32 then 0 else 1) ≤
        (system.log ++ [event]).countP BoardEvent.discovers)
    (correct : LogCorrect mac (system.log ++ [event]))
    (requested : ∀ request result installed response,
      event = .applied request result installed response → Requested settings request)
    (origin : Origin settings (system.log ++ [event]) (encodeMessage message)) :
    AgreementInvariant mac settings { system with
      prov := prov
      sent := system.sent ++ [encodeMessage message]
      log := system.log ++ [event] } := by
  refine ⟨board, offer, count, correct, ?_, ?_, ?_, fun tool => (invariant.tools tool).more _⟩
  · intro request result installed response member
    rcases List.mem_append.mp member with earlier | now
    · exact invariant.requested request result installed response earlier
    · exact requested request result installed response (List.mem_singleton.mp now).symm
  · intro datagram member
    rcases List.mem_append.mp member with earlier | now
    · exact (invariant.origin datagram earlier).more _
    · rw [List.mem_singleton.mp now]
      exact origin
  · intro datagram member
    exact List.mem_append_left _ (invariant.queue datagram member)

/-- A packet from the network keeps the invariant, one case for each of the loop's body. -/
theorem handle_change (net : NetIf Iface) (cycles : BitVec 32) {buf : List Byte}
    (invariant : AgreementInvariant mac settings system) (sent : buf ∈ system.sent) :
    AgreementInvariant mac settings { system with
      prov := (handlePacket net system.prov cycles buf).prov
      sent := system.sent ++
        ((handlePacket net system.prov cycles buf).frame.map udpPayload).toList
      log := system.log ++ (handlePacket net system.prov cycles buf).event.toList } := by
  have step := handle_step net system.prov cycles buf
  generalize handlePacket net system.prov cycles buf = handled at step ⊢
  have origin := invariant.origin buf sent
  cases step with
  | silent => simpa using invariant
  | discover request token nonzero =>
    refine board_change invariant invariant.board ?_ ?_ ?_ ?_ ?_
    · intro _
      simp [openOffer, List.foldl_append]
    · have count := invariant.count
      simp only [List.countP_append, List.countP_singleton, BoardEvent.succeeds,
        BoardEvent.discovers, if_neg nonzero, Bool.false_eq_true, if_false, if_true]
      split at count <;> omega
    · apply invariant.correct.append
      · exact fun _ _ _ _ impossible => nomatch impossible
      · exact fun _ _ _ impossible => nomatch impossible
    · exact fun _ _ _ _ impossible => nomatch impossible
    · exact .response _ rfl rfl (.inl rfl)
  | refuse status xid =>
    have response : Origin settings system.log
        (encodeMessage (responseMessage system.prov provNack status xid)) :=
      .response _ rfl rfl (.inr (.inl rfl))
    simpa [response_payload] using send_change invariant response
  | fail request answers result failed installed same response =>
    obtain ⟨same_mac, same_xid, same_token⟩ := same
    have open_offer := invariant.offer (answers.token ▸ answers.nonzero)
    refine board_change invariant (same_mac.trans invariant.board) ?_ ?_ ?_ ?_ ?_
    · intro nonzero
      rw [openOffer, List.foldl_append]
      simp only [List.foldl_cons, List.foldl_nil, if_neg failed, same_xid, same_token]
      exact open_offer
    · simpa [BoardEvent.succeeds, BoardEvent.discovers, failed, same_token] using invariant.count
    · apply invariant.correct.append
      · exact answers.opened invariant.board open_offer
      · rintro other _ _ event
        exact absurd (BoardEvent.applied.inj event).2.1 failed
    · rintro other _ _ _ event
      obtain ⟨rfl, -, -, -⟩ := BoardEvent.applied.inj event
      exact origin.config_request answers.decoded answers.op
    · exact .response _ rfl rfl (.inr (.inl rfl))
  | install request answers installed same holds =>
    obtain ⟨same_mac, same_xid, same_token⟩ := same
    have nonzero : system.prov.provToken ≠ 0#32 := answers.token ▸ answers.nonzero
    have open_offer := invariant.offer nonzero
    have board : installed.provMac = mac := same_mac.trans invariant.board
    refine board_change invariant board ?_ ?_ ?_ ?_ ?_
    · exact fun used => absurd rfl used
    · have count := invariant.count
      rw [if_neg nonzero] at count
      simpa [BoardEvent.succeeds, BoardEvent.discovers] using count
    · apply invariant.correct.append
      · exact answers.opened invariant.board open_offer
      · rintro other _ _ event
        obtain ⟨rfl, -, rfl, rfl⟩ := BoardEvent.applied.inj event
        exact ⟨holds, board, rfl⟩
    · rintro other _ _ _ event
      obtain ⟨rfl, -, -, -⟩ := BoardEvent.applied.inj event
      exact origin.config_request answers.decoded answers.op
    · refine .response _ rfl rfl (.inr (.inr ⟨rfl, request, installed, ?_⟩))
      exact List.mem_append_right _ (List.mem_singleton_self _)

/-- What an exchange for acknowledgements finds is acknowledged by the board, since the exchange
keeps only ACKs of its own transaction. -/
theorem receive_acknowledged {tool : Tool} {offer : Host.Message} {found : List Host.Message}
    {datagram : List Byte} (own : offer.xid = (settings tool).xid)
    (known : ∀ message ∈ found, Acknowledges settings log tool message)
    (origin : Origin settings log datagram) :
    ∀ message ∈ (Host.exchangeReceive offer.xid provAck (some offer.mac) found datagram).1,
      Acknowledges settings log tool message := by
  intro message member
  rcases Host.exchange_member member with old | ⟨decoded, same, op⟩
  · exact known message old
  · exact ⟨same.trans own, origin.ack_recorded decoded op⟩

/-- What a command reports at its end is acknowledged, because it reports what its exchange has
found. -/
theorem conclude_facts {tool : Tool} {offer : Host.Message} {found : List Host.Message}
    (facts : ToolFacts settings log tool (.configuring offer found)) :
    ToolFacts settings log tool (.done (Host.conclude offer found)) := by
  obtain ⟨-, valid, known⟩ := facts
  cases reported : Host.conclude offer found with
  | none => trivial
  | some reply =>
    obtain ⟨member, status, -⟩ := Host.conclude_member reported
    exact ⟨status, valid, known reply member⟩

variable [DecidableEq Tool] {net : NetIf Iface} {tool : Tool}

/-- A command that starts sends its DISCOVER and waits for offers, with none found yet. -/
theorem begin_step (invariant : AgreementInvariant mac settings system)
    (taken : provisionStep net settings system (.begin tool) = some next) :
    AgreementInvariant mac settings next := by
  simp only [provisionStep] at taken
  split at taken
  · obtain rfl := Option.some.inj taken
    have started := tool_change invariant tool (.discovering [])
      (fun _ impossible => absurd impossible List.not_mem_nil)
    exact send_change started (.discover tool rfl)
  · cases taken

/-- A datagram that reaches a command adds to what it has found, and may end its second
exchange. -/
theorem receive_step {datagram : List Byte} (invariant : AgreementInvariant mac settings system)
    (taken : provisionStep net settings system (.receive tool datagram) = some next) :
    AgreementInvariant mac settings next := by
  simp only [provisionStep] at taken
  split at taken
  · rename_i sent
    have origin := invariant.origin datagram sent
    have facts := invariant.tools tool
    split at taken
    · rename_i found here
      obtain rfl := Option.some.inj taken
      rw [here] at facts
      apply tool_change invariant tool
      intro message member
      rcases Host.exchange_member member with old | ⟨-, own, -⟩
      · exact facts message old
      · exact own
    · rename_i offer found here
      obtain rfl := Option.some.inj taken
      rw [here] at facts
      obtain ⟨own, valid, known⟩ := facts
      have received : ToolFacts settings system.log tool (.configuring offer
          (Host.exchangeReceive offer.xid provAck (some offer.mac) found datagram).1) :=
        ⟨own, valid, receive_acknowledged own known origin⟩
      apply tool_change invariant tool
      split
      · exact conclude_facts received
      · exact received
    · cases taken
  · cases taken

/-- At its deadline a command gives up, chooses an offer and sends its CONFIG, or concludes. -/
theorem timeout_step (invariant : AgreementInvariant mac settings system)
    (taken : provisionStep net settings system (.timeout tool) = some next) :
    AgreementInvariant mac settings next := by
  simp only [provisionStep] at taken
  have facts := invariant.tools tool
  split at taken
  · rename_i found here
    rw [here] at facts
    split at taken
    · obtain rfl := Option.some.inj taken
      exact tool_change invariant tool _ trivial
    · rename_i offer chosen
      obtain rfl := Option.some.inj taken
      obtain ⟨member, valid⟩ := Host.choose_member chosen
      have own : offer.xid = (settings tool).xid := facts offer member
      have configured := tool_change invariant tool (.configuring offer [])
        ⟨own, valid, fun _ impossible => absurd impossible List.not_mem_nil⟩
      exact send_change configured (.config tool offer own rfl)
  · rename_i offer found here
    obtain rfl := Option.some.inj taken
    rw [here] at facts
    exact tool_change invariant tool _ (conclude_facts facts)
  · cases taken

/-- A packet that reaches the board was sent, and so is what the queue holds behind it. -/
theorem ingress_step {datagram : List Byte} (invariant : AgreementInvariant mac settings system)
    (taken : provisionStep net settings system (.ingress datagram) = some next) :
    AgreementInvariant mac settings next := by
  simp only [provisionStep] at taken
  split at taken
  · rename_i sent
    obtain rfl := Option.some.inj taken
    obtain ⟨board, offer, count, correct, requested, origin, queue, tools⟩ := invariant
    refine ⟨board, offer, count, correct, requested, origin, ?_, tools⟩
    intro packet member
    simp only [emaczProvisionIngress] at member
    split_ifs at member
    · exact queue packet member
    · rcases List.mem_append.mp member with earlier | now
      · exact queue packet earlier
      · exact List.mem_singleton.mp now ▸ sent
    · exact queue packet member
  · cases taken

/-- An iteration of the thread polls the mailbox, which keeps the offer, and handles a packet
that was sent. -/
theorem iterate_step {jtag : Option ProvMessage} {cycles : BitVec 32}
    (invariant : AgreementInvariant mac settings system)
    (taken : provisionStep net settings system (.iterate jtag cycles) = some next) :
    AgreementInvariant mac settings next := by
  obtain rfl := Option.some.inj taken
  have polled := same_offer invariant (jtag_same net system.prov jtag)
  cases here : system.queue with
  | nil => simpa only [iterateBoard, here] using polled
  | cons buf rest =>
    have sent : buf ∈ system.sent := invariant.queue buf (here ▸ List.mem_cons_self)
    simpa only [iterateBoard, here] using
      handle_change net cycles (dequeue polled here) sent

/-- Every step keeps the invariant: the commands by their points, the network by the origin of
its datagrams, and the board by its cases. -/
theorem provision_step {label : ProvisionLabel Tool}
    (invariant : AgreementInvariant mac settings system)
    (taken : provisionStep net settings system label = some next) :
    AgreementInvariant mac settings next := by
  cases label with
  | begin tool => exact begin_step invariant taken
  | receive tool datagram => exact receive_step invariant taken
  | timeout tool => exact timeout_step invariant taken
  | ingress datagram => exact ingress_step invariant taken
  | iterate jtag cycles => exact iterate_step invariant taken

/-- A handled packet is recorded as what it did, or did nothing to the settings. The cases are
those of the loop's body. -/
theorem handle_follows (net : NetIf Iface) (prov : Prov Iface) (cycles : BitVec 32)
    (buf : List Byte) :
    let handled := handlePacket net prov cycles buf
    handled.event = none ∧ handled.prov = prov ∨
      ∃ event frame, handled.event = some event ∧ handled.frame = some frame ∧
        event.Follows net prov handled.prov (udpPayload frame) := by
  unfold handlePacket
  dsimp only
  split
  · exact .inl ⟨rfl, rfl⟩
  rename_i request decoded
  split
  · exact .inr ⟨_, _, rfl, rfl, rfl, rfl⟩
  split
  · exact .inl ⟨rfl, rfl⟩
  split
  · exact .inl ⟨rfl, rfl⟩
  split
  · exact .inl ⟨rfl, rfl⟩
  split
  · rename_i failed
    exact .inr ⟨_, _, rfl, rfl, rfl, (if_neg failed).symm, rfl⟩
  · rename_i succeeded
    exact .inr ⟨_, _, rfl, rfl, rfl, (if_pos (not_not.mp succeeded)).symm, rfl⟩

/-- Every step records what it did to the settings: the board's settings behind a step are those
of the event that the step adds, if it adds one. -/
theorem history_follows {label : ProvisionLabel Tool}
    (taken : provisionStep net settings system label = some next) :
    HistoryFollows net system next label := by
  cases label with
  | iterate jtag cycles =>
    obtain rfl := Option.some.inj taken
    unfold iterateBoard HistoryFollows
    dsimp only
    split
    · exact .inl ⟨rfl, rfl⟩
    · rename_i buf rest waiting
      rcases handle_follows net (jtagApply net system.prov jtag) cycles buf with
        ⟨silent, same⟩ | ⟨event, frame, recorded, answered, follows⟩
      · exact .inl ⟨by simp [silent], same⟩
      · exact .inr ⟨event, _, by simp [recorded], by simp [answered], follows⟩
  | begin tool | ingress datagram =>
    simp only [provisionStep] at taken
    split at taken
    · obtain rfl := Option.some.inj taken
      exact ⟨rfl, rfl⟩
    · cases taken
  | receive tool datagram =>
    simp only [provisionStep] at taken
    split at taken
    · split at taken
      · obtain rfl := Option.some.inj taken
        exact ⟨rfl, rfl⟩
      · obtain rfl := Option.some.inj taken
        exact ⟨rfl, rfl⟩
      · cases taken
    · cases taken
  | timeout tool =>
    simp only [provisionStep] at taken
    split at taken
    · split at taken
      · obtain rfl := Option.some.inj taken
        exact ⟨rfl, rfl⟩
      · obtain rfl := Option.some.inj taken
        exact ⟨rfl, rfl⟩
    · obtain rfl := Option.some.inj taken
      exact ⟨rfl, rfl⟩
    · cases taken

end Steps

/-- At the start nothing was sent and nothing recorded, and the board has no offer. -/
theorem provision_initial (settings : Tool → Host.Settings) (prov : Prov Iface) :
    AgreementInvariant prov.provMac settings (provisionInitial prov) where
  board := rfl
  offer nonzero := absurd rfl nonzero
  count := Nat.le_refl _
  correct := by
    refine ⟨?_, fun _ _ _ member => absurd member List.not_mem_nil⟩
    intro before request result installed response after split
    cases before <;> cases split
  requested _ _ _ _ member := absurd member List.not_mem_nil
  origin _ member := absurd member List.not_mem_nil
  queue _ member := absurd member List.not_mem_nil
  tools _ := trivial

/-- In every run the board applies only under its last offer and once under each, and what a
command with its own transaction identifier reports was installed for it. From every state
reached, what a step records is what it does to the settings.

Proof: the board's offer is the open one of the history, and every datagram under way has a known
origin. That an offer serves once follows, since an application closes the offer and only a
discovery opens another. -/
theorem provisioning_agreement [DecidableEq Tool] (net : NetIf Iface)
    (settings : Tool → Host.Settings)
    (distinct : ∀ left right, (settings left).xid = (settings right).xid → left = right)
    (prov : Prov Iface) (system : ProvisionSystem Iface Tool)
    (run : Run (provisionStep net settings) Unrestricted (provisionInitial prov) system) :
    Agreement prov.provMac settings system ∧
      ∀ label next, provisionStep net settings system label = some next →
        HistoryFollows net system next label := by
  have invariant : AgreementInvariant prov.provMac settings system :=
    run.invariant (AgreementInvariant prov.provMac settings) (provision_initial settings prov)
      (fun _ _ _ invariant _ taken => provision_step invariant taken)
  refine ⟨⟨?_, ?_, ?_, ?_⟩, fun _ _ taken => history_follows taken⟩
  · intro before request result installed response after split
    obtain ⟨op, mac, nonzero, opened⟩ :=
      invariant.correct.opened before request result installed response after split
    exact ⟨op, mac, nonzero, open_last before opened⟩
  · exact Nat.le_trans (Nat.le_add_right _ _) invariant.count
  · intro before first installed response middle second result installed' response' after split
    by_contra none
    have quiet : ∀ event ∈ middle, event.discovers = false := by
      intro event member
      by_contra discovers
      exact none ⟨event, member, Bool.not_eq_false _ ▸ discovers⟩
    have closed : openOffer (before ++ [.applied first 0 installed response]) = Option.none := by
      simp [openOffer, List.foldl_append]
    have still := closed_until_discover _ middle closed quiet
    rw [List.append_assoc, List.singleton_append] at still
    have opened := (invariant.correct.opened _ second result installed' response' after split).2.2.2
    rw [still] at opened
    cases opened
  · intro tool reply reported
    have facts := invariant.tools tool
    rw [reported] at facts
    obtain ⟨status, valid, own, request, installed, response, member, rfl⟩ := facts
    obtain ⟨holds, mac, rfl⟩ := invariant.correct.responded request installed response member
    obtain ⟨asker, asked_xid, ip, gateway, length⟩ :=
      invariant.requested request 0 installed _ member
    obtain rfl : asker = tool := distinct asker tool (asked_xid.symm.trans own)
    obtain ⟨attached, same_ip, same_gateway, same_length⟩ := holds
    have exact_length : (installed.provPrefix.toNat : Int) = (settings asker).prefixBits := by
      rw [same_length, length]
      exact Host.valid_prefix valid
    exact ⟨request, installed, _, member, rfl, rfl, rfl, mac, own, attached, same_ip.trans ip,
      same_ip.trans ip, exact_length, exact_length, same_gateway.trans gateway,
      same_gateway.trans gateway⟩

/-- Two commands for 10.0.0.2/24 and 10.0.0.3/24, for the witness. -/
def twoTools (tool : Bool) : Host.Settings :=
  if tool then ⟨none, 0x0a000003#32, 24, 0#32, 9#32⟩ else ⟨none, 0x0a000002#32, 24, 0#32, 7#32⟩

/-- The board with the offer it makes to the first command at cycle 0. -/
def offeringProv : Prov Unit :=
  { bootProv with
    provXid := 7#32
    provToken := offerToken bootProv 0#32 7#32 }

/-- The board's offer to the first command. -/
def firstOffer : ProvMessage := responseMessage offeringProv provOffer provOk 7#32

/-- The CONFIG by which the first command answers that offer. -/
def firstConfig : List Byte :=
  Host.encodeMessage (Host.configMessage (twoTools false) firstOffer.toHost)

/-- The response to the first command's CONFIG, with the settings that it asked for. -/
def firstAck : ProvMessage :=
  responseMessage { offeringProv with
    provAddr := 0x0a000002#32
    provPrefix := 24#8
    provToken := 0#32 } provAck provOk 7#32

/-- The first command is configured; the copy of its CONFIG that follows is not applied,
while the mailbox fails to apply a useless request and the second command waits. -/
theorem provisioning_agreement_configured :
    ∃ system, Run (provisionStep steadyNet twoTools) Unrestricted (provisionInitial bootProv)
        system ∧
      system.hosts false = .done (some firstAck.toHost) ∧
      system.log.map BoardEvent.succeeds = [false, true] ∧ system.queue = [] ∧
      Agreement bootProv.provMac twoTools system := by
  obtain ⟨system, run, reached⟩ := run_of_execution (provisionStep steadyNet twoTools)
    (fun _ _ => true) (provisionInitial bootProv)
    [.begin false, .begin true, .ingress (Host.encodeMessage (Host.discoverMessage 7#32)),
      .iterate none 0#32, .receive false (encodeMessage firstOffer), .timeout false,
      .ingress firstConfig, .ingress firstConfig, .iterate none 0#32,
      .iterate (some (pollRequest bootProv 0#32 0#32 0#32)) 0#32,
      .receive false (encodeMessage firstAck)]
    (fun system => decide (system.hosts false = .done (some firstAck.toHost) ∧
      system.log.map BoardEvent.succeeds = [false, true] ∧ system.queue = []))
    (fun _ _ _ => trivial) (by decide +kernel)
  obtain ⟨reported, log, queue⟩ := of_decide_eq_true reached
  exact ⟨system, run, reported, log, queue,
    (provisioning_agreement steadyNet twoTools (by decide) bootProv system run).1⟩

end EmaczZephyr.Provision
