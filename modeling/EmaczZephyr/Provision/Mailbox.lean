import EmaczZephyr.Foundation.Runs
import EmaczZephyr.Provision.ApplyConfig

/-!
# The JTAG mailbox

The block of eight words in uncached memory, the host that stages and publishes
requests in it, and `poll_jtag_mailbox`. Every access to a word is a step of its own.
The board may be reset at any step, which clears its two static variables and leaves
the block; something may overwrite `magic` at any time; and between two polls the
network path may have changed the board's settings in any way.

What is shown is that a published request is serviced from its own words, is not
serviced again behind its acknowledgement, and gets its own result. That the board
ever polls is not shown. A block that holds a request nobody published cannot be told
from a pending one, so the start is a block whose last epoch is acknowledged.
-/

namespace EmaczZephyr.Provision

open Runs BigEndian

/-- `struct emacz_jtag_mailbox`, the block of words that the host writes over JTAG, with its two
words for the board. -/
structure Mailbox where
  magic : BitVec 32
  epoch : BitVec 32
  ip : BitVec 32
  gateway : BitVec 32
  prefixBits : BitVec 32
  reserved : BitVec 32
  ackEpoch : BitVec 32
  status : Int

/-- `EMACZ_JTAG_MAILBOX_MAGIC`, by which the board knows that a host has used the block. -/
def mailboxMagic : BitVec 32 := 0x50525856#32

/-- What the host asks for, and the epoch it publishes it under. -/
structure MailboxRequest where
  ip : BitVec 32
  gateway : BitVec 32
  prefixBits : BitVec 32
  epoch : BitVec 32
deriving DecidableEq

/-- The words that the host writes before the epoch, in any order. -/
inductive StagedWord where
  | magic
  | ip
  | gateway
  | prefixBits
  | reserved
deriving DecidableEq

/-- One word of a request is written to the block, and the others are as they were. -/
def MailboxRequest.stage (request : MailboxRequest) (mailbox : Mailbox) : StagedWord → Mailbox
  | .magic => { mailbox with magic := mailboxMagic }
  | .ip => { mailbox with ip := request.ip }
  | .gateway => { mailbox with gateway := request.gateway }
  | .prefixBits => { mailbox with prefixBits := request.prefixBits }
  | .reserved => { mailbox with reserved := 0#32 }

/-- Where the host is: at rest, writing a request, waiting for its acknowledgement, or about to
read the status. -/
inductive HostPoint where
  | idle
  | staging (request : MailboxRequest) (written : List StagedWord)
  | waiting (request : MailboxRequest)
  /-- It has read its epoch from `ack_epoch` and reads `status` next. -/
  | acknowledged (request : MailboxRequest)
deriving DecidableEq

/-- Where `poll_jtag_mailbox` is: the access it makes next, with its local variables. -/
inductive PollPoint where
  | away
  | magic
  | epoch
  | ackEpoch (epoch : BitVec 32)
  | ip (epoch : BitVec 32)
  | gateway (epoch ip : BitVec 32)
  | prefixBits (epoch ip gateway : BitVec 32)
  | apply (epoch : BitVec 32) (request : ProvMessage)
  | status (epoch : BitVec 32) (result : Int)
  | acknowledge (epoch : BitVec 32)
  | finish (epoch : BitVec 32)
deriving DecidableEq

/-- What happened to the requests, numbered in the order of publication. -/
inductive MailboxEvent where
  | published (number : Nat) (request : MailboxRequest)
  /-- Checked, and handed to `apply_config` if usable. -/
  | serviced (number : Nat) (request : ProvMessage) (result : Int)
  | acknowledged (number : Nat)
  | observed (number : Nat) (status : Int)
deriving DecidableEq

/-- The block, the host, the board and the history: the number of requests published
and what happened to them. -/
structure MailboxSystem (Iface : Type) where
  mailbox : Mailbox
  host : HostPoint
  armed : Bool
  lastAppliedEpoch : BitVec 32
  poll : PollPoint
  prov : Prov Iface
  number : Nat
  log : List MailboxEvent

/-- What can happen next: a step of the host, an access of the board's poll, a change of the
settings over the network, a lost identity word, or a reset. -/
inductive MailboxLabel (Iface : Type) where
  | begin (request : MailboxRequest)
  | stage (word : StagedWord)
  | publish
  | readAck
  | readStatus
  | dropOut (magic : BitVec 32)
  | poll
  | access
  | network (prov : Prov Iface)
  | reset (prov : Prov Iface)

variable {Iface : Type}

/-- The request that `poll_jtag_mailbox` makes of the words it read. -/
def pollRequest (prov : Prov Iface) (ip gateway prefixBits : BitVec 32) : ProvMessage where
  version := 0#8
  op := 0#8
  status := 0#8
  prefixBits := prefixBits.setWidth 8
  xid := 0#32
  mac := prov.provMac
  ip := ip
  gateway := gateway
  token := 0#32

/-- The next access of `poll_jtag_mailbox` to the block, one word each, in the order of the
source. -/
def pollAccess (net : NetIf Iface) (system : MailboxSystem Iface) :
    PollPoint → Option (MailboxSystem Iface)
  | .away => none
  | .magic =>
      if system.mailbox.magic ≠ mailboxMagic then
        some { system with
          armed := false
          poll := .away }
      else some { system with poll := .epoch }
  | .epoch =>
      let epoch := system.mailbox.epoch
      if system.armed = false then
        some { system with
          armed := true
          poll := .ackEpoch epoch }
      else if epoch = system.lastAppliedEpoch then some { system with poll := .away }
      else some { system with poll := .ip epoch }
  | .ackEpoch epoch =>
      if system.mailbox.ackEpoch = epoch then
        some { system with
          lastAppliedEpoch := epoch
          poll := .away }
      else some { system with poll := .ip epoch }
  | .ip epoch => some { system with poll := .gateway epoch system.mailbox.ip }
  | .gateway epoch ip => some { system with poll := .prefixBits epoch ip system.mailbox.gateway }
  | .prefixBits epoch ip gateway =>
      some { system with
        poll := .apply epoch (pollRequest system.prov ip gateway system.mailbox.prefixBits) }
  | .apply epoch request =>
      if addrIsUsable request.ip request.prefixBits request.gateway = false then
        some { system with
          poll := .status epoch (-einval)
          log := system.log ++ [.serviced system.number request (-einval)] }
      else
        let (ret, prov) := applyConfig net system.prov request
        some { system with
          prov := prov
          poll := .status epoch ret
          log := system.log ++ [.serviced system.number request ret] }
  | .status epoch result =>
      some { system with
        mailbox := { system.mailbox with status := result }
        poll := .acknowledge epoch }
  | .acknowledge epoch =>
      some { system with
        mailbox := { system.mailbox with ackEpoch := epoch }
        poll := .finish epoch
        log := system.log ++ [.acknowledged system.number] }
  | .finish epoch =>
      some { system with
        lastAppliedEpoch := epoch
        poll := .away }

/-- The words that must be staged before the epoch is written. -/
def stagedWords : List StagedWord := [.magic, .ip, .gateway, .prefixBits, .reserved]

/-- One step of the host, of the board or of what surrounds them. -/
def mailboxStep (net : NetIf Iface) (system : MailboxSystem Iface) :
    MailboxLabel Iface → Option (MailboxSystem Iface)
  | .begin request =>
      if system.host = .idle then some { system with host := .staging request [] } else none
  | .stage word =>
      match system.host with
      | .staging request written =>
          some { system with
            mailbox := request.stage system.mailbox word
            host := .staging request (word :: written) }
      | _ => none
  | .publish =>
      match system.host with
      | .staging request written =>
          if stagedWords ⊆ written ∧ request.epoch ≠ system.mailbox.epoch then
            some { system with
              mailbox := { system.mailbox with epoch := request.epoch }
              host := .waiting request
              number := system.number + 1
              log := system.log ++ [.published (system.number + 1) request] }
          else none
      | _ => none
  | .readAck =>
      match system.host with
      | .waiting request =>
          if system.mailbox.ackEpoch = request.epoch then
            some { system with host := .acknowledged request }
          else none
      | _ => none
  | .readStatus =>
      match system.host with
      | .acknowledged _ =>
          some { system with
            host := .idle
            log := system.log ++ [.observed system.number system.mailbox.status] }
      | _ => none
  | .dropOut magic =>
      some { system with mailbox := { system.mailbox with magic := magic } }
  | .poll => if system.poll = .away then some { system with poll := .magic } else none
  | .access => pollAccess net system system.poll
  | .network prov => if system.poll = .away then some { system with prov := prov } else none
  | .reset prov =>
      some { system with
        armed := false
        lastAppliedEpoch := 0#32
        poll := .away
        prov := prov }

/-- A booted board, an idle host and a block with some content. -/
def mailboxInitial (mailbox : Mailbox) (prov : Prov Iface) : MailboxSystem Iface where
  mailbox := mailbox
  host := .idle
  armed := false
  lastAppliedEpoch := 0#32
  poll := .away
  prov := prov
  number := 0
  log := []

/-- The result of a request's last service in the history. -/
def lastResult (number : Nat) (log : List MailboxEvent) : Option Int :=
  log.foldl (fun result event =>
    match event with
    | .serviced served _ status => if served = number then some status else result
    | _ => result) none

/-- A serviced request is made of the words of a published one. The request has a byte for
the prefix: a prefix word that fits it comes through whole, and of a larger one nothing is
said. -/
def MadeOf (request : ProvMessage) (asked : MailboxRequest) : Prop :=
  request.ip = asked.ip ∧ request.gateway = asked.gateway ∧
    (asked.prefixBits.toNat < 256 → request.prefixBits.toNat = asked.prefixBits.toNat)

/-- What the history shows: services of published requests as they were asked, none after the
acknowledgement, and statuses that belong to them. -/
structure HandshakeCorrect (log : List MailboxEvent) : Prop where
  whole : ∀ number request result, .serviced number request result ∈ log →
    ∃ asked, .published number asked ∈ log ∧ MadeOf request asked
  once : log.Pairwise fun earlier later => ∀ number request result,
    earlier = .acknowledged number → later ≠ .serviced number request result
  answered : ∀ before number status after, log = before ++ .observed number status :: after →
    .acknowledged number ∈ before ∧ lastResult number before = some status

/-- How a service with a logged result leaves the settings: an unusable request is refused and
changes nothing, and a usable one leaves what `apply_config` returned with that result. -/
def ServicedFrom (net : NetIf Iface) (before after : Prov Iface) (request : ProvMessage)
    (result : Int) : Prop :=
  if addrIsUsable request.ip request.prefixBits request.gateway = false then
    result = -einval ∧ after = before
  else applyConfig net before request = (result, after)

/-- A step that leaves the settings and logs no service. -/
def Silent (system next : MailboxSystem Iface) : Prop :=
  next.prov = system.prov ∧ ∀ number request result,
    next.log ≠ system.log ++ [.serviced number request result]

/-- What a step does to the settings. Only an access of the poll logs a service, which then
accounts for the settings behind it; otherwise they are those from before the step, or those
that the network path or a reset brings. -/
def SettingsFollow (net : NetIf Iface) (system next : MailboxSystem Iface) :
    MailboxLabel Iface → Prop
  | .network prov | .reset prov => next.prov = prov ∧ next.log = system.log
  | .access =>
      Silent system next ∨ ∃ request result,
        next.log = system.log ++ [.serviced system.number request result] ∧
          ServicedFrom net system.prov next.prov request result
  | _ => Silent system next

/-- The number of the request that an event is about. -/
def MailboxEvent.number : MailboxEvent → Nat
  | .published number _ | .serviced number _ _ | .acknowledged number | .observed number _ => number

/-- A service that was just recorded is the last one. -/
theorem last_result_serviced (number : Nat) (log : List MailboxEvent) (request : ProvMessage)
    (result : Int) :
    lastResult number (log ++ [.serviced number request result]) = some result := by
  simp [lastResult, List.foldl_append]

/-- Other events leave the last result of a request. -/
theorem last_result_other {number : Nat} {log : List MailboxEvent} {event : MailboxEvent}
    (other : ∀ request result, event ≠ .serviced number request result) :
    lastResult number (log ++ [event]) = lastResult number log := by
  rw [lastResult, List.foldl_append]
  cases event with
  | serviced served request result =>
    have different : served ≠ number := by
      rintro rfl
      exact other request result rfl
    simp [different, lastResult]
  | _ => rfl

/-- One more event keeps the history correct when it is itself in order: a service of an
unacknowledged request, or a status of an acknowledged one. -/
theorem HandshakeCorrect.append {log : List MailboxEvent} {event : MailboxEvent}
    (correct : HandshakeCorrect log)
    (serves : ∀ number request result, event = .serviced number request result →
      .acknowledged number ∉ log ∧ ∃ asked, .published number asked ∈ log ∧ MadeOf request asked)
    (answers : ∀ number status, event = .observed number status →
      .acknowledged number ∈ log ∧ lastResult number log = some status) :
    HandshakeCorrect (log ++ [event]) := by
  obtain ⟨whole, once, answered⟩ := correct
  refine ⟨?_, ?_, ?_⟩
  · intro number request result member
    rcases List.mem_append.mp member with earlier | now
    · obtain ⟨asked, published, made⟩ := whole number request result earlier
      exact ⟨asked, List.mem_append_left _ published, made⟩
    · obtain ⟨-, asked, published, made⟩ :=
        serves number request result (List.mem_singleton.mp now).symm
      exact ⟨asked, List.mem_append_left _ published, made⟩
  · refine List.pairwise_append.mpr ⟨once, List.pairwise_singleton _ _, ?_⟩
    rintro earlier member later now number request result rfl rfl
    exact (serves number request result (List.mem_singleton.mp now).symm).1 member
  · intro before number status after split
    rcases split_recorded split with ⟨rfl, now⟩ | ⟨rest, earlier⟩
    · exact answers number status now.symm
    · exact answered before number status rest earlier

/-- The words of a request that are in the block. -/
def Staged (request : MailboxRequest) (mailbox : Mailbox) : StagedWord → Prop
  | .ip => mailbox.ip = request.ip
  | .gateway => mailbox.gateway = request.gateway
  | .prefixBits => mailbox.prefixBits = request.prefixBits
  | .magic | .reserved => True

/-- The last request is acknowledged, and `status` is its result. -/
def Answered (system : MailboxSystem Iface) : Prop :=
  .acknowledged system.number ∈ system.log ∧
    lastResult system.number system.log = some system.mailbox.status

/-- What holds at a point of the host: epochs at rest, words that were staged, or a request that
is published and not acknowledged. -/
def HostFacts (system : MailboxSystem Iface) : HostPoint → Prop
  | .idle => system.mailbox.epoch = system.mailbox.ackEpoch
  | .staging request written => system.mailbox.epoch = system.mailbox.ackEpoch ∧
      ∀ word ∈ written, Staged request system.mailbox word
  | .waiting request => system.mailbox.epoch = request.epoch ∧
      (∀ word, Staged request system.mailbox word) ∧
      .published system.number request ∈ system.log ∧
      (system.mailbox.ackEpoch = request.epoch → Answered system) ∧
      (system.mailbox.ackEpoch ≠ request.epoch → .acknowledged system.number ∉ system.log)
  | .acknowledged _ => system.mailbox.epoch = system.mailbox.ackEpoch ∧ Answered system

/-- The host waits for an epoch that is not yet acknowledged. -/
def Serving (system : MailboxSystem Iface) (request : MailboxRequest) (epoch : BitVec 32) : Prop :=
  system.host = .waiting request ∧ request.epoch = epoch ∧ system.mailbox.ackEpoch ≠ epoch

/-- What holds at a point of the poll: past the epoch checks the host waits, so the
words the poll reads are those of the request it acknowledges. -/
def PollFacts (system : MailboxSystem Iface) : PollPoint → Prop
  | .away | .magic | .epoch =>
      system.armed = true → system.lastAppliedEpoch = system.mailbox.ackEpoch
  | .ackEpoch epoch =>
      epoch = system.mailbox.ackEpoch ∨ ∃ request, Serving system request epoch
  | .ip epoch => ∃ request, Serving system request epoch
  | .gateway epoch ip => ∃ request, Serving system request epoch ∧ ip = request.ip
  | .prefixBits epoch ip gateway => ∃ request, Serving system request epoch ∧
      ip = request.ip ∧ gateway = request.gateway
  | .apply epoch made => ∃ request, Serving system request epoch ∧ MadeOf made request
  | .status epoch result => ∃ request, Serving system request epoch ∧
      lastResult system.number system.log = some result
  | .acknowledge epoch => ∃ request, Serving system request epoch ∧
      lastResult system.number system.log = some system.mailbox.status
  | .finish epoch => system.mailbox.ackEpoch = epoch

/-- The invariant of the handshake: the facts of both parties where they stand, and a correct
history. -/
structure MailboxInvariant (system : MailboxSystem Iface) : Prop where
  host : HostFacts system system.host
  poll : PollFacts system system.poll
  numbers : ∀ event ∈ system.log, event.number ≤ system.number
  correct : HandshakeCorrect system.log

section Steps

variable {net : NetIf Iface} {system next : MailboxSystem Iface}

/-- While no request is being served, the poll depends only on its static variables and
on `ack_epoch`. -/
theorem unserved_poll {point : PollPoint} (facts : PollFacts system point)
    (unserved : ∀ request, system.host = .waiting request →
      system.mailbox.ackEpoch = request.epoch)
    (armed : next.armed = system.armed)
    (last : next.lastAppliedEpoch = system.lastAppliedEpoch)
    (ack : next.mailbox.ackEpoch = system.mailbox.ackEpoch) : PollFacts next point := by
  have none {request : MailboxRequest} {epoch : BitVec 32} : ¬ Serving system request epoch := by
    rintro ⟨waiting, rfl, unacknowledged⟩
    exact unacknowledged (unserved request waiting)
  cases point with
  | away | magic | epoch | finish => simpa only [PollFacts, armed, last, ack] using facts
  | ackEpoch epoch =>
    rcases facts with same | ⟨request, serving⟩
    · exact .inl (same.trans ack.symm)
    · exact absurd serving none
  | ip epoch =>
    obtain ⟨request, serving⟩ := facts
    exact absurd serving none
  | _ =>
    obtain ⟨request, serving, -⟩ := facts
    exact absurd serving none

/-- The host's facts are about the block without `magic` and about the history, so a step that
leaves these leaves the facts. -/
theorem host_kept {point : HostPoint} (facts : HostFacts system point)
    (epoch : next.mailbox.epoch = system.mailbox.epoch)
    (staged : ∀ request word, Staged request system.mailbox word →
      Staged request next.mailbox word)
    (ack : next.mailbox.ackEpoch = system.mailbox.ackEpoch)
    (status : next.mailbox.status = system.mailbox.status)
    (number : next.number = system.number) (log : next.log = system.log) :
    HostFacts next point := by
  cases point with
  | idle => exact epoch.trans (facts.trans ack.symm)
  | staging request written =>
    refine ⟨epoch.trans (facts.1.trans ack.symm), ?_⟩
    intro word member
    exact staged request word (facts.2 word member)
  | waiting request =>
    simp only [HostFacts, Answered, epoch, ack, status, number, log] at facts ⊢
    obtain ⟨published_epoch, words, history⟩ := facts
    exact ⟨published_epoch, fun word => staged request word (words word), history⟩
  | acknowledged request =>
    simpa only [HostFacts, Answered, epoch, ack, status, number, log] using facts

/-- The poll's facts are about the host, the epochs, the status and the history. -/
theorem poll_kept {point : PollPoint} (facts : PollFacts system point)
    (host : next.host = system.host) (armed : next.armed = system.armed)
    (last : next.lastAppliedEpoch = system.lastAppliedEpoch)
    (ack : next.mailbox.ackEpoch = system.mailbox.ackEpoch)
    (status : next.mailbox.status = system.mailbox.status)
    (number : next.number = system.number) (log : next.log = system.log) :
    PollFacts next point := by
  cases point <;>
    simpa only [PollFacts, Serving, host, armed, last, ack, status, number, log] using facts

/-- A new event leaves the events that are there, and is itself of a request that was begun. -/
theorem numbers_append {event : MailboxEvent} {number : Nat}
    (numbers : ∀ old ∈ system.log, old.number ≤ system.number) (grows : system.number ≤ number)
    (here : event.number ≤ number) : ∀ old ∈ system.log ++ [event], old.number ≤ number := by
  intro old member
  rcases List.mem_append.mp member with earlier | now
  · exact Nat.le_trans (numbers old earlier) grows
  · rw [List.mem_singleton.mp now]
    exact here

/-- Staging a word leaves the words that were staged before. -/
theorem stage_staged {request : MailboxRequest} {mailbox : Mailbox} {word other : StagedWord}
    (staged : other = word ∨ Staged request mailbox other) :
    Staged request (request.stage mailbox word) other := by
  rcases staged with rfl | before
  · cases other <;> trivial
  · cases word <;> cases other <;> first | exact before | trivial

/-- A host that begins a request has staged none of its words yet. -/
theorem host_begin_step (invariant : MailboxInvariant system) {request : MailboxRequest}
    (taken : mailboxStep net system (.begin request) = some next) : MailboxInvariant next := by
  obtain ⟨host, poll, numbers, correct⟩ := invariant
  simp only [mailboxStep] at taken
  split at taken
  · rename_i idle
    obtain rfl := Option.some.inj taken
    rw [idle] at host
    refine ⟨⟨host, fun _ impossible => nomatch impossible⟩, ?_, numbers, correct⟩
    exact unserved_poll poll (fun _ waiting => nomatch idle.symm.trans waiting) rfl rfl rfl
  · cases taken

/-- A staged word joins those that the block already holds of the request. The host does not
wait, so the poll reads none of them. -/
theorem host_stage_step (invariant : MailboxInvariant system) {word : StagedWord}
    (taken : mailboxStep net system (.stage word) = some next) : MailboxInvariant next := by
  obtain ⟨host, poll, numbers, correct⟩ := invariant
  simp only [mailboxStep] at taken
  split at taken
  · rename_i request written here
    obtain rfl := Option.some.inj taken
    rw [here] at host
    have kept : (request.stage system.mailbox word).epoch = system.mailbox.epoch ∧
        (request.stage system.mailbox word).ackEpoch = system.mailbox.ackEpoch := by
      cases word <;> exact ⟨rfl, rfl⟩
    refine ⟨⟨?_, ?_⟩, ?_, numbers, correct⟩
    · exact kept.1.trans (host.1.trans kept.2.symm)
    · intro other member
      apply stage_staged
      rcases List.mem_cons.mp member with now | before
      · exact .inl now
      · exact .inr (host.2 other before)
    · exact unserved_poll poll (fun _ waiting => nomatch here.symm.trans waiting) rfl rfl kept.2
  · cases taken

/-- The new epoch makes the staged words a published request under the next number, which no
event of the history has. -/
theorem host_publish_step (invariant : MailboxInvariant system)
    (taken : mailboxStep net system .publish = some next) : MailboxInvariant next := by
  obtain ⟨host, poll, numbers, correct⟩ := invariant
  simp only [mailboxStep] at taken
  split at taken
  · rename_i request written here
    split at taken
    · rename_i complete
      obtain rfl := Option.some.inj taken
      rw [here] at host
      have fresh : system.mailbox.ackEpoch ≠ request.epoch := by
        rw [← host.1]
        exact complete.2.symm
      have unacknowledged : .acknowledged (system.number + 1) ∉
          system.log ++ [.published (system.number + 1) request] := by
        intro member
        rcases List.mem_append.mp member with earlier | now
        · exact absurd (numbers _ earlier) (Nat.not_succ_le_self _)
        · cases List.mem_singleton.mp now
      refine ⟨⟨rfl, ?_, ?_, fun same => absurd same fresh, fun _ => unacknowledged⟩, ?_, ?_, ?_⟩
      · intro word
        have staged := host.2 word (complete.1 (by cases word <;> decide))
        cases word <;> exact staged
      · exact List.mem_append_right _ (List.mem_singleton_self _)
      · exact unserved_poll poll (fun _ waiting => nomatch here.symm.trans waiting) rfl rfl rfl
      · exact numbers_append numbers (Nat.le_succ _) (Nat.le_refl _)
      · exact correct.append (fun _ _ _ impossible => nomatch impossible)
          (fun _ _ impossible => nomatch impossible)
    · cases taken
  · cases taken

/-- A host that reads its own epoch from `ack_epoch` knows that its request was answered, since
before the answer the word had the epoch before. -/
theorem host_read_ack_step (invariant : MailboxInvariant system)
    (taken : mailboxStep net system .readAck = some next) : MailboxInvariant next := by
  obtain ⟨host, poll, numbers, correct⟩ := invariant
  simp only [mailboxStep] at taken
  split at taken
  · rename_i request here
    split at taken
    · rename_i same
      obtain rfl := Option.some.inj taken
      rw [here] at host
      obtain ⟨epoch, -, -, answered, -⟩ := host
      refine ⟨⟨epoch.trans same.symm, answered same⟩, ?_, numbers, correct⟩
      refine unserved_poll poll ?_ rfl rfl rfl
      intro other waiting
      obtain rfl := HostPoint.waiting.inj (here.symm.trans waiting)
      exact same
    · cases taken
  · cases taken

/-- The status that the host reads is the result of the answered request, because it was written
before the acknowledgement. -/
theorem host_read_status_step (invariant : MailboxInvariant system)
    (taken : mailboxStep net system .readStatus = some next) : MailboxInvariant next := by
  obtain ⟨host, poll, numbers, correct⟩ := invariant
  simp only [mailboxStep] at taken
  split at taken
  · rename_i request here
    obtain rfl := Option.some.inj taken
    rw [here] at host
    obtain ⟨epoch, acknowledged, result⟩ := host
    refine ⟨epoch, ?_, numbers_append numbers (Nat.le_refl _) (Nat.le_refl _), ?_⟩
    · exact unserved_poll poll (fun _ waiting => nomatch here.symm.trans waiting) rfl rfl rfl
    · apply correct.append
      · exact fun _ _ _ impossible => nomatch impossible
      rintro number status same
      obtain ⟨rfl, rfl⟩ := MailboxEvent.observed.inj same
      exact ⟨acknowledged, result⟩
  · cases taken

/-- The host's facts hold of any state with the same block, host, number and history. -/
theorem host_unmoved (host : HostFacts system system.host)
    (mailbox : next.mailbox = system.mailbox) (same : next.host = system.host)
    (number : next.number = system.number) (log : next.log = system.log) :
    HostFacts next next.host := by
  rw [same]
  apply host_kept host _ _ _ _ number log
  all_goals simp [mailbox]

/-- What surrounds the host and the board touches neither: `magic` is in no fact, a poll starts
where it was away, and a reset forgets what the two static variables say. -/
theorem surroundings_step (invariant : MailboxInvariant system) {label : MailboxLabel Iface}
    (around : (∃ magic, label = .dropOut magic) ∨ label = .poll ∨
      (∃ prov, label = .network prov) ∨ ∃ prov, label = .reset prov)
    (taken : mailboxStep net system label = some next) : MailboxInvariant next := by
  obtain ⟨host, poll, numbers, correct⟩ := invariant
  rcases around with ⟨magic, rfl⟩ | rfl | ⟨prov, rfl⟩ | ⟨prov, rfl⟩
  · obtain rfl := Option.some.inj taken
    refine ⟨?_, poll_kept poll rfl rfl rfl rfl rfl rfl rfl, numbers, correct⟩
    refine host_kept host rfl ?_ rfl rfl rfl rfl
    intro request word staged
    cases word <;> exact staged
  · simp only [mailboxStep] at taken
    split at taken
    · rename_i away
      obtain rfl := Option.some.inj taken
      rw [away] at poll
      exact ⟨host_unmoved host rfl rfl rfl rfl, poll, numbers, correct⟩
    · cases taken
  · simp only [mailboxStep] at taken
    split at taken
    · obtain rfl := Option.some.inj taken
      exact ⟨host_unmoved host rfl rfl rfl rfl, poll_kept poll rfl rfl rfl rfl rfl rfl rfl,
        numbers, correct⟩
    · cases taken
  · obtain rfl := Option.some.inj taken
    exact ⟨host_unmoved host rfl rfl rfl rfl, (fun armed => nomatch armed), numbers, correct⟩

/-- The host's steps and the steps around the board keep the invariant, by the lemma for each
label. -/
theorem host_step (invariant : MailboxInvariant system) {label : MailboxLabel Iface}
    (outside : label ≠ .access) (taken : mailboxStep net system label = some next) :
    MailboxInvariant next := by
  cases label with
  | access => exact absurd rfl outside
  | begin request => exact host_begin_step invariant taken
  | stage word => exact host_stage_step invariant taken
  | publish => exact host_publish_step invariant taken
  | readAck => exact host_read_ack_step invariant taken
  | readStatus => exact host_read_status_step invariant taken
  | dropOut magic => exact surroundings_step invariant (.inl ⟨magic, rfl⟩) taken
  | poll => exact surroundings_step invariant (.inr (.inl rfl)) taken
  | network prov => exact surroundings_step invariant (.inr (.inr (.inl ⟨prov, rfl⟩))) taken
  | reset prov => exact surroundings_step invariant (.inr (.inr (.inr ⟨prov, rfl⟩))) taken

/-- The epoch in the block is acknowledged, or the host waits for it. -/
theorem epoch_served {point : HostPoint} (facts : HostFacts system point)
    (here : system.host = point) :
    system.mailbox.epoch = system.mailbox.ackEpoch ∨
      ∃ request, Serving system request system.mailbox.epoch := by
  cases point with
  | idle => exact .inl facts
  | staging request written => exact .inl facts.1
  | acknowledged request => exact .inl facts.1
  | waiting request =>
    by_cases same : system.mailbox.epoch = system.mailbox.ackEpoch
    · exact .inl same
    · exact .inr ⟨request, here, facts.1.symm, fun ack => same ack.symm⟩

/-- What the block holds while a request is served: all of its words, and no acknowledgement of
it in the history. -/
theorem serving_facts {request : MailboxRequest} {epoch : BitVec 32}
    (host : HostFacts system system.host) (serving : Serving system request epoch) :
    (∀ word, Staged request system.mailbox word) ∧
      .published system.number request ∈ system.log ∧
      .acknowledged system.number ∉ system.log := by
  obtain ⟨here, rfl, unacknowledged⟩ := serving
  rw [here] at host
  obtain ⟨-, words, published, -, fresh⟩ := host
  exact ⟨words, published, fresh unacknowledged⟩

/-- A service keeps the invariant: the request is the published one and is not yet
acknowledged. -/
theorem service_step {epoch : BitVec 32} {made : ProvMessage} {result : Int} {prov : Prov Iface}
    (invariant : MailboxInvariant system) (here : system.poll = .apply epoch made) :
    MailboxInvariant { system with
      prov := prov
      poll := .status epoch result
      log := system.log ++ [.serviced system.number made result] } := by
  obtain ⟨host, poll, numbers, correct⟩ := invariant
  rw [here] at poll
  obtain ⟨request, serving, made_of⟩ := poll
  obtain ⟨words, published, fresh⟩ := serving_facts host serving
  obtain ⟨waits, same, unacknowledged⟩ := serving
  rw [waits] at host
  obtain ⟨epoch_here, -⟩ := host
  refine ⟨?_, ?_, numbers_append numbers (Nat.le_refl _) (Nat.le_refl _), ?_⟩
  · simp only [waits]
    refine ⟨epoch_here, words, List.mem_append_left _ published, ?_, fun _ => ?_⟩
    · intro acknowledged
      exact absurd (acknowledged.trans same) unacknowledged
    · intro member
      rcases List.mem_append.mp member with earlier | now
      · exact fresh earlier
      · cases List.mem_singleton.mp now
  · exact ⟨request, ⟨waits, same, unacknowledged⟩, last_result_serviced _ _ _ _⟩
  · apply correct.append
    · intro number served status event
      obtain ⟨rfl, rfl, -⟩ := MailboxEvent.serviced.inj event
      exact ⟨fresh, request, published, made_of⟩
    · exact fun _ _ impossible => nomatch impossible

/-- The two epoch checks of the poll: past them the host waits for the epoch that was read. -/
theorem poll_checks_step (invariant : MailboxInvariant system)
    (here : system.poll = .magic ∨ system.poll = .epoch ∨ ∃ epoch, system.poll = .ackEpoch epoch)
    (taken : pollAccess net system system.poll = some next) : MailboxInvariant next := by
  obtain ⟨host, poll, numbers, correct⟩ := invariant
  rcases here with here | here | ⟨epoch, here⟩
  · rw [here] at taken poll
    simp only [pollAccess] at taken
    split at taken
    · obtain rfl := Option.some.inj taken
      exact ⟨host_unmoved host rfl rfl rfl rfl, fun armed => (nomatch armed), numbers, correct⟩
    · obtain rfl := Option.some.inj taken
      exact ⟨host_unmoved host rfl rfl rfl rfl, poll, numbers, correct⟩
  · rw [here] at taken poll
    have served := epoch_served host rfl
    simp only [pollAccess] at taken
    split at taken
    · obtain rfl := Option.some.inj taken
      exact ⟨host_unmoved host rfl rfl rfl rfl, served, numbers, correct⟩
    · rename_i armed
      have settled := poll (by simpa using armed)
      split at taken
      · obtain rfl := Option.some.inj taken
        exact ⟨host_unmoved host rfl rfl rfl rfl, poll, numbers, correct⟩
      · rename_i other
        obtain rfl := Option.some.inj taken
        refine ⟨host_unmoved host rfl rfl rfl rfl, ?_, numbers, correct⟩
        exact served.resolve_left fun same => other (same.trans settled.symm)
  · rw [here] at taken poll
    simp only [pollAccess] at taken
    split at taken
    · rename_i same
      obtain rfl := Option.some.inj taken
      exact ⟨host_unmoved host rfl rfl rfl rfl, fun _ => same.symm, numbers, correct⟩
    · rename_i other
      obtain rfl := Option.some.inj taken
      refine ⟨host_unmoved host rfl rfl rfl rfl, ?_, numbers, correct⟩
      exact poll.resolve_left fun same => other same.symm

/-- The three words of the request are read while the host waits, so they are its own. The
request that the poll makes of them keeps a prefix below 256. -/
theorem poll_words_step (invariant : MailboxInvariant system) {epoch : BitVec 32}
    (here : system.poll = .ip epoch ∨ (∃ ip, system.poll = .gateway epoch ip) ∨
      ∃ ip gateway, system.poll = .prefixBits epoch ip gateway)
    (taken : pollAccess net system system.poll = some next) : MailboxInvariant next := by
  obtain ⟨host, poll, numbers, correct⟩ := invariant
  rcases here with here | ⟨ip, here⟩ | ⟨ip, gateway, here⟩
  · rw [here] at taken poll
    obtain rfl := Option.some.inj taken
    obtain ⟨request, serving⟩ := poll
    have words := (serving_facts host serving).1
    exact ⟨host_unmoved host rfl rfl rfl rfl, ⟨request, serving, words .ip⟩, numbers, correct⟩
  · rw [here] at taken poll
    obtain rfl := Option.some.inj taken
    obtain ⟨request, serving, same⟩ := poll
    have words := (serving_facts host serving).1
    exact ⟨host_unmoved host rfl rfl rfl rfl, ⟨request, serving, same, words .gateway⟩, numbers,
      correct⟩
  · rw [here] at taken poll
    obtain rfl := Option.some.inj taken
    obtain ⟨request, serving, same_ip, same_gateway⟩ := poll
    have words : system.mailbox.prefixBits = request.prefixBits :=
      (serving_facts host serving).1 .prefixBits
    refine ⟨host_unmoved host rfl rfl rfl rfl, ⟨request, serving, same_ip, same_gateway, ?_⟩,
      numbers, correct⟩
    intro small
    change (system.mailbox.prefixBits.setWidth 8).toNat = request.prefixBits.toNat
    rw [words, BitVec.toNat_setWidth, Nat.mod_eq_of_lt small]

/-- The status is written before the acknowledgement, while the host still waits, so no host
reads it too early. -/
theorem poll_status_step (invariant : MailboxInvariant system) {epoch : BitVec 32}
    {result : Int} (here : system.poll = .status epoch result)
    (taken : pollAccess net system system.poll = some next) : MailboxInvariant next := by
  obtain ⟨host, poll, numbers, correct⟩ := invariant
  rw [here] at taken poll
  obtain rfl := Option.some.inj taken
  obtain ⟨request, serving, last⟩ := poll
  obtain ⟨words, published, fresh⟩ := serving_facts host serving
  obtain ⟨waits, same, unacknowledged⟩ := serving
  rw [waits] at host
  refine ⟨?_, ⟨request, ⟨waits, same, unacknowledged⟩, last⟩, numbers, correct⟩
  simp only [waits]
  refine ⟨host.1, fun word => ?_, published, ?_, fun _ => fresh⟩
  · have staged := words word
    cases word <;> exact staged
  · intro acknowledged
    exact absurd (acknowledged.trans same) unacknowledged

/-- The acknowledgement answers the waiting host with the status that is in the block. -/
theorem poll_acknowledge_step (invariant : MailboxInvariant system) {epoch : BitVec 32}
    (here : system.poll = .acknowledge epoch)
    (taken : pollAccess net system system.poll = some next) : MailboxInvariant next := by
  obtain ⟨host, poll, numbers, correct⟩ := invariant
  rw [here] at taken poll
  obtain rfl := Option.some.inj taken
  obtain ⟨request, serving, last⟩ := poll
  obtain ⟨words, published, fresh⟩ := serving_facts host serving
  obtain ⟨waits, same, unacknowledged⟩ := serving
  rw [waits] at host
  refine ⟨?_, rfl, numbers_append numbers (Nat.le_refl _) (Nat.le_refl _), ?_⟩
  · simp only [waits]
    refine ⟨host.1, fun word => ?_, List.mem_append_left _ published, fun _ => ⟨?_, ?_⟩, ?_⟩
    · have staged := words word
      cases word <;> exact staged
    · exact List.mem_append_right _ (List.mem_singleton_self _)
    · rw [last_result_other]
      · exact last
      · exact fun _ _ impossible => nomatch impossible
    · intro other
      exact absurd same.symm other
  · apply correct.append
    · exact fun _ _ _ impossible => nomatch impossible
    · exact fun _ _ impossible => nomatch impossible

/-- Every access of the poll keeps the invariant, point by point through the function. -/
theorem access_step (invariant : MailboxInvariant system)
    (taken : mailboxStep net system .access = some next) : MailboxInvariant next := by
  change pollAccess net system system.poll = some next at taken
  cases here : system.poll with
  | away =>
    rw [here] at taken
    cases taken
  | magic => exact poll_checks_step invariant (.inl here) taken
  | epoch => exact poll_checks_step invariant (.inr (.inl here)) taken
  | ackEpoch epoch => exact poll_checks_step invariant (.inr (.inr ⟨epoch, here⟩)) taken
  | ip epoch => exact poll_words_step invariant (.inl here) taken
  | gateway epoch ip => exact poll_words_step invariant (.inr (.inl ⟨ip, here⟩)) taken
  | prefixBits epoch ip gateway =>
    exact poll_words_step invariant (.inr (.inr ⟨ip, gateway, here⟩)) taken
  | apply epoch made =>
    rw [here] at taken
    simp only [pollAccess] at taken
    split at taken
    · obtain rfl := Option.some.inj taken
      exact service_step invariant here
    · obtain rfl := Option.some.inj taken
      exact service_step invariant here
  | status epoch result => exact poll_status_step invariant here taken
  | acknowledge epoch => exact poll_acknowledge_step invariant here taken
  | finish epoch =>
    obtain ⟨host, poll, numbers, correct⟩ := invariant
    rw [here] at taken poll
    obtain rfl := Option.some.inj taken
    exact ⟨host_unmoved host rfl rfl rfl rfl, fun _ => poll.symm, numbers, correct⟩

/-- Every step keeps the invariant: an access of the board, or a step of the others. -/
theorem mailbox_step {label : MailboxLabel Iface} (invariant : MailboxInvariant system)
    (taken : mailboxStep net system label = some next) : MailboxInvariant next := by
  by_cases board : label = .access
  · subst board
    exact access_step invariant taken
  · exact host_step invariant board taken

/-- A step that leaves the settings and the history logs no service. -/
theorem silent_same (prov : next.prov = system.prov) (log : next.log = system.log) :
    Silent system next := by
  refine ⟨prov, fun number request result same => ?_⟩
  rw [log] at same
  exact absurd (List.self_eq_append_right.mp same) (List.cons_ne_nil _ _)

/-- A step that leaves the settings and logs an event of another kind logs no service. -/
theorem silent_event {event : MailboxEvent} (prov : next.prov = system.prov)
    (log : next.log = system.log ++ [event])
    (other : ∀ number request result, event ≠ .serviced number request result) :
    Silent system next := by
  refine ⟨prov, fun number request result same => ?_⟩
  rw [log] at same
  exact other number request result (List.singleton_inj.mp (List.append_cancel_left same))

/-- An access of the poll changes the settings only where it logs a service, by what the
service returned. -/
theorem access_follows (taken : pollAccess net system system.poll = some next) :
    SettingsFollow net system next .access := by
  cases here : system.poll with
  | away =>
    rw [here] at taken
    cases taken
  | magic | ackEpoch epoch =>
    rw [here] at taken
    simp only [pollAccess] at taken
    split at taken
    all_goals
      obtain rfl := Option.some.inj taken
      exact .inl (silent_same rfl rfl)
  | epoch =>
    rw [here] at taken
    simp only [pollAccess] at taken
    split at taken
    · obtain rfl := Option.some.inj taken
      exact .inl (silent_same rfl rfl)
    · split at taken
      all_goals
        obtain rfl := Option.some.inj taken
        exact .inl (silent_same rfl rfl)
  | apply epoch request =>
    rw [here] at taken
    simp only [pollAccess] at taken
    split at taken
    · rename_i unusable
      obtain rfl := Option.some.inj taken
      exact .inr ⟨request, -einval, rfl, by rw [ServicedFrom, if_pos unusable]; exact ⟨rfl, rfl⟩⟩
    · rename_i usable
      obtain rfl := Option.some.inj taken
      exact .inr ⟨request, _, rfl, by rw [ServicedFrom, if_neg usable]⟩
  | acknowledge epoch =>
    rw [here] at taken
    obtain rfl := Option.some.inj taken
    exact .inl (silent_event rfl rfl fun _ _ _ impossible => nomatch impossible)
  | ip epoch | gateway epoch ip | prefixBits epoch ip gateway | status epoch result
  | finish epoch =>
    rw [here] at taken
    obtain rfl := Option.some.inj taken
    exact .inl (silent_same rfl rfl)

/-- Every step accounts for the settings behind it: the host logs publications and
observations only, and what surrounds the board logs nothing. -/
theorem settings_follow {label : MailboxLabel Iface}
    (taken : mailboxStep net system label = some next) : SettingsFollow net system next label := by
  cases label with
  | access => exact access_follows taken
  | reset prov | dropOut magic =>
    obtain rfl := Option.some.inj taken
    first
      | exact ⟨rfl, rfl⟩
      | exact silent_same rfl rfl
  | network prov =>
    simp only [mailboxStep] at taken
    split at taken
    · obtain rfl := Option.some.inj taken
      exact ⟨rfl, rfl⟩
    · cases taken
  | begin request | poll =>
    simp only [mailboxStep] at taken
    split at taken
    · obtain rfl := Option.some.inj taken
      exact silent_same rfl rfl
    · cases taken
  | stage word =>
    simp only [mailboxStep] at taken
    split at taken
    · obtain rfl := Option.some.inj taken
      exact silent_same rfl rfl
    · cases taken
  | publish =>
    simp only [mailboxStep] at taken
    split at taken
    · split at taken
      · obtain rfl := Option.some.inj taken
        exact silent_event rfl rfl fun _ _ _ impossible => nomatch impossible
      · cases taken
    · cases taken
  | readAck =>
    simp only [mailboxStep] at taken
    split at taken
    · split at taken
      · obtain rfl := Option.some.inj taken
        exact silent_same rfl rfl
      · cases taken
    · cases taken
  | readStatus =>
    simp only [mailboxStep] at taken
    split at taken
    · obtain rfl := Option.some.inj taken
      exact silent_event rfl rfl fun _ _ _ impossible => nomatch impossible
    · cases taken

end Steps

/-- A block whose last epoch is acknowledged is at rest, and the invariant holds. -/
theorem mailbox_initial {mailbox : Mailbox} (settled : mailbox.ackEpoch = mailbox.epoch)
    (prov : Prov Iface) : MailboxInvariant (mailboxInitial mailbox prov) where
  host := settled.symm
  poll := fun armed => nomatch armed
  numbers _ member := absurd member List.not_mem_nil
  correct := by
    refine ⟨fun _ _ _ member => absurd member List.not_mem_nil, .nil, ?_⟩
    intro before number status after split
    cases before <;> cases split

/-- Behind any start whose last epoch is acknowledged, in every interleaving, each service is of
one published request, none follows its acknowledgement, and the host observes the result of its
own request. From every state reached, a step that logs a service leaves the settings that the
service returned, and no other step of the poll changes them.

Proof: the invariant has the facts of the host and of the poll at each of their program points,
and a correct history. One access of either party keeps its own facts and those of the other. -/
theorem mailbox_handshake (net : NetIf Iface) (mailbox : Mailbox) (prov : Prov Iface)
    (settled : mailbox.ackEpoch = mailbox.epoch) (system : MailboxSystem Iface)
    (run : Run (mailboxStep net) Unrestricted (mailboxInitial mailbox prov) system) :
    HandshakeCorrect system.log ∧ ∀ label next, mailboxStep net system label = some next →
      SettingsFollow net system next label := by
  have invariant : MailboxInvariant system :=
    run.invariant MailboxInvariant (mailbox_initial settled prov)
      (fun _ _ _ invariant _ taken => mailbox_step invariant taken)
  exact ⟨invariant.correct, fun _ _ taken => settings_follow taken⟩

/-- An interface on which every call succeeds, for the runs of the witnesses. -/
def steadyNet : NetIf Unit where
  addrRm _ _ := (true, ())
  addrAdd _ _ := (true, ())
  setNetmaskByAddr _ _ _ := (true, ())
  setGw _ _ := ()

/-- A board that holds 169.254.1.1/16, as it starts without a request. -/
def bootProv : Prov Unit where
  provIface := ()
  provAddr := 0xa9fe0101#32
  provAddrInstalled := true
  provGateway := 0#32
  provPrefix := 16#8
  provToken := 0#32
  provXid := 0#32
  provMac := 0x020000000001#48

/-- A request for 10.0.0.2/24 with the first epoch. -/
def exampleRequest : MailboxRequest := ⟨0x0a000002#32, 0#32, 24#32, 1#32⟩

/-- A whole poll of a pending request behind a boot. -/
def servicePoll : List (MailboxLabel Unit) := .poll :: List.replicate 10 .access

/-- A block of zeros: one request is staged backwards, published, serviced and
observed; the board is reset and polls again, and nothing more happens to it. -/
theorem mailbox_handshake_once :
    ∃ system, Run (mailboxStep steadyNet) Unrestricted
        (mailboxInitial ⟨0#32, 0#32, 0#32, 0#32, 0#32, 0#32, 0#32, 0⟩ bootProv) system ∧
      system.poll = .away ∧
      system.log = [.published 1 exampleRequest,
        .serviced 1 (pollRequest bootProv 0x0a000002#32 0#32 24#32) 0, .acknowledged 1,
        .observed 1 0] ∧
      HandshakeCorrect system.log := by
  obtain ⟨system, run, reached⟩ := run_of_execution (mailboxStep steadyNet) (fun _ _ => true)
    (mailboxInitial ⟨0#32, 0#32, 0#32, 0#32, 0#32, 0#32, 0#32, 0⟩ bootProv)
    (.begin exampleRequest :: stagedWords.reverse.map .stage ++ [.publish] ++ servicePoll ++
      [.readAck, .readStatus, .reset bootProv, .poll, .access, .access, .access])
    (fun system => decide (system.poll = .away ∧ system.log = [.published 1 exampleRequest,
      .serviced 1 (pollRequest bootProv 0x0a000002#32 0#32 24#32) 0, .acknowledged 1,
      .observed 1 0]))
    (fun _ _ _ => trivial) (by decide +kernel)
  obtain ⟨away, log⟩ := of_decide_eq_true reached
  exact ⟨system, run, away, log, (mailbox_handshake steadyNet _ bootProv rfl system run).1⟩

/-- Without the condition on the block at the start the handshake fails: a block that was never
published but looks pending is applied. -/
theorem mailbox_unpublished_applied :
    ¬ ∀ (net : NetIf Unit) (mailbox : Mailbox) (prov : Prov Unit) (system : MailboxSystem Unit),
      Run (mailboxStep net) Unrestricted (mailboxInitial mailbox prov) system →
        HandshakeCorrect system.log := by
  intro claimed
  obtain ⟨system, run, reached⟩ := run_of_execution (mailboxStep steadyNet) (fun _ _ => true)
    (mailboxInitial ⟨mailboxMagic, 1#32, 0x0a000002#32, 0#32, 24#32, 0#32, 0#32, 0⟩ bootProv)
    servicePoll
    (fun system => decide (system.log =
      [.serviced 0 (pollRequest bootProv 0x0a000002#32 0#32 24#32) 0, .acknowledged 0]))
    (fun _ _ _ => trivial) (by decide +kernel)
  have log := of_decide_eq_true reached
  have correct := claimed _ _ _ system run
  rw [log] at correct
  obtain ⟨asked, published, -⟩ := correct.whole 0 _ 0 List.mem_cons_self
  simp at published

end EmaczZephyr.Provision
