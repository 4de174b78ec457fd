import EmaczZephyr.Provision.Mailbox
import EmaczZephyr.Provision.Validation

/-!
# What the mailbox admits

One poll of the mailbox as a whole, while nothing else touches the block or the settings:
the writes it makes to the block, in their order, and the state it leaves. The prefix is a
word of the block, but a byte of the request that the poll checks and applies.
-/

namespace EmaczZephyr.Provision

open Runs BigEndian Subnet

/-- A write of `poll_jtag_mailbox` to the block, of its status or of its acknowledgement. -/
inductive MailboxWrite where
  | status (value : Int)
  | ackEpoch (epoch : BitVec 32)
deriving DecidableEq

/-- A write changes the word that it names and no other. -/
def Mailbox.write (mailbox : Mailbox) : MailboxWrite → Mailbox
  | .status value => { mailbox with status := value }
  | .ackEpoch epoch => { mailbox with ackEpoch := epoch }

/-- What a poll leaves: its writes in their order, its static variables, and the settings. -/
structure Polled (Iface : Type) where
  writes : List MailboxWrite
  armed : Bool
  lastAppliedEpoch : BitVec 32
  prov : Prov Iface

variable {Iface : Type}

/-- The part of `poll_jtag_mailbox` behind the epoch checks: the request with its prefix cut to a
byte, the test, and `apply_config`. -/
def serviceMailbox (net : NetIf Iface) (mailbox : Mailbox) (prov : Prov Iface) : Polled Iface :=
  let request := pollRequest prov mailbox.ip mailbox.gateway mailbox.prefixBits
  if addrIsUsable request.ip request.prefixBits request.gateway = false then
    ⟨[.status (-einval), .ackEpoch mailbox.epoch], true, mailbox.epoch, prov⟩
  else
    let (ret, prov) := applyConfig net prov request
    ⟨[.status ret, .ackEpoch mailbox.epoch], true, mailbox.epoch, prov⟩

/-- `poll_jtag_mailbox` on a block that does not change meanwhile: identity, epoch checks, and
the service. -/
def pollJtagMailbox (net : NetIf Iface) (mailbox : Mailbox) (armed : Bool)
    (lastAppliedEpoch : BitVec 32) (prov : Prov Iface) : Polled Iface :=
  if mailbox.magic ≠ mailboxMagic then ⟨[], false, lastAppliedEpoch, prov⟩
  else
    let epoch := mailbox.epoch
    if armed = false ∧ mailbox.ackEpoch = epoch then ⟨[], true, epoch, prov⟩
    else if armed = true ∧ epoch = lastAppliedEpoch then ⟨[], true, lastAppliedEpoch, prov⟩
    else serviceMailbox net mailbox prov

/-- Only the board steps, so a poll runs from its first access to its last on one block. -/
def BoardOnly (_ : MailboxSystem Iface) (label : MailboxLabel Iface) : Prop :=
  label = .poll ∨ label = .access

section Accesses

variable {net : NetIf Iface} {system before after : MailboxSystem Iface}

/-- The poll makes its next access, and the run goes on. -/
theorem access_alone (run : Run (mailboxStep net) BoardOnly system before)
    (taken : pollAccess net before before.poll = some after) :
    Run (mailboxStep net) BoardOnly system after :=
  .step run (.inr rfl) taken

/-- Past the epoch checks a poll reads the request, services it and acknowledges it. -/
theorem service_alone (run : Run (mailboxStep net) BoardOnly system before)
    (reading : before.poll = .ip before.mailbox.epoch) (armed : before.armed = true) :
    ∃ next, Run (mailboxStep net) BoardOnly system next ∧ next.poll = .away ∧
      let polled := serviceMailbox net before.mailbox before.prov
      next.mailbox = polled.writes.foldl Mailbox.write before.mailbox ∧
        next.armed = polled.armed ∧ next.lastAppliedEpoch = polled.lastAppliedEpoch ∧
        next.prov = polled.prov := by
  have at_gateway := access_alone run (by rw [reading]; rfl)
  generalize made : pollRequest before.prov before.mailbox.ip before.mailbox.gateway
    before.mailbox.prefixBits = request
  have at_apply : Run (mailboxStep net) BoardOnly system
      { before with poll := .apply before.mailbox.epoch request } := by
    rw [← made]
    exact access_alone (access_alone at_gateway rfl) rfl
  unfold serviceMailbox
  rw [made]
  by_cases unusable : addrIsUsable request.ip request.prefixBits request.gateway = false
  · have at_status := access_alone at_apply (if_pos unusable)
    have left := access_alone (access_alone (access_alone at_status rfl) rfl) rfl
    refine ⟨_, left, rfl, ?_⟩
    simp [unusable, Mailbox.write, armed]
  · rcases applied : applyConfig net before.prov request with ⟨ret, prov⟩
    have at_status : Run (mailboxStep net) BoardOnly system
        { before with
          prov := prov
          poll := .status before.mailbox.epoch ret
          log := before.log ++ [.serviced before.number request ret] } :=
      access_alone at_apply (by simp [pollAccess, unusable, applied])
    have left := access_alone (access_alone (access_alone at_status rfl) rfl) rfl
    refine ⟨_, left, rfl, ?_⟩
    simp [unusable, Mailbox.write, armed, applied]

/-- A poll that nothing interrupts makes the writes of `pollJtagMailbox`, in their order, and
leaves its state. -/
theorem poll_alone (net : NetIf Iface) (system : MailboxSystem Iface)
    (away : system.poll = .away) :
    ∃ next, Run (mailboxStep net) BoardOnly system next ∧ next.poll = .away ∧
      let polled := pollJtagMailbox net system.mailbox system.armed system.lastAppliedEpoch
        system.prov
      next.mailbox = polled.writes.foldl Mailbox.write system.mailbox ∧
        next.armed = polled.armed ∧ next.lastAppliedEpoch = polled.lastAppliedEpoch ∧
        next.prov = polled.prov := by
  have at_magic : Run (mailboxStep net) BoardOnly system { system with poll := .magic } :=
    .step .rest (.inl rfl) (if_pos away)
  by_cases populated : system.mailbox.magic = mailboxMagic
  · have at_epoch := access_alone at_magic (if_neg (not_not.mpr populated))
    by_cases armed : system.armed = false
    · have at_ack := access_alone at_epoch (if_pos armed)
      by_cases serviced : system.mailbox.ackEpoch = system.mailbox.epoch
      · refine ⟨_, access_alone at_ack (if_pos serviced), rfl, ?_⟩
        simp [pollJtagMailbox, populated, armed, serviced]
      · obtain ⟨next, left, gone, outcome⟩ :=
          service_alone (access_alone at_ack (if_neg serviced)) rfl rfl
        refine ⟨next, left, gone, ?_⟩
        simpa [pollJtagMailbox, serviceMailbox, populated, armed, serviced] using outcome
    · by_cases serviced : system.mailbox.epoch = system.lastAppliedEpoch
      · refine ⟨_, access_alone at_epoch ((if_neg armed).trans (if_pos serviced)), rfl, ?_⟩
        simp [pollJtagMailbox, populated, armed, serviced]
      · obtain ⟨next, left, gone, outcome⟩ :=
          service_alone (access_alone at_epoch ((if_neg armed).trans (if_neg serviced))) rfl
            (by simpa using armed)
        refine ⟨next, left, gone, ?_⟩
        simpa [pollJtagMailbox, serviceMailbox, populated, armed, serviced] using outcome
  · refine ⟨_, access_alone at_magic (if_pos populated), rfl, ?_⟩
    simp [pollJtagMailbox, populated]

end Accesses

/-- A prefix as the block documents it: a word between 1 and 30. -/
def Mailbox.PrefixValid (mailbox : Mailbox) : Prop :=
  1 ≤ mailbox.prefixBits.toNat ∧ mailbox.prefixBits.toNat ≤ 30

/-- The request in the block, with the whole of its prefix word, can be installed. -/
def Mailbox.Usable (mailbox : Mailbox) : Prop :=
  mailbox.PrefixValid ∧
    addrIsUsable mailbox.ip (BitVec.ofNat 8 mailbox.prefixBits.toNat) mailbox.gateway = true

/-- The calls that install an address succeed, and leave this interface. -/
def CallsSucceed (net : NetIf Iface) (prov : Prov Iface) (ip mask : BitVec 32) (iface : Iface) :
    Prop :=
  ∃ removed added, removeAddr net prov = (true, removed) ∧
    net.addrAdd removed ip = (true, added) ∧ net.setNetmaskByAddr added ip mask = (true, iface)

/-- A request is pending: the identity is there, and its epoch has not been answered as far as
the board can tell. -/
def Mailbox.Pending (mailbox : Mailbox) (armed : Bool) (lastAppliedEpoch : BitVec 32) : Prop :=
  mailbox.magic = mailboxMagic ∧
    (armed = false ∧ mailbox.ackEpoch ≠ mailbox.epoch ∨
      armed = true ∧ mailbox.epoch ≠ lastAppliedEpoch)

/-- The poll reports that it installed an address, by a status of zero. -/
def Polled.Installs (polled : Polled Iface) : Prop := .status 0 ∈ polled.writes

/-- What the block documents about a pending request: what is installed, and which status is
written before which acknowledgement. -/
structure AdmitsExactly (net : NetIf Iface) (mailbox : Mailbox) (prov : Prov Iface)
    (polled : Polled Iface) : Prop where
  installs : polled.Installs ↔ mailbox.Usable ∧ ∃ iface,
    CallsSucceed net prov mailbox.ip (netmask 32 mailbox.prefixBits.toNat) iface
  /-- What is installed are the words of the block, whole. -/
  whole : polled.Installs → ∃ iface,
    CallsSucceed net prov mailbox.ip (netmask 32 mailbox.prefixBits.toNat) iface ∧
      polled.prov.provIface = net.setGw iface mailbox.gateway ∧
      polled.prov.provAddrInstalled = true ∧ polled.prov.provAddr = mailbox.ip ∧
      polled.prov.provGateway = mailbox.gateway ∧
      polled.prov.provPrefix.toNat = mailbox.prefixBits.toNat
  refused : ¬ mailbox.Usable → .status (-einval) ∈ polled.writes ∧ polled.prov = prov
  /-- The result is written once, and before the epoch. -/
  ordered : ∃ result, polled.writes = [.status result, .ackEpoch mailbox.epoch]

/-- The mask of a prefix from 1 to 32 is that of its network. -/
theorem prefix_mask {prefixBits : Byte} (valid : 1 ≤ prefixBits.toNat)
    (short : prefixBits.toNat ≤ 32) :
    prefixToMask prefixBits = netmask 32 prefixBits.toNat := by
  have nonzero : prefixBits ≠ 0#8 := by
    rintro rfl
    exact absurd valid (by decide)
  rw [prefixToMask, if_neg nonzero, netmask_shift short]

/-- The settings behind a request that was installed whole. -/
def Prov.installed (prov : Prov Iface) (request : ProvMessage) (iface : Iface) : Prov Iface :=
  { prov with
    provIface := iface
    provAddrInstalled := true
    provAddr := request.ip
    provGateway := request.gateway
    provPrefix := request.prefixBits }

/-- `apply_config` installs a usable request when the calls succeed, and fails otherwise with
another code than for an unusable one. -/
theorem apply_usable (net : NetIf Iface) (prov : Prov Iface) (request : ProvMessage)
    (usable : addrIsUsable request.ip request.prefixBits request.gateway = true) :
    (∃ iface, CallsSucceed net prov request.ip (prefixToMask request.prefixBits) iface ∧
      applyConfig net prov request =
        (0, prov.installed request (net.setGw iface request.gateway))) ∨
    ((¬ ∃ iface, CallsSucceed net prov request.ip (prefixToMask request.prefixBits) iface) ∧
      ((applyConfig net prov request).1 = -eio ∨
        (applyConfig net prov request).1 = -enomem)) := by
  have accepted : ¬ addrIsUsable request.ip request.prefixBits request.gateway = false := by
    simp [usable]
  unfold applyConfig
  rw [if_neg accepted]
  rcases removing : removeAddr net prov with ⟨_ | _, removed⟩
  · refine .inr ⟨?_, .inl rfl⟩
    rintro ⟨_, other, _, succeeds, -⟩
    cases removing.symm.trans succeeds
  rcases adding : net.addrAdd removed request.ip with ⟨_ | _, added⟩
  · refine .inr ⟨?_, .inr (by simp [adding])⟩
    rintro ⟨_, other, _, succeeds, adds, -⟩
    cases removing.symm.trans succeeds
    cases adding.symm.trans adds
  rcases masking : net.setNetmaskByAddr added request.ip (prefixToMask request.prefixBits) with
    ⟨_ | _, masked⟩
  · refine .inr ⟨?_, .inl (by simp [adding, masking])⟩
    rintro ⟨_, other, _, succeeds, adds, masks⟩
    cases removing.symm.trans succeeds
    cases adding.symm.trans adds
    cases masking.symm.trans masks
  · refine .inl ⟨masked, ⟨removed, added, removing, adding, masking⟩, ?_⟩
    simp [adding, masking, Prov.installed]

section Admission

variable {net : NetIf Iface} {prov : Prov Iface} {mailbox : Mailbox}

/-- A pending request passes the epoch checks and is serviced. -/
theorem pending_serviced {armed : Bool} {lastAppliedEpoch : BitVec 32}
    (pending : mailbox.Pending armed lastAppliedEpoch) :
    pollJtagMailbox net mailbox armed lastAppliedEpoch prov = serviceMailbox net mailbox prov := by
  obtain ⟨populated, ⟨rfl, unserviced⟩ | ⟨rfl, unserviced⟩⟩ := pending
  · simp [pollJtagMailbox, populated, unserviced]
  · simp [pollJtagMailbox, populated, unserviced]

/-- A word below 256 is the byte that is checked. -/
theorem byte_of_word {word : BitVec 32} (small : word.toNat < 256) :
    (word.setWidth 8).toNat = word.toNat := by
  rw [BitVec.toNat_setWidth]
  exact Nat.mod_eq_of_lt small

/-- A usable request has a prefix between 1 and 30, since the board's test asks for it. -/
theorem usable_prefix {ip gw : BitVec 32} {prefixBits : Byte}
    (usable : addrIsUsable ip prefixBits gw = true) :
    1 ≤ prefixBits.toNat ∧ prefixBits.toNat ≤ 30 := by
  by_contra outside
  have wide : ¬ (1 ≤ (prefixBits.toNat : Int) ∧ (prefixBits.toNat : Int) ≤ 30) := by omega
  rw [usable_valid, Host.validateConfig, if_pos wide] at usable
  cases usable

/-- Where the word fits the byte, the block admits exactly what the board's test finds usable. -/
theorem usable_word (small : mailbox.prefixBits.toNat < 256) :
    mailbox.Usable ↔
      addrIsUsable mailbox.ip (mailbox.prefixBits.setWidth 8) mailbox.gateway = true := by
  have same : BitVec.ofNat 8 mailbox.prefixBits.toNat = mailbox.prefixBits.setWidth 8 :=
    BitVec.eq_of_toNat_eq (by rw [byte_of_word small]; exact Nat.mod_eq_of_lt small)
  unfold Mailbox.Usable
  rw [same]
  refine and_iff_right_of_imp fun usable => ?_
  have range := usable_prefix usable
  rw [byte_of_word small] at range
  exact range

/-- An unusable request that the test refuses leaves the settings, and its result is `-EINVAL`. -/
theorem refused_exactly (unusable : ¬ mailbox.Usable)
    (refuses : addrIsUsable mailbox.ip (mailbox.prefixBits.setWidth 8) mailbox.gateway = false) :
    AdmitsExactly net mailbox prov (serviceMailbox net mailbox prov) := by
  have polled : serviceMailbox net mailbox prov =
      ⟨[.status (-einval), .ackEpoch mailbox.epoch], true, mailbox.epoch, prov⟩ :=
    if_pos refuses
  have idle : ¬ (serviceMailbox net mailbox prov).Installs := by
    rw [polled]
    simp [Polled.Installs, einval]
  refine ⟨⟨fun installs => absurd installs idle, fun usable => absurd usable.1 unusable⟩,
    fun installs => absurd installs idle, fun _ => ?_, ?_⟩
  · rw [polled]
    exact ⟨List.mem_cons_self, rfl⟩
  · rw [polled]
    exact ⟨_, rfl⟩

/-- A request that passes the check is handed to `apply_config`, whose result is the status. -/
theorem service_applies
    (accepted : addrIsUsable mailbox.ip (mailbox.prefixBits.setWidth 8) mailbox.gateway = true) :
    let result := applyConfig net prov
      (pollRequest prov mailbox.ip mailbox.gateway mailbox.prefixBits)
    serviceMailbox net mailbox prov =
      ⟨[.status result.1, .ackEpoch mailbox.epoch], true, mailbox.epoch, result.2⟩ :=
  if_neg (by simp [pollRequest, accepted])

/-- A usable request whose prefix fits the byte is installed whole when the calls succeed. -/
theorem usable_exactly (usable : mailbox.Usable) (small : mailbox.prefixBits.toNat < 256) :
    AdmitsExactly net mailbox prov (serviceMailbox net mailbox prov) := by
  have accepted := (usable_word small).mp usable
  have range := usable_prefix accepted
  have mask : prefixToMask (mailbox.prefixBits.setWidth 8) =
      netmask 32 mailbox.prefixBits.toNat := by
    rw [prefix_mask range.1 (by omega), byte_of_word small]
  have outcome := apply_usable net prov
    (pollRequest prov mailbox.ip mailbox.gateway mailbox.prefixBits) accepted
  simp only [pollRequest, mask] at outcome
  rw [service_applies accepted]
  rcases outcome with ⟨iface, calls, applied⟩ | ⟨fails, code⟩
  · have installs : (Polled.mk [.status 0, .ackEpoch mailbox.epoch] true mailbox.epoch
        (applyConfig net prov
          (pollRequest prov mailbox.ip mailbox.gateway mailbox.prefixBits)).2).Installs :=
      List.mem_cons_self
    simp only [pollRequest, applied] at installs ⊢
    refine ⟨⟨fun _ => ⟨usable, iface, calls⟩, fun _ => installs⟩, fun _ => ?_,
      fun unusable => absurd usable unusable, ⟨_, rfl⟩⟩
    exact ⟨iface, calls, rfl, rfl, rfl, rfl, byte_of_word small⟩
  · simp only [pollRequest]
    generalize applyConfig net prov _ = result at code ⊢
    have idle : ¬ (Polled.mk [.status result.1, .ackEpoch mailbox.epoch] true mailbox.epoch
        result.2).Installs := by
      rcases code with failed | failed <;> simp [Polled.Installs, failed, eio, enomem]
    exact ⟨⟨fun installs => absurd installs idle, fun succeed => absurd succeed.2 fails⟩,
      fun installs => absurd installs idle, fun unusable => absurd usable unusable, ⟨_, rfl⟩⟩

/-- For every pending request, the poll does what the block documents exactly when the prefix
word fits a byte, or the request made of its last byte is refused.

Proof: a request of a usable word is applied, and if the word is 256 or more its code is none
that the block documents for it. In the other cases the cast keeps the word or the last byte is
refused as the word is. -/
theorem mailbox_admission (net : NetIf Iface) (mailbox : Mailbox) (armed : Bool)
    (lastAppliedEpoch : BitVec 32) (prov : Prov Iface)
    (pending : mailbox.Pending armed lastAppliedEpoch) :
    AdmitsExactly net mailbox prov (pollJtagMailbox net mailbox armed lastAppliedEpoch prov) ↔
      mailbox.prefixBits.toNat < 256 ∨
        addrIsUsable mailbox.ip (mailbox.prefixBits.setWidth 8) mailbox.gateway = false := by
  rw [pending_serviced pending]
  constructor
  · intro exactly
    by_contra neither
    obtain ⟨wide, accepted⟩ := not_or.mp neither
    have usable := Bool.not_eq_false _ ▸ accepted
    have unusable : ¬ mailbox.Usable := fun valid => wide (by have := valid.1.2; omega)
    have refused := (exactly.refused unusable).1
    rw [service_applies usable] at refused
    rcases apply_usable net prov
      (pollRequest prov mailbox.ip mailbox.gateway mailbox.prefixBits) usable with
      ⟨iface, -, applied⟩ | ⟨-, code⟩
    · rw [applied] at refused
      simp [einval] at refused
    · rcases code with failed | failed <;> simp [failed, einval, eio, enomem] at refused
  · rintro (small | refuses)
    · by_cases usable : mailbox.Usable
      · exact usable_exactly usable small
      · exact refused_exactly usable (by simpa using mt (usable_word small).mpr usable)
    · by_cases small : mailbox.prefixBits.toNat < 256
      · have unusable : ¬ mailbox.Usable := fun usable => by
          rw [usable_word small, refuses] at usable
          cases usable
        exact refused_exactly unusable refuses
      · have unusable : ¬ mailbox.Usable := fun usable => small (by have := usable.1.2; omega)
        exact refused_exactly unusable refuses

end Admission

/-- A pending request for `10.0.0.2` with a prefix word to be chosen. -/
def sampleBlock (prefixBits : BitVec 32) : Mailbox :=
  ⟨mailboxMagic, 1#32, 0x0a000002#32, 0#32, prefixBits, 0#32, 0#32, 0⟩

/-- The theorem at a prefix of 24, which fits the byte, so the request is admitted exactly. -/
theorem mailbox_admission_small :
    AdmitsExactly steadyNet (sampleBlock 24#32) bootProv
      (pollJtagMailbox steadyNet (sampleBlock 24#32) false 0#32 bootProv) :=
  (mailbox_admission steadyNet (sampleBlock 24#32) false 0#32 bootProv
    ⟨rfl, .inl ⟨rfl, by decide⟩⟩).mpr (.inl (by decide))

/-- The admission fails at a prefix word of 280, which is cut to a byte and installed as a prefix of
24. -/
theorem mailbox_admits_truncated :
    ¬ ∀ (net : NetIf Unit) (mailbox : Mailbox) (armed : Bool) (lastAppliedEpoch : BitVec 32)
      (prov : Prov Unit), mailbox.Pending armed lastAppliedEpoch →
        AdmitsExactly net mailbox prov
          (pollJtagMailbox net mailbox armed lastAppliedEpoch prov) := by
  intro claimed
  have exactly := claimed steadyNet (sampleBlock 280#32) false 0#32 bootProv
    ⟨rfl, .inl ⟨rfl, by decide⟩⟩
  have unusable : ¬ (sampleBlock 280#32).Usable := fun usable => absurd usable.1.2 (by decide)
  have refused := (exactly.refused unusable).1
  have written : (pollJtagMailbox steadyNet (sampleBlock 280#32) false 0#32 bootProv).writes =
      [.status 0, .ackEpoch 1#32] := by decide +kernel
  rw [written] at refused
  exact absurd refused (by decide)

end EmaczZephyr.Provision
