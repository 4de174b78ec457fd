import EmaczZephyr.Provision.Message

/-!
# The host tool's configure path

The functions that `main` runs to configure a board: the exchange of packets by
transaction identifier, the selection of a board and the check of the arguments. A
dictionary by MAC address is the list of its messages in the order of insertion. The
sockets are left out: what a message arrived on is not used by this path.
-/

namespace EmaczZephyr.Provision.Host

open BigEndian

/-- The arguments of the command, and the transaction identifier it draws. -/
structure Settings where
  mac : Option (BitVec 48)
  ip : BitVec 32
  prefixBits : Int
  gateway : BitVec 32
  xid : BitVec 32

/-- The packet of `discover`: the operation and the transaction, and zeros everywhere else. -/
def discoverMessage (xid : BitVec 32) : Message where
  op := provDiscover
  status := 0#8
  prefixBits := 0#8
  xid := xid
  mac := 0#48
  ip := 0#32
  gateway := 0#32
  token := 0#32

/-- The packet that answers an offer: the settings of the command, with transaction, link address
and token of the offer. -/
def configMessage (settings : Settings) (offer : Message) : Message where
  op := provConfig
  status := 0#8
  prefixBits := BitVec.ofInt 8 settings.prefixBits
  xid := offer.xid
  mac := offer.mac
  ip := settings.ip
  gateway := settings.gateway
  token := offer.token

/-- `found[message.mac] = message`: a later message of the same board takes the place of the
earlier one. -/
def remember (found : List Message) (message : Message) : List Message :=
  if found.any (fun other => other.mac == message.mac) then
    found.map fun other => if other.mac = message.mac then message else other
  else found ++ [message]

/-- One datagram in the loop of `exchange`: the messages found, and whether it returns
at once. -/
def exchangeReceive (xid : BitVec 32) (expectedOp : Byte) (targetMac : Option (BitVec 48))
    (found : List Message) (data : List Byte) : List Message × Bool :=
  match decodeMessage (data.take 256) with
  | none => (found, false)
  | some message =>
      if message.xid = xid ∧ message.op = expectedOp then
        (remember found message, decide (targetMac = some message.mac))
      else (found, false)

/-- `select_board`: the board that was named, or the only one that answered; an exception is
`none`. -/
def selectBoard (boards : List Message) (mac : Option (BitVec 48)) : Option Message :=
  match mac with
  | some mac => boards.find? fun board => board.mac = mac
  | none =>
      match boards with
      | [board] => some board
      | _ => none

/-- `validate_config`: whether it returns, for the settings of the command line. -/
def validateConfig (ip : BitVec 32) (prefixBits : Int) (gateway : BitVec 32) : Bool :=
  if ¬ (1 ≤ prefixBits ∧ prefixBits ≤ 30) then false
  else
    let mask := BitVec.allOnes 32 <<< (32 - prefixBits.toNat)
    let networkAddress := ip &&& mask
    let broadcastAddress := networkAddress ||| ~~~mask
    if ip &&& 0xf0000000#32 = 0xe0000000#32 ∨ ip = 0#32 ∨ ip &&& 0xff000000#32 = 0x7f000000#32 ∨
        ip = networkAddress ∨ ip = broadcastAddress then false
    else if gateway ≠ 0#32 ∧ (gateway &&& mask ≠ networkAddress ∨ gateway = ip ∨
        gateway = networkAddress ∨ gateway = broadcastAddress) then false
    else true

/-- The offer that `main` answers, once its settings are valid. -/
def chooseOffer (settings : Settings) (boards : List Message) : Option Message :=
  if validateConfig settings.ip settings.prefixBits settings.gateway then
    selectBoard boards settings.mac
  else none

/-- The reply that `main` reports as success: one of the board it asked, with status zero. -/
def conclude (offer : Message) (replies : List Message) : Option Message :=
  match replies.find? fun reply => reply.mac = offer.mac with
  | none => none
  | some reply => if reply.status ≠ 0#8 then none else some reply

/-- Where the command is, with the messages that it has found so far. -/
inductive Point where
  | start
  | discovering (found : List Message)
  | configuring (offer : Message) (found : List Message)
  /-- It has returned, with the reply it reports or with an error. -/
  | done (reply : Option Message)
deriving DecidableEq

/-- What is remembered was there before, or is the new message. -/
theorem remember_member {found : List Message} {message other : Message}
    (member : other ∈ remember found message) : other ∈ found ∨ other = message := by
  unfold remember at member
  split at member
  · obtain ⟨before, old, rfl⟩ := List.mem_map.mp member
    split
    · exact .inr rfl
    · exact .inl old
  · rcases List.mem_append.mp member with old | now
    · exact .inl old
    · exact .inr (List.mem_singleton.mp now)

/-- An exchange finds only messages of its transaction and operation, decoded from datagrams. -/
theorem exchange_member {xid : BitVec 32} {expectedOp : Byte} {targetMac : Option (BitVec 48)}
    {found : List Message} {data : List Byte} {message : Message}
    (member : message ∈ (exchangeReceive xid expectedOp targetMac found data).1) :
    message ∈ found ∨ decodeMessage (data.take 256) = some message ∧ message.xid = xid ∧
      message.op = expectedOp := by
  unfold exchangeReceive at member
  split at member
  · exact .inl member
  · rename_i decoded received
    split at member
    · rename_i wanted
      rcases remember_member member with old | rfl
      · exact .inl old
      · exact .inr ⟨received, wanted⟩
    · exact .inl member

/-- A chosen offer is one of those found, and the arguments passed their check. -/
theorem choose_member {settings : Settings} {boards : List Message} {offer : Message}
    (chosen : chooseOffer settings boards = some offer) :
    offer ∈ boards ∧ validateConfig settings.ip settings.prefixBits settings.gateway = true := by
  unfold chooseOffer at chosen
  split at chosen
  · rename_i valid
    refine ⟨?_, valid⟩
    unfold selectBoard at chosen
    split at chosen
    · exact List.mem_of_find?_eq_some chosen
    · split at chosen
      · exact List.mem_singleton.mpr (Option.some.inj chosen).symm
      · cases chosen
  · cases chosen

/-- A checked prefix is the byte that is sent, because it is between 1 and 30. -/
theorem valid_prefix {settings : Settings}
    (valid : validateConfig settings.ip settings.prefixBits settings.gateway = true) :
    ((BitVec.ofInt 8 settings.prefixBits).toNat : Int) = settings.prefixBits := by
  have range : 1 ≤ settings.prefixBits ∧ settings.prefixBits ≤ 30 := by
    by_contra outside
    simp [validateConfig, outside] at valid
  rw [BitVec.toNat_ofInt]
  omega

/-- A reported reply is one of those found, with status 0, from the board of the
offer. -/
theorem conclude_member {offer reply : Message} {replies : List Message}
    (reported : conclude offer replies = some reply) :
    reply ∈ replies ∧ reply.status = 0#8 ∧ reply.mac = offer.mac := by
  unfold conclude at reported
  split at reported
  · cases reported
  · rename_i found here
    split at reported
    · cases reported
    · rename_i accepted
      obtain rfl := Option.some.inj reported
      refine ⟨List.mem_of_find?_eq_some here, not_not.mp accepted, ?_⟩
      simpa using List.find?_some here

end EmaczZephyr.Provision.Host
