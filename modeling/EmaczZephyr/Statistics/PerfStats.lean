import EmaczZephyr.Foundation.BigEndian
import EmaczZephyr.Foundation.Seqlock

/-!
# The statistics page

`struct emaczero_perf_stats` lies in a page of memory that the firmware writes word by word
and the host reads over JTAG. `FIELDS` of the reader repeats the declaration of the
structure, field by field; offsets follow from it by natural alignment. The fields from
`sink_packets` to `sink_last_len` are the sink block, and `sink_seq` below them its sequence
word.

The firmware's updates of the block are the stores they make: a field of 64 bits is two
words, the low one first.
-/

namespace EmaczZephyr.Statistics

open BigEndian

/-- The types of the fields, words of 32 bits and of 64. -/
inductive FieldKind where
  | u32
  | u64
deriving DecidableEq

/-- `FIELDS` of the reading script, every field of the header's structure in its order. -/
def fields : List (String × FieldKind) :=
  [("magic", .u32), ("version", .u32), ("cycles_per_sec", .u32), ("rx_pool_size", .u32),
    ("uptime_ms", .u32), ("cycle_delta_1s", .u32), ("cycle_delta_30s", .u32),
    ("mac_rx_frames", .u32), ("mac_rx_bytes", .u32), ("mac_rx_err", .u32),
    ("mac_rx_err_align", .u32), ("mac_rx_err_overflow", .u32), ("mac_rx_err_oversize", .u32),
    ("mac_rx_bcast", .u32), ("mac_rx_mcast", .u32), ("mac_rx_size_1024_1518", .u32),
    ("gate_magic", .u32), ("gate_good_frames", .u32), ("gate_dropped_bad_frames", .u32),
    ("gate_dropped_overflow_frames", .u32), ("gate_drain_samples", .u32),
    ("gate_drain_cycles_total", .u32), ("gate_drain_cycles_max", .u32),
    ("gate_drain_lt_50us", .u32), ("gate_drain_50_100us", .u32), ("gate_drain_100_200us", .u32),
    ("gate_drain_200_500us", .u32), ("gate_drain_ge_500us", .u32),
    ("gate_drain_tready_low_cycles", .u32), ("gate_drain_tready_low_cycles_max", .u32),
    ("gate_drain_tready_low_samples", .u32), ("_reserved_v12", .u32), ("dma_callbacks", .u64),
    ("dma_errors", .u64), ("dma_callback_gap_cycles_max", .u32),
    ("dma_callback_gap_ge_1ms", .u32), ("rx_refill_cycles_max", .u32),
    ("rx_refill_cycles_ge_1ms", .u32), ("rx_refill_queued_max", .u32), ("_reserved_v10", .u32),
    ("rx_bd_hw_completed", .u64), ("rx_bd_refilled", .u64), ("rx_bd_tail_updates", .u64),
    ("rx_bd_no_free", .u64), ("rx_irq_count", .u64), ("rx_bd_available_current", .u32),
    ("rx_bd_available_min", .u32), ("rx_poll_completed_max", .u32), ("rx_bd_errors", .u32),
    ("rx_dma_recoveries", .u32), ("rx_worker_packets", .u64), ("rx_invalid", .u64),
    ("rx_alloc_pkt_fail", .u64), ("rx_alloc_frag_fail", .u64), ("rx_alloc_pkt_zc_fail", .u64),
    ("rx_alloc_pkt_copy_fail", .u64), ("rx_copy_write_fail", .u64), ("rx_zero_copy_submit", .u64),
    ("rx_copy_submit", .u64), ("rx_net_recv_fail", .u64), ("rx_released", .u64),
    ("rx_refill_calls", .u64), ("rx_refill_queued", .u64), ("rx_refill_no_free", .u64),
    ("rx_dma_config_calls", .u64), ("rx_dma_reload_calls", .u64), ("rx_dma_start_calls", .u64),
    ("rx_dma_config_fail", .u64), ("rx_dma_reload_fail", .u64), ("rx_dma_start_fail", .u64),
    ("rx_pool_inflight_current", .u32), ("rx_pool_inflight_high", .u32),
    ("rx_free_current", .u32), ("rx_dma_fifo_current", .u32), ("rx_ready_fifo_current", .u32),
    ("rx_worker_current", .u32), ("rx_stack_owned_current", .u32), ("rx_owner_sum_current", .u32),
    ("rx_owner_sum_bad", .u32), ("rx_max_dma_inflight", .u32), ("rx_max_stack_owned", .u32),
    ("rx_min_free", .u32), ("rx_dwell_samples", .u64), ("rx_dwell_cycles_total", .u64),
    ("rx_dwell_cycles_max", .u32), ("rx_dwell_lt_1ms", .u32), ("rx_dwell_1_5ms", .u32),
    ("rx_dwell_5_20ms", .u32), ("rx_dwell_20_100ms", .u32), ("rx_dwell_ge_100ms", .u32),
    ("net_udp_recv", .u32), ("net_udp_drop", .u32), ("net_ipv4_recv", .u32),
    ("net_ipv4_drop", .u32), ("net_processing_error", .u32), ("net_pkt_filter_rx_drop", .u32),
    ("net_pkt_filter_rx_ipv4_drop", .u32), ("net_pkt_filter_rx_local_drop", .u32),
    ("sink_seq", .u32), ("sink_packets", .u64), ("sink_bytes", .u64), ("sink_recv_errors", .u64),
    ("sink_eagain", .u64), ("sink_recvfrom_calls", .u64), ("sink_recvfrom_cycles_total", .u64),
    ("sink_recvfrom_cycles_max", .u32), ("sink_last_errno", .u32), ("sink_first_cycle", .u32),
    ("sink_last_cycle", .u32), ("sink_last_len", .u32), ("net_ip_vhlerr", .u32),
    ("net_ip_hblenerr", .u32), ("net_ip_lblenerr", .u32), ("net_ip_fragerr", .u32),
    ("net_ip_chkerr", .u32), ("net_ip_protoerr", .u32), ("net_udp_chkerr", .u32),
    ("net_icmp_recv", .u32), ("net_icmp_sent", .u32), ("net_icmp_drop", .u32),
    ("net_icmp_typeerr", .u32), ("rx_last_icmp_src", .u32), ("rx_last_icmp_dst", .u32),
    ("rx_last_icmp_id", .u32), ("rx_last_icmp_seq", .u32), ("rx_pre_dst_me", .u32),
    ("rx_pre_dst_broadcast", .u32), ("rx_pre_dst_multicast", .u32), ("rx_pre_dst_other", .u32),
    ("rx_pre_type_ipv4", .u32), ("rx_pre_type_arp", .u32), ("rx_pre_type_other", .u32),
    ("rx_pre_ipv4_bad", .u32), ("rx_pre_ipv4_udp", .u32), ("rx_pre_udp_bad_len", .u32),
    ("rx_pre_udp_port_5001", .u32), ("rx_last_sample_len", .u32), ("rx_last_sample_status", .u32),
    ("rx_last_sample_word0", .u32), ("rx_last_sample_word1", .u32),
    ("rx_last_sample_word2", .u32), ("rx_last_sample_word3", .u32),
    ("rx_last_sample_word4", .u32), ("rx_last_sample_word5", .u32),
    ("rx_last_sample_word6", .u32), ("rx_last_sample_word7", .u32), ("rx_bad_sample_seen", .u32),
    ("rx_bad_sample_len", .u32), ("rx_bad_sample_status", .u32), ("rx_bad_sample_word0", .u32),
    ("rx_bad_sample_word1", .u32), ("rx_bad_sample_word2", .u32), ("rx_bad_sample_word3", .u32),
    ("rx_good_sample_seen", .u32), ("rx_good_sample_len", .u32), ("rx_good_sample_word0", .u32),
    ("rx_good_sample_word1", .u32), ("rx_good_sample_word2", .u32),
    ("rx_good_sample_word3", .u32), ("tx_send_calls", .u64), ("tx_send_read_fail", .u64),
    ("tx_setup_calls", .u64), ("tx_setup_no_dma", .u64), ("tx_setup_busy", .u64),
    ("tx_dma_config_fail", .u64), ("tx_dma_reload_fail", .u64), ("tx_dma_start_fail", .u64),
    ("tx_dma_start_ok", .u64), ("tx_dma_completed", .u64), ("tx_dma_error", .u64),
    ("tx_last_len", .u32), ("tx_last_ret", .u32), ("tx_last_word0", .u32),
    ("tx_last_word1", .u32), ("tx_last_word2", .u32), ("tx_last_word3", .u32),
    ("tx_last_icmp_src", .u32), ("tx_last_icmp_dst", .u32), ("tx_last_icmp_id", .u32),
    ("tx_last_icmp_seq", .u32), ("rx_ext_magic", .u32), ("rx_ext_len", .u32),
    ("rx_ext_word0", .u32), ("rx_ext_word1", .u32), ("rx_ext_word2", .u32),
    ("rx_ext_word3", .u32), ("rx_ext_word4", .u32), ("rx_ext_word5", .u32),
    ("rx_ext_word6", .u32), ("rx_ext_word7", .u32), ("rx_ext_word8", .u32),
    ("rx_ext_word9", .u32), ("rx_ext_word10", .u32), ("rx_ext_word11", .u32),
    ("rx_ext_word12", .u32), ("rx_ext_word13", .u32), ("rx_ext_word14", .u32),
    ("rx_ext_word15", .u32), ("tx_ext_magic", .u32), ("tx_ext_len", .u32), ("tx_ext_word0", .u32),
    ("tx_ext_word1", .u32), ("tx_ext_word2", .u32), ("tx_ext_word3", .u32),
    ("tx_ext_word4", .u32), ("tx_ext_word5", .u32), ("tx_ext_word6", .u32),
    ("tx_ext_word7", .u32), ("tx_ext_word8", .u32), ("tx_ext_word9", .u32),
    ("tx_ext_word10", .u32), ("tx_ext_word11", .u32), ("tx_ext_word12", .u32),
    ("tx_ext_word13", .u32), ("tx_ext_word14", .u32), ("tx_ext_word15", .u32)]

/-- One field placed behind those before it, at the next offset that its type allows. -/
def placeField (placed : List (String × Nat) × Nat) (field : String × FieldKind) :
    List (String × Nat) × Nat :=
  match field.2 with
  | .u64 =>
      -- `(offset + 7) & ~7`
      let offset := (placed.2 + 7) / 8 * 8
      (placed.1 ++ [(field.1, offset)], offset + 8)
  | .u32 => (placed.1 ++ [(field.1, placed.2)], placed.2 + 4)

/-- `field_offsets`: the offset of every field, and the size of all. Only the kernel
evaluates it. -/
@[irreducible]
def fieldOffsets : List (String × Nat) × Nat := fields.foldl placeField ([], 0)

/-- `offsets[name]`, the byte offset of a field from the start of the page. -/
def offsetOf (name : String) : Nat := (fieldOffsets.1.lookup name).getD 0

/-- The words that the reader copies, which are those that the fields take up. -/
def pageWords : Nat := (fieldOffsets.2 + 3) / 4

/-- The words of memory from the page on. -/
abbrev Page := Nat → BitVec 32

/-- The first word of a field, which is its offset in words. -/
def wordOf (name : String) : Nat := offsetOf name / 4

/-- A field of 32 bits, as the firmware reads it. -/
def load32 (page : Page) (name : String) : BitVec 32 := page (wordOf name)

/-- A field of 64 bits, as the firmware reads it: two words, the low one first. -/
def load64 (page : Page) (name : String) : BitVec 64 :=
  page (wordOf name + 1) ++ page (wordOf name)

/-- A store of one word, by its place on the page and its value. -/
abbrev Store := Nat × BitVec 32

/-- The one store to a field of 32 bits. -/
def store32 (name : String) (value : BitVec 32) : List Store := [(wordOf name, value)]

/-- The two stores to a field of 64 bits, the low word first. -/
def store64 (name : String) (value : BitVec 64) : List Store :=
  [(wordOf name, value.extractLsb' 0 32), (wordOf name + 1, value.extractLsb' 32 32)]

/-- `EAGAIN`, and `EWOULDBLOCK` with it, which has the same number. -/
def eagain : BitVec 32 := 11#32

/-- The calls that update the block, with the values they bring: the payload's length and the
cycle counter, the error number, the cycles of one receive call. -/
inductive SinkUpdate where
  | packet (payloadLen now : BitVec 32)
  | error (err : BitVec 32)
  | receive (recvCycles : BitVec 32)
deriving DecidableEq

/-- `sink_account_packet`: the first packet leaves its time, and every packet its length and its
time, and is counted. -/
def sinkAccountPacket (page : Page) (payloadLen now : BitVec 32) : List Store :=
  (if load64 page "sink_packets" = 0#64 then store32 "sink_first_cycle" now else []) ++
    store64 "sink_packets" (load64 page "sink_packets" + 1#64) ++
    store64 "sink_bytes" (load64 page "sink_bytes" + payloadLen.setWidth 64) ++
    store32 "sink_last_len" payloadLen ++ store32 "sink_last_cycle" now

/-- `sink_account_error`: an error is counted and kept, and once more where it only says that
nothing came. -/
def sinkAccountError (page : Page) (err : BitVec 32) : List Store :=
  store64 "sink_recv_errors" (load64 page "sink_recv_errors" + 1#64) ++
    store32 "sink_last_errno" err ++
    (if err = eagain then store64 "sink_eagain" (load64 page "sink_eagain" + 1#64) else [])

/-- The update of `udp_sink_thread_fn` behind a receive call, with the cycles that it took. -/
def udpSinkReceive (page : Page) (recvCycles : BitVec 32) : List Store :=
  store64 "sink_recvfrom_calls" (load64 page "sink_recvfrom_calls" + 1#64) ++
    store64 "sink_recvfrom_cycles_total"
      (load64 page "sink_recvfrom_cycles_total" + recvCycles.setWidth 64) ++
    (if load32 page "sink_recvfrom_cycles_max" < recvCycles then
      store32 "sink_recvfrom_cycles_max" recvCycles else [])

/-- The stores of an update between its two increments of `sink_seq`. -/
def SinkUpdate.stores (page : Page) : SinkUpdate → List Store
  | .packet payloadLen now => sinkAccountPacket page payloadLen now
  | .error err => sinkAccountError page err
  | .receive recvCycles => udpSinkReceive page recvCycles

/-- The fields of the sink block, in the order of the structure. -/
def sinkFields : List (String × FieldKind) :=
  [("sink_packets", .u64), ("sink_bytes", .u64), ("sink_recv_errors", .u64),
    ("sink_eagain", .u64), ("sink_recvfrom_calls", .u64), ("sink_recvfrom_cycles_total", .u64),
    ("sink_recvfrom_cycles_max", .u32), ("sink_last_errno", .u32), ("sink_first_cycle", .u32),
    ("sink_last_cycle", .u32), ("sink_last_len", .u32)]

/-- They are fields of the page. -/
example : sinkFields ⊆ fields := by decide

end EmaczZephyr.Statistics
