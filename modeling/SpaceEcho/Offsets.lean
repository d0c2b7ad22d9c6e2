/-
The two blocks offset by offset: the parameter each byte belongs to and the
range it may lie in.  The decoders check their bytes in this order, so a block
is accepted exactly when every byte is in its range, and a refused one is
blamed on its first byte that is not.
-/
import SpaceEcho.Lib.FirstFault
import SpaceEcho.Memory

namespace SpaceEcho

/-- One byte of a block: the parameter that owns it, and its range. -/
structure Offset where
  field : String
  min : UInt8
  max : UInt8
deriving Repr, DecidableEq

def Offset.Admits (offset : Offset) (b : UInt8) : Prop :=
  offset.min ≤ b ∧ b ≤ offset.max

instance (offset : Offset) (b : UInt8) : Decidable (offset.Admits b) :=
  inferInstanceAs (Decidable (_ ∧ _))

def SystemArea.offsets : List Offset :=
  [⟨"input_source", 0, 1⟩, ⟨"ctl1_function", 0, 4⟩, ⟨"ctl2_function", 0, 4⟩,
    ⟨"direct.on", 0, 1⟩, ⟨"direct.mode", 0, 1⟩, ⟨"carryover", 0, 1⟩,
    ⟨"time_mode", 0, 1⟩, ⟨"reverb_type", 0, 4⟩, ⟨"memory_extent", 1, 4⟩,
    ⟨"midi.rx_channel", 0, 16⟩, ⟨"midi.tx_channel", 0, 17⟩,
    ⟨"midi.pc_in", 0, 1⟩, ⟨"midi.pc_out", 0, 1⟩, ⟨"midi.cc_in", 0, 1⟩,
    ⟨"midi.cc_out", 0, 1⟩, ⟨"midi.sync_source", 0, 1⟩,
    ⟨"midi.realtime_source", 0, 1⟩, ⟨"midi.thru", 0, 1⟩]

def Memory.offsets : List Offset :=
  [⟨"tape", 0, 1⟩, ⟨"mode", 0, 11⟩] ++
    List.replicate 3 ⟨"repeat_rate", 0, 127⟩ ++
    List.replicate 3 ⟨"intensity", 0, 127⟩ ++
    List.replicate 3 ⟨"echo_volume", 0, 127⟩ ++
    List.replicate 3 ⟨"bass", 0, 127⟩ ++
    List.replicate 3 ⟨"treble", 0, 127⟩ ++
    List.replicate 3 ⟨"reverb_volume", 0, 127⟩ ++
    List.replicate 3 ⟨"saturation", 0, 127⟩ ++
    List.replicate 3 ⟨"wow_flutter", 0, 127⟩ ++
    [⟨"reverb_sw", 0, 1⟩, ⟨"tap_sw", 0, 1⟩] ++
    List.replicate 4 ⟨"tap_time_nibble", 0, 15⟩ ++ [⟨"time_mode", 0, 1⟩]

/-- The error carries this parameter's name and this byte. -/
def CodecError.Names (field : String) (b : UInt8) : CodecError → Prop
  | .invalidValue f value _ => f = field ∧ value = b
  | .outOfRange f value _ => f = field ∧ value = b.toUInt16
  | _ => False

theorem CodecError.Names.ofBlock {field : String} {b : UInt8} {error : CodecError}
    (hnames : error.Names field b) : error.OfBlock := by
  cases error with
  | yaml message => exact hnames
  | _ => trivial

/-- The computation reads these bytes in order, each against its offset. -/
def ReadsInOrder {α : Type} (entries : List (Offset × UInt8))
    (x : Except CodecError α) : Prop :=
  FirstFault.Checks (fun entry => entry.1.Admits entry.2)
    (fun error entry => error.Names entry.1.field entry.2) entries x

section Fields

theorem one_le_of_ne_zero {b : UInt8} (hb : b ≠ 0) : 1 ≤ b := by
  rw [UInt8.le_iff_toNat_le]
  have hpos := UInt8.toNat_inj.not.mpr hb
  change b.toNat ≠ 0 at hpos
  change 1 ≤ b.toNat
  omega

/-- A table whose codes are `0` to `max` admits just these bytes. -/
theorem fromTable_reads {α : Type} {table : List (UInt8 × α)} (field valid : String)
    {max : UInt8}
    (hcodes : table.map Prod.fst = (List.range (max.toNat + 1)).map UInt8.ofNat)
    (b : UInt8) :
    ReadsInOrder [(⟨field, 0, max⟩, b)] (fromTable table field valid b) := by
  have hmem : (table.lookup b).isSome ↔ b ∈ table.map Prod.fst := by
    rw [List.lookup_isSome_iff, List.mem_map]
    simp only [beq_iff_eq, @eq_comm _ b]
  have hcode : b ∈ table.map Prod.fst ↔ b ≤ max := by
    have hmax : max.toNat < 256 := max.toNat_lt
    rw [hcodes, List.mem_map, UInt8.le_iff_toNat_le]
    constructor
    · rintro ⟨n, hn, rfl⟩
      have hlt := List.mem_range.mp hn
      rw [UInt8.toNat_ofNat_of_lt' (by change n < 256; omega)]
      omega
    · intro hle
      exact ⟨b.toNat, List.mem_range.mpr (by omega), UInt8.ofNat_toNat⟩
  have hfound := hmem.trans hcode
  apply FirstFault.checks_item
  · intro hadmits
    obtain ⟨a, ha⟩ := Option.isSome_iff_exists.mp (hfound.mpr hadmits.2)
    exact ⟨a, by rw [fromTable, ha]⟩
  · intro hrefused
    have hnone : table.lookup b = none := by
      rw [Option.eq_none_iff_forall_ne_some]
      intro a ha
      exact hrefused ⟨UInt8.zero_le, hfound.mp (by rw [ha]; rfl)⟩
    exact ⟨.invalidValue field b valid, by rw [fromTable, hnone], rfl, rfl⟩

theorem byteToBool_reads (b : UInt8) (field : String) :
    ReadsInOrder [(⟨field, 0, 1⟩, b)] (byteToBool b field) :=
  fromTable_reads field "0 or 1" rfl b

theorem validateRange_reads (b min max : UInt8) (field : String) :
    ReadsInOrder [(⟨field, min, max⟩, b)] (validateRange b min max field) := by
  apply FirstFault.checks_item
  · intro hadmits
    exact ⟨b, if_pos hadmits⟩
  · intro hrefused
    exact ⟨_, if_neg hrefused, rfl, rfl⟩

theorem MidiChannel.fromByte_reads (b : UInt8) :
    ReadsInOrder [(⟨"midi.rx_channel", 0, 16⟩, b)] (fromByte b) := by
  unfold fromByte
  apply FirstFault.checks_item
  · intro hadmits
    split_ifs with hzero hrange
    · exact ⟨_, rfl⟩
    · exact ⟨_, rfl⟩
    · exact absurd ⟨one_le_of_ne_zero hzero, hadmits.2⟩ hrange
  · intro hrefused
    split_ifs with hzero hrange
    · subst hzero
      exact absurd (by decide) hrefused
    · exact absurd ⟨UInt8.zero_le, hrange.2⟩ hrefused
    · exact ⟨_, rfl, rfl, rfl⟩

theorem TxChannel.fromByte_reads (b : UInt8) :
    ReadsInOrder [(⟨"midi.tx_channel", 0, 17⟩, b)] (fromByte b) := by
  unfold fromByte
  apply FirstFault.checks_item
  · intro hadmits
    split_ifs with hzero hrange hrx
    · exact ⟨_, rfl⟩
    · exact ⟨_, rfl⟩
    · exact ⟨_, rfl⟩
    · have hle : b ≤ 16 := by
        have hmax := UInt8.le_iff_toNat_le.mp hadmits.2
        have hne := UInt8.toNat_inj.not.mpr hrx
        change b.toNat ≤ 17 at hmax
        change b.toNat ≠ 17 at hne
        rw [UInt8.le_iff_toNat_le]
        change b.toNat ≤ 16
        omega
      exact absurd ⟨one_le_of_ne_zero hzero, hle⟩ hrange
  · intro hrefused
    split_ifs with hzero hrange hrx
    · subst hzero
      exact absurd (by decide) hrefused
    · have hle : b ≤ 17 := UInt8.le_trans hrange.2 (by decide)
      exact absurd ⟨UInt8.zero_le, hle⟩ hrefused
    · subst hrx
      exact absurd (by decide) hrefused
    · exact ⟨_, rfl, rfl, rfl⟩

/-- A loop over bytes of one parameter, each bounded above. -/
theorem scan_reads (field : String) (max : UInt8) {error : UInt8 → CodecError}
    (hnames : ∀ b, (error b).Names field b) (bytes : List UInt8) :
    ReadsInOrder (bytes.map fun b => (Offset.mk field 0 max, b))
      (Block.scan (fun b => b > max) error bytes) := by
  apply FirstFault.checks_scan
  · intro b
    rw [gt_iff_lt, UInt8.not_lt]
    exact and_iff_right UInt8.zero_le
  · exact hnames

theorem RangedParam.fromBytes_reads (value min max : UInt8) (field : String) :
    ReadsInOrder [(⟨field, 0, 127⟩, value), (⟨field, 0, 127⟩, min),
      (⟨field, 0, 127⟩, max)] (fromBytes value min max field) := by
  refine (scan_reads field 127 ?_ [value, min, max]).bind
    fun _ => FirstFault.checks_ok _
  exact fun _ => ⟨rfl, rfl⟩

theorem unpackTapTime_reads (n0 n1 n2 n3 : UInt8) :
    ReadsInOrder [(⟨"tap_time_nibble", 0, 15⟩, n0),
      (⟨"tap_time_nibble", 0, 15⟩, n1), (⟨"tap_time_nibble", 0, 15⟩, n2),
      (⟨"tap_time_nibble", 0, 15⟩, n3)] (unpackTapTime #v[n0, n1, n2, n3]) := by
  refine (scan_reads "tap_time_nibble" 15 ?_ [n0, n1, n2, n3]).bind
    fun _ => FirstFault.checks_ok _
  exact fun _ => ⟨rfl, rfl⟩

end Fields

/-- The System decoder reads its bytes in the order of the table. -/
theorem SystemArea.fromBytes_reads (b : Vector UInt8 systemAreaLen) :
    ReadsInOrder (SystemArea.offsets.zip b.toList) (fromBytes b.toList) := by
  have htable : ∀ {α : Type} (table : List (UInt8 × α)) (field valid : String)
      (max : UInt8) (byte : UInt8),
      table.map Prod.fst = (List.range (max.toNat + 1)).map UInt8.ofNat →
      ReadsInOrder [(⟨field, 0, max⟩, byte)] (fromTable table field valid byte) :=
    fun _ field valid _ byte hcodes => fromTable_reads field valid hcodes byte
  rw [fromBytes_toList, Block.toList_eq_ofFn b]
  exact (htable _ _ _ 1 b[0x00] rfl).bind fun _ =>
    (htable _ _ _ 4 b[0x01] rfl).bind fun _ =>
    (htable _ _ _ 4 b[0x02] rfl).bind fun _ =>
    (byteToBool_reads b[0x03] "direct.on").bind fun _ =>
    (htable _ _ _ 1 b[0x04] rfl).bind fun _ =>
    (byteToBool_reads b[0x05] "carryover").bind fun _ =>
    (htable _ _ _ 1 b[0x06] rfl).bind fun _ =>
    (htable _ _ _ 4 b[0x07] rfl).bind fun _ =>
    (validateRange_reads b[0x08] 1 4 "memory_extent").bind fun _ =>
    (MidiChannel.fromByte_reads b[0x09]).bind fun _ =>
    (TxChannel.fromByte_reads b[0x0A]).bind fun _ =>
    (byteToBool_reads b[0x0B] "midi.pc_in").bind fun _ =>
    (byteToBool_reads b[0x0C] "midi.pc_out").bind fun _ =>
    (byteToBool_reads b[0x0D] "midi.cc_in").bind fun _ =>
    (byteToBool_reads b[0x0E] "midi.cc_out").bind fun _ =>
    (htable _ _ _ 1 b[0x0F] rfl).bind fun _ =>
    (htable _ _ _ 1 b[0x10] rfl).bind fun _ =>
    (byteToBool_reads b[0x11] "midi.thru").bind fun _ =>
    FirstFault.checks_ok _

/-- The memory decoder reads its bytes in the order of the table. -/
theorem Memory.fromBytes_reads (b : Vector UInt8 memoryBlockLen) :
    ReadsInOrder (Memory.offsets.zip b.toList) (fromBytes b.toList) := by
  have hpedal := fun value min max field =>
    RangedParam.fromBytes_reads value min max field
  rw [fromBytes_toList, Block.toList_eq_ofFn b]
  exact (fromTable_reads "tape" _ rfl b[0x00]).bind fun _ =>
    (fromTable_reads "mode" _ rfl b[0x01]).bind fun _ =>
    (hpedal b[0x02] b[0x03] b[0x04] "repeat_rate").bind fun _ =>
    (hpedal b[0x05] b[0x06] b[0x07] "intensity").bind fun _ =>
    (hpedal b[0x08] b[0x09] b[0x0A] "echo_volume").bind fun _ =>
    (hpedal b[0x0B] b[0x0C] b[0x0D] "bass").bind fun _ =>
    (hpedal b[0x0E] b[0x0F] b[0x10] "treble").bind fun _ =>
    (hpedal b[0x11] b[0x12] b[0x13] "reverb_volume").bind fun _ =>
    (hpedal b[0x14] b[0x15] b[0x16] "saturation").bind fun _ =>
    (hpedal b[0x17] b[0x18] b[0x19] "wow_flutter").bind fun _ =>
    (byteToBool_reads b[0x1A] "reverb_sw").bind fun _ =>
    (byteToBool_reads b[0x1B] "tap_sw").bind fun _ =>
    (unpackTapTime_reads b[0x1C] b[0x1D] b[0x1E] b[0x1F]).bind fun _ =>
    (fromTable_reads "time_mode" _ rfl b[0x20]).bind fun _ =>
    FirstFault.checks_ok _

theorem ReadsInOrder.failsOnly {α : Type} {entries : List (Offset × UInt8)}
    {x : Except CodecError α} (hreads : ReadsInOrder entries x) :
    Codec.FailsOnly CodecError.OfBlock x := by
  intro error herror
  obtain ⟨_, _, _, _, hnames, _⟩ := hreads.blames_first herror
  exact hnames.ofBlock

/-- A refused System block is refused for its length or for one of its bytes. -/
theorem SystemArea.fromBytes_failsOnly (bytes : List UInt8) :
    Codec.FailsOnly CodecError.OfBlock (fromBytes bytes) := by
  by_cases hlength : bytes.length = systemAreaLen
  · obtain ⟨b, rfl⟩ := Block.exists_toList_eq hlength
    exact (fromBytes_reads b).failsOnly
  · rw [fromBytes_of_length_ne hlength]
    exact Codec.failsOnly_error trivial

theorem Memory.fromBytes_failsOnly (bytes : List UInt8) :
    Codec.FailsOnly CodecError.OfBlock (fromBytes bytes) := by
  by_cases hlength : bytes.length = memoryBlockLen
  · obtain ⟨b, rfl⟩ := Block.exists_toList_eq hlength
    exact (fromBytes_reads b).failsOnly
  · rw [fromBytes_of_length_ne hlength]
    exact Codec.failsOnly_error trivial

/-- The System decoder accepts exactly the documented block, and the encoder
takes what it read back to the same bytes. -/
theorem SystemArea.fromBytes_accepts_documented :
    (∀ bytes, (∃ s, fromBytes bytes = .ok s) ↔
      bytes.length = 18 ∧
        ∀ entry ∈ SystemArea.offsets.zip bytes, entry.1.Admits entry.2) ∧
    ∀ bytes s, fromBytes bytes = .ok s →
      ∃ b, s.toBytes = .ok b ∧ b.toList = bytes := by
  constructor
  · intro bytes
    constructor
    · rintro ⟨s, hread⟩
      have hlength : bytes.length = systemAreaLen := by
        rw [← (exact.sound hread).2]
        exact s.block.length_toList
      obtain ⟨b, rfl⟩ := Block.exists_toList_eq hlength
      exact ⟨hlength, (fromBytes_reads b).returns_iff.mp ⟨s, hread⟩⟩
    · rintro ⟨hlength, hadmits⟩
      obtain ⟨b, rfl⟩ := Block.exists_toList_eq hlength
      exact (fromBytes_reads b).returns_iff.mpr hadmits
  · intro bytes s hread
    obtain ⟨hwell, hblock⟩ := exact.sound hread
    exact ⟨s.block, checked.ok_iff.mpr ⟨hwell.memoryExtent, rfl⟩, hblock⟩

/-- The error blames the first byte that is out of its range. -/
def BlamesFirst (offsets : List Offset) (bytes : List UInt8)
    (error : CodecError) : Prop :=
  ∃ (k : ℕ) (offset : Offset) (b : UInt8), offsets[k]? = some offset ∧
    bytes[k]? = some b ∧ ¬ offset.Admits b ∧ error.Names offset.field b ∧
    ∀ j < k, ∀ o c, offsets[j]? = some o → bytes[j]? = some c → o.Admits c

theorem ReadsInOrder.blamesFirst {α : Type} {offsets : List Offset}
    {bytes : List UInt8} {x : Except CodecError α}
    (hreads : ReadsInOrder (offsets.zip bytes) x) {error : CodecError}
    (herror : x = .error error) : BlamesFirst offsets bytes error := by
  obtain ⟨k, ⟨offset, b⟩, hk, hbad, hnames, hbefore⟩ := hreads.blames_first herror
  obtain ⟨hoffset, hb⟩ := List.getElem?_zip_eq_some.mp hk
  refine ⟨k, offset, b, hoffset, hb, hbad, hnames, ?_⟩
  intro j hj o c ho hc
  exact hbefore j hj (o, c) (List.getElem?_zip_eq_some.mpr ⟨ho, hc⟩)

/-- A rejected block is blamed on its first bad byte, a slice of the wrong
length on its length. -/
theorem rejected_block_blamed :
    (∀ bytes error, bytes.length = 33 → Memory.fromBytes bytes = .error error →
      BlamesFirst Memory.offsets bytes error) ∧
    (∀ bytes error, bytes.length = 18 →
      SystemArea.fromBytes bytes = .error error →
      BlamesFirst SystemArea.offsets bytes error) ∧
    (∀ bytes, bytes.length ≠ 33 →
      Memory.fromBytes bytes = .error (.wrongLength 33 bytes.length)) ∧
    ∀ bytes, bytes.length ≠ 18 →
      SystemArea.fromBytes bytes = .error (.wrongLength 18 bytes.length) := by
  refine ⟨?_, ?_, ?_, ?_⟩
  · intro bytes error hlength herror
    obtain ⟨b, rfl⟩ := Block.exists_toList_eq hlength
    exact (Memory.fromBytes_reads b).blamesFirst herror
  · intro bytes error hlength herror
    obtain ⟨b, rfl⟩ := Block.exists_toList_eq hlength
    exact (SystemArea.fromBytes_reads b).blamesFirst herror
  · intro bytes hlength
    exact Memory.fromBytes_of_length_ne hlength
  · intro bytes hlength
    exact SystemArea.fromBytes_of_length_ne hlength

end SpaceEcho
