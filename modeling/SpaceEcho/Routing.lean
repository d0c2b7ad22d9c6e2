/-
The device adapter's classifier of inbound messages.  It stands on the
classifier of the core with a check for identity replies in front, and labels a
dump with the area its address belongs to.  It agrees with the frame decoder on
every input; its label agrees with the block search of a decode for the memory
areas, and is wider than it for the System area.
-/
import SpaceEcho.Echoes
import SpaceEcho.Inbound

namespace SpaceEcho.Re202

/-- What the engine is told about an inbound message. -/
inductive Inbound where
  | identity (bytes : List UInt8) (model : Option String)
  | dump (area : Option String) (address : List UInt8) (data : List UInt8)
  | request (address : List UInt8)
  | other (bytes : List UInt8)
deriving Repr, DecidableEq

/-- The area an address belongs to.  User slots have none. -/
def areaForAddress (address : Address) : Option String :=
  match AddressSpace.classify address with
  | .system => some "system"
  | .memory =>
      if address = editBufferBase then some "edit"
      else if address = MemorySlot.manual.baseAddress then some "memory"
      else none
  | .unknown => none

/-- Detect a Universal Identity Reply.  The outer option says that the message
is one, the inner one names the model if it is known. -/
def classifyIdentity (bytes : List UInt8) : Option (Option String) :=
  let isIdentityReply := 6 ≤ bytes.length ∧ bytes[0]? = some 0xF0 ∧
    bytes[1]? = some 0x7E ∧ bytes[3]? = some 0x06 ∧ bytes[4]? = some 0x02
  if ¬ isIdentityReply then none
  else
    let isRe202 := 8 ≤ bytes.length ∧ bytes[5]? = some 0x41 ∧
      bytes[6]? = some 0x18 ∧ bytes[7]? = some 0x04
    some (if isRe202 then some "RE-202" else none)

def classifyInbound (bytes : List UInt8) : Except Panic Inbound :=
  match classifyIdentity bytes with
  | some model => .ok (.identity bytes model)
  | none => do
      match ← SpaceEcho.classifyInbound bytes with
      | .systemDataSet _ address data
      | .memoryDataSet _ address data
      | .unknownDataSet _ address data =>
          return .dump (areaForAddress address) address.toList data
      | .dataRequest _ address _ => return .request address.toList
      | .unparseableSysEx bytes _ => return .other bytes
      | .nonSysEx bytes => return .other bytes

section Identity

/-- A Universal Identity Reply: `F0 7E`, a device id, `06 02`, and something
more. -/
def IdentityReply (bytes : List UInt8) : Prop :=
  ∃ device next rest,
    bytes = 0xF0 :: 0x7E :: device :: 0x06 :: 0x02 :: next :: rest

theorem identityReply_iff (bytes : List UInt8) :
    IdentityReply bytes ↔ 6 ≤ bytes.length ∧ bytes[0]? = some 0xF0 ∧
      bytes[1]? = some 0x7E ∧ bytes[3]? = some 0x06 ∧ bytes[4]? = some 0x02 := by
  constructor
  · rintro ⟨device, next, rest, rfl⟩
    simp
  · intro hreply
    obtain ⟨hlength, h0, h1, h3, h4⟩ := hreply
    rcases bytes with _ | ⟨b0, _ | ⟨b1, _ | ⟨b2, _ | ⟨b3, _ | ⟨b4, _ |
      ⟨b5, rest⟩⟩⟩⟩⟩⟩
    case cons.cons.cons.cons.cons.cons =>
      simp only [List.getElem?_cons_zero, List.getElem?_cons_succ,
        Option.some.injEq] at h0 h1 h3 h4
      subst h0 h1 h3 h4
      exact ⟨b2, b5, rest, rfl⟩
    all_goals simp at hlength

theorem classifyIdentity_of_reply {bytes : List UInt8}
    (hreply : IdentityReply bytes) :
    ∃ model, classifyIdentity bytes = some model := by
  rw [identityReply_iff] at hreply
  exact ⟨_, if_neg (not_not.mpr hreply)⟩

theorem classifyIdentity_of_not_reply {bytes : List UInt8}
    (hreply : ¬ IdentityReply bytes) : classifyIdentity bytes = none := by
  rw [identityReply_iff] at hreply
  exact if_pos hreply

/-- The second byte of a frame is Roland's, and that of an identity reply is
not. -/
theorem IdentityReply.not_decodes {bytes : List UInt8}
    (hreply : IdentityReply bytes) (f : Frame) :
    Frame.decode bytes ≠ .ok f := by
  intro hdecode
  obtain ⟨device, next, rest, rfl⟩ := hreply
  have hsecond := congrArg (fun l => l[1]?) (Frame.exact.sound hdecode).2
  simp [Frame.encode, rolandId] at hsecond

end Identity

section Classifier

theorem classifyInbound_of_reply {bytes : List UInt8}
    (hreply : IdentityReply bytes) :
    ∃ model, classifyInbound bytes = .ok (.identity bytes model) := by
  obtain ⟨model, hmodel⟩ := classifyIdentity_of_reply hreply
  exact ⟨model, by rw [classifyInbound, hmodel]⟩

theorem classifyInbound_of_dataSet {bytes : List UInt8} {f : Frame}
    (hdecode : Frame.decode bytes = .ok f) (hcommand : f.command = cmdDT1) :
    classifyInbound bytes =
      .ok (.dump (areaForAddress f.address) f.address.toList f.data) := by
  have hreply : ¬ IdentityReply bytes := fun h => h.not_decodes f hdecode
  rw [classifyInbound, classifyIdentity_of_not_reply hreply,
    SpaceEcho.classifyInbound_of_dataSet hdecode hcommand]
  cases AddressSpace.classify f.address <;> rfl

theorem classifyInbound_of_request {bytes : List UInt8} {f : Frame}
    (hdecode : Frame.decode bytes = .ok f) (hcommand : f.command = cmdRQ1) :
    classifyInbound bytes = .ok (.request f.address.toList) := by
  have hreply : ¬ IdentityReply bytes := fun h => h.not_decodes f hdecode
  rw [classifyInbound, classifyIdentity_of_not_reply hreply,
    SpaceEcho.classifyInbound_of_request hdecode hcommand]
  rfl

theorem classifyInbound_of_undecodable {bytes : List UInt8}
    (hreply : ¬ IdentityReply bytes) {error : SysExError}
    (hdecode : Frame.decode bytes = .error error) :
    classifyInbound bytes = .ok (.other bytes) := by
  rw [classifyInbound, classifyIdentity_of_not_reply hreply]
  by_cases hstart : bytes.head? = some sysexStart
  · rw [SpaceEcho.classifyInbound_of_undecodable hstart hdecode]
    rfl
  · rw [SpaceEcho.classifyInbound_of_not_sysex hstart]
    rfl

/-- What the frame decoder and the identity pattern say of a message, and what
is reported of it. -/
structure Inbound.Agrees (bytes : List UInt8) (inbound : Inbound) : Prop where
  dump : ∀ address data,
    (∃ area, inbound = .dump area address data) ↔
      ∃ f, Frame.decode bytes = .ok f ∧ f.command = cmdDT1 ∧
        f.address.toList = address ∧ f.data = data
  request : ∀ address,
    inbound = .request address ↔
      ∃ f, Frame.decode bytes = .ok f ∧ f.command = cmdRQ1 ∧
        f.address.toList = address
  identity : ∀ raw,
    (∃ model, inbound = .identity raw model) ↔
      raw = bytes ∧ IdentityReply bytes
  other : ∀ raw,
    inbound = .other raw ↔
      raw = bytes ∧ ¬ IdentityReply bytes ∧
        ¬ ∃ f, Frame.decode bytes = .ok f ∧
          (f.command = cmdDT1 ∨ f.command = cmdRQ1)

/-- The classifier returns on every input, and agrees with the frame decoder;
the identity check in front captures no message that decodes. -/
theorem classifyInbound_agrees_with_decode (bytes : List UInt8) :
    (∃ inbound, classifyInbound bytes = .ok inbound ∧
      inbound.Agrees bytes) ∧
    (IdentityReply bytes → ∀ f, Frame.decode bytes ≠ .ok f) := by
  refine ⟨?_, fun hreply => hreply.not_decodes⟩
  rcases hdecode : Frame.decode bytes with error | f
  · by_cases hreply : IdentityReply bytes
    · obtain ⟨model, hclassify⟩ := classifyInbound_of_reply hreply
      exact ⟨_, hclassify, by simp [hdecode], by simp [hdecode],
        by simp [hreply, eq_comm], by simp [hreply]⟩
    · exact ⟨_, classifyInbound_of_undecodable hreply hdecode,
        by simp [hdecode], by simp [hdecode], by simp [hreply],
        by simp [hdecode, hreply, eq_comm]⟩
  · have hreply : ¬ IdentityReply bytes := fun h => h.not_decodes f hdecode
    have hne : cmdDT1 ≠ cmdRQ1 := by decide
    rcases (Frame.exact.sound hdecode).1.command with hcommand | hcommand
    · exact ⟨_, classifyInbound_of_dataSet hdecode hcommand,
        by simp [hdecode, hcommand], by simp [hdecode, hcommand, hne],
        by simp [hreply], by simp [hdecode, hcommand]⟩
    · exact ⟨_, classifyInbound_of_request hdecode hcommand,
        by simp [hdecode, hcommand, hne.symm],
        by simp [hdecode, hcommand, eq_comm], by simp [hreply],
        by simp [hdecode, hcommand]⟩

example : classifyInbound [0xF0, 0x7E, 0x10, 0x06, 0x02, 0x41, 0x18, 0x04, 0xF7] =
    .ok (.identity [0xF0, 0x7E, 0x10, 0x06, 0x02, 0x41, 0x18, 0x04, 0xF7]
      (some "RE-202")) := by
  decide

end Classifier

section Label

theorem areaForAddress_eq_some_iff (address : Address) (area : String) :
    areaForAddress address = some area ↔
      (area = "system" ∧ address.highByte = 0x10) ∨
      (area = "memory" ∧ address = memoryManualBase) ∨
      (area = "edit" ∧ address = editBufferBase) := by
  have hmanual : address = memoryManualBase →
      AddressSpace.classify address = .memory := by
    rintro rfl
    rfl
  have hedit : address = editBufferBase →
      AddressSpace.classify address = .memory := by
    rintro rfl
    rfl
  rw [areaForAddress, baseAddress_manual,
    ← AddressSpace.classify_eq_system_iff address]
  rcases hspace : AddressSpace.classify address with _ | _ | _
  · rw [hspace] at hmanual hedit
    have hnotManual : address ≠ memoryManualBase := fun h => by cases hmanual h
    have hnotEdit : address ≠ editBufferBase := fun h => by cases hedit h
    simp [hnotManual, hnotEdit, eq_comm]
  · have hne : memoryManualBase ≠ editBufferBase := by decide
    by_cases heditBase : address = editBufferBase
    · simp [heditBase, hne.symm, eq_comm]
    · by_cases hmanualBase : address = memoryManualBase
      · simp [hmanualBase, hne, eq_comm]
      · simp [heditBase, hmanualBase]
  · rw [hspace] at hmanual hedit
    have hnotManual : address ≠ memoryManualBase := fun h => by cases hmanual h
    have hnotEdit : address ≠ editBufferBase := fun h => by cases hedit h
    simp [hnotManual, hnotEdit]

/-- A message is reported as a dump of this area. -/
def Labelled (area : String) (bytes : List UInt8) : Prop :=
  ∃ address data, classifyInbound bytes = .ok (.dump (some area) address data)

/-- What is reported as a dump is a DT1 frame, and the label is that of its
address. -/
theorem classifyInbound_eq_dump_iff {bytes address data : List UInt8}
    {area : Option String} :
    classifyInbound bytes = .ok (.dump area address data) ↔
      ∃ f, Frame.decode bytes = .ok f ∧ f.command = cmdDT1 ∧
        areaForAddress f.address = area ∧ f.address.toList = address ∧
        f.data = data := by
  constructor
  · intro hclassify
    rcases hdecode : Frame.decode bytes with error | f
    · by_cases hreply : IdentityReply bytes
      · obtain ⟨model, hidentity⟩ := classifyInbound_of_reply hreply
        rw [hidentity] at hclassify
        cases hclassify
      · rw [classifyInbound_of_undecodable hreply hdecode] at hclassify
        cases hclassify
    · rcases (Frame.exact.sound hdecode).1.command with hcommand | hcommand
      · rw [classifyInbound_of_dataSet hdecode hcommand] at hclassify
        cases hclassify
        exact ⟨f, rfl, hcommand, rfl, rfl, rfl⟩
      · rw [classifyInbound_of_request hdecode hcommand] at hclassify
        cases hclassify
  · rintro ⟨f, hdecode, hcommand, rfl, rfl, rfl⟩
    exact classifyInbound_of_dataSet hdecode hcommand

theorem labelled_iff {area : String} {bytes : List UInt8} :
    Labelled area bytes ↔
      ∃ f, Frame.decode bytes = .ok f ∧ f.command = cmdDT1 ∧
        areaForAddress f.address = some area := by
  unfold Labelled
  simp only [classifyInbound_eq_dump_iff]
  constructor
  · intro hlabel
    obtain ⟨_, _, f, hdecode, hcommand, harea, _⟩ := hlabel
    exact ⟨f, hdecode, hcommand, harea⟩
  · intro hframe
    obtain ⟨f, hdecode, hcommand, harea⟩ := hframe
    exact ⟨_, _, f, hdecode, hcommand, harea, rfl, rfl⟩

variable {kit : Kit}

/-- In a dump that is one message the search finds that message or nothing. -/
theorem exists_firstBlockData_iff (hsplits : kit.SplitsComplete)
    {bytes : List UInt8} (hcomplete : CompleteSysEx bytes) (base : Address) :
    (∃ data, firstBlockData kit bytes base = .ok data) ↔
      ∃ f, Frame.decode bytes = .ok f ∧
        (f.command = cmdDT1 ∧ f.address = base) := by
  have hmessages := hsplits.single hcomplete
  rw [← isBlockAt_iff]
  constructor
  · intro hfound
    obtain ⟨data, hdata⟩ := hfound
    by_contra hblock
    rw [firstBlockData_of_none (by
      rw [hmessages, List.filter_cons_of_neg hblock, List.filter_nil])] at hdata
    cases hdata
  · intro hblock
    apply exists_firstBlockData
    rw [hmessages, List.filter_cons_of_pos hblock]
    exact List.cons_ne_nil _ _

/-- For the memory areas the label and the block search agree.  The search for
the System area finds a message exactly when it is labelled System and addressed
to the base; the label goes by the first address byte alone. -/
theorem label_agrees_with_search (kit : Kit) (hsplits : kit.SplitsComplete)
    {bytes : List UInt8} (hcomplete : CompleteSysEx bytes) :
    (∀ area target, targetFor area = some target → area ≠ "system" →
      (Labelled area bytes ↔
        ∃ data, firstBlockData kit bytes target.base = .ok data)) ∧
    ((∃ data, firstBlockData kit bytes systemBase = .ok data) ↔
      ∃ data, classifyInbound bytes =
        .ok (.dump (some "system") systemBase.toList data)) ∧
    (Labelled "system" bytes ↔
      ∃ f, Frame.decode bytes = .ok f ∧ f.command = cmdDT1 ∧
        f.address.highByte = 0x10) := by
  simp only [labelled_iff, exists_firstBlockData_iff hsplits hcomplete]
  refine ⟨?_, ?_, ?_⟩
  · intro area target htarget harea
    have hlabel : ∀ address : Address,
        areaForAddress address = some area ↔ address = target.base := by
      intro address
      rw [areaForAddress_eq_some_iff]
      rcases (targetFor_eq_some_iff area target).mp htarget with
        ⟨rfl, _⟩ | ⟨rfl, rfl⟩ | ⟨rfl, rfl⟩
      · exact absurd rfl harea
      · simp [Target.base]
      · simp [Target.base]
    simp only [hlabel]
  · constructor
    · intro hframe
      obtain ⟨f, hdecode, hcommand, hbase⟩ := hframe
      refine ⟨f.data, classifyInbound_eq_dump_iff.mpr
        ⟨f, hdecode, hcommand, ?_, ?_, rfl⟩⟩
      · rw [hbase]
        rfl
      · rw [hbase]
    · intro hdump
      obtain ⟨data, hdump⟩ := hdump
      obtain ⟨f, hdecode, hcommand, _, hbase, _⟩ :=
        classifyInbound_eq_dump_iff.mp hdump
      exact ⟨f, hdecode, hcommand, Vector.toList_inj.mp hbase⟩
  · simp only [areaForAddress_eq_some_iff]
    simp

theorem tape_echo_labelled_memory :
    Labelled "memory" tapeEcho ↔
      ∃ data, firstBlockData Kit.reference tapeEcho memoryManualBase =
        .ok data :=
  (label_agrees_with_search Kit.reference Kit.reference_splitsComplete
    (@dataSet_safe 0 (by decide) memoryManualBase (by decide) [0x01]
      (by simp)).1.complete).1
      "memory" _ targetFor_memory (by decide)

/-- The echo of one System parameter is labelled System, and no decode of the
System area takes it for the block. -/
theorem system_echo_labelled_but_not_found :
    ¬ ∀ kit : Kit, kit.SplitsComplete → ∀ bytes, CompleteSysEx bytes →
      ∀ area target, targetFor area = some target →
        (Labelled area bytes ↔
          ∃ data, firstBlockData kit bytes target.base = .ok data) := by
  intro hall
  let ctl1Function : Address := #v[0x10, 0x00, 0x00, 0x01]
  obtain ⟨hsafe, hdecode⟩ := @dataSet_safe 0 (by decide) ctl1Function
    (by decide) [0x00] (by simp)
  have hagree := hall Kit.reference Kit.reference_splitsComplete _
    hsafe.complete "system" .system rfl
  rw [labelled_iff,
    exists_firstBlockData_iff Kit.reference_splitsComplete hsafe.complete]
    at hagree
  obtain ⟨f, hdecode', _, hbase⟩ := hagree.mp
    ⟨_, hdecode, rfl, (areaForAddress_eq_some_iff _ _).mpr
      (Or.inl ⟨rfl, rfl⟩)⟩
  rw [← Except.ok.inj (hdecode.symm.trans hdecode')] at hbase
  exact absurd hbase (by decide)

end Label

end SpaceEcho.Re202
