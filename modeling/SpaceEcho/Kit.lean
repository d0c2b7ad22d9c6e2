/-
What the device adapter takes from outside the repository: the splitter of a
byte stream into SysEx messages, the derived readers and writers of documents,
and one text formatter.  The adapter is modelled over any such kit; results
that depend on how a kit behaves name the law they use.
-/
import SpaceEcho.Document
import SpaceEcho.Stream

namespace SpaceEcho

/-- The external functions the adapter calls, and the field readers that the
derived readers among them are built on. -/
structure Kit where
  splitSysex : List UInt8 → List (List UInt8)
  fieldReaders : FieldReaders
  systemFromValue : Value → Except String SystemArea
  systemToValue : SystemArea → Except String Value
  memoryFromValue : Value → Except String Memory
  memoryToValue : Memory → Except String Value
  strDebug : String → String

namespace Kit

/-- A stream of complete messages is split into exactly those messages. -/
def SplitsComplete (kit : Kit) : Prop :=
  ∀ messages : List (List UInt8), (∀ m ∈ messages, CompleteSysEx m) →
    kit.splitSysex messages.flatten = messages

theorem SplitsComplete.single {kit : Kit} (hsplits : kit.SplitsComplete)
    {message : List UInt8} (hcomplete : CompleteSysEx message) :
    kit.splitSysex message = [message] := by
  have hmessages := hsplits [message] (List.forall_mem_singleton.mpr hcomplete)
  rwa [List.flatten_singleton] at hmessages

/-- Writing a typed value succeeds, and reading undoes it. -/
structure SerdeRoundTrips (kit : Kit) : Prop where
  system : ∀ s, ∃ v, kit.systemToValue s = .ok v ∧ kit.systemFromValue v = .ok s
  memory : ∀ m, ∃ v, kit.memoryToValue m = .ok v ∧ kit.memoryFromValue v = .ok m

/-- The typed models are read field by field, as structs are, whatever the fields
are read by. -/
structure DerivesReaders (kit : Kit) : Prop where
  system : ∀ v, (∃ s, kit.systemFromValue v = .ok s) ↔
    ∃ s, kit.fieldReaders.systemArea v = .ok s
  memory : ∀ v, (∃ m, kit.memoryFromValue v = .ok m) ↔
    ∃ m, kit.fieldReaders.memory v = .ok m

/-- The derived writers write what the library's conventions for these
structs make of a value. -/
structure DerivesWriters (kit : Kit) : Prop where
  system : ∀ s, kit.systemToValue s = .ok (Serde.systemArea.toValue s)
  memory : ∀ m, kit.memoryToValue m = .ok (Serde.memory.toValue m)

end Kit

/-- Collect messages from their start byte to their end byte.  The bytes of the
message under way are kept in reverse; a new start byte drops them. -/
def collectSysex : Option (List UInt8) → List UInt8 → List (List UInt8)
  | _, [] => []
  | none, b :: rest =>
      if b = sysexStart then collectSysex (some [b]) rest
      else collectSysex none rest
  | some pending, b :: rest =>
      if b = sysexEnd then
        (b :: pending).reverse :: collectSysex none rest
      else if b = sysexStart then collectSysex (some [b]) rest
      else collectSysex (some (b :: pending)) rest

/-- Inside a message the collector runs through to the end byte. -/
theorem collectSysex_body (body pending rest : List UInt8)
    (hbody : ∀ b ∈ body, b ≠ sysexStart ∧ b ≠ sysexEnd) :
    collectSysex (some pending) (body ++ [sysexEnd] ++ rest) =
      (pending.reverse ++ body ++ [sysexEnd]) :: collectSysex none rest := by
  induction body generalizing pending with
  | nil => simp [collectSysex]
  | cons b tail ih =>
      obtain ⟨hstart, hstop⟩ := hbody b List.mem_cons_self
      have htail := ih (b :: pending)
        (fun c hc => hbody c (List.mem_cons_of_mem b hc))
      simp only [List.cons_append, collectSysex, if_neg hstart, if_neg hstop]
      rw [htail]
      simp

theorem collectSysex_flatten (messages : List (List UInt8))
    (hcomplete : ∀ m ∈ messages, CompleteSysEx m) :
    collectSysex none messages.flatten = messages := by
  induction messages with
  | nil => rfl
  | cons first rest ih =>
      obtain ⟨body, rfl, hbody⟩ := hcomplete first List.mem_cons_self
      have hrest := ih (fun m hm => hcomplete m (List.mem_cons_of_mem _ hm))
      rw [List.flatten_cons, List.append_assoc [sysexStart] body,
        List.append_assoc [sysexStart], List.singleton_append]
      rw [collectSysex, if_pos rfl, collectSysex_body body _ _ hbody, hrest]
      rfl

namespace Kit

/-- A kit built from the collector and the derived readers and writers. -/
def reference : Kit where
  splitSysex := collectSysex none
  fieldReaders := FieldReaders.reference
  systemFromValue := Serde.systemArea.fromValue
  systemToValue s := .ok (Serde.systemArea.toValue s)
  memoryFromValue := Serde.memory.fromValue
  memoryToValue m := .ok (Serde.memory.toValue m)
  strDebug s := "\"" ++ s ++ "\""

theorem reference_splitsComplete : reference.SplitsComplete :=
  collectSysex_flatten

theorem reference_serdeRoundTrips : reference.SerdeRoundTrips where
  system s := ⟨_, rfl, Serde.systemArea.fromValue_toValue s⟩
  memory m := ⟨_, rfl, Serde.memory.fromValue_toValue m⟩

theorem reference_derivesReaders : reference.DerivesReaders where
  system _ := Iff.rfl
  memory _ := Iff.rfl

theorem reference_derivesWriters : reference.DerivesWriters where
  system _ := rfl
  memory _ := rfl

end Kit

end SpaceEcho
