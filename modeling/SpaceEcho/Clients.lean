/-
Several clients of one pedal.  Clients that keep out of each other's windows do
not interfere, however their messages and the events at the panel interleave; of
clients that sync to one window the last one wins, and what the others did there
is lost.
-/
import SpaceEcho.Session

namespace SpaceEcho

namespace Event

/-- A message that the pedal takes in leaves nothing of what happened to its window
before: the memory ends as if only that message had been sent. -/
theorem last_sync_wins (kit : Kit) {ch : UInt8} {op : Re202.Operation}
    {message : List UInt8} {f : Frame} (hmessage : op.message kit = some message)
    (hframe : Frame.decode message = .ok f) (hchannel : op.channel = ch)
    {events : List Event}
    (hevents : ∀ e ∈ events, ∀ w, e.window kit = some w → op.window kit = some w)
    (memory : ℕ → UInt8) :
    Machine.run (step kit ch) (events ++ [send op]) memory =
      step kit ch memory (send op) := by
  obtain ⟨write, hwindow, hstep⟩ :=
    exists_write_of_send hmessage hframe hchannel
  have hwritten : window kit (send op) = some write.window := hwindow
  have hsame : ∀ e ∈ events, ∀ w, e.window kit = some w → w = write.window := by
    intro e he w hw
    exact Option.some.inj ((hevents e he w hw).symm.trans hwindow)
  apply (footprint kit ch).run_absorbed _ hwritten hsame
  intro before before' a ha
  rw [hstep, hstep]
  exact write.apply_inside before before' ha

/-- The settings of one client are lost to those of another, also where the Rx
channel of these is one the block cannot express. -/
theorem settings_lost :
    Machine.run (step Kit.reference 0)
        ([send (.encode "system" (Re202.channelDocument (.channel 5)) 0)] ++
          [send (.encode "system" (Re202.channelDocument (.channel 0)) 0)])
        clearedMemory =
      step Kit.reference 0 clearedMemory
        (send (.encode "system" (Re202.channelDocument (.channel 0)) 0)) := by
  obtain ⟨message, hencode⟩ := Re202.exists_encode_channelDocument (.channel 0)
  have hband : ¬ Re202.OutOfBandChannel Kit.reference
      (Re202.channelDocument (.channel 0)) := by
    apply Re202.channelDocument_inBand
    rintro n ⟨⟩
    decide
  obtain ⟨_, f, hframe⟩ := (Re202.encode_safe_iff (by decide)).mpr
    (fun h => hband h.2) message hencode
  apply last_sync_wins Kit.reference
    (Re202.Operation.message_encode_iff.mpr hencode) hframe rfl
  intro e he w hw
  rw [List.mem_singleton] at he
  rwa [he] at hw

end Event

end SpaceEcho
